import Mvr.ZSettings.Basic
import Mvr.LastWrite.Basic

/-!
# Settings that survive `sync`

The file that `sync` makes of a map has a line for each entry (`fileLines_content`), but the
constructor reads it only up to the first line that does not fit its buffer (`mCxt_new`).  As `sync`
writes in the order of the keys, an entry is read back if its own line and those of all entries
before it fit (`getElem?_new_content`).  Settings therefore survive exactly if every line that is
written in the end fits, and if no entry that is still needed was lost already when the file was
opened (`survives_iff`).
-/

namespace Mvr.ZSettings

/-- A key and a value that keep to one line and apart from each other. -/
structure IsEntry (w : Bytes × Bytes) : Prop where
  key : equals ∉ w.1 ∧ newline ∉ w.1 ∧ 0 ∉ w.1
  value : newline ∉ w.2 ∧ 0 ∉ w.2

/-- The line of an entry fits the buffer. -/
def Fits (k v : Bytes) : Prop := k.length + 1 + v.length ≤ room

instance (k v : Bytes) : Decidable (Fits k v) := by
  unfold Fits
  infer_instance

/-- The lines of a file, of any length. -/
def fileLines : Option Bytes → List Bytes
  | none => []
  | some bytes => Lines.lines newline bytes

/-- The lines of a file before the first that does not fit the buffer. -/
def shortLines (file : Option Bytes) : List Bytes :=
  (fileLines file).takeWhile fun line => line.length ≤ room

/-- The settings that lines have: a key has the value of its last line. -/
def settings (ls : List Bytes) : Std.TreeMap Bytes Bytes := ls.foldl readLine ∅

/-- The settings are opened on a file, set and written back, and opened again. -/
def reopened (file : Option Bytes) (sets : List (Bytes × Bytes)) : ZSettings :=
  new (((new file).setValues sets).sync file)

/-- The settings that are opened again have the last value of every key that was set, the value in
the file for every other, and the default for a key that has neither. -/
def Survives (file : Option Bytes) (sets : List (Bytes × Bytes)) : Prop :=
  ∀ key default, (reopened file sets).getString key default =
    ((lastWrite sets key).or (settings (fileLines file))[key]?).getD default

/-- Every line that is written in the end fits, and the lines before the first that does not fit
tell the value of every key of the old file that is not set. -/
structure AllFit (file : Option Bytes) (sets : List (Bytes × Bytes)) : Prop where
  written : ∀ k v, (lastWrite sets k).or (settings (fileLines file))[k]? = some v → Fits k v
  kept : ∀ k, lastWrite sets k = none →
    (settings (shortLines file))[k]? = (settings (fileLines file))[k]?

variable {file : Option Bytes} {cxt : Std.TreeMap Bytes Bytes} {sets : List (Bytes × Bytes)}

/-! ### Lines -/

theorem notMem_line {w : Bytes × Bytes} {c : UInt8} (hc : c ≠ equals) (hkey : c ∉ w.1)
    (hvalue : c ∉ w.2) : c ∉ line w := by
  unfold line
  rw [List.mem_append, List.mem_append, List.mem_singleton, not_or, not_or]
  exact ⟨⟨hkey, hc⟩, hvalue⟩

theorem length_line_le_iff (w : Bytes × Bytes) : (line w).length ≤ room ↔ Fits w.1 w.2 := by
  unfold line Fits
  rw [List.length_append, List.length_append, List.length_singleton]

/-- The line of an entry is read as the entry. -/
theorem readLine_line {w : Bytes × Bytes} (h : IsEntry w) (m : Std.TreeMap Bytes Bytes) :
    readLine m (line w) = m.insert w.1 w.2 := by
  have hstr : (line w).takeWhile (· ≠ 0) = line w := by
    apply List.takeWhile_eq_self_iff.mpr
    intro c hc
    rw [decide_eq_true_eq]
    rintro rfl
    exact notMem_line (by decide) h.key.2.2 h.value.2 hc
  have hline : line w = w.1 ++ (equals :: w.2) := by
    unfold line
    rw [List.append_assoc, List.singleton_append]
  unfold readLine
  rw [hstr, hline]
  dsimp only
  rw [if_pos (by simp), Lines.takeWhile_append_cons h.key.1, ← List.drop_drop, List.drop_left]
  rfl

/-- What a line adds is an entry that is no longer than the line. -/
theorem getElem?_readLine {m : Std.TreeMap Bytes Bytes} {buff k v : Bytes} (hbuff : newline ∉ buff)
    (h : (readLine m buff)[k]? = some v) :
    m[k]? = some v ∨ (IsEntry (k, v) ∧ k.length + 1 + v.length ≤ buff.length) := by
  unfold readLine at h
  set str := buff.takeWhile (· ≠ 0) with hstr
  dsimp only at h
  split_ifs at h with heq
  · rw [Std.TreeMap.getElem?_insert] at h
    split_ifs at h with hk
    · right
      obtain rfl := Std.compare_eq_iff_eq.mp hk
      obtain rfl := Option.some_inj.mp h
      have hsub : str.Sublist buff := List.takeWhile_sublist _
      have hzero : 0 ∉ str := fun hmem => by simpa using List.mem_takeWhile_imp hmem
      have hkey : (str.takeWhile (· ≠ equals)).Sublist str := List.takeWhile_sublist _
      have hequals : equals ∉ str.takeWhile (· ≠ equals) := fun hmem => by
        simpa using List.mem_takeWhile_imp hmem
      have hvalue : (str.drop ((str.takeWhile (· ≠ equals)).length + 1)).Sublist str :=
        List.drop_sublist ..
      -- the key ends before the end of the line
      have hlt : (str.takeWhile (· ≠ equals)).length < str.length := by
        apply lt_of_le_of_ne hkey.length_le
        intro hlen
        rw [hkey.eq_of_length hlen] at hequals
        exact hequals heq
      have hle := hsub.length_le
      refine ⟨⟨⟨hequals, fun hmem => hbuff (hsub.subset (hkey.subset hmem)),
        fun hmem => hzero (hkey.subset hmem)⟩,
        fun hmem => hbuff (hsub.subset (hvalue.subset hmem)),
        fun hmem => hzero (hvalue.subset hmem)⟩, ?_⟩
      rw [List.length_drop]
      omega
    · exact Or.inl h
  · exact Or.inl h

/-- No line takes a key away. -/
theorem isSome_readLine {m : Std.TreeMap Bytes Bytes} {k : Bytes} (buff : Bytes)
    (h : m[k]?.isSome) : (readLine m buff)[k]?.isSome := by
  unfold readLine
  dsimp only
  split_ifs
  · rw [Std.TreeMap.getElem?_insert]
    split_ifs
    · rfl
    · exact h
  · exact h

theorem isSome_foldl_readLine {m : Std.TreeMap Bytes Bytes} {k : Bytes} (ls : List Bytes)
    (h : m[k]?.isSome) : (ls.foldl readLine m)[k]?.isSome := by
  induction ls generalizing m with
  | nil => exact h
  | cons l ls ih => exact ih (isSome_readLine l h)

/-- The settings of lines are entries, no longer than the longest line. -/
theorem isEntry_of_settings {ls : List Bytes} {n : ℕ}
    (hls : ∀ l ∈ ls, newline ∉ l ∧ l.length ≤ n) {k v : Bytes} (h : (settings ls)[k]? = some v) :
    IsEntry (k, v) ∧ k.length + 1 + v.length ≤ n := by
  induction ls using List.reverseRecOn with
  | nil =>
    unfold settings at h
    rw [List.foldl_nil, Std.TreeMap.getElem?_emptyc] at h
    cases h
  | append_singleton ls l ih =>
    obtain ⟨hnew, hle⟩ := hls l (List.mem_append_right _ (List.mem_singleton.mpr rfl))
    unfold settings at h
    rw [List.foldl_append, List.foldl_cons, List.foldl_nil] at h
    rcases getElem?_readLine hnew h with hold | ⟨hentry, hlen⟩
    · exact ih (fun l hl => hls l (List.mem_append_left _ hl)) hold
    · exact ⟨hentry, hlen.trans hle⟩

/-- A map overwritten by a list of insertions holds the last one at each key. -/
theorem getElem?_foldl_insert (ws : List (Bytes × Bytes)) (m : Std.TreeMap Bytes Bytes)
    (k : Bytes) :
    (ws.foldl (fun m w => m.insert w.1 w.2) m)[k]? = (lastWrite ws k).or m[k]? := by
  induction ws using List.reverseRecOn with
  | nil => rfl
  | append_singleton ws w ih =>
    rw [List.foldl_append, List.foldl_cons, List.foldl_nil, Std.TreeMap.getElem?_insert, ih,
      lastWrite_append_singleton]
    by_cases hk : w.1 = k
    · rw [if_pos hk, if_pos (Std.compare_eq_iff_eq.mpr hk)]
      rfl
    · rw [if_neg hk, if_neg fun h => hk (Std.compare_eq_iff_eq.mp h)]

/-- Lines that were made of entries have these settings. -/
theorem settings_map_line {ws : List (Bytes × Bytes)} (h : ∀ w ∈ ws, IsEntry w) (k : Bytes) :
    (settings (ws.map line))[k]? = lastWrite ws k := by
  have hmap : settings (ws.map line) = ws.foldl (fun m w => m.insert w.1 w.2) ∅ := by
    unfold settings
    rw [List.foldl_map]
    exact List.foldl_ext _ _ _ fun m w hw => readLine_line (h w hw) m
  rw [hmap, getElem?_foldl_insert, Std.TreeMap.getElem?_emptyc, Option.or_none]

/-! ### Opening a file -/

/-- The constructor reads the lines before the first that does not fit. -/
theorem mCxt_new (file : Option Bytes) : (new file).mCxt = settings (shortLines file) := by
  cases file with
  | none => rfl
  | some bytes =>
    show (Lines.readLines newline room bytes).foldl readLine ∅ = _
    rw [Lines.readLines_eq_takeWhile]
    rfl

theorem mem_fileLines {l : Bytes} (h : l ∈ fileLines file) : newline ∉ l := by
  cases file with
  | none => cases h
  | some bytes => exact (Lines.mem_readLines h).1

/-- What is read from any file are entries that fit. -/
theorem isEntry_of_new {k v : Bytes} (h : (new file).mCxt[k]? = some v) :
    IsEntry (k, v) ∧ Fits k v := by
  rw [mCxt_new] at h
  apply isEntry_of_settings (fun l hl => ?_) h
  have hfits := List.mem_takeWhile_imp hl
  exact ⟨mem_fileLines ((List.takeWhile_sublist _).subset hl), by simpa using hfits⟩

/-- A key that is read from a file is in the file. -/
theorem isSome_settings {k : Bytes} (h : (new file).mCxt[k]?.isSome) :
    (settings (fileLines file))[k]?.isSome := by
  have hsplit : shortLines file ++ (fileLines file).dropWhile (fun line => line.length ≤ room) =
      fileLines file := List.takeWhile_append_dropWhile
  rw [mCxt_new] at h
  rw [← hsplit]
  unfold settings
  rw [List.foldl_append]
  exact isSome_foldl_readLine _ h

theorem nodup_keys_toList (cxt : Std.TreeMap Bytes Bytes) : (cxt.toList.map Prod.fst).Nodup := by
  rw [List.Nodup, List.pairwise_map]
  refine Std.TreeMap.ordered_keys_toList.imp fun {a b} hlt heq => ?_
  rw [Std.compare_eq_iff_eq.mpr heq] at hlt
  cases hlt

theorem isEntry_of_mem_toList (h : ∀ k v, cxt[k]? = some v → IsEntry (k, v)) :
    ∀ w ∈ cxt.toList, IsEntry w :=
  fun w hw => h w.1 w.2 (Std.TreeMap.mem_toList_iff_getElem?_eq_some.mp hw)

theorem fileLines_content (h : ∀ k v, cxt[k]? = some v → IsEntry (k, v)) :
    fileLines (some (content cxt)) = cxt.toList.map line := by
  apply Lines.lines_unlines
  intro l hl
  obtain ⟨w, hw, rfl⟩ := List.mem_map.mp hl
  have hw := isEntry_of_mem_toList h w hw
  exact notMem_line (by decide) hw.key.2.1 hw.value.1

/-- What is read from a file that `sync` wrote: the entries before and including which every line
fits. -/
theorem getElem?_new_content (h : ∀ k v, cxt[k]? = some v → IsEntry (k, v)) (k v : Bytes) :
    (new (some (content cxt))).mCxt[k]? = some v ↔
      cxt[k]? = some v ∧ ∀ k' v', cxt[k']? = some v' → (compare k' k).isLE → Fits k' v' := by
  have hmem : ∀ w : Bytes × Bytes, w ∈ cxt.toList ↔ cxt[w.1]? = some w.2 := fun w =>
    Std.TreeMap.mem_toList_iff_getElem?_eq_some
  set read := cxt.toList.takeWhile fun w => decide (Fits w.1 w.2) with hread
  -- the lines that are read are those of these entries
  have hlines : shortLines (some (content cxt)) = read.map line := by
    unfold shortLines
    rw [fileLines_content h, List.takeWhile_map]
    congr 2
    funext w
    exact decide_eq_decide.mpr (length_line_le_iff w)
  have hentry : ∀ w ∈ read, IsEntry w := fun w hw =>
    isEntry_of_mem_toList h w ((List.takeWhile_sublist _).subset hw)
  have hnodup : (read.map Prod.fst).Nodup :=
    (nodup_keys_toList cxt).sublist ((List.takeWhile_sublist _).map _)
  rw [mCxt_new, hlines, settings_map_line hentry, lastWrite_eq_some_iff_of_nodup hnodup, hread,
    Lines.mem_takeWhile_iff_of_pairwise (fun a b hab hba => ?_)
      Std.TreeMap.ordered_keys_toList, hmem]
  · -- the entries of the map before `k`, and the one at `k`
    constructor
    · rintro ⟨hkv, hfits, hbefore⟩
      refine ⟨hkv, fun k' v' hkv' hle => ?_⟩
      rcases Ordering.isLE_iff_eq_lt_or_eq_eq.mp hle with hlt | heq
      · exact of_decide_eq_true (hbefore (k', v') ((hmem (k', v')).mpr hkv') hlt)
      · obtain rfl := Std.compare_eq_iff_eq.mp heq
        obtain rfl := Option.some_inj.mp (hkv.symm.trans hkv')
        exact of_decide_eq_true hfits
    · rintro ⟨hkv, hall⟩
      refine ⟨hkv, decide_eq_true (hall k v hkv Std.ReflOrd.isLE_rfl), fun w hw hlt => ?_⟩
      apply decide_eq_true
      apply hall w.1 w.2 ((hmem w).mp hw)
      rw [hlt]
      rfl
  · rw [Std.OrientedCmp.gt_iff_lt.mpr hab] at hba
    cases hba

/-! ### Setting and writing back -/

theorem mCxt_setValues (s : ZSettings) (sets : List (Bytes × Bytes)) (k : Bytes) :
    (s.setValues sets).mCxt[k]? = (lastWrite sets k).or s.mCxt[k]? := by
  have hmap : (s.setValues sets).mCxt = sets.foldl (fun m w => m.insert w.1 w.2) s.mCxt := by
    unfold setValues
    induction sets generalizing s with
    | nil => rfl
    | cons w sets ih => exact ih (s.setValue w.1 w.2)
  rw [hmap, getElem?_foldl_insert]

theorem mUpdate_setValues_cons (s : ZSettings) (w : Bytes × Bytes) (sets : List (Bytes × Bytes)) :
    (s.setValues (w :: sets)).mUpdate = true := by
  show (sets.foldl (fun s w => s.setValue w.1 w.2) (s.setValue w.1 w.2)).mUpdate = true
  generalize hs : s.setValue w.1 w.2 = s'
  have hup : s'.mUpdate = true := by rw [← hs]; rfl
  clear hs
  induction sets generalizing s' with
  | nil => exact hup
  | cons w sets ih => exact ih _ rfl

/-- Two settings answer the same if their maps do. -/
theorem getString_eq (s : ZSettings) (key default : Bytes) :
    s.getString key default = s.mCxt[key]?.getD default := by
  unfold getString
  cases s.mCxt[key]? <;> rfl

theorem survives_iff_getElem? :
    Survives file sets ↔ ∀ key, (reopened file sets).mCxt[key]? =
      (lastWrite sets key).or (settings (fileLines file))[key]? := by
  unfold Survives
  simp only [getString_eq]
  constructor
  · intro h key
    -- two defaults tell a missing key from any value
    have hnil := h key []
    have hzero := h key [0]
    cases hnew : (reopened file sets).mCxt[key]? with
    | none =>
      rw [hnew] at hnil hzero
      cases hold : (lastWrite sets key).or (settings (fileLines file))[key]? with
      | none => rfl
      | some v =>
        rw [hold] at hnil hzero
        exact absurd (hnil.trans hzero.symm) (by simp)
    | some v =>
      rw [hnew] at hnil hzero
      cases hold : (lastWrite sets key).or (settings (fileLines file))[key]? with
      | none =>
        rw [hold] at hnil hzero
        exact absurd (hnil.symm.trans hzero) (by simp)
      | some v' =>
        rw [hold] at hnil
        exact congrArg some hnil
  · intro h key default
    rw [h]

/-- What is there after opening again: of the entries that were set or read before, those before and
including which every line fits. -/
theorem getElem?_reopened (file : Option Bytes) (hsets : ∀ w ∈ sets, IsEntry w) (k v : Bytes) :
    (reopened file sets).mCxt[k]? = some v ↔
      (lastWrite sets k).or (new file).mCxt[k]? = some v ∧
        ∀ k' v', (lastWrite sets k').or (new file).mCxt[k']? = some v' →
          (compare k' k).isLE → Fits k' v' := by
  unfold reopened
  cases sets with
  | nil =>
    -- nothing is written, and what was read fits
    show (new file).mCxt[k]? = some v ↔ _
    simp only [lastWrite_nil, Option.none_or]
    exact ⟨fun hkv => ⟨hkv, fun k' v' hkv' _ => (isEntry_of_new hkv').2⟩, fun h => h.1⟩
  | cons w sets =>
    set s := (new file).setValues (w :: sets) with hs
    have hfile : s.sync file = some (content s.mCxt) := by
      unfold sync
      rw [if_neg (by rw [hs, mUpdate_setValues_cons]; simp)]
    have hmap := mCxt_setValues (new file) (w :: sets)
    have hentry : ∀ k v, s.mCxt[k]? = some v → IsEntry (k, v) := by
      intro k v hkv
      rw [hs, hmap, Option.or_eq_some_iff] at hkv
      rcases hkv with hset | ⟨-, hold⟩
      · exact hsets (k, v) (mem_of_lastWrite_eq_some hset)
      · exact (isEntry_of_new hold).1
    rw [hfile, getElem?_new_content hentry]
    simp only [hs, hmap]

/-- Settings survive opening a file, setting them, writing them back and opening the file again
exactly if every line that is written in the end fits the buffer and no line of the old file that
does not fit hides a setting that is still needed. -/
theorem survives_iff (file : Option Bytes) (hsets : ∀ w ∈ sets, IsEntry w) :
    Survives file sets ↔ AllFit file sets := by
  have hreopened := getElem?_reopened file hsets
  rw [survives_iff_getElem?]
  constructor
  · intro h
    constructor
    · intro k v hkv
      rw [← h, hreopened] at hkv
      exact hkv.2 k v hkv.1 Std.ReflOrd.isLE_rfl
    · intro k hset
      have hk := h k
      rw [hset, Option.none_or] at hk
      rw [← mCxt_new]
      cases hold : (settings (fileLines file))[k]? with
      | some v =>
        have hnew := ((hreopened k v).mp (hk.trans hold)).1
        rwa [hset, Option.none_or] at hnew
      | none =>
        rw [← Option.not_isSome_iff_eq_none] at hold ⊢
        exact fun hnew => hold (isSome_settings hnew)
  · intro h
    -- nothing that is needed was lost when the file was opened
    have hkept : ∀ k, (lastWrite sets k).or (new file).mCxt[k]? =
        (lastWrite sets k).or (settings (fileLines file))[k]? := by
      intro k
      cases hset : lastWrite sets k with
      | some v => rfl
      | none => rw [mCxt_new, h.kept k hset]
    intro k
    ext v
    rw [hreopened]
    simp only [hkept]
    exact ⟨fun hkv => hkv.1, fun hkv => ⟨hkv, fun k' v' hkv' _ => h.written k' v' hkv'⟩⟩

/-! ### Two settings -/

/-- A file with the setting `z=1`. -/
def oneSetting : Bytes := [122, 61, 49, 10]

theorem fileLines_oneSetting : fileLines (some oneSetting) = [line ([122], [49])] := by
  show Lines.lines newline (Lines.unlines newline [line ([122], [49])]) = _
  exact Lines.lines_unlines (by decide)

theorem settings_oneSetting (k : Bytes) :
    (settings (fileLines (some oneSetting)))[k]? = lastWrite [([122], [49])] k := by
  have hentry : ∀ w ∈ [(([122], [49]) : Bytes × Bytes)], IsEntry w := fun w hw => by
    rw [List.mem_singleton.mp hw]
    exact ⟨by decide, by decide⟩
  rw [fileLines_oneSetting]
  exact settings_map_line hentry k

/-- Another setting may be added. -/
theorem survives_added : Survives (some oneSetting) [([97], [50])] := by
  refine (survives_iff (some oneSetting) fun w hw => ?_).mpr ⟨fun k v h => ?_, fun k _ => ?_⟩
  · rw [List.mem_singleton.mp hw]
    exact ⟨by decide, by decide⟩
  · rw [settings_oneSetting, Option.or_eq_some_iff] at h
    rcases h with hset | ⟨-, hold⟩
    · cases List.mem_singleton.mp (mem_of_lastWrite_eq_some hset)
      decide
    · cases List.mem_singleton.mp (mem_of_lastWrite_eq_some hold)
      decide
  · unfold shortLines
    rw [fileLines_oneSetting]
    rfl

/-- A value whose line is one byte too long. -/
def longValue : Bytes := List.replicate 1022 120

theorem isEntry_longValue : IsEntry ([97], longValue) := by
  refine ⟨by decide, fun h => ?_, fun h => ?_⟩
  · exact absurd (List.eq_of_mem_replicate h) (by decide)
  · exact absurd (List.eq_of_mem_replicate h) (by decide)

/-- A setting with a long value takes the settings behind it with it. -/
theorem not_survives_longValue :
    ((new none).setValue [122] [49]).sync none = some oneSetting ∧
      IsEntry ([97], longValue) ∧
      (reopened (some oneSetting) [([97], longValue)]).getString [122] [] = [] ∧
      ¬ Survives (some oneSetting) [([97], longValue)] := by
  have hsets : ∀ w ∈ [([97], longValue)], IsEntry w := fun w hw => by
    rw [List.mem_singleton.mp hw]
    exact isEntry_longValue
  have hlost : (reopened (some oneSetting) [([97], longValue)]).mCxt[([122] : Bytes)]? = none := by
    rw [Option.eq_none_iff_forall_ne_some]
    intro v hv
    -- the line of `a` stands before that of `z` and does not fit
    have hfits := ((getElem?_reopened _ hsets [122] v).mp hv).2 [97] longValue rfl (by decide)
    unfold Fits longValue at hfits
    rw [List.length_replicate] at hfits
    exact absurd hfits (by decide)
  refine ⟨by decide, isEntry_longValue, ?_, fun h => ?_⟩
  · rw [getString_eq, hlost]
    rfl
  · have hz := survives_iff_getElem?.mp h [122]
    rw [hlost, settings_oneSetting] at hz
    cases hz

end Mvr.ZSettings
