import Mvr.Vi.Basic
import Mathlib.Data.List.Induction
import Mathlib.Data.List.Nodup
import Mathlib.Data.List.Range

/-!
# The frames of the capture loop

`drain_eq_ok` describes the inner loop: it obtains the frames that the driver has, `n ≤ 8` of them,
with consecutive numbers, and leaves them in the first `n` entries of the array.  What the rest of a
batch does to them is a list of calls (`body_calls`): all but the last are released, the last is
mapped, handed to the handler, unmapped and released.  `batchOk_batchCalls` replays that list.
`frameThread_batches` then says of any number of batches that none of them faults and that each of
them is in order.
-/

namespace Mvr.Vi

/-- The driver has so many frames, and no more that there is room for. -/
structure Outcomes.Waiting (o : Outcomes) (n : ℕ) : Prop where
  le : n ≤ maxFrameNum
  isSome : ∀ i < n, (o.getFrame i).isSome
  eq_none : n < maxFrameNum → o.getFrame n = none

/-- What holds of the calls of a batch: it obtains the frames that the driver has, up to eight; they
are released exactly once, nothing is used or released that is not held, the array is large enough
for what is held, and the handler is called with the last frame obtained. -/
structure BatchOk (mNewFrameHandler : Bool) (o : Outcomes) (b : List Call) : Prop where
  obtained : o.Waiting (b.filterMap Call.obtained).length
  balanced : Ledger.Balanced (b.flatMap Call.events)
  held_le : ∀ pre, pre <+: b → ∀ held,
    Ledger.replay [] (pre.flatMap Call.events) = some held → held.length ≤ maxFrameNum
  handled : b.filterMap Call.handled =
    if mNewFrameHandler then (b.filterMap Call.obtained).getLast?.toList else []

/-! ### The inner loop -/

/-- The inner loop fills the array from entry `k` on with the frames it obtains. -/
theorem drain_eq_ok (o : Outcomes) (s : Batch) {k : ℕ} (hk : k ≤ maxFrameNum) :
    ∃ s' n, s.drain o k = .ok (s', n) ∧ k ≤ n ∧ n ≤ maxFrameNum ∧
      (∀ i, k ≤ i → i < n → (o.getFrame i).isSome) ∧ (n < maxFrameNum → o.getFrame n = none) ∧
      s'.calls = s.calls ++ (List.range (n - k)).map (fun i => .getFrame (s.obtained + i)) ∧
      (∀ i (hi : i < maxFrameNum), i < k → s'.stFrame[i] = s.stFrame[i]) ∧
      ∀ i (hi : i < maxFrameNum), k ≤ i → i < n →
        s'.stFrame[i].map VideoFrame.number = some (s.obtained + (i - k)) := by
  induction hm : maxFrameNum - k generalizing s k with
  | zero =>
    obtain rfl : k = maxFrameNum := by omega
    refine ⟨s, maxFrameNum, ?_, le_rfl, le_rfl, fun i h h' => by omega, fun h => by omega, by simp,
      fun _ _ _ => rfl, fun i _ h h' => by omega⟩
    rw [Batch.drain, if_neg (lt_irrefl _)]
    rfl
  | succ m ih =>
    have hlt : k < maxFrameNum := by omega
    cases hget : o.getFrame k with
    | none =>
      refine ⟨s, k, ?_, le_rfl, hk, fun i h h' => by omega, fun _ => hget, by simp,
        fun _ _ _ => rfl, fun i _ h h' => by omega⟩
      rw [Batch.drain, if_pos hlt, hget]
      rfl
    | some stVFrame =>
      obtain ⟨s', n, hdrain, hkn, hn, hsome, hnone, hcalls, hold, hnew⟩ :=
        ih ({ s with
          stFrame := s.stFrame.setIfInBounds k (some ⟨s.obtained, stVFrame⟩)
          obtained := s.obtained + 1 : Batch }.call (.getFrame s.obtained)) (k := k + 1) hlt
          (by omega)
      refine ⟨s', n, ?_, by omega, hn, fun i hki hin => ?_, hnone, ?_, ?_, ?_⟩
      · rw [Batch.drain, if_pos hlt, hget]
        dsimp only
        rw [Checked.set_eq_ok _ (by omega), Checked.ok_bind]
        exact hdrain
      · rcases eq_or_ne i k with rfl | hne
        · rw [hget]
          rfl
        · exact hsome i (by omega) hin
      · rw [hcalls, show n - k = (n - (k + 1)) + 1 by omega, List.range_succ_eq_map, List.map_cons,
          List.map_map]
        unfold Batch.call
        rw [List.append_assoc, List.singleton_append, Nat.add_zero]
        congr 2
        apply List.map_congr_left
        intro i _
        show Call.getFrame (s.obtained + 1 + i) = Call.getFrame (s.obtained + (i + 1))
        congr 1
        omega
      · intro i hi hik
        rw [hold i hi (by omega)]
        exact Vector.getElem_setIfInBounds_ne hi (by omega)
      · intro i hi hki hin
        rcases eq_or_ne i k with rfl | hne
        · rw [hold i hi (by omega)]
          unfold Batch.call
          dsimp only
          rw [Vector.getElem_setIfInBounds_self, Nat.sub_self]
          rfl
        · rw [hnew i hi (by omega) hin]
          show some (s.obtained + 1 + (i - (k + 1))) = _
          congr 1
          omega

/-! ### The rest of a batch -/

/-- The call only uses the frame with a number. -/
structure Uses (frame : ℕ) (c : Call) : Prop where
  events : c.events = [.use (some frame)]
  obtained : c.obtained = none
  handled : c.handled = none

/-- The last entry of the batch holds the frame with a number. -/
def Holds (frame cur : ℕ) (s : Batch) : Prop :=
  ∃ (h : cur < maxFrameNum) (f : VideoFrame), s.stFrame[cur] = some f ∧ f.number = frame

/-- The frames before the last are released in their order. -/
theorem releases_eq_ok (s : Batch) (base : ℕ) {m : ℕ} (hm : m ≤ maxFrameNum)
    (hframes : ∀ i (hi : i < maxFrameNum), i < m →
      s.stFrame[i].map VideoFrame.number = some (base + i)) :
    ∃ s', (List.range m).foldlM (fun (s : Batch) (i : ℕ) => s.release i) s = .ok s' ∧
      s'.stFrame = s.stFrame ∧
      s'.calls = s.calls ++ (List.range m).map fun i => .releaseFrame (some (base + i)) := by
  induction m with
  | zero => exact ⟨s, rfl, rfl, by simp⟩
  | succ m ih =>
    obtain ⟨s₁, hloop, hframe, hcalls⟩ := ih (by omega) fun i hi him => hframes i hi (by omega)
    have hlt : m < maxFrameNum := by omega
    refine ⟨s₁.call (.releaseFrame (some (base + m))), ?_, hframe, ?_⟩
    · rw [List.range_succ, List.foldlM_append, hloop, Checked.ok_bind, List.foldlM_cons,
        Batch.release, Checked.get_natCast _ hlt, Checked.ok_bind]
      simp only [hframe, hframes m hlt (by omega)]
      rfl
    · unfold Batch.call
      rw [hcalls, List.range_succ, List.map_append, List.append_assoc]
      rfl

/-- A loop whose body at most uses the last frame, once in each round, uses nothing else. -/
theorem useLoop_eq_ok {f : Batch → ℕ → Checked Batch} {frame cur : ℕ} {l : List ℕ} {s : Batch}
    (hs : Holds frame cur s)
    (hf : ∀ s, ∀ i ∈ l, Holds frame cur s → ∃ s', f s i = .ok s' ∧ Holds frame cur s' ∧
      ∃ us, s'.calls = s.calls ++ us ∧ ∀ c ∈ us, Uses frame c) :
    ∃ s', l.foldlM f s = .ok s' ∧ Holds frame cur s' ∧
      ∃ us, s'.calls = s.calls ++ us ∧ ∀ c ∈ us, Uses frame c := by
  induction l generalizing s with
  | nil => exact ⟨s, rfl, hs, [], by simp, by simp⟩
  | cons i l ih =>
    obtain ⟨s₁, hbody, hs₁, us, hcalls, hus⟩ := hf s i (List.mem_cons_self ..) hs
    obtain ⟨s₂, hloop, hs₂, us₂, hcalls₂, hus₂⟩ :=
      ih hs₁ fun s j hj => hf s j (List.mem_cons_of_mem _ hj)
    refine ⟨s₂, ?_, hs₂, us ++ us₂, ?_, ?_⟩
    · rw [List.foldlM_cons, hbody, Checked.ok_bind, hloop]
    · rw [hcalls₂, hcalls, List.append_assoc]
    · intro c hc
      exact (List.mem_append.mp hc).elim (hus c) (hus₂ c)

theorem mapPlane_eq_ok (o : Outcomes) {frame cur : ℕ} {s : Batch} {i : ℕ} (hi : i < 3)
    (hs : Holds frame cur s) : ∃ s', Batch.mapPlane o cur s i = .ok s' ∧ Holds frame cur s' ∧
      ∃ us, s'.calls = s.calls ++ us ∧ ∀ c ∈ us, Uses frame c := by
  obtain ⟨hcur, f, hf, rfl⟩ := hs
  unfold Batch.mapPlane
  rw [Checked.get_natCast _ hcur, Checked.ok_bind, hf]
  dsimp only
  rw [Checked.get_natCast _ hi, Checked.ok_bind]
  split_ifs with hphy
  · rw [Checked.get_natCast _ hi, Checked.ok_bind, Checked.set_eq_ok _ (by omega),
      Checked.ok_bind, Checked.set_eq_ok _ (by omega), Checked.ok_bind]
    refine ⟨_, rfl, ⟨hcur, _, Vector.getElem_setIfInBounds_self _, rfl⟩, [_], rfl, ?_⟩
    intro c hc
    rw [List.mem_singleton.mp hc]
    exact ⟨rfl, rfl, rfl⟩
  · exact ⟨s, rfl, ⟨hcur, f, hf, rfl⟩, [], by simp, by simp⟩

theorem unmapPlane_eq_ok {frame cur : ℕ} {s : Batch} {i : ℕ} (hi : i < 3)
    (hs : Holds frame cur s) : ∃ s', Batch.unmapPlane cur s i = .ok s' ∧ Holds frame cur s' ∧
      ∃ us, s'.calls = s.calls ++ us ∧ ∀ c ∈ us, Uses frame c := by
  obtain ⟨hcur, f, hf, rfl⟩ := hs
  unfold Batch.unmapPlane
  rw [Checked.get_natCast _ hcur, Checked.ok_bind, hf]
  dsimp only
  rw [Checked.get_natCast _ hi, Checked.ok_bind]
  split_ifs with hvir
  · rw [Checked.get_natCast _ hi, Checked.ok_bind]
    refine ⟨_, rfl, ⟨hcur, f, hf, rfl⟩, [_], rfl, ?_⟩
    intro c hc
    rw [List.mem_singleton.mp hc]
    exact ⟨rfl, rfl, rfl⟩
  · exact ⟨s, rfl, ⟨hcur, f, hf, rfl⟩, [], by simp, by simp⟩

theorem handle_eq_ok (mNewFrameHandler : Bool) {frame cur : ℕ} {s : Batch}
    (hs : Holds frame cur s) :
    ∃ s', s.handle mNewFrameHandler cur = .ok s' ∧ Holds frame cur s' ∧
      s'.calls = s.calls ++
        if mNewFrameHandler then [.newFrameHandler (some frame)] else [] := by
  obtain ⟨hcur, f, hf, rfl⟩ := hs
  unfold Batch.handle
  cases mNewFrameHandler with
  | false => exact ⟨s, rfl, ⟨hcur, f, hf, rfl⟩, by simp⟩
  | true =>
    refine ⟨s.call (.newFrameHandler (some f.number)), ?_, ⟨hcur, f, hf, rfl⟩, rfl⟩
    rw [if_pos rfl, Checked.get_natCast _ hcur, Checked.ok_bind, hf]
    rfl

/-- The calls of a batch that obtains the frames `frames` and then `last`; `us` and `us'` map and
unmap the last one. -/
def batchCalls (mNewFrameHandler : Bool) (frames : List ℕ) (last : ℕ) (us us' : List Call) :
    List Call :=
  (frames ++ [last]).map .getFrame ++ (frames.map fun i => .releaseFrame (some i)) ++ us ++
    (if mNewFrameHandler then [.newFrameHandler (some last)] else []) ++ us' ++
    [.releaseFrame (some last)]

/-- What a batch does. -/
theorem body_calls (mNewFrameHandler : Bool) (o : Outcomes) (s : Batch) (hs : s.calls = []) :
    ∃ s', s.body mNewFrameHandler o = .ok s' ∧ ((s'.calls = [] ∧ o.Waiting 0) ∨
      ∃ frames last us us', o.Waiting (frames ++ [last]).length ∧ (frames ++ [last]).Nodup ∧
        s'.calls = batchCalls mNewFrameHandler frames last us us' ∧
        (∀ c ∈ us, Uses last c) ∧ ∀ c ∈ us', Uses last c) := by
  obtain ⟨s₁, n, hdrain, -, hn, hsome, hnone, hcalls, -, hframes⟩ :=
    drain_eq_ok o s (Nat.zero_le maxFrameNum)
  have hwaiting : o.Waiting n := ⟨hn, fun i => hsome i (Nat.zero_le i), hnone⟩
  rw [Nat.sub_zero, hs, List.nil_append] at hcalls
  unfold Batch.body
  rw [hdrain, Checked.ok_bind]
  dsimp only
  cases n with
  | zero => exact ⟨s₁, if_pos rfl, Or.inl ⟨hcalls, hwaiting⟩⟩
  | succ m =>
    have hcur : ((m + 1 : ℕ) : ℤ) - 1 = (m : ℕ) := by omega
    have hlast := hframes m (by omega) (Nat.zero_le _) (by omega)
    rw [Nat.sub_zero, Option.map_eq_some_iff] at hlast
    obtain ⟨f, hf, hnumber⟩ := hlast
    rw [if_neg (Nat.succ_ne_zero m), hcur, Int.toNat_natCast]
    -- the skipped frames
    obtain ⟨s₂, hrel, hsame, hcalls₂⟩ := releases_eq_ok s₁ s.obtained (m := m) (by omega)
      fun i hi him => by
        rw [hframes i hi (Nat.zero_le _) (by omega), Nat.sub_zero]
    have hholds : Holds (s.obtained + m) m s₂ := ⟨by omega, f, by simp only [hsame, hf], hnumber⟩
    -- the newest frame
    obtain ⟨s₃, hmap, hholds₃, us, hcalls₃, hus⟩ := useLoop_eq_ok (l := List.range 3) hholds
      fun s i hi hs => mapPlane_eq_ok o (List.mem_range.mp hi) hs
    obtain ⟨s₄, hcall, hholds₄, hcalls₄⟩ := handle_eq_ok mNewFrameHandler hholds₃
    obtain ⟨s₅, hunmap, hholds₅, us', hcalls₅, hus'⟩ := useLoop_eq_ok (l := List.range 3) hholds₄
      fun s i hi hs => unmapPlane_eq_ok (List.mem_range.mp hi) hs
    obtain ⟨hm, f₅, hf₅, hnumber₅⟩ := hholds₅
    have hall : (List.range m).map (s.obtained + ·) ++ [s.obtained + m] =
        (List.range (m + 1)).map (s.obtained + ·) := by
      rw [List.range_succ, List.map_append]
      rfl
    refine ⟨s₅.call (.releaseFrame (some (s.obtained + m))), ?_, Or.inr
      ⟨(List.range m).map (s.obtained + ·), s.obtained + m, us, us', ?_, ?_, ?_, hus, hus'⟩⟩
    · rw [hrel, Checked.ok_bind, hmap, Checked.ok_bind, hcall, Checked.ok_bind, hunmap,
        Checked.ok_bind, Batch.release, Checked.get_natCast _ hm, Checked.ok_bind, hf₅,
        Option.map_some, hnumber₅]
      rfl
    · simpa using hwaiting
    · rw [hall]
      exact List.nodup_range.map fun i j hij => Nat.add_left_cancel hij
    · unfold Batch.call batchCalls
      dsimp only
      rw [hcalls₅, hcalls₄, hcalls₃, hcalls₂, hcalls, hall, List.map_map, List.map_map]
      rfl

/-! ### The ledger of a batch -/

theorem flatMap_events_uses {frame : ℕ} {us : List Call} (hus : ∀ c ∈ us, Uses frame c) :
    ∀ e ∈ us.flatMap Call.events, e = .use (some frame) := by
  intro e he
  obtain ⟨c, hc, he⟩ := List.mem_flatMap.mp he
  rw [(hus c hc).events] at he
  exact List.mem_singleton.mp he

theorem flatMap_events_getFrame (frames : List ℕ) :
    (frames.map Call.getFrame).flatMap Call.events = (frames.map some).map .acquire := by
  induction frames with
  | nil => rfl
  | cons i frames ih =>
    rw [List.map_cons, List.flatMap_cons, ih]
    rfl

theorem flatMap_events_releaseFrame (frames : List ℕ) :
    (frames.map fun i => Call.releaseFrame (some i)).flatMap Call.events =
      (frames.map some).map .release := by
  induction frames with
  | nil => rfl
  | cons i frames ih =>
    rw [List.map_cons, List.flatMap_cons, ih]
    rfl

section BatchCalls

variable (mNewFrameHandler : Bool) (frames : List ℕ) (last : ℕ) {us us' : List Call}
  (hus : ∀ c ∈ us, Uses last c) (hus' : ∀ c ∈ us', Uses last c)

include hus hus'

/-- The events of a batch: everything is acquired, all but the last are released, the last is used
and released. -/
theorem batchCalls_events :
    ∃ evs, (∀ e ∈ evs, e = Ledger.Event.use (some last)) ∧
      (batchCalls mNewFrameHandler frames last us us').flatMap Call.events =
        ((frames ++ [last]).map some).map .acquire ++ ((frames.map some).map .release ++
          (evs ++ [.release (some last)])) := by
  refine ⟨us.flatMap Call.events ++ ((if mNewFrameHandler then
    [Call.newFrameHandler (some last)] else []).flatMap Call.events ++
      us'.flatMap Call.events), ?_, ?_⟩
  · intro e he
    rcases List.mem_append.mp he with h | h
    · exact flatMap_events_uses hus e h
    · rcases List.mem_append.mp h with h | h
      · cases mNewFrameHandler with
        | false => simp at h
        | true => exact List.mem_singleton.mp h
      · exact flatMap_events_uses hus' e h
  · unfold batchCalls
    simp only [List.flatMap_append, flatMap_events_getFrame, flatMap_events_releaseFrame,
      List.append_assoc]
    rfl

theorem balanced_batchCalls (hnodup : (frames ++ [last]).Nodup) :
    Ledger.Balanced ((batchCalls mNewFrameHandler frames last us us').flatMap Call.events) := by
  obtain ⟨evs, hevs, hevents⟩ := batchCalls_events mNewFrameHandler frames last hus hus'
  have hnodup' : (frames.map some ++ [some last]).Nodup := by
    rw [← List.map_singleton, ← List.map_append]
    exact hnodup.map (Option.some_injective ℕ)
  have hacquire := Ledger.replay_acquire_all
    (show ((frames.map some ++ [some last]).reverse ++ []).Nodup by
      rw [List.append_nil]
      exact List.nodup_reverse.mpr hnodup')
  have hrelease := Ledger.replay_release_all hnodup'
  have huse := Ledger.replay_use_all (List.mem_singleton_self (some last)) hevs
  unfold Ledger.Balanced
  rw [hevents, List.map_append, List.map_singleton, Ledger.replay_append, hacquire,
    Option.bind_some, List.append_nil, Ledger.replay_append, hrelease, Option.bind_some,
    Ledger.replay_append]
  rw [show [some last].reverse = [some last] from rfl, huse]
  simp [Ledger.post]

/-- As many frames are acquired as the batch obtains. -/
theorem countP_batchCalls :
    ((batchCalls mNewFrameHandler frames last us us').flatMap Call.events).countP
      Ledger.Event.isAcquire = (frames ++ [last]).length := by
  obtain ⟨evs, hevs, hevents⟩ := batchCalls_events mNewFrameHandler frames last hus hus'
  have huse : evs.countP Ledger.Event.isAcquire = 0 := by
    rw [List.countP_eq_zero]
    intro e he
    rw [hevs e he]
    exact Bool.false_ne_true
  have hacquire : ∀ l : List (Option ℕ),
      (l.map Ledger.Event.acquire).countP Ledger.Event.isAcquire = l.length := by
    intro l
    rw [List.countP_map]
    exact List.countP_eq_length.mpr fun _ _ => rfl
  have hrelease : ∀ l : List (Option ℕ),
      (l.map Ledger.Event.release).countP Ledger.Event.isAcquire = 0 := by
    intro l
    rw [List.countP_map, List.countP_eq_zero]
    exact fun _ _ => Bool.false_ne_true
  rw [hevents, List.countP_append, List.countP_append, List.countP_append, hacquire, hrelease,
    huse, List.length_map]
  rfl

/-- The handler is called for the last frame only. -/
theorem batchCalls_handled :
    (batchCalls mNewFrameHandler frames last us us').filterMap Call.handled =
      if mNewFrameHandler then [some last] else [] := by
  have hget : ((frames ++ [last]).map Call.getFrame).filterMap Call.handled = [] := by
    rw [List.filterMap_map]
    exact List.filterMap_eq_nil_iff.mpr fun _ _ => rfl
  have hrelease : (frames.map fun i => Call.releaseFrame (some i)).filterMap Call.handled = [] := by
    rw [List.filterMap_map]
    exact List.filterMap_eq_nil_iff.mpr fun _ _ => rfl
  have hus₀ : us.filterMap Call.handled = [] :=
    List.filterMap_eq_nil_iff.mpr fun c hc => (hus c hc).handled
  have hus₀' : us'.filterMap Call.handled = [] :=
    List.filterMap_eq_nil_iff.mpr fun c hc => (hus' c hc).handled
  unfold batchCalls
  simp only [List.filterMap_append, hget, hrelease, hus₀, hus₀']
  cases mNewFrameHandler <;> rfl

/-- The frames obtained are those of the list. -/
theorem batchCalls_obtained :
    (batchCalls mNewFrameHandler frames last us us').filterMap Call.obtained =
      (frames ++ [last]).map some := by
  have hget : ((frames ++ [last]).map Call.getFrame).filterMap Call.obtained =
      (frames ++ [last]).map some := by
    rw [List.filterMap_map, ← List.filterMap_eq_map]
    rfl
  have hrelease : (frames.map fun i => Call.releaseFrame (some i)).filterMap Call.obtained =
      [] := by
    rw [List.filterMap_map]
    exact List.filterMap_eq_nil_iff.mpr fun _ _ => rfl
  have hus₀ : us.filterMap Call.obtained = [] :=
    List.filterMap_eq_nil_iff.mpr fun c hc => (hus c hc).obtained
  have hus₀' : us'.filterMap Call.obtained = [] :=
    List.filterMap_eq_nil_iff.mpr fun c hc => (hus' c hc).obtained
  unfold batchCalls
  simp only [List.filterMap_append, hget, hrelease, hus₀, hus₀']
  cases mNewFrameHandler <;> simp [Call.obtained]

theorem batchOk_batchCalls {o : Outcomes} (hwaiting : o.Waiting (frames ++ [last]).length)
    (hnodup : (frames ++ [last]).Nodup) :
    BatchOk mNewFrameHandler o (batchCalls mNewFrameHandler frames last us us') where
  obtained := by
    rw [batchCalls_obtained mNewFrameHandler frames last hus hus', List.length_map]
    exact hwaiting
  balanced := balanced_batchCalls mNewFrameHandler frames last hus hus' hnodup
  held_le := by
    rintro pre ⟨rest, hpre⟩ held hreplay
    have hle := Ledger.length_le_of_replay hreplay
    have hlen := hwaiting.le
    have hcount := countP_batchCalls mNewFrameHandler frames last hus hus'
    rw [← hpre, List.flatMap_append, List.countP_append] at hcount
    rw [List.length_nil] at hle
    omega
  handled := by
    rw [batchCalls_handled mNewFrameHandler frames last hus hus',
      batchCalls_obtained mNewFrameHandler frames last hus hus', List.map_append]
    simp

end BatchCalls

theorem batchOk_nil (mNewFrameHandler : Bool) {o : Outcomes} (hwaiting : o.Waiting 0) :
    BatchOk mNewFrameHandler o [] where
  obtained := hwaiting
  balanced := Ledger.balanced_nil
  held_le := by
    intro pre hpre held hreplay
    rw [List.prefix_nil.mp hpre] at hreplay
    cases hreplay
    exact Nat.zero_le _
  handled := by cases mNewFrameHandler <;> rfl

/-! ### Any number of batches -/

/-- The thread after the batches of a list of outcomes. -/
def runThread (mNewFrameHandler : Bool) (os : List Outcomes) : Checked Thread :=
  os.foldlM (Thread.frameThread mNewFrameHandler) Thread.init

/-- An iteration never faults, and its batch is in order. -/
theorem frameThread_eq_ok (mNewFrameHandler : Bool) (t : Thread) (o : Outcomes) :
    ∃ t' b, t.frameThread mNewFrameHandler o = .ok t' ∧ t'.batches = t.batches ++ [b] ∧
      BatchOk mNewFrameHandler o b := by
  obtain ⟨s, hbody, hcalls⟩ := body_calls mNewFrameHandler o
    { stFrame := t.stFrame, obtained := t.obtained, calls := [] } rfl
  refine ⟨{ stFrame := s.stFrame, obtained := s.obtained, batches := t.batches ++ [s.calls] },
    s.calls, ?_, rfl, ?_⟩
  · unfold Thread.frameThread
    dsimp only
    rw [hbody, Checked.ok_bind]
    rfl
  · rcases hcalls with
      ⟨hnil, hwaiting⟩ | ⟨frames, last, us, us', hwaiting, hnodup, hcalls, hus, hus'⟩
    · rw [hnil]
      exact batchOk_nil mNewFrameHandler hwaiting
    · rw [hcalls]
      exact batchOk_batchCalls mNewFrameHandler frames last hus hus' hwaiting hnodup

/-- Whatever the driver answers, the thread runs on, and each batch is in order. -/
theorem frameThread_batches (mNewFrameHandler : Bool) (os : List Outcomes) :
    ∃ t, runThread mNewFrameHandler os = .ok t ∧
      List.Forall₂ (BatchOk mNewFrameHandler) os t.batches := by
  unfold runThread
  induction os using List.reverseRecOn with
  | nil => exact ⟨Thread.init, rfl, .nil⟩
  | append_singleton os o ih =>
    obtain ⟨t, hrun, hall⟩ := ih
    obtain ⟨t', b, hstep, hbatches, hb⟩ := frameThread_eq_ok mNewFrameHandler t o
    refine ⟨t', ?_, ?_⟩
    · rw [List.foldlM_append, hrun, Checked.ok_bind, List.foldlM_cons, hstep]
      rfl
    · rw [hbatches]
      exact List.rel_append hall (.cons hb .nil)

/-- A driver with two frames. -/
def twoFrames : Outcomes where
  getFrame i := if i < 2 then some ⟨.replicate 3 0, .replicate 3 0, .replicate 3 0, 0⟩ else none
  mmap _ := 0

/-- The second of two frames is handed on. -/
theorem frameThread_batches_twoFrames : ∃ t b, runThread true [twoFrames] = .ok t ∧
    t.batches = [b] ∧ (b.filterMap Call.obtained).length = 2 ∧
    b.filterMap Call.handled = (b.filterMap Call.obtained).getLast?.toList := by
  obtain ⟨t, hrun, hall⟩ := frameThread_batches true [twoFrames]
  obtain ⟨b, bs, hb, hbs, hbatches⟩ := List.forall₂_cons_left_iff.mp hall
  obtain rfl := List.forall₂_nil_left_iff.mp hbs
  refine ⟨t, b, hrun, hbatches, ?_, hb.handled⟩
  have hle : ¬ 2 < (b.filterMap Call.obtained).length := fun hlt =>
    absurd (hb.obtained.isSome 2 hlt) (by decide)
  have hge : ¬ (b.filterMap Call.obtained).length < 2 := by
    intro hlt
    have hnone := hb.obtained.eq_none (lt_trans hlt (by decide))
    unfold twoFrames at hnone
    dsimp only at hnone
    rw [if_pos hlt] at hnone
    cases hnone
  omega

end Mvr.Vi
