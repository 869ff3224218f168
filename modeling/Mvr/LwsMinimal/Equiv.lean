import Mvr.LwsMinimal.Basic

/-!
# The sessions of `lws-minimal`

In every run the list of the virtual host holds the open sessions, so that the callback reads no
session that was freed, and while a message is pending a session whose number of the last message
is not the current one is asked to become writeable (`System.Served`, `served_of_run`).
-/

namespace Mvr.LwsMinimal

open FwdList (IsList)

/-! ### The callback -/

section Callback

variable {vhd : Vhd} {l : List PssPtr} {user : PssPtr}

/-- A session that is not on the list yet is put in front of it. -/
theorem established_eq_ok (h : IsList pssList vhd.heap vhd.head l) {pss : Pss}
    (hpss : vhd.heap user = some pss) (huser : user ∉ l) (wsi : Lws) :
    ∃ vhd', established vhd wsi user = .ok vhd' ∧
      IsList pssList vhd'.heap vhd'.head (user :: l) ∧
      vhd'.heap = Function.update vhd.heap user (some ⟨vhd.head, some wsi, vhd.current⟩) ∧
      vhd'.amsg = vhd.amsg ∧ vhd'.current = vhd.current := by
  obtain ⟨cells, hinsert, hlist, hheap⟩ := FwdList.insert_eq_ok h hpss huser
  have hnew : cells.heap user = some (pssList.set vhd.head pss) := by
    rw [hheap, Function.update_self]
  refine ⟨{ vhd with toCells := cells.write user ⟨vhd.head, some wsi, vhd.current⟩ }, ?_, ?_, ?_,
    rfl, rfl⟩
  · unfold established
    rw [hinsert, Checked.ok_bind, FwdList.Cells.deref_eq_ok.mpr hnew]
    rfl
  · exact hlist.update_of_get hnew rfl
  · unfold FwdList.Cells.write
    dsimp only
    rw [hheap, Function.update_idem]

/-- A session is taken off the list. -/
theorem closed_eq_ok (h : IsList pssList vhd.heap vhd.head l) (user : PssPtr) (fuel : ℕ)
    (hfuel : l.length < fuel) :
    ∃ vhd', closed fuel vhd user = .ok vhd' ∧
      IsList pssList vhd'.heap vhd'.head (l.erase user) ∧
      FwdList.Relinked pssList vhd.toCells vhd'.toCells ∧
      vhd'.amsg = vhd.amsg ∧ vhd'.current = vhd.current := by
  obtain ⟨cells, hremove, hlist, hrelinked⟩ := FwdList.remove_eq_ok h user hfuel
  refine ⟨{ vhd with toCells := cells }, ?_, hlist, hrelinked, rfl, rfl⟩
  unfold closed
  rw [hremove]
  rfl

/-- What is written to a session. -/
theorem serverWriteable_cases {pss : Pss} (hpss : vhd.heap user = some pss) (wsi : Lws)
    (m : Int32) :
    ((vhd.amsg.payload = none ∨ pss.last = vhd.current) ∧
        serverWriteable vhd wsi user m = .ok (vhd, 0, [])) ∨
      ∃ payload, vhd.amsg.payload = some payload ∧ pss.last ≠ vhd.current ∧
        ((m < Int32.ofNat vhd.amsg.len ∧ serverWriteable vhd wsi user m =
            .ok (vhd, -1, [.write wsi payload.ptr (payload.text.take vhd.amsg.len)])) ∨
          (¬ m < Int32.ofNat vhd.amsg.len ∧ serverWriteable vhd wsi user m =
            .ok ({ vhd with toCells := vhd.write user { pss with last := vhd.current } }, 0,
              [.write wsi payload.ptr (payload.text.take vhd.amsg.len)]))) := by
  unfold serverWriteable
  cases hpayload : vhd.amsg.payload with
  | none => exact Or.inl ⟨Or.inl rfl, rfl⟩
  | some payload =>
    dsimp only
    rw [FwdList.Cells.deref_eq_ok.mpr hpss, Checked.ok_bind]
    by_cases hlast : pss.last = vhd.current
    · rw [if_pos hlast]
      exact Or.inl ⟨Or.inr hlast, rfl⟩
    · right
      refine ⟨payload, rfl, hlast, ?_⟩
      rw [if_neg hlast]
      by_cases hm : m < Int32.ofNat vhd.amsg.len
      · rw [if_pos hm]
        exact Or.inl ⟨hm, rfl⟩
      · rw [if_neg hm]
        exact Or.inr ⟨hm, rfl⟩

/-- The loop asks for every session on the list. -/
theorem wakeAll_eq_ok {sessions : List (PssPtr × Lws)}
    (h : IsList pssList vhd.heap vhd.head (sessions.map Prod.fst))
    (hwsi : ∀ p ∈ sessions, ∃ pss, vhd.heap p.1 = some pss ∧ pss.wsi = some p.2) {fuel : ℕ}
    (hfuel : sessions.length < fuel) :
    wakeAll fuel vhd = .ok (sessions.map fun p => .onWritable (some p.2)) := by
  have hloop : ∀ calls, (sessions.map Prod.fst).foldlM (fun calls pss => do
      let user ← vhd.deref pss
      pure (calls ++ [Call.onWritable user.wsi])) calls =
        (.ok (calls ++ sessions.map fun p => .onWritable (some p.2)) : Checked (List Call)) := by
    clear h hfuel
    induction sessions with
    | nil => exact fun calls => by simp; rfl
    | cons p sessions ih =>
      intro calls
      obtain ⟨pss, hpss, hp⟩ := hwsi p (List.mem_cons_self ..)
      rw [List.map_cons, List.foldlM_cons, FwdList.Cells.deref_eq_ok.mpr hpss, Checked.ok_bind]
      refine (ih (fun q hq => hwsi q (List.mem_cons_of_mem _ hq)) _).trans ?_
      rw [List.map_cons, hp, List.append_assoc, List.singleton_append]
  unfold wakeAll
  rw [FwdList.foreach_eq h _ (by simpa using hfuel), hloop, List.nil_append]

/-- What becomes of a received message. -/
theorem receive_cases {sessions : List (PssPtr × Lws)}
    (h : IsList pssList vhd.heap vhd.head (sessions.map Prod.fst))
    (hwsi : ∀ p ∈ sessions, ∃ pss, vhd.heap p.1 = some pss ∧ pss.wsi = some p.2) {fuel : ℕ}
    (hfuel : sessions.length < fuel) (text : List UInt8) (malloc : Option Ptr) :
    (malloc = none ∧ receive fuel vhd text malloc =
        .ok ({ vhd with amsg := ⟨none, text.length⟩ }, (minimalDestroyMessage vhd.amsg).2)) ∨
      ∃ payload, malloc = some payload ∧ receive fuel vhd text malloc =
        .ok ({ vhd with amsg := ⟨some ⟨payload, text⟩, text.length⟩, current := vhd.current + 1 },
          (minimalDestroyMessage vhd.amsg).2 ++ [.malloc payload] ++
            sessions.map fun p => .onWritable (some p.2)) := by
  unfold receive
  cases malloc with
  | none =>
    refine Or.inl ⟨rfl, ?_⟩
    cases hpayload : vhd.amsg.payload with
    | none => simp [minimalDestroyMessage, hpayload]; rfl
    | some old => simp [minimalDestroyMessage, hpayload]; rfl
  | some payload =>
    refine Or.inr ⟨payload, rfl, ?_⟩
    have hwake : wakeAll fuel { vhd with
          amsg := ⟨some ⟨payload, text⟩, text.length⟩
          current := vhd.current + 1 } = .ok (sessions.map fun p => .onWritable (some p.2)) :=
      wakeAll_eq_ok h hwsi hfuel
    cases hpayload : vhd.amsg.payload with
    | none => simp [minimalDestroyMessage, hpayload, hwake]
    | some old => simp [minimalDestroyMessage, hpayload, hwake]

end Callback

/-! ### The sessions -/

/-- An element is erased from a list whose images differ where its image is erased. -/
theorem map_erase_of_nodup {α β : Type} [BEq α] [LawfulBEq α] [BEq β] [LawfulBEq β] {f : α → β}
    {l : List α} {a : α} (h : (l.map f).Nodup) (ha : a ∈ l) :
    (l.erase a).map f = (l.map f).erase (f a) := by
  induction l with
  | nil => rfl
  | cons b l ih =>
    rw [List.map_cons, List.nodup_cons] at h
    rcases eq_or_ne b a with rfl | hne
    · rw [List.erase_cons_head, List.map_cons, List.erase_cons_head]
    · have hmem : a ∈ l := (List.mem_cons.mp ha).resolve_left hne.symm
      have hne' : f b ≠ f a := by
        intro heq
        exact h.1 (heq ▸ List.mem_map_of_mem hmem)
      rw [List.erase_cons_tail (by simpa using hne), List.map_cons, List.map_cons,
        List.erase_cons_tail (by simpa using hne'), ih h.2 hmem]

namespace System

/-- The list holds the open sessions and no other, and no session is behind the pending message
without having asked for its turn. -/
structure Served (s : System) : Prop where
  listed : IsList pssList s.vhd.heap s.vhd.head (s.sessions.map Prod.fst)
  wsi_eq : ∀ p ∈ s.sessions, ∃ pss, s.vhd.heap p.1 = some pss ∧ pss.wsi = some p.2
  wsi_nodup : (s.sessions.map Prod.snd).Nodup
  /-- Nothing else is allocated. -/
  allocated : ∀ user, s.vhd.heap user ≠ none → user ∈ s.sessions.map Prod.fst
  len_eq : ∀ payload ∈ s.vhd.amsg.payload, s.vhd.amsg.len = payload.text.length
  /-- No wakeup is lost.  The callback goes by the number `last` alone: a session that came after
  the message starts with the current one. -/
  requested : ∀ p ∈ s.sessions, ∀ pss, s.vhd.heap p.1 = some pss → s.vhd.amsg.payload ≠ none →
    pss.last ≠ s.vhd.current → s.requested p.2 = true

theorem served_init : Served init := by
  refine ⟨.nil, ?_, List.nodup_nil, fun user h => absurd rfl h, ?_, ?_⟩
  · intro p hp
    cases hp
  · rintro payload ⟨⟩
  · intro p hp
    cases hp

namespace Served

variable {s : System} {user : PssPtr} {wsi : Lws}

theorem nodup (h : Served s) : (s.sessions.map Prod.fst).Nodup := h.listed.nodup

theorem notMem_of_free (h : Served s) (huser : s.vhd.heap user = none) :
    user ∉ s.sessions.map Prod.fst := by
  intro hmem
  obtain ⟨pss, hpss⟩ := h.listed.allocated hmem
  rw [huser] at hpss
  cases hpss

/-- A new session comes to the front. -/
theorem established (h : Served s) (huser : s.vhd.heap user = none)
    (hwsi : wsi ∉ s.sessions.map Prod.snd) (text : List UInt8) (ans : Answers) :
    ∃ vhd, (s.alloc user).callback wsi .established user text ans = .ok (vhd, 0, []) ∧
      vhd.heap = Function.update s.vhd.heap user (some ⟨s.vhd.head, some wsi, s.vhd.current⟩) ∧
      vhd.amsg = s.vhd.amsg ∧ vhd.current = s.vhd.current ∧
      Served ⟨vhd, (user, wsi) :: s.sessions, Function.update s.requested wsi false⟩ := by
  have hnot := h.notMem_of_free huser
  obtain ⟨vhd, hok, hlist, hheap, hamsg, hcurrent⟩ :=
    established_eq_ok (show IsList pssList (s.alloc user).vhd.heap (s.alloc user).vhd.head _ from
      h.listed.update_of_notMem hnot _) (Function.update_self ..) hnot wsi
  have hheap' : vhd.heap =
      Function.update s.vhd.heap user (some ⟨s.vhd.head, some wsi, s.vhd.current⟩) := by
    rw [hheap]
    exact Function.update_idem ..
  have hself : vhd.heap user = some ⟨s.vhd.head, some wsi, s.vhd.current⟩ := by
    rw [hheap', Function.update_self]
  have hother : ∀ p ∈ s.sessions, vhd.heap p.1 = s.vhd.heap p.1 := by
    intro p hp
    rw [hheap', Function.update_of_ne]
    rintro rfl
    exact hnot (List.mem_map_of_mem hp)
  refine ⟨vhd, ?_, hheap', hamsg, hcurrent, ⟨hlist, ?_, ?_, ?_, ?_, ?_⟩⟩
  · unfold callback callbackMinimal
    dsimp only
    rw [hok]
    rfl
  · intro p hp
    rcases List.mem_cons.mp hp with rfl | hmem
    · exact ⟨_, hself, rfl⟩
    · dsimp only
      rw [hother p hmem]
      exact h.wsi_eq p hmem
  · exact List.nodup_cons.mpr ⟨hwsi, h.wsi_nodup⟩
  · intro user' hne
    rcases eq_or_ne user' user with rfl | huser'
    · exact List.mem_cons_self ..
    · dsimp only at hne
      rw [hheap', Function.update_of_ne huser'] at hne
      exact List.mem_cons_of_mem _ (h.allocated user' hne)
  · dsimp only
    rw [hamsg]
    exact h.len_eq
  · intro p hp pss hpss hpayload hlast
    dsimp only at hpss hpayload hlast ⊢
    rcases List.mem_cons.mp hp with rfl | hmem
    · -- the new session starts at the current message
      rw [hself] at hpss
      obtain rfl := Option.some.inj hpss
      exact absurd hcurrent.symm hlast
    · have hne : p.2 ≠ wsi := by
        rintro rfl
        exact hwsi (List.mem_map_of_mem hmem)
      rw [hother p hmem] at hpss
      rw [hamsg] at hpayload
      rw [hcurrent] at hlast
      rw [Function.update_of_ne hne]
      exact h.requested p hmem pss hpss hpayload hlast

/-- A session is closed: it is off the list before it is freed. -/
theorem closed (h : Served s) (hopen : (user, wsi) ∈ s.sessions) (text : List UInt8)
    (ans : Answers) :
    ∃ vhd, s.callback wsi .closed user text ans = .ok (vhd, 0, []) ∧
      vhd.amsg = s.vhd.amsg ∧ vhd.current = s.vhd.current ∧
      FwdList.Relinked pssList s.vhd.toCells vhd.toCells ∧
      Served (dealloc { s with vhd } (user, wsi)) := by
  obtain ⟨vhd, hok, hlist, hrelinked, hamsg, hcurrent⟩ :=
    closed_eq_ok h.listed user (s.sessions.length + 1) (by simp)
  have hrest : ((s.sessions.erase (user, wsi)).map Prod.fst) =
      (s.sessions.map Prod.fst).erase user := map_erase_of_nodup h.nodup hopen
  have hnotMem : user ∉ (s.sessions.erase (user, wsi)).map Prod.fst := by
    rw [hrest]
    exact h.nodup.not_mem_erase
  have hmem : ∀ p ∈ s.sessions.erase (user, wsi), p.1 ≠ user := by
    rintro p hp rfl
    exact hnotMem (List.mem_map_of_mem hp)
  -- a session that stays has its data, linked anew perhaps
  have hstays : ∀ p ∈ s.sessions.erase (user, wsi), ∀ pss,
      Function.update vhd.heap user none p.1 = some pss →
        ∃ old, s.vhd.heap p.1 = some old ∧ pss.wsi = old.wsi ∧ pss.last = old.last := by
    intro p hp pss hpss
    rw [Function.update_of_ne (hmem p hp)] at hpss
    rcases hrelinked p.1 with hsame | ⟨old, next, hold, hnew⟩
    · exact ⟨pss, by rw [← hsame, hpss], rfl, rfl⟩
    · obtain rfl := Option.some.inj (hpss.symm.trans hnew)
      exact ⟨old, hold, rfl, rfl⟩
  refine ⟨vhd, ?_, hamsg, hcurrent, hrelinked, ⟨?_, ?_, ?_, ?_, ?_, ?_⟩⟩
  · unfold callback callbackMinimal
    dsimp only
    rw [hok]
    rfl
  · unfold dealloc
    dsimp only
    rw [hrest]
    exact hlist.update_of_notMem (by rw [← hrest]; exact hnotMem) none
  · intro p hp
    obtain ⟨old, hold, hwsi⟩ := h.wsi_eq p (List.mem_of_mem_erase hp)
    have hnew : ∃ pss, vhd.heap p.1 = some pss := by
      rcases hrelinked p.1 with hsame | ⟨_, next, -, hnew⟩
      · exact ⟨old, by rw [hsame]; exact hold⟩
      · exact ⟨_, hnew⟩
    obtain ⟨pss, hpss⟩ := hnew
    have hpss' : Function.update vhd.heap user none p.1 = some pss := by
      rw [Function.update_of_ne (hmem p hp), hpss]
    obtain ⟨old', hold', hwsi', -⟩ := hstays p hp pss hpss'
    obtain rfl := Option.some.inj (hold.symm.trans hold')
    exact ⟨pss, hpss', hwsi'.trans hwsi⟩
  · exact h.wsi_nodup.sublist ((List.erase_sublist ..).map _)
  · intro user' hne
    unfold dealloc at hne ⊢
    dsimp only at hne ⊢
    rcases eq_or_ne user' user with rfl | huser'
    · rw [Function.update_self] at hne
      exact absurd rfl hne
    · rw [Function.update_of_ne huser'] at hne
      rw [hrest, List.mem_erase_of_ne huser']
      apply h.allocated user'
      rcases hrelinked user' with hsame | ⟨old, next, hold, -⟩
      · rwa [← hsame]
      · exact fun hnone => by rw [hold] at hnone; cases hnone
  · unfold dealloc
    dsimp only
    rw [hamsg]
    exact h.len_eq
  · intro p hp pss hpss hpayload hlast
    obtain ⟨old, hold, -, hlast'⟩ := hstays p hp pss hpss
    unfold dealloc at hpayload hlast
    dsimp only at hpayload hlast
    rw [hamsg] at hpayload
    rw [hcurrent, hlast'] at hlast
    exact h.requested p (List.mem_of_mem_erase hp) old hold hpayload hlast

/-- The callback writes the pending message to the session, unless the session has sent it
already. -/
theorem serverWriteable (h : Served s) (hopen : (user, wsi) ∈ s.sessions) (text : List UInt8)
    (ans : Answers) : ∃ pss, s.vhd.heap user = some pss ∧
    (((s.vhd.amsg.payload = none ∨ pss.last = s.vhd.current) ∧
        s.callback wsi .serverWriteable user text ans = .ok (s.vhd, 0, [])) ∨
      ∃ payload, s.vhd.amsg.payload = some payload ∧ pss.last ≠ s.vhd.current ∧
        (s.callback wsi .serverWriteable user text ans =
            .ok (s.vhd, -1, [.write wsi payload.ptr payload.text]) ∨
          s.callback wsi .serverWriteable user text ans =
            .ok ({ s.vhd with toCells := s.vhd.write user { pss with last := s.vhd.current } }, 0,
              [.write wsi payload.ptr payload.text]))) := by
  obtain ⟨pss, hpss, -⟩ := h.wsi_eq _ hopen
  refine ⟨pss, hpss, ?_⟩
  rcases serverWriteable_cases hpss wsi ans.lwsWrite with hidle | ⟨payload, hpayload, hlast, hres⟩
  · exact Or.inl hidle
  · right
    have htext : payload.text.take s.vhd.amsg.len = payload.text := by
      rw [h.len_eq payload hpayload, List.take_length]
    rw [htext] at hres
    exact ⟨payload, hpayload, hlast, hres.imp And.right And.right⟩

/-- A session that was written to needs no further call. -/
theorem written (h : Served s) {pss : Pss} (hpss : s.vhd.heap user = some pss)
    (hopen : (user, wsi) ∈ s.sessions) :
    Served { s with
      vhd := { s.vhd with toCells := s.vhd.write user { pss with last := s.vhd.current } }
      requested := Function.update s.requested wsi false } := by
  refine ⟨h.listed.update_of_get hpss rfl, ?_, h.wsi_nodup, ?_, h.len_eq, ?_⟩
  · intro p hp
    unfold FwdList.Cells.write
    dsimp only
    obtain ⟨old, hold, hwsi⟩ := h.wsi_eq p hp
    rcases eq_or_ne p.1 user with heq | hne
    · rw [heq] at hold ⊢
      obtain rfl := Option.some.inj (hpss.symm.trans hold)
      exact ⟨_, Function.update_self .., hwsi⟩
    · rw [Function.update_of_ne hne]
      exact ⟨old, hold, hwsi⟩
  · intro user' hne
    unfold FwdList.Cells.write at hne
    dsimp only at hne
    rcases eq_or_ne user' user with rfl | huser
    · exact List.mem_map_of_mem hopen
    · rw [Function.update_of_ne huser] at hne
      exact h.allocated user' hne
  · intro p hp new hnew hpayload hlast
    unfold FwdList.Cells.write at hnew
    dsimp only at hnew hpayload hlast ⊢
    rcases eq_or_ne p.1 user with heq | hne
    · rw [heq, Function.update_self] at hnew
      obtain rfl := Option.some.inj hnew
      exact absurd rfl hlast
    · rw [Function.update_of_ne hne] at hnew
      have hwsi : p.2 ≠ wsi := by
        intro heq
        have hsame := List.inj_on_of_nodup_map h.wsi_nodup hp hopen heq
        exact hne (congrArg Prod.fst hsame)
      rw [Function.update_of_ne hwsi]
      exact h.requested p hp new hnew hpayload hlast

/-- Nor does one that had nothing to send. -/
theorem idle (h : Served s) {pss : Pss} (hpss : s.vhd.heap user = some pss)
    (hopen : (user, wsi) ∈ s.sessions)
    (hidle : s.vhd.amsg.payload = none ∨ pss.last = s.vhd.current) :
    Served { s with requested := Function.update s.requested wsi false } := by
  refine ⟨h.listed, h.wsi_eq, h.wsi_nodup, h.allocated, h.len_eq, ?_⟩
  intro p hp old hold hpayload hlast
  dsimp only at hold hpayload hlast ⊢
  have hwsi : p.2 ≠ wsi := by
    intro heq
    have hsame := List.inj_on_of_nodup_map h.wsi_nodup hp hopen heq
    rw [hsame] at hold
    obtain rfl := Option.some.inj (hpss.symm.trans hold)
    exact hidle.elim hpayload hlast
  rw [Function.update_of_ne hwsi]
  exact h.requested p hp old hold hpayload hlast

/-- A message takes the place of the pending one, and every session is asked for. -/
theorem receive (h : Served s) (wsi : Lws) (user : PssPtr) (text : List UInt8) (ans : Answers) :
    ∃ vhd calls, s.callback wsi .receive user text ans = .ok (vhd, 0, calls) ∧
      ((ans.malloc = none ∧ vhd = { s.vhd with amsg := ⟨none, text.length⟩ } ∧
          calls = (minimalDestroyMessage s.vhd.amsg).2) ∨
        ∃ payload, ans.malloc = some payload ∧
          vhd = { s.vhd with
            amsg := ⟨some ⟨payload, text⟩, text.length⟩
            current := s.vhd.current + 1 } ∧
          calls = (minimalDestroyMessage s.vhd.amsg).2 ++ [.malloc payload] ++
            s.sessions.map fun p => .onWritable (some p.2)) ∧
      Served { s with
        vhd
        requested := fun w => s.requested w || Call.onWritable (some w) ∈ calls } := by
  rcases receive_cases h.listed h.wsi_eq (Nat.lt_succ_self s.sessions.length) text ans.malloc with
    ⟨hnone, hok⟩ | ⟨payload, hsome, hok⟩
  · refine ⟨_, _, ?_, Or.inl ⟨hnone, rfl, rfl⟩, ⟨h.listed, h.wsi_eq, h.wsi_nodup, h.allocated, ?_,
      ?_⟩⟩
    · unfold callback callbackMinimal
      dsimp only
      rw [hok]
      rfl
    · rintro payload ⟨⟩
    · intro p hp pss hpss hpayload
      exact absurd rfl hpayload
  · refine ⟨_, _, ?_, Or.inr ⟨payload, hsome, rfl, rfl⟩, ⟨h.listed, h.wsi_eq, h.wsi_nodup,
      h.allocated, ?_, ?_⟩⟩
    · unfold callback callbackMinimal
      dsimp only
      rw [hok]
      rfl
    · rintro payload ⟨⟩
      rfl
    · intro p hp pss hpss hpayload hlast
      have hmem : Call.onWritable (some p.2) ∈ (minimalDestroyMessage s.vhd.amsg).2 ++
          [.malloc payload] ++ s.sessions.map fun p => .onWritable (some p.2) :=
        List.mem_append_right _ (List.mem_map.mpr ⟨p, hp, rfl⟩)
      exact Bool.or_eq_true_iff.mpr (Or.inr (decide_eq_true hmem))

theorem step {l : Label} {s' : System} (h : Served s) (hs : Step s l s') : Served s' := by
  cases hs with
  | @established user wsi text ans vhd calls huser hwsi hok =>
    obtain ⟨vhd', hok', -, -, -, hserved⟩ := h.established huser hwsi text ans
    cases hok.symm.trans hok'
    exact hserved
  | @closed user wsi text ans vhd calls hopen hok =>
    obtain ⟨vhd', hok', -, -, -, hserved⟩ := h.closed hopen text ans
    cases hok.symm.trans hok'
    exact hserved
  | @serverWriteable user wsi text ans vhd calls hopen hok =>
    obtain ⟨pss, hpss, ⟨hidle, hok'⟩ | ⟨payload, hpayload, hlast, hok' | hok'⟩⟩ :=
      h.serverWriteable hopen text ans
    · cases hok.symm.trans hok'
      exact h.idle hpss hopen hidle
    · cases hok.symm.trans hok'
    · cases hok.symm.trans hok'
      exact h.written hpss hopen
  | @drop user wsi text ans vhd vhd' res calls calls' hopen hok hres hclosed =>
    obtain ⟨pss, hpss, ⟨hidle, hok'⟩ | ⟨payload, hpayload, hlast, hok' | hok'⟩⟩ :=
      h.serverWriteable hopen text ans
    · cases hok.symm.trans hok'
      exact absurd rfl hres
    · cases hok.symm.trans hok'
      obtain ⟨vhd₁, hok₁, -, -, -, hserved⟩ := h.closed hopen text ans
      cases hclosed.symm.trans hok₁
      exact hserved
    · cases hok.symm.trans hok'
      exact absurd rfl hres
  | @receive user wsi text ans vhd calls hopen hok =>
    obtain ⟨vhd', calls', hok', -, hserved⟩ := h.receive wsi user text ans
    cases hok.symm.trans hok'
    exact hserved

end Served

theorem served_of_steps {tr : List Label} {s : System} (h : Run Step init tr s) : Served s :=
  h.stateInvariant Served served_init fun _ _ _ hI hs => hI.step hs

/-- **The sessions of the server**: in every run the list of the virtual host holds the open
sessions, the newest first, nothing else is allocated, and while a message is pending a session
whose last number is not the current one was asked to become writeable; and whatever happens next,
the callback returns. -/
theorem served_of_run {tr : List Label} {s : System} (h : Run Step init tr s) :
    Served s ∧
      (∀ user wsi text ans, s.vhd.heap user = none → wsi ∉ s.sessions.map Prod.snd →
        ((s.alloc user).callback wsi .established user text ans).IsOk) ∧
      ∀ p ∈ s.sessions, ∀ text ans, (s.callback p.2 .closed p.1 text ans).IsOk ∧
        (s.callback p.2 .serverWriteable p.1 text ans).IsOk ∧
        (s.callback p.2 .receive p.1 text ans).IsOk := by
  have hserved := served_of_steps h
  refine ⟨hserved, fun user wsi text ans huser hwsi => ?_, fun p hp text ans => ⟨?_, ?_, ?_⟩⟩
  · obtain ⟨vhd, hok, -⟩ := hserved.established huser hwsi text ans
    exact ⟨_, hok⟩
  · obtain ⟨vhd, hok, -⟩ := hserved.closed hp text ans
    exact ⟨_, hok⟩
  · obtain ⟨pss, -, ⟨-, hok⟩ | ⟨payload, -, -, hok | hok⟩⟩ := hserved.serverWriteable hp text ans
    · exact ⟨_, hok⟩
    · exact ⟨_, hok⟩
    · exact ⟨_, hok⟩
  · obtain ⟨vhd, calls, hok, -⟩ := hserved.receive p.2 p.1 text ans
    exact ⟨_, hok⟩

end System

end Mvr.LwsMinimal
