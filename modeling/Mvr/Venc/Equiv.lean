import Mvr.Venc.Basic

/-!
# Who owns the buffers of the encoder loop

An iteration that fetches a packet is balanced: the buffer it frees is the one it allocated
(`packetCalls`).  An iteration in which `MI_VENC_GetStream` fails frees `data` all the same, which
then was never written or names the buffer of an earlier packet, freed long ago.
`getH264data_owned_iff` says that a run is clean exactly when this does not happen in it; that the
callback sees the packets in their order needs no such condition (`handed_eq_fetched`).
-/

namespace Mvr.Venc

/-- The calls of an iteration that fetches a packet. -/
def packetCalls (o : Outcomes) (data : Ptr) : List Call :=
  [.getStream o.stStream o.pack, .malloc data, .getData data o.pack, .releaseStream o.stStream,
    .free (some data)]

/-- What an iteration does. -/
theorem body_cases {s s' : Loop} {o : Outcomes} (h : s.Step o s') :
    (¬ (o.query = 0 ∧ o.u32CurPacks ≠ 0) ∧ s' = s) ∨
    (o.query = 0 ∧ o.u32CurPacks ≠ 0 ∧ o.getStream ≠ 0 ∧ s' = s.call (.free s.data)) ∨
    (o.getStream = 0 ∧ ∃ data, s'.calls = s.calls ++ packetCalls o data) := by
  unfold Loop.Step Loop.body at h
  by_cases hready : o.query = 0 ∧ o.u32CurPacks ≠ 0
  · right
    rw [if_neg (by tauto)] at h
    by_cases hget : o.getStream = 0
    · right
      rw [if_pos hget, Checked.bind_eq_ok] at h
      obtain ⟨s₁, hpacket, h⟩ := h
      unfold Loop.packet at hpacket
      cases hmalloc : o.malloc with
      | none =>
        rw [hmalloc] at hpacket
        cases hpacket
      | some data =>
        rw [hmalloc] at hpacket
        cases hpacket
        cases h
        exact ⟨hget, data, by simp [Loop.call, packetCalls]⟩
    · left
      rw [if_neg hget] at h
      cases h
      exact ⟨hready.1, hready.2, hget, rfl⟩
  · left
    rw [if_pos (by tauto)] at h
    cases h
    exact ⟨hready, rfl⟩

theorem balanced_packetCalls (o : Outcomes) (data : Ptr) :
    Ledger.Balanced ((packetCalls o data).flatMap Call.events) := by
  unfold Ledger.Balanced
  simp [packetCalls, Call.events, Ledger.post]

/-- What an iteration adds to the ledger. -/
theorem events_of_step {s s' : Loop} {o : Outcomes} (h : s.Step o s') :
    ∃ evs, s'.events = s.events ++ evs ∧ (o.GetStreamSucceeds → Ledger.Balanced evs) ∧
      (¬ o.GetStreamSucceeds → Ledger.replay [] evs = none) := by
  unfold Loop.events Outcomes.GetStreamSucceeds
  rcases body_cases h with ⟨hnot, rfl⟩ | ⟨hquery, hpacks, hget, rfl⟩ | ⟨hget, data, hcalls⟩
  · refine ⟨[], by simp, fun _ => Ledger.balanced_nil, fun hbad => ?_⟩
    exact absurd (fun hready => absurd hready hnot) hbad
  · -- no buffer is held
    refine ⟨[.release (.buffer s.data)], ?_, fun hgood => absurd (hgood ⟨hquery, hpacks⟩) hget,
      fun _ => ?_⟩
    · simp [Loop.call, Call.events]
    · simp [Ledger.post]
  · exact ⟨_, by rw [hcalls, List.flatMap_append], fun _ => balanced_packetCalls o data,
      fun hbad => absurd (fun _ => hget) hbad⟩

/-- The callback has seen the packets that were fetched, in their order. -/
theorem handed_eq_fetched {tr : List Outcomes} {s : Loop} (h : Run Loop.Step Loop.init tr s) :
    s.calls.filterMap Call.handed = s.calls.filterMap Call.fetched := by
  refine h.stateInvariant
    (fun s => s.calls.filterMap Call.handed = s.calls.filterMap Call.fetched) rfl ?_
  intro s o s' hinv hs
  rcases body_cases hs with ⟨-, rfl⟩ | ⟨-, -, -, rfl⟩ | ⟨-, data, hcalls⟩
  · exact hinv
  · unfold Loop.call
    rw [List.filterMap_append, List.filterMap_append, hinv]
    rfl
  · rw [hcalls, List.filterMap_append, List.filterMap_append, hinv]
    rfl

/-- After a run every buffer was freed and every stream released exactly once, `free` was applied to
nothing else, and the callback saw every packet, exactly when `MI_VENC_GetStream` never failed. -/
theorem getH264data_owned_iff {tr : List Outcomes} {s : Loop} (h : Run Loop.Step Loop.init tr s) :
    s.Owned ↔ ∀ o ∈ tr, o.GetStreamSucceeds := by
  have hledger := Ledger.balanced_iff_of_run Loop.events Outcomes.GetStreamSucceeds rfl
    (fun _ _ _ hs => events_of_step hs) h
  constructor
  · intro howned
    exact hledger.mp howned.balanced
  · intro hall
    exact ⟨hledger.mpr hall, handed_eq_fetched h⟩

/-! ### Runs -/

/-- An iteration that finds a packet of two bytes waiting. -/
def readyOutcomes (getStream : Int32) (stStream : ℕ) : Outcomes where
  query := 0
  u32CurPacks := 1
  getStream := getStream
  stStream := stStream
  pack := [0x65, 0x88]
  malloc := some 4096
  releaseStream := 0

/-- Two packets in buffers at the same address. -/
theorem getH264data_owned_ready : ∃ s,
    Run Loop.Step Loop.init [readyOutcomes 0 0, readyOutcomes 0 1] s ∧
      s.calls.filterMap Call.handed = [[0x65, 0x88], [0x65, 0x88]] ∧ s.Owned := by
  have hfirst : Loop.init.Step (readyOutcomes 0 0)
      { data := some 4096, calls := packetCalls (readyOutcomes 0 0) 4096 } := rfl
  have hsecond : Loop.Step { data := some 4096, calls := packetCalls (readyOutcomes 0 0) 4096 }
      (readyOutcomes 0 1)
      { data := some 4096
        calls := packetCalls (readyOutcomes 0 0) 4096 ++ packetCalls (readyOutcomes 0 1) 4096 } :=
    rfl
  have hrun := Run.cons hfirst (Run.cons hsecond Run.nil)
  refine ⟨_, hrun, rfl, (getH264data_owned_iff hrun).mpr fun o ho _ => ?_⟩
  rcases List.mem_pair.mp ho with rfl | rfl <;> rfl

/-- The packet is fetched, the next one is not, and its buffer is freed a second time. -/
theorem getH264data_doubleFree : ∃ s,
    Run Loop.Step Loop.init [readyOutcomes 0 0, readyOutcomes (-1) 1] s ∧
      s.calls = packetCalls (readyOutcomes 0 0) 4096 ++ [.free (some 4096)] ∧ ¬ s.Owned := by
  have hfirst : Loop.init.Step (readyOutcomes 0 0)
      { data := some 4096, calls := packetCalls (readyOutcomes 0 0) 4096 } := rfl
  have hsecond : Loop.Step { data := some 4096, calls := packetCalls (readyOutcomes 0 0) 4096 }
      (readyOutcomes (-1) 1)
      { data := some 4096
        calls := packetCalls (readyOutcomes 0 0) 4096 ++ [.free (some 4096)] } := rfl
  refine ⟨_, Run.cons hfirst (Run.cons hsecond Run.nil), rfl, fun howned => ?_⟩
  exact absurd howned.balanced (by decide)

end Mvr.Venc
