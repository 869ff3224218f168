import Mvr.WebSocketServerImplcFwk.Pending

/-!
# The reports of the clients

`view` is what the clients have told: which are connected, and the count each reported last, if it
did.  The server keeps all these counts (`Knows`, which every step preserves), but an object starts
with whatever was in memory, and so does `m_max_pending`.  After a report the number last passed to
the callback is the maximum of the reports exactly when neither residue gets in the way
(`onCliRead_reportsMax_iff`).
-/

namespace Mvr.WebSocketServerImplcFwk

/-! ### What the clients told -/

/-- The open connections, and the count each of them reported last; none before the first report,
and 0 after `pushData` has cleared it. -/
structure View where
  connections : List CfWebsocket
  reported : CfWebsocket → Option UInt32

/-- The view after an event. -/
def View.after (v : View) : Event → View
  | .connect cli => ⟨v.connections ++ [cli], Function.update v.reported cli none⟩
  | .disconnect cli => ⟨v.connections.filter fun c => c ≠ cli, v.reported⟩
  | .read cli json _ =>
    match json.getInt "pendingH264pkg" with
    | .ok n => ⟨v.connections, Function.update v.reported cli (some n.toUInt32)⟩
    | .error _ => v
  | .push _ _ =>
    if 10 < v.connections.length then
      ⟨v.connections, fun c =>
        if c ∈ v.connections.reverse.drop 2 then some 0 else v.reported c⟩
    else v
  | .setCallback => v

/-- The view after the events. -/
def view (tr : List Event) : View := tr.foldl View.after ⟨[], fun _ => none⟩

/-- The number counts for a client: its last report, or 0. -/
def View.count (v : View) (cli : CfWebsocket) : UInt32 := (v.reported cli).getD 0

/-- The number is the maximum of what the connected clients reported. -/
def View.IsMax (v : View) (max : UInt32) : Prop :=
  (∃ c ∈ v.connections, v.count c = max) ∧ ∀ c ∈ v.connections, v.count c ≤ max

/-- The number an event passes to the callback. -/
def Event.called : Event → Option UInt32
  | .read _ _ called => called
  | _ => none

/-- The number that was passed to the callback last. -/
def lastCalled (tr : List Event) : Option UInt32 := (tr.filterMap Event.called).getLast?

/-- The callback knows the maximum of the reports. -/
def ReportsMax (tr : List Event) : Prop := ∃ max, lastCalled tr = some max ∧ (view tr).IsMax max

theorem view_append_singleton (tr : List Event) (e : Event) :
    view (tr ++ [e]) = (view tr).after e := by
  rw [view, List.foldl_append]
  rfl

theorem lastCalled_append_singleton (tr : List Event) (e : Event) :
    lastCalled (tr ++ [e]) = e.called.or (lastCalled tr) := by
  unfold lastCalled
  rw [List.filterMap_append]
  cases hcalled : e.called with
  | none => simp [hcalled]
  | some max => simp [hcalled]

theorem View.isMax_unique {v : View} {max max' : UInt32} (h : v.IsMax max) (h' : v.IsMax max') :
    max = max' := by
  obtain ⟨⟨c, hc, rfl⟩, hle⟩ := h
  obtain ⟨⟨c', hc', rfl⟩, hle'⟩ := h'
  exact UInt32.le_antisymm (hle' c hc) (hle c' hc')

/-! ### What the server knows -/

/-- The server keeps the reports of its clients, and the number the callback was called with
last. -/
structure Knows (residue : UInt32) (tr : List Event) (s : Session) : Prop where
  connections_eq : (view tr).connections = s.connections
  pending_eq : ∀ c ∈ s.connections, ∀ n, (view tr).reported c = some n →
    s.server.pending c = some n
  /-- Before the first call the number is the residue. -/
  mMaxPending_eq : s.server.mMaxPending = (lastCalled tr).getD residue

namespace Knows

variable {residue : UInt32} {tr : List Event} {s : Session}

theorem connect (h : Knows residue tr s) (hl : Linked s) {cli : CfWebsocket} {vCli : VideoCliPtr}
    (r : UInt32) (hcli : cli ∉ s.connections) (halloc : s.server.memory vCli = none) :
    Knows residue (tr ++ [.connect cli])
      ⟨s.server.onNewWebsocket cli vCli r, s.connections ++ [cli]⟩ := by
  refine ⟨?_, fun c hc n hn => ?_, ?_⟩
  · rw [view_append_singleton, View.after, h.connections_eq]
  · rw [view_append_singleton, View.after] at hn
    dsimp only at hn
    rcases List.mem_append.mp hc with hold | hnew
    · -- an old connection keeps its object and its report
      have hne : c ≠ cli := by
        rintro rfl
        exact hcli hold
      obtain ⟨p, huser, hws⟩ := hl.wsOf_userData c hold
      have hp : p ≠ vCli := by
        rintro rfl
        rw [wsOf, halloc] at hws
        cases hws
      have hreported : (view tr).reported c = some n := by
        rwa [Function.update_of_ne hne] at hn
      rw [← h.pending_eq c hold n hreported]
      unfold pending onNewWebsocket
      dsimp only
      rw [Function.update_of_ne hne, huser, Option.bind_some, Option.bind_some,
        Function.update_of_ne hp]
    · -- the new one did not report
      obtain rfl := List.mem_singleton.mp hnew
      rw [Function.update_self] at hn
      cases hn
  · rw [lastCalled_append_singleton]
    exact h.mMaxPending_eq

theorem disconnect (h : Knows residue tr s) (hl : Linked s) {cli : CfWebsocket}
    (hcli : cli ∈ s.connections) :
    Knows residue (tr ++ [.disconnect cli])
      ⟨s.server.onDisconnect cli, s.connections.filter fun c => c ≠ cli⟩ := by
  obtain ⟨vCli, huser, -⟩ := hl.wsOf_userData cli hcli
  have hdis : s.server.onDisconnect cli = { s.server with
      cliList := s.server.cliList.filter fun p => p ≠ vCli
      memory := Function.update s.server.memory vCli none } := by
    rw [onDisconnect, huser]
  rw [hdis]
  refine ⟨?_, fun c hc n hn => ?_, ?_⟩
  · rw [view_append_singleton, View.after, h.connections_eq]
  · rw [view_append_singleton] at hn
    obtain ⟨hmem, hne⟩ := List.mem_filter.mp hc
    obtain ⟨p, huser', -⟩ := hl.wsOf_userData c hmem
    have hp : p ≠ vCli := by
      rintro rfl
      exact of_decide_eq_true hne (hl.userData_inj hmem hcli (huser'.trans huser.symm))
    rw [← h.pending_eq c hmem n hn]
    unfold pending
    dsimp only
    rw [huser', Option.bind_some, Option.bind_some, Function.update_of_ne hp]
  · rw [lastCalled_append_singleton]
    exact h.mMaxPending_eq

theorem read (h : Knows residue tr s) (hl : Linked s) {cli : CfWebsocket} {json : CfJson}
    {server : WebSocketServerImplcFwk} {called : Option UInt32} (hcli : cli ∈ s.connections)
    (hread : s.server.onCliRead cli json = .ok (server, called)) :
    Knows residue (tr ++ [.read cli json called]) ⟨server, s.connections⟩ := by
  obtain ⟨vCli, huser, -⟩ := hl.wsOf_userData cli hcli
  rcases onCliRead_cases huser hread with
    ⟨hnot, rfl, rfl⟩ | ⟨n, s₁, hn, -, -, -, hcalled⟩
  · -- not a report
    have hview : view (tr ++ [.read cli json none]) = view tr := by
      rw [view_append_singleton, View.after]
      cases hjson : json.getInt "pendingH264pkg" with
      | ok n => exact absurd hjson (hnot n)
      | error e => rfl
    refine ⟨?_, fun c hc n hn => ?_, ?_⟩
    · rw [hview, h.connections_eq]
    · rw [hview] at hn
      exact h.pending_eq c hc n hn
    · rw [lastCalled_append_singleton]
      exact h.mMaxPending_eq
  · have hview : view (tr ++ [.read cli json called]) =
        ⟨(view tr).connections, Function.update (view tr).reported cli (some n.toUInt32)⟩ := by
      rw [view_append_singleton, View.after, hn]
    refine ⟨?_, fun c hc k hk => ?_, ?_⟩
    · rw [hview]
      exact h.connections_eq
    · rw [hview] at hk
      dsimp only at hk
      rw [hl.pending_onCliRead hcli hread hn hc]
      rcases eq_or_ne c cli with rfl | hne
      · rw [if_pos rfl]
        rwa [Function.update_self] at hk
      · rw [if_neg hne]
        rw [Function.update_of_ne hne] at hk
        exact h.pending_eq c hc k hk
    · rw [lastCalled_append_singleton]
      rcases hcalled with ⟨rfl, hmax⟩ | rfl
      · exact hmax.trans h.mMaxPending_eq
      · rfl

theorem push (h : Knows residue tr s) (hl : Linked s) {buff : List UInt8}
    {server : WebSocketServerImplcFwk} {writes : List (CfWebsocket × List UInt8)}
    (hpush : s.server.pushData buff = .ok (server, writes)) :
    Knows residue (tr ++ [.push buff writes]) ⟨server, s.connections⟩ := by
  have hmax : server.mMaxPending = s.server.mMaxPending := mMaxPending_pushData hpush
  refine ⟨?_, fun c hc n hn => ?_, ?_⟩
  · rw [view_append_singleton, View.after]
    split_ifs <;> exact h.connections_eq
  · rw [view_append_singleton, View.after, h.connections_eq] at hn
    rw [hl.pending_pushData hpush hc]
    split_ifs at hn with hmany
    · dsimp only at hn
      split_ifs at hn with hold
      · rw [if_pos ⟨hmany, hold⟩, ← hn]
      · rw [if_neg fun hp => hold hp.2]
        exact h.pending_eq c hc n hn
    · rw [if_neg fun hp => hmany hp.1]
      exact h.pending_eq c hc n hn
  · rw [lastCalled_append_singleton, hmax]
    exact h.mMaxPending_eq

theorem step (h : Knows residue tr s) (hl : Linked s) {e : Event} {s' : Session}
    (hs : Step s e s') : Knows residue (tr ++ [e]) s' := by
  cases hs with
  | connect r hcli halloc => exact h.connect hl r hcli halloc
  | disconnect hcli => exact h.disconnect hl hcli
  | read hcli hread => exact h.read hl hcli hread
  | push hpush => exact h.push hl hpush
  | setCallback =>
    refine ⟨?_, fun c hc n hn => ?_, ?_⟩
    · rw [view_append_singleton]
      exact h.connections_eq
    · rw [view_append_singleton] at hn
      exact h.pending_eq c hc n hn
    · rw [lastCalled_append_singleton]
      exact h.mMaxPending_eq

end Knows

theorem knows_of_run {residue : UInt32} {tr : List Event} {s : Session}
    (h : Run Step (.new residue) tr s) : Knows residue tr s := by
  refine h.invariant (fun tr s => Knows residue tr s) ?_ fun tr s e s' hrun hI hs =>
    hI.step (linked_of_run hrun) hs
  exact ⟨rfl, fun c hc => absurd hc List.not_mem_nil, rfl⟩

/-- The maximum the server finds is that of the reports exactly when no client that did not report
counts for more than every report. -/
theorem Knows.isMax_iff {residue : UInt32} {tr : List Event} {s : Session}
    (h : Knows residue tr s) (hl : Linked s) {max : UInt32} (hmax : s.server.IsMaxPending max) :
    (view tr).IsMax max ↔
      ∀ c ∈ s.connections, (view tr).reported c = none → ∀ q, s.server.pending c = some q →
        ∃ c' ∈ s.connections, q ≤ (view tr).count c' := by
  obtain ⟨⟨top, htop, hpending⟩, hle⟩ := hl.isMaxPending_iff.mp hmax
  unfold View.IsMax
  rw [h.connections_eq]
  -- a report is the count the server keeps, and no report counts as 0
  have hcount : ∀ c ∈ s.connections, (view tr).count c ≤ max := by
    intro c hc
    unfold View.count
    cases hreported : (view tr).reported c with
    | none => exact UInt32.le_iff_toNat_le.mpr (Nat.zero_le _)
    | some n => exact hle c hc n (h.pending_eq c hc n hreported)
  constructor
  · rintro ⟨⟨c', hc', hmax'⟩, -⟩ c hc - q hq
    exact ⟨c', hc', hmax' ▸ hle c hc q hq⟩
  · intro hresidue
    refine ⟨?_, hcount⟩
    cases hreported : (view tr).reported top with
    | none =>
      -- the largest count is a residue, and there is a report as large
      obtain ⟨c', hc', hge⟩ := hresidue top htop hreported max hpending
      exact ⟨c', hc', UInt32.le_antisymm (hcount c' hc') hge⟩
    | some n =>
      refine ⟨top, htop, ?_⟩
      have hn := h.pending_eq top htop n hreported
      rw [hpending] at hn
      rw [View.count, hreported]
      exact (Option.some.inj hn).symm

/-- Once the callback has been called, the number it got last is the one the server keeps. -/
theorem Knows.reportsMax_iff {residue : UInt32} {tr : List Event} {s : Session}
    (h : Knows residue tr s) :
    ReportsMax tr ↔ lastCalled tr ≠ none ∧ (view tr).IsMax s.server.mMaxPending := by
  unfold ReportsMax
  have hmax := h.mMaxPending_eq
  cases hnumber : lastCalled tr with
  | none => simp
  | some m =>
    rw [hnumber] at hmax
    obtain rfl : s.server.mMaxPending = m := hmax
    simp

/-- After a report the maximum the server finds is that of the reports exactly when no other client
that did not report held more than every report. -/
theorem Knows.isMax_report_iff {residue : UInt32} {tr : List Event} {s : Session}
    (h : Knows residue tr s) (hl : Linked s) {cli : CfWebsocket} (hcli : cli ∈ s.connections)
    {json : CfJson} {n : Int32} (hjson : json.getInt "pendingH264pkg" = .ok n)
    {server : WebSocketServerImplcFwk} {called : Option UInt32}
    (hread : s.server.onCliRead cli json = .ok (server, called))
    (hl' : Linked ⟨server, s.connections⟩) {max : UInt32} (hmax : server.IsMaxPending max) :
    ((view tr).after (.read cli json none)).IsMax max ↔
      ∀ c ∈ s.connections, ((view tr).after (.read cli json none)).reported c = none →
        ∀ q, s.server.pending c = some q →
          ∃ c' ∈ s.connections, q ≤ ((view tr).after (.read cli json none)).count c' := by
  have hview : view (tr ++ [.read cli json called]) = (view tr).after (.read cli json none) :=
    view_append_singleton tr _
  rw [← hview, (h.read hl hcli hread).isMax_iff hl' hmax]
  refine forall₂_congr fun c hc => imp_congr_right fun hreported => ?_
  -- the sender has reported, and the counts of the others stay
  have hne : c ≠ cli := by
    rintro rfl
    rw [hview, View.after, hjson] at hreported
    dsimp only at hreported
    rw [Function.update_self] at hreported
    cases hreported
  rw [hl.pending_onCliRead hcli hread hjson hc, if_neg hne]

/-- What was in memory does no harm to the report: no client that did not report holds more than
every report, and the first call is not missed because `m_max_pending` happens to hold the maximum
already. -/
structure ResiduesHarmless (residue : UInt32) (tr : List Event) (s : Session) (cli : CfWebsocket)
    (json : CfJson) : Prop where
  pending_le : ∀ c ∈ s.connections, ((view tr).after (.read cli json none)).reported c = none →
    ∀ q, s.server.pending c = some q →
      ∃ c' ∈ s.connections, q ≤ ((view tr).after (.read cli json none)).count c'
  mMaxPending : lastCalled tr = none →
    residue = 0 ∨ ¬ ((view tr).after (.read cli json none)).IsMax residue

/-- **The report of a client**: after any run a report with a callback registered is handled, and
the number last passed to the callback is the maximum of the reports exactly when the residues do no
harm. -/
theorem onCliRead_reportsMax_iff (residue : UInt32) (tr : List Event) (s : Session)
    (h : Run Step (.new residue) tr s) (hcallback : s.server.onMaxPendingChanged = true)
    (cli : CfWebsocket) (hcli : cli ∈ s.connections) (json : CfJson) (n : Int32)
    (hjson : json.getInt "pendingH264pkg" = .ok n) :
    ∃ server called, s.server.onCliRead cli json = .ok (server, called) ∧
      (ReportsMax (tr ++ [.read cli json called]) ↔ ResiduesHarmless residue tr s cli json) := by
  have hl := linked_of_run h
  have hk := knows_of_run h
  obtain ⟨server, max, hread, hlinks, -, hgreatest, hrecorded⟩ :=
    hl.onCliRead_eq_ok hcallback hcli hjson
  have hl' : Linked ⟨server, s.connections⟩ := hl.congr hlinks
  have hisMax := hk.isMax_report_iff hl hcli hjson hread hl' hgreatest
  refine ⟨server, _, hread, ?_⟩
  have hk' := hk.read hl hcli hread
  generalize hcalled : (if max ≠ s.server.mMaxPending ∨ max = 0 then some max else none) = called
    at hk' hread
  have hview : view (tr ++ [.read cli json called]) = (view tr).after (.read cli json none) :=
    view_append_singleton tr _
  rw [hk'.reportsMax_iff, hview, hrecorded, lastCalled_append_singleton]
  constructor
  · rintro ⟨hsome, hmax⟩
    refine ⟨hisMax.mp hmax, fun hnone => ?_⟩
    by_contra hharm
    obtain ⟨hne, hres⟩ := not_or.mp hharm
    have hmaxRes := View.isMax_unique hmax (not_not.mp hres)
    -- the residue is the maximum, so the callback is passed over
    have hsame : s.server.mMaxPending = max := by rw [hk.mMaxPending_eq, hnone, hmaxRes]; rfl
    rw [if_neg (by rw [hsame, hmaxRes]; simp [hne])] at hcalled
    rw [hnone, ← hcalled] at hsome
    exact hsome rfl
  · intro hharmless
    have hmax := hisMax.mpr hharmless.pending_le
    refine ⟨?_, hmax⟩
    cases hnumber : lastCalled tr with
    | some m => cases called <;> simp [Event.called]
    | none =>
      have hmaxPending : s.server.mMaxPending = residue := by rw [hk.mMaxPending_eq, hnumber]; rfl
      have hchanged : max ≠ s.server.mMaxPending ∨ max = 0 := by
        rw [hmaxPending]
        rcases hharmless.mMaxPending hnumber with h0 | hres
        · rcases eq_or_ne max residue with rfl | hne
          · exact Or.inr h0
          · exact Or.inl hne
        · left
          rintro rfl
          exact hres hmax
      rw [if_pos hchanged] at hcalled
      rw [← hcalled]
      simp [Event.called]

/-- A server whose only client, with residue `r`, is connected and whose callback is registered. -/
def oneReporter (residue r : UInt32) : Session :=
  ⟨((new residue).onNewWebsocket 1 101 r).setMaxPendingChangedCallback, [1]⟩

theorem run_oneReporter (residue r : UInt32) :
    Run Step (.new residue) [.connect 1, .setCallback] (oneReporter residue r) := by
  have h1 : Step (.new residue) (.connect 1) ⟨(new residue).onNewWebsocket 1 101 r, [1]⟩ :=
    .connect r List.not_mem_nil rfl
  exact (Run.nil.snoc h1).snoc .setCallback

theorem onCliRead_reportsMax_oneReporter :
    ∃ server called, (oneReporter 7 3).server.onCliRead 1 ninePackets = .ok (server, called) ∧
      (ReportsMax ([.connect 1, .setCallback] ++ [.read 1 ninePackets called]) ↔
        ResiduesHarmless 7 [.connect 1, .setCallback] (oneReporter 7 3) 1 ninePackets) :=
  onCliRead_reportsMax_iff 7 _ _ (run_oneReporter 7 3) rfl 1 (List.mem_singleton.mpr rfl)
    ninePackets 9 rfl

/-- A second client, whose object holds 100 and which does not report, makes the callback believe
in 100 packets; and a first report of nine packets goes unheard when `m_max_pending` holds 9. -/
theorem onCliRead_reports_residue :
    (∃ s, Run Step (.new 0)
        [.connect 1, .setCallback, .connect 2, .read 1 ninePackets (some 100)] s ∧
      ¬ ReportsMax [.connect 1, .setCallback, .connect 2, .read 1 ninePackets (some 100)]) ∧
    ∃ s, Run Step (.new 9) [.connect 1, .setCallback, .read 1 ninePackets none] s ∧
      ¬ ReportsMax [.connect 1, .setCallback, .read 1 ninePackets none] := by
  have hsecond : Step (oneReporter 0 0) (.connect 2)
      ⟨(oneReporter 0 0).server.onNewWebsocket 2 102 100, [1, 2]⟩ :=
    .connect 100 (by decide) rfl
  refine ⟨⟨_, ((run_oneReporter 0 0).snoc hsecond).snoc (.read (List.mem_cons_self ..) rfl), ?_⟩,
    _, (run_oneReporter 9 0).snoc (.read (List.mem_singleton.mpr rfl) rfl), ?_⟩
  · rintro ⟨max, hmax, ⟨c, hc, hcount⟩, -⟩
    obtain rfl : (100 : UInt32) = max := Option.some.inj hmax
    -- the reports are 9 and none
    rcases List.mem_cons.mp hc with rfl | hc
    · exact absurd hcount (by decide)
    · obtain rfl := List.mem_singleton.mp hc
      exact absurd hcount (by decide)
  · rintro ⟨max, hmax, -⟩
    cases hmax

end Mvr.WebSocketServerImplcFwk
