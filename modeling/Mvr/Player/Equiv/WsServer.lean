import Mvr.Player.WsServer
import Mvr.Player.Equiv.Handler
import Mvr.Lts.Basic

/-!
# The clients of the layout server

`ws_server_run` sets only the handler that adds clients, so the list of the program is right as long
as nobody leaves (`wsServerRun_listsClients_iff`).
-/

namespace Mvr.Player

variable {server : CfWebsocketServer} {parser : JsonParser} {s s' : Connected}

/-! ### The callbacks -/

theorem cliList_onNewWebsocket {p p' : LayoutServer} {cli : CfWebsocketPtr}
    (h : onNewWebsocket p cli = .ok p') : p'.cliList = p.cliList ++ [cli] := by
  unfold onNewWebsocket at h
  obtain ⟨⟨g, reply⟩, -, h⟩ := Checked.bind_eq_ok.mp h
  rw [← Except.ok.inj h]

/-- In the mode `"unfixed"`, with a grid that fits the table, a client is added and nothing else
changes. -/
theorem onNewWebsocket_of_unfixed {p : LayoutServer}
    (hmode : p.globals.conf.json.getString "mvr_mode" "unfixed" = "unfixed")
    (hcells : (p.globals.dstVerticalBlks * p.globals.dstHorizontalBlks).toInt ≤ maxLayerNums)
    (cli : CfWebsocketPtr) :
    onNewWebsocket p cli = .ok { p with cliList := p.cliList ++ [cli] } := by
  obtain ⟨⟨g, reply⟩, hsend⟩ := (sendLayoutCfg_isOk_iff hmode).mpr hcells
  unfold onNewWebsocket
  dsimp only
  rw [hsend, Checked.ok_bind, sendLayoutCfg_fst hmode hsend]
  rfl

theorem cliList_onCliReadText {p p' : LayoutServer} {json : Option CfJson}
    (h : onCliReadText parser p json = .ok p') : p'.cliList = p.cliList := by
  unfold onCliReadText at h
  obtain ⟨⟨g, reply⟩, -, h⟩ := Checked.bind_eq_ok.mp h
  rw [← Except.ok.inj h]

theorem serverStep_deterministic : Run.Deterministic (ServerStep server) := by
  intro s e s₁ s₂ h₁ h₂
  cases h₁ with
  | connect hcli hcall =>
    cases h₂ with
    | connect hcli' hcall' =>
      rw [hcall] at hcall'
      rw [Except.ok.inj hcall']
  | disconnect hcli hcall =>
    cases h₂ with
    | disconnect hcli' hcall' =>
      rw [hcall] at hcall'
      rw [Except.ok.inj hcall']
  | readText hcli hcall =>
    cases h₂ with
    | readText hcli' hcall' =>
      rw [hcall] at hcall'
      rw [Except.ok.inj hcall']

/-! ### One event -/

/-- A client that connects is listed. -/
theorem ListsClients.connect (h : ListsClients s) {cli : CfWebsocketPtr} (hcli : cli ∉ s.clients)
    {program : LayoutServer} (hcall : onNewWebsocket s.program cli = .ok program) :
    ListsClients ⟨program, insert cli s.clients⟩ := by
  have hlist := cliList_onNewWebsocket hcall
  constructor
  · show program.cliList.Nodup
    rw [hlist, List.nodup_append_comm]
    exact List.nodup_cons.mpr ⟨fun hmem => hcli ((h.mem_iff cli).mp hmem), h.nodup⟩
  · intro cli'
    show cli' ∈ program.cliList ↔ _
    rw [hlist, List.mem_append, List.mem_singleton, Finset.mem_insert, h.mem_iff, or_comm]

/-- A client that nobody removes from the list stays there. -/
theorem ListsClients.not_disconnect (h : ListsClients s) {cli : CfWebsocketPtr}
    (hcli : cli ∈ s.clients) : ¬ ListsClients ⟨s.program, s.clients.erase cli⟩ := by
  intro h'
  have hmem := (h'.mem_iff cli).mp ((h.mem_iff cli).mpr hcli)
  exact Finset.notMem_erase cli s.clients hmem

theorem ListsClients.readText (h : ListsClients s) {json : Option CfJson} {program : LayoutServer}
    (hcall : onCliReadText parser s.program json = .ok program) :
    ListsClients ⟨program, s.clients⟩ := by
  have hlist := cliList_onCliReadText hcall
  constructor
  · show program.cliList.Nodup
    rw [hlist]
    exact h.nodup
  · intro cli
    show cli ∈ program.cliList ↔ _
    rw [hlist, h.mem_iff]

theorem listsClients_init (g : Globals) : ListsClients (Connected.init g) :=
  ⟨List.nodup_nil, fun _ => iff_of_false (List.not_mem_nil) (Finset.notMem_empty _)⟩

/-- With `ws_server_run` the list stays right over exactly the events that end no connection. -/
theorem listsClients_step_iff {e : ClientEvent} (h : ListsClients s)
    (hstep : ServerStep (wsServerRun parser) s e s') : ListsClients s' ↔ e.Stays := by
  cases hstep with
  | connect hcli hcall => exact iff_of_true (h.connect hcli hcall) trivial
  | disconnect hcli hcall =>
    -- no callback is set: the program does not hear of it
    obtain rfl := Except.ok.inj hcall
    exact iff_of_false (h.not_disconnect hcli) id
  | readText hcli hcall => exact iff_of_true (h.readText hcall) trivial

/-! ### Runs -/

/-- The list of the layout server always holds the connected clients, each once, in exactly the runs
in which no client disconnects. -/
theorem wsServerRun_listsClients_iff {g : Globals} {tr : List ClientEvent}
    (h : Run (ServerStep (wsServerRun parser)) (Connected.init g) tr s) :
    Run.Always (ServerStep (wsServerRun parser)) (Connected.init g) (fun _ s => ListsClients s) tr ↔
      ∀ e ∈ tr, e.Stays := by
  rw [← h.each_iff_forall_mem]
  exact Run.always_iff_each serverStep_deterministic (fun _ s => ListsClients s)
    (fun _ e => e.Stays) (listsClients_init g)
    (fun _ _ _ _ _ hlists hstep => listsClients_step_iff hlists hstep) h

/-- A parser for a program that parses nothing. -/
def noParser : JsonParser := .ofText "" .empty

/-- A client has connected to a program that was started on a file without a layout. -/
theorem run_connect : Run (ServerStep (wsServerRun noParser)) (Connected.init unfixedStart)
    [.connect 1] ⟨⟨unfixedStart, [1]⟩, insert 1 ∅⟩ :=
  Run.nil.snoc (.connect (Finset.notMem_empty 1)
    (onNewWebsocket_of_unfixed (by decide) (by decide) 1))

theorem wsServerRun_listsClients_connect :
    Run.Always (ServerStep (wsServerRun noParser)) (Connected.init unfixedStart)
      (fun _ s => ListsClients s) [.connect 1] :=
  (wsServerRun_listsClients_iff run_connect).mpr fun e he => by
    rw [List.mem_singleton.mp he]
    trivial

/-- When this client disconnects its pointer stays in the list. -/
theorem not_listsClients_disconnect :
    Run (ServerStep (wsServerRun noParser)) (Connected.init unfixedStart)
      [.connect 1, .disconnect 1] ⟨⟨unfixedStart, [1]⟩, (insert 1 ∅ : Finset ℕ).erase 1⟩ ∧
    ¬ ListsClients ⟨⟨unfixedStart, [1]⟩, (insert 1 ∅ : Finset ℕ).erase 1⟩ := by
  refine ⟨run_connect.snoc (.disconnect (Finset.mem_insert_self 1 ∅) rfl), fun h => ?_⟩
  have hmem := (h.mem_iff 1).mp (List.mem_singleton.mpr rfl)
  exact Finset.notMem_erase 1 _ hmem

end Mvr.Player
