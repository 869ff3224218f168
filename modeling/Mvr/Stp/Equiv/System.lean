import Mvr.Stp.Equiv.RoundTrip
import Mvr.Stp.System

/-!
# Requests find their responses

A client numbers its requests 1, 2, 3, …, and every datagram of a run is a request with its number
or the response to a request, with the number of that request (`Honest`).  The server answers one
request at a time, so that the number it keeps for all its clients is always that of the request it
answers (`Inv.responding`).  So the response that a client accepts answers the request with the
client's current number, which is its last one: `latest_of_recv`.
-/

namespace Mvr.Stp

open JsonCpp Value JsonUtil

variable {Addr : Type}

/-! ### Numbers -/

/-- The object is a request with a number. -/
def IsRequest (seq : Int32) (value : Value) : Prop :=
  ∃ members, value = object (insert "__meta__" (requestMeta seq) members)

/-- The object is a response with a number. -/
def IsResponse (seq : Int32) (value : Value) : Prop :=
  ∃ members, value = object (insert "__meta__" (responseMeta seq) members)

theorem IsRequest.unique {seq seq' : Int32} {value : Value} (h : IsRequest seq value)
    (h' : IsRequest seq' value) : seq = seq' := by
  obtain ⟨members, rfl⟩ := h
  obtain ⟨members', heq⟩ := h'
  injection heq with heq
  have hmeta := congrArg (lookup "__meta__") heq
  rw [lookup_insert, lookup_insert] at hmeta
  unfold requestMeta at hmeta
  injection hmeta with hmeta
  have hseq : int seq.toInt64 = int seq'.toInt64 := by simpa using hmeta
  injection hseq with hseq
  simpa using congrArg Int64.toInt32 hseq

variable [DecidableEq Addr] {json : Library} {server : Addr} {tr : List (Event Addr)}
  {s s' : System Addr}

/-! ### The history -/

theorem requests_append (client : Addr) (tr : List (Event Addr)) (e : Event Addr) :
    requests client (tr ++ [e]) = requests client tr ++ (e.request client).toList := by
  unfold requests
  rw [List.filterMap_append]
  cases h : e.request client <;> simp [h]

theorem requests_append_of_eq_none {client : Addr} {e : Event Addr} (h : e.request client = none) :
    requests client (tr ++ [e]) = requests client tr := by
  rw [requests_append, h, Option.toList_none, List.append_nil]

theorem mem_requests_append {client : Addr} {value : Value} (h : value ∈ requests client tr)
    (e : Event Addr) : value ∈ requests client (tr ++ [e]) := by
  rw [requests_append]
  exact List.mem_append_left _ h

/-- The reader and the writer agree on the requests. -/
theorem Faithful.request (h : Faithful json tr) {client : Addr} {value : Value}
    (hvalue : value ∈ requests client tr) : Inverts json value := by
  obtain ⟨e, he, hreq⟩ := List.mem_filterMap.mp hvalue
  refine h e he value ?_
  unfold Event.request at hreq
  split at hreq
  · split_ifs at hreq
    exact hreq
  · cases hreq

/-- The `response` is what the server makes of the request. -/
structure Answers (json : Library) (seq : Int32) (request responseJson response : Value) :
    Prop where
  isRequest : IsRequest seq request
  respond : ∃ requestJson, StpUtil.respond json request = .ok (requestJson, responseJson)
  assign : responseJson.assign ["__meta__"] (responseMeta seq) = .ok response

theorem Answers.isResponse {seq : Int32} {request responseJson response : Value}
    (h : Answers json seq request responseJson response) : IsResponse seq response := by
  obtain ⟨members, hmem⟩ := members_of_assign h.assign
  have hassign := h.assign
  rw [assign_cons _ _ _ hmem] at hassign
  cases hassign
  exact ⟨members, rfl⟩

/-- The datagrams that the parties send. -/
inductive Honest (json : Library) (server : Addr) (tr : List (Event Addr)) :
    Udp.Datagram Addr → Prop where
  | request {client dest : Addr} {value : Value} (hvalue : value ∈ requests client tr) :
      Honest json server tr ⟨client, dest, jsonToString json value ++ [0]⟩
  | response {client : Addr} {seq : Int32} {request responseJson : Value} {sent : Sent Addr}
      (hrequest : request ∈ requests client tr)
      (hevent : Event.serverSend (some client) request responseJson sent ∈ tr)
      (hanswers : Answers json seq request responseJson sent.jsonObj) :
      Honest json server tr ⟨server, client, jsonToString json sent.jsonObj ++ [0]⟩

theorem Honest.append {d : Udp.Datagram Addr} (h : Honest json server tr d) (e : Event Addr) :
    Honest json server (tr ++ [e]) d := by
  cases h with
  | request hvalue => exact .request (mem_requests_append hvalue e)
  | response hrequest hevent hanswers =>
    exact .response (mem_requests_append hrequest e) (List.mem_append_left _ hevent) hanswers

/-! ### The invariant -/

/-- The manager of a client that has made `n` requests. -/
def clientManager (n : ℕ) : STPManager where
  mRequestSeq := Int32.ofNat n
  mResponseSeq := 0
  mIsServer := false

theorem numbered_clientManager (n : ℕ) :
    (clientManager n).numbered = clientManager (n + 1) := by
  unfold STPManager.numbered clientManager
  rw [Int32.ofNat_add]
  rfl

/-- What holds after a run. -/
structure Inv (json : Library) (server : Addr) (tr : List (Event Addr)) (s : System Addr) :
    Prop where
  clients : ∀ c, (s.clients c).manager = clientManager (requests c tr).length
  numbered : ∀ c i value, (requests c tr)[i]? = some value → IsRequest (Int32.ofNat (i + 1)) value
  requests_server : requests server tr = []
  isServer : s.server.manager.mIsServer = true
  responding : s.server.responding = true → ∃ c, s.server.remote = some c ∧
    s.server.requestJson ∈ requests c tr ∧
    IsRequest s.server.manager.mResponseSeq s.server.requestJson
  net : ∀ d ∈ s.net, Honest json server tr d

theorem inv_init : Inv json server [] (System.init Addr) where
  clients _ := rfl
  numbered _ _ _ h := by cases h
  requests_server := rfl
  isServer := rfl
  responding h := by cases h
  net _ h := by cases h

namespace Inv

/-- An event without a request that leaves the managers of the clients alone. -/
theorem of_eq_none (h : Inv json server tr s) {e : Event Addr} (he : ∀ c, e.request c = none)
    (hclients : ∀ c, (s'.clients c).manager = (s.clients c).manager)
    (hserver : s'.server.manager.mIsServer = true)
    (hresponding : s'.server.responding = true → ∃ c, s'.server.remote = some c ∧
      s'.server.requestJson ∈ requests c tr ∧
      IsRequest s'.server.manager.mResponseSeq s'.server.requestJson)
    (hnet : ∀ d ∈ s'.net, Honest json server (tr ++ [e]) d) : Inv json server (tr ++ [e]) s' := by
  have hrequests : ∀ c, requests c (tr ++ [e]) = requests c tr := fun c =>
    requests_append_of_eq_none (he c)
  constructor
  · intro c
    rw [hclients, hrequests]
    exact h.clients c
  · intro c
    rw [hrequests]
    exact h.numbered c
  · rw [hrequests]
    exact h.requests_server
  · exact hserver
  · intro hs
    obtain ⟨c, hremote, hmem, hseq⟩ := hresponding hs
    exact ⟨c, hremote, mem_requests_append hmem e, hseq⟩
  · exact hnet

/-- A client of which only the `recv` it is in changes. -/
theorem manager_update {client : Addr} {c' : Client Addr}
    (h : c'.manager = (s.clients client).manager) (c : Addr) :
    (Function.update s.clients client c' c).manager = (s.clients c).manager := by
  rcases eq_or_ne c client with rfl | hne
  · rw [Function.update_self, h]
  · rw [Function.update_of_ne hne]

theorem append_net (h : Inv json server tr s) (e : Event Addr) :
    ∀ d ∈ s.net, Honest json server (tr ++ [e]) d :=
  fun d hd => (h.net d hd).append e

/-- A `send` of a client that has a remote point makes its next request. -/
theorem clientSend_some (h : Inv json server tr s) {client dest : Addr} (hne : client ≠ server)
    {sent : Sent Addr} (hmanager : sent.manager = (s.clients client).manager.numbered)
    (hobj : ∃ members, sent.jsonObj =
      object (insert "__meta__" (s.clients client).manager.metaOf members))
    (hdatagram : ∀ d, sent.datagram = some d → d.2 = jsonToString json sent.jsonObj ++ [0]) :
    Inv json server (tr ++ [.clientSend client (some dest) sent])
      { s with
        clients := Function.update s.clients client ⟨sent.manager, none⟩
        net := Udp.transmit s.net client sent.datagram } := by
  have hself : requests client (tr ++ [.clientSend client (some dest) sent]) =
      requests client tr ++ [sent.jsonObj] := by
    rw [requests_append]
    simp [Event.request]
  have hother : ∀ c, c ≠ client →
      requests c (tr ++ [.clientSend client (some dest) sent]) = requests c tr := fun c hc =>
    requests_append_of_eq_none (if_neg hc.symm)
  constructor
  · intro c
    rcases eq_or_ne c client with rfl | hc
    · dsimp only
      rw [Function.update_self, hself, hmanager, h.clients, numbered_clientManager,
        List.length_append]
      rfl
    · dsimp only
      rw [Function.update_of_ne hc, hother c hc]
      exact h.clients c
  · intro c i value hvalue
    rcases eq_or_ne c client with rfl | hc
    · rw [hself, List.getElem?_append] at hvalue
      split_ifs at hvalue with hlt
      · exact h.numbered c i value hvalue
      · -- the new request has the number after those of all the others
        rw [List.getElem?_singleton] at hvalue
        split_ifs at hvalue with hi
        cases hvalue
        obtain ⟨members, hobj⟩ := hobj
        have hlen : i = (requests c tr).length := by omega
        refine ⟨members, ?_⟩
        rw [hobj, h.clients]
        unfold STPManager.metaOf
        rw [numbered_clientManager, hlen]
        rfl
    · rw [hother c hc] at hvalue
      exact h.numbered c i value hvalue
  · rw [hother server hne.symm]
    exact h.requests_server
  · exact h.isServer
  · intro hs
    obtain ⟨c, hremote, hmem, hseq⟩ := h.responding hs
    exact ⟨c, hremote, mem_requests_append hmem _, hseq⟩
  · intro d hd
    rcases Udp.mem_transmit hd with hold | ⟨hsource, hnew⟩
    · exact (h.net d hold).append _
    · obtain ⟨source, dest', payload⟩ := d
      cases hsource
      have hpayload := hdatagram _ hnew
      dsimp only at hpayload
      rw [hpayload]
      refine .request ?_
      rw [hself]
      simp

theorem clientSend (h : Inv json server tr s) {client : Addr} (hne : client ≠ server)
    {sendto : (n : ℕ) → Udp.SendtoResult n} {jsonObj : Value} {remote : Option Addr}
    {sent : Sent Addr}
    (hsend : (s.clients client).manager.send json sendto jsonObj remote = .ok sent) :
    Inv json server (tr ++ [.clientSend client remote sent])
      { s with
        clients := Function.update s.clients client ⟨sent.manager, none⟩
        net := Udp.transmit s.net client sent.datagram } := by
  rcases STPManager.send_cases hsend with
    ⟨rfl, rfl⟩ | ⟨dest, members, rfl, -, hmanager, hobj, hout⟩
  · refine h.of_eq_none (fun c => rfl) (manager_update rfl) h.isServer h.responding ?_
    exact h.append_net _
  · refine h.clientSend_some hne hmanager ⟨members, hobj⟩ fun d hd => ?_
    rcases hout with ⟨-, hnone⟩ | ⟨-, hsome, -⟩
    · rw [hnone] at hd
      cases hd
    · rw [hsome] at hd
      cases hd
      rfl

theorem clientRecvfrom (h : Inv json server tr s) {client : Addr} {jsonObj : Value}
    {remote : Option Addr} {received : Received Addr} {recvBuf : RecvBuf}
    {iteration : Iteration Addr}
    (hrecv : (s.clients client).manager.recvIteration json jsonObj remote recvBuf received =
      .ok iteration) :
    Inv json server (tr ++ [.clientRecvfrom client iteration])
      { s with
        clients := Function.update s.clients client ((s.clients client).received iteration) } := by
  refine h.of_eq_none (fun c => rfl) (manager_update ?_) h.isServer h.responding
    (h.append_net _)
  cases iteration with
  | again jsonObj remote => rfl
  | returns r =>
    refine STPManager.manager_of_recvIteration ?_ hrecv
    rw [h.clients]
    rfl

/-- The requests keep their numbers. -/
theorem isRequest (h : Inv json server tr s) {client : Addr} {value : Value}
    (hvalue : value ∈ requests client tr) : ∃ seq, IsRequest seq value := by
  obtain ⟨i, hi⟩ := List.getElem?_of_mem hvalue
  exact ⟨_, h.numbered client i value hi⟩

/-- The server takes a datagram only if it is a request, and takes over its number. -/
theorem serverRecvfrom (h : Inv json server tr s) (hfaithful : Faithful json tr)
    {received : Received Addr} (hnet : Udp.CanReceive s.net server received) {recvBuf : RecvBuf}
    {iteration : Iteration Addr}
    (hrecv : s.server.manager.recvIteration json s.server.requestJson s.server.remote recvBuf
      received = .ok iteration) :
    Inv json server (tr ++ [.serverRecvfrom iteration])
      { s with server := s.server.received iteration } := by
  cases received with
  | none =>
    cases hrecv
    refine h.of_eq_none (fun c => rfl) (fun c => rfl) h.isServer (fun hs => ?_) (h.append_net _)
    cases hs
  | some p =>
    obtain ⟨source, payload⟩ := p
    have hhonest := h.net _ hnet
    generalize hd : (⟨source, server, payload⟩ : Udp.Datagram Addr) = d at hhonest
    cases hhonest with
    | @request client dest value hvalue =>
      injection hd with hsource hdest hpayload
      subst hsource hdest hpayload
      obtain ⟨seq, hseq⟩ := h.isRequest hvalue
      have haccept := STPManager.accept_of_recvIteration (hfaithful.request hvalue) hrecv
      obtain ⟨members, rfl⟩ := hseq
      rw [STPManager.accept_request h.isServer] at haccept
      cases haccept
      refine h.of_eq_none (fun c => rfl) (fun c => rfl) h.isServer (fun _ => ?_) (h.append_net _)
      exact ⟨source, rfl, hvalue, members, rfl⟩
    | response hrequest _ _ =>
      injection hd with hsource hdest hpayload
      subst hdest
      rw [h.requests_server] at hrequest
      cases hrequest

/-- The server answers the request it has taken, with the number of that request. -/
theorem serverSend (h : Inv json server tr s) (hresponding : s.server.responding = true)
    {requestJson responseJson : Value}
    (hrespond : StpUtil.respond json s.server.requestJson = .ok (requestJson, responseJson))
    {sendto : (n : ℕ) → Udp.SendtoResult n} {sent : Sent Addr}
    (hsend : s.server.manager.send json sendto responseJson s.server.remote = .ok sent) :
    Inv json server
      (tr ++ [.serverSend s.server.remote s.server.requestJson responseJson sent])
      { s with
        server :=
          { manager := sent.manager
            requestJson := requestJson
            remote := s.server.remote
            responding := false }
        net := Udp.transmit s.net server sent.datagram } := by
  obtain ⟨client, hremote, hrequest, hseq⟩ := h.responding hresponding
  rcases STPManager.send_cases hsend with
    ⟨hnone, -⟩ | ⟨dest, members, hdest, hmem, hmanager, hobj, hout⟩
  · rw [hremote] at hnone
    cases hnone
  · rw [hremote] at hdest
    cases hdest
    have hassign : responseJson.assign ["__meta__"] (responseMeta s.server.manager.mResponseSeq) =
        .ok sent.jsonObj := by
      rw [assign_cons _ _ _ hmem, hobj]
      unfold STPManager.metaOf
      rw [if_pos h.isServer]
      rfl
    refine h.of_eq_none (fun c => rfl) (fun c => rfl) ?_ (fun hs => ?_) fun d hd => ?_
    · dsimp only
      rw [hmanager]
      unfold STPManager.numbered
      rw [if_pos h.isServer]
      exact h.isServer
    · cases hs
    · rcases Udp.mem_transmit hd with hold | ⟨hsource, hnew⟩
      · exact (h.net d hold).append _
      · rcases hout with ⟨-, hnone⟩ | ⟨-, hsome, -⟩
        · rw [hnone] at hnew
          cases hnew
        · obtain ⟨source, dest, payload⟩ := d
          rw [hsome] at hnew
          cases hsource
          cases hnew
          refine .response (mem_requests_append hrequest _) ?_ ⟨hseq, ⟨_, hrespond⟩, hassign⟩
          rw [hremote]
          simp

theorem step (h : Inv json server tr s) (hfaithful : Faithful json tr) {e : Event Addr}
    (hs : System.Step json server s e s') : Inv json server (tr ++ [e]) s' := by
  cases hs with
  | clientSend hne hidle hsend => exact h.clientSend hne hsend
  | clientRecv hne hidle jsonObj remote =>
    exact h.of_eq_none (fun c => rfl) (manager_update rfl) h.isServer h.responding (h.append_net _)
  | clientRecvfrom hne hwaiting hnet hrecv => exact h.clientRecvfrom hrecv
  | serverRecvfrom hidle hnet hrecv => exact h.serverRecvfrom hfaithful hnet hrecv
  | serverSend hresponding hrespond hsend => exact h.serverSend hresponding hrespond hsend

end Inv

theorem inv_of_run (h : Run (System.Step json server) (System.init Addr) tr s)
    (hfaithful : Faithful json tr) : Inv json server tr s := by
  refine h.invariant (fun tr s => Faithful json tr → Inv json server tr s) (fun _ => inv_init) ?_
    hfaithful
  intro tr s e s' _ ih hs hfaithful
  have hprefix : Faithful json tr := fun e he => hfaithful e (List.mem_append_left _ he)
  exact (ih hprefix).step hprefix hs

/-- A request with the current number of its client is the client's last one. -/
theorem Inv.getLast?_requests (h : Inv json server tr s) {client : Addr} {value : Value}
    (hcount : (requests client tr).length < 2 ^ 31) (hvalue : value ∈ requests client tr)
    (hseq : IsRequest (s.clients client).manager.mRequestSeq value) :
    (requests client tr).getLast? = some value := by
  obtain ⟨i, hi⟩ := List.getElem?_of_mem hvalue
  have hlt := (List.getElem?_eq_some_iff.mp hi).1
  have heq := (h.numbered client i value hi).unique hseq
  rw [h.clients] at heq
  have hnat := congrArg Int32.toInt heq
  unfold clientManager at hnat
  rw [Int32.toInt_ofNat_of_lt (by omega), Int32.toInt_ofNat_of_lt hcount] at hnat
  rw [List.getLast?_eq_getElem?, ← hi]
  congr 1
  omega

/-- In every run in which the client has made fewer than 2³¹ requests, whenever its `recv` returns
0, it returns the response that the server computed from the client's last request, the one that
carries the client's current number. -/
theorem latest_of_recv (hrun : Run (System.Step json server) (System.init Addr) tr s)
    (hfaithful : Faithful json tr) {client : Addr}
    (hcount : (requests client tr).length < 2 ^ 31) {r : Returned Addr}
    (hrecv : System.Step json server s (.clientRecvfrom client (.returns r)) s')
    (hret : r.ret = 0) :
    ∃ request responseJson sent,
      (requests client tr).getLast? = some request ∧
      Event.serverSend (some client) request responseJson sent ∈ tr ∧
      Answers json (s.clients client).manager.mRequestSeq request responseJson sent.jsonObj ∧
      r.jsonObj = sent.jsonObj := by
  have hinv := inv_of_run hrun hfaithful
  have hclient : (s.clients client).manager.mIsServer = false := by
    rw [hinv.clients]
    rfl
  cases hrecv with
  | @clientRecvfrom client hne jsonObj remote hwaiting received hnet recvBuf iteration hrecv =>
    cases received with
    | none =>
      cases hrecv
      exact absurd (show (-1 : Int32) = 0 from hret) (by decide)
    | some p =>
      obtain ⟨source, payload⟩ := p
      have hhonest := hinv.net _ hnet
      generalize hd : (⟨source, client, payload⟩ : Udp.Datagram Addr) = d at hhonest
      cases hhonest with
      | @request source' dest value hvalue =>
        -- the number of a request is not looked at
        injection hd with hsource hdest hpayload
        subst hsource hdest hpayload
        obtain ⟨seq, members, rfl⟩ := hinv.isRequest hvalue
        have haccept := STPManager.accept_of_recvIteration (hfaithful.request hvalue) hrecv
        obtain ⟨obj, hagain⟩ := STPManager.accept_request_of_client hclient seq members source
        rw [hagain] at haccept
        cases haccept
      | @response client' seq request responseJson sent hrequest hevent hanswers =>
        injection hd with hsource hdest hpayload
        subst hsource hdest hpayload
        have hsent := hfaithful _ hevent _ rfl
        have haccept := STPManager.accept_of_recvIteration hsent hrecv
        obtain ⟨members, hobj⟩ := hanswers.isResponse
        rw [hobj, STPManager.accept_response hclient] at haccept
        split_ifs at haccept with hseq
        · cases haccept
          rw [hseq] at hanswers
          exact ⟨request, responseJson, sent,
            hinv.getLast?_requests hcount hrequest hanswers.isRequest, hevent, hanswers, hobj.symm⟩
        · cases haccept

/-! ### A run -/

/-- The library that knows the texts of the run. -/
def ptzLibrary : Library :=
  cmdLibrary [cmdObject "request" 1 "ptz", cmdObject "response" 1 "unknow_cmd"]

theorem inverts_ptzRequest : Inverts ptzLibrary (cmdObject "request" 1 "ptz") :=
  inverts_cmdLibrary (by decide) rfl

theorem inverts_ptzResponse : Inverts ptzLibrary (cmdObject "response" 1 "unknow_cmd") :=
  inverts_cmdLibrary (by decide) rfl

/-- What the server receives. -/
def ptzReceived : Returned ℕ where
  ret := 0
  manager := { STPManager.createInstance true with mResponseSeq := 1 }
  jsonObj := cmdObject "request" 1 "ptz"
  remote := some 50000

/-- What the server sends. -/
def ptzSent : Sent ℕ where
  ret := 0
  manager := ptzReceived.manager
  jsonObj := cmdObject "response" 1 "unknow_cmd"
  datagram := some (50000, writeCmd (cmdObject "response" 1 "unknow_cmd") ++ [0])

/-- The system after the client has sent its request. -/
def ptzAsked : System ℕ :=
  { System.init ℕ with
    clients := Function.update (System.init ℕ).clients 50000 ⟨(firstSent "ptz").manager, none⟩
    net := Udp.transmit [] 50000 (firstSent "ptz").datagram }

/-- The system after the server has sent the response. -/
def ptzAnswered : System ℕ :=
  { ptzAsked with
    server :=
      { manager := ptzReceived.manager
        requestJson := ptzReceived.jsonObj
        remote := some 50000
        responding := false }
    net := Udp.transmit ptzAsked.net 8090 ptzSent.datagram }

/-- The system when the client waits for the response. -/
def ptzWaiting : System ℕ :=
  { ptzAnswered with
    clients := Function.update ptzAnswered.clients 50000
      ⟨(ptzAnswered.clients 50000).manager, some (.null, none)⟩ }

/-- The steps up to there. -/
def ptzTrace : List (Event ℕ) :=
  [.clientSend 50000 (some 8090) (firstSent "ptz"), .serverRecvfrom (.returns ptzReceived),
    .serverSend (some 50000) ptzReceived.jsonObj (.object [("cmd", .string "unknow_cmd")]) ptzSent,
    .clientRecv 50000]

theorem run_ptz : Run (System.Step ptzLibrary 8090) (System.init ℕ) ptzTrace ptzWaiting := by
  have hsend : System.Step ptzLibrary 8090 (System.init ℕ)
      (.clientSend 50000 (some 8090) (firstSent "ptz")) ptzAsked :=
    .clientSend (by decide) rfl (send_cmd _ (by decide +kernel))
  have htake : System.Step ptzLibrary 8090 ptzAsked (.serverRecvfrom (.returns ptzReceived))
      { ptzAsked with server := ptzAsked.server.received (.returns ptzReceived) } :=
    .serverRecvfrom rfl
      (show Udp.CanReceive _ _ (some (50000, writeCmd (cmdObject "request" 1 "ptz") ++ [0])) from
        List.mem_singleton.mpr rfl)
      ((STPManager.recvIteration_eq_accept inverts_ptzRequest (by decide +kernel) .null none
        (Vector.replicate _ 0) 50000).trans
          (STPManager.accept_request rfl 1 [("cmd", .string "ptz")] 50000))
  have hanswer : System.Step ptzLibrary 8090
      { ptzAsked with server := ptzAsked.server.received (.returns ptzReceived) }
      (.serverSend (some 50000) ptzReceived.jsonObj (.object [("cmd", .string "unknow_cmd")])
        ptzSent) ptzAnswered :=
    .serverSend rfl rfl (send_carries (by decide +kernel))
  have hwait : System.Step ptzLibrary 8090 ptzAnswered (.clientRecv 50000) ptzWaiting :=
    .clientRecv (by decide) rfl .null none
  exact (((Run.nil.snoc hsend).snoc htake).snoc hanswer).snoc hwait

theorem faithful_ptz : Faithful ptzLibrary ptzTrace := by
  intro e he value hvalue
  simp only [ptzTrace, List.mem_cons, List.not_mem_nil, or_false] at he
  rcases he with rfl | rfl | rfl | rfl
  · cases hvalue
    exact inverts_ptzRequest
  · cases hvalue
  · cases hvalue
    exact inverts_ptzResponse
  · cases hvalue

/-- A client asks the server for `ptz`, and learns that it does not know this command. -/
theorem latest_of_recv_ptz : ∃ request responseJson sent,
    (requests 50000 ptzTrace).getLast? = some request ∧
    Event.serverSend (some 50000) request responseJson sent ∈ ptzTrace ∧
    Answers ptzLibrary (ptzWaiting.clients 50000).manager.mRequestSeq request responseJson
      sent.jsonObj ∧
    cmdObject "response" 1 "unknow_cmd" = sent.jsonObj := by
  have hrecv : System.Step ptzLibrary 8090 ptzWaiting
      (.clientRecvfrom 50000 (.returns ⟨0, (ptzWaiting.clients 50000).manager,
        cmdObject "response" 1 "unknow_cmd", some 8090⟩)) _ :=
    .clientRecvfrom (by decide) rfl
      (show Udp.CanReceive _ _ (some (8090, writeCmd (cmdObject "response" 1 "unknow_cmd") ++ [0]))
        from List.mem_append_right _ (List.mem_singleton.mpr rfl))
      ((STPManager.recvIteration_eq_accept inverts_ptzResponse (by decide +kernel) .null none
        (Vector.replicate _ 0) 8090).trans
          (STPManager.accept_response rfl 1 [("cmd", .string "unknow_cmd")] 8090))
  exact latest_of_recv run_ptz faithful_ptz (by decide) hrecv rfl

end Mvr.Stp
