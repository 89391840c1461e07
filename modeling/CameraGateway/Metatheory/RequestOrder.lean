import CameraGateway.Metatheory.ClientResponses
import CameraGateway.Metatheory.DeadCapture
import CameraGateway.Metatheory.WaitingClients

/-!
Which connections are served, and in which order. Main takes the connections one by
one from the backlog: client thread `k` serves the `k`th connection of the run, on the
path that this connection has asked for, and no connection is passed over while main is
in its loop. The count of the requests and the result of main say how many were taken.
-/
namespace CameraGateway
variable {config : CameraConfig} {g g' : Gateway}

/-- What each connection has sent, from the states before the steps. -/
def watchSent (g : Gateway) (action : Action) (sent : List (List UInt8)) : List (List UInt8) :=
  match action with
  | .peer .connect => sent ++ [[]]
  | .peer (.send p bytes) =>
      -- a connection that is closed or reset takes no more bytes
      if g.peers[p]?.any fun peer => peer.closed || peer.reset then sent
      else sent.modify p (· ++ bytes)
  | _ => sent

def sendingGateway (config : CameraConfig) :
    TransitionSystem.System (Gateway × List (List UInt8)) Action :=
  (gateway config).observe [] watchSent

/-- The path is what main reads from the first bytes of the connection. -/
def Asked (sent : List (List UInt8)) (p : Nat) (path : List UInt8) : Prop :=
  ∃ said request, sent[p]? = some said ∧ request <+: said ∧
    httpMjpegAcceptRequest true (.received request) 256 = some path

/-- The connections of a run, with what they have sent, in the order of their arrival. -/
structure TakenInOrder (g : Gateway) (sent : List (List UInt8)) : Prop where
  threads : g.clients.map HttpClient.peer = List.range g.clients.length
  arrivals : g.main.left = false → g.arrivals = List.range g.peers.length
  known : sent.length = g.peers.length
  unread : ∀ p ∈ g.line, ∀ connection, g.peers[p]? = some connection →
    connection.reset = false → sent[p]? = some connection.pending
  inHand : ∀ p path, g.main = .countIn p path ∨ g.main = .createClient p path →
    Asked sent p path
  asked : ∀ client ∈ g.clients, Asked sent client.peer client.path

section Sent
variable {sent : List (List UInt8)}

theorem watchSent_grows {p : Nat} {said : List UInt8} (g : Gateway) (action : Action)
    (h : sent[p]? = some said) :
    ∃ said', (watchSent g action sent)[p]? = some said' ∧ said <+: said' := by
  have same : ∃ said', sent[p]? = some said' ∧ said <+: said' := ⟨said, h, List.prefix_rfl⟩
  fun_cases watchSent g action sent
  case case1 =>
      refine ⟨said, ?_, List.prefix_rfl⟩
      rw [List.getElem?_append_left (List.getElem?_eq_some_iff.mp h).1, h]
  case case2 => exact same
  case case3 q bytes _ =>
      by_cases hpq : q = p
      · subst hpq
        exact ⟨said ++ bytes, by rw [List.getElem?_modify_eq, h]; rfl, List.prefix_append _ _⟩
      · exact ⟨said, by rw [List.getElem?_modify_ne _ _ hpq, h], List.prefix_rfl⟩
  case case4 => exact same

theorem Asked.grows {p : Nat} {path : List UInt8} (h : Asked sent p path) (g : Gateway)
    (action : Action) : Asked (watchSent g action sent) p path := by
  obtain ⟨said, request, hsaid, hrequest, hpath⟩ := h
  obtain ⟨said', hsaid', hgrows⟩ := watchSent_grows g action hsaid
  exact ⟨said', request, hsaid', hrequest.trans hgrows, hpath⟩

end Sent

section Paths
variable {service : HttpService} {index : Nat} {client client' : HttpClient} {event : ClientEvent}

theorem wake_path (client : HttpClient) : client.wake.path = client.path := by
  rw [HttpClient.wake]
  split <;> rfl

theorem dispatch_path (config : CameraConfig) (service : HttpService) (index : Nat)
    (malloc : Option Nat) (client : HttpClient) :
    (client.dispatch config service index malloc).path = client.path := by
  rw [HttpClient.dispatch]
  split
  · rfl
  · dsimp only
    split <;> rfl
  · rfl
  · rfl

theorem waitStep_path (service : HttpService) (index : Nat) (timedOut : Bool)
    (malloc : Option Nat) (client : HttpClient) :
    (client.waitStep service index timedOut malloc).path = client.path := by
  rw [HttpClient.waitStep]
  split
  · rfl
  · split <;> rfl

theorem clientStep_path (h : clientStep config service index client event = some client') :
    client'.path = client.path := by
  revert h
  fun_cases clientStep config service index client event
  case case1 malloc _ =>
      intro h
      cases h
      exact dispatch_path config service index malloc client
  case case2 malloc _ | case3 malloc _ =>
      intro h
      cases h
      exact waitStep_path service index _ malloc client
  case case5 | case6 | case7 => exact fun h => (afterSend_wire h).2.1
  case case13 =>
      intro h
      cases h
      split <;> rfl
  all_goals
    intro h
    cases h <;> rfl

end Paths

section Order
variable {sent : List (List UInt8)}

theorem length_of_threads
    (h : g'.clients.map HttpClient.peer = g.clients.map HttpClient.peer) :
    g'.clients.length = g.clients.length := by
  simpa only [List.length_map] using congrArg List.length h

theorem left_receiving {main : MainState} (h : main.left = true) : main.receiving = [] := by
  cases main with
  | recv _ => cases h
  | _ => rfl

/-- The connection whose thread main creates is the next one in the order of arrival. -/
theorem TakenInOrder.next_place {p : Nat} {path : List UInt8} (h : TakenInOrder g sent)
    (hmain : g.main = .createClient p path) : p = g.clients.length := by
  have hat : (List.range g.peers.length)[g.clients.length]? = some p := by
    rw [← h.arrivals (by rw [hmain]; rfl), Gateway.arrivals, hmain]
    simp [MainState.inHand]
  obtain ⟨hlt, hvalue⟩ := List.getElem?_eq_some_iff.mp hat
  rw [List.getElem_range] at hvalue
  exact hvalue.symm

theorem mainStep_hands {ok : Bool} {p : Nat} {path : List UInt8}
    (h : g.mainStep config ok = some g')
    (hhands : g'.main = .countIn p path ∨ g'.main = .createClient p path) :
    g.main = .countIn p path ∨ ∃ connection, g.main = .recv p ∧ g.peers[p]? = some connection ∧
      connection.reset = false ∧
      httpMjpegAcceptRequest true (.received connection.pending) 256 = some path := by
  revert h hhands
  fun_cases Gateway.mainStep config g ok
  case case14 q hmain connection hconnection received hreceived path' hpath _ =>
      intro h hhands
      cases h
      have hsome : ¬ (connection.reset = true ∨ connection.pending = []) := by
        rw [← acceptRequest_none_iff hreceived, hpath]
        exact Option.some_ne_none path'
      simp only [not_or, Bool.not_eq_true] at hsome
      obtain ⟨hreset, hpending⟩ := hsome
      obtain hhands | hhands := hhands
      · cases hhands
        rw [Peer.recv, hreset, if_neg Bool.false_ne_true, if_pos hpending] at hreceived
        cases hreceived
        exact Or.inr ⟨connection, hmain, hconnection, hreset, hpath⟩
      · cases hhands
  case case16 q path' hmain _ =>
      intro h hhands
      cases h
      obtain hhands | hhands := hhands
      · cases hhands
      · cases hhands
        exact Or.inl hmain
  case case2 | case7 =>
      intro h hhands
      cases h
      cases ok <;> simp at hhands
  case case18 =>
      intro h hhands
      cases h
      dsimp only at hhands
      split at hhands <;> simp at hhands
  all_goals
    intro h hhands
    cases h <;> simp at hhands

theorem asked_step {action : Action} (hg : TakenInOrder g sent)
    (hs : g.step config action = some g') :
    ∀ client ∈ g'.clients, Asked (watchSent g action sent) client.peer client.path := by
  intro client' hclient'
  obtain ⟨i, hi⟩ := List.mem_iff_getElem?.mp hclient'
  have kept : ∀ client, g.clients[i]? = some client → client'.peer = client.peer →
      client'.path = client.path → Asked (watchSent g action sent) client'.peer client'.path := by
    intro client hclient hpeer hpath
    rw [hpeer, hpath]
    exact (hg.asked client (List.mem_of_getElem? hclient)).grows g action
  cases step_thread hs hi with
  | same before => exact kept client' before rfl rfl
  | woken client before after =>
      subst after
      exact kept client before (wake_peer client) (wake_path client)
  | created peer path hmain _ after =>
      subst after
      exact (hg.inHand peer path (Or.inr hmain)).grows g action
  | countedOut client _ before _ after =>
      subst after
      exact kept client before rfl rfl
  | stepped client event _ before _ step =>
      exact kept client before (clientStep_peer step) (clientStep_path step)

theorem takenInOrder_main {ok : Bool} (hconn : Connections g) (hg : TakenInOrder g sent)
    (hs : g.step config (.main ok) = some g') : TakenInOrder g' sent := by
  have hasked : ∀ client ∈ g'.clients, Asked sent client.peer client.path := asked_step hg hs
  have hline := hconn.line_nodup
  have hhands : ∀ p path, g'.main = .countIn p path ∨ g'.main = .createClient p path →
      Asked sent p path := by
    intro p path hmain
    cases mainStep_hands hs hmain with
    | inl hcount => exact hg.inHand p path (Or.inl hcount)
    | inr hread =>
        obtain ⟨connection, hrecv, hknown, hreset, hpath⟩ := hread
        have hfirst : p ∈ g.line := by simp [Gateway.line, hrecv, MainState.receiving]
        exact ⟨connection.pending, connection.pending, hg.unread p hfirst connection hknown hreset,
          List.prefix_rfl, hpath⟩
  have hrunning : g'.main.left = false → g.main.left = false :=
    fun hstays => (mainStep_stays hs hstays).1
  cases mainStep_line hs with
  | left hleft hbacklog hpeers hthreads =>
      have hlength := length_of_threads hthreads
      refine ⟨by rw [hthreads, hlength, hg.threads], ?_, by rw [hpeers, hg.known], ?_, hhands,
        hasked⟩
      · intro hstays
        rw [hleft] at hstays
        cases hstays
      · intro p hp
        rw [hpeers]
        apply hg.unread p
        rw [Gateway.line, left_receiving hleft, hbacklog] at hp
        exact List.mem_append_right _ hp
  | moved hsame hinHand hpeers _ hthreads =>
      have hlength := length_of_threads hthreads
      refine ⟨by rw [hthreads, hlength, hg.threads], fun hstays => ?_, by rw [hpeers, hg.known], ?_,
        hhands, hasked⟩
      · rw [hpeers, ← hg.arrivals (hrunning hstays), Gateway.arrivals, Gateway.arrivals, hthreads,
          hinHand]
      · rw [hsame, hpeers]
        exact hg.unread
  | received p connection hmain hreceiving hinHand hbacklog hknown _ hpeers _ _ hthreads =>
      have hlength := length_of_threads hthreads
      refine ⟨by rw [hthreads, hlength, hg.threads], fun hstays => ?_, ?_, fun q hq => ?_,
        hhands, hasked⟩
      · rw [hpeers, List.length_set, ← hg.arrivals (hrunning hstays), Gateway.arrivals,
          Gateway.arrivals, hthreads, hinHand, hbacklog, hmain]
        rfl
      · rw [hpeers, List.length_set, hg.known]
      · rw [Gateway.line, hreceiving, hbacklog, List.nil_append] at hq
        rw [Gateway.line, hmain, MainState.receiving, List.singleton_append, List.nodup_cons]
          at hline
        have hne : p ≠ q := fun heq => hline.1 (heq ▸ hq)
        rw [hpeers, List.getElem?_set_ne hne]
        exact hg.unread q (List.mem_append_right _ hq)
  | created p path hmain hreceiving hinHand hbacklog hpeers _ hthreads =>
      have harrivals := hg.arrivals (by rw [hmain]; rfl)
      have hlength : g'.clients.length = g.clients.length + 1 := by
        simpa using congrArg List.length hthreads
      refine ⟨?_, fun _ => ?_, by rw [hpeers, hg.known], ?_, hhands, hasked⟩
      · rw [hthreads, hlength, List.range_succ, hg.threads, hg.next_place hmain]
      · rw [hpeers, ← harrivals, Gateway.arrivals, Gateway.arrivals, hthreads, hinHand, hbacklog,
          hmain, List.append_assoc]
        rfl
      · intro q hq
        rw [Gateway.line, hreceiving, hbacklog, List.nil_append] at hq
        rw [hpeers]
        exact hg.unread q (List.mem_append_right _ hq)

theorem takenInOrder_peer {event : PeerEvent} (hconn : Connections g) (hg : TakenInOrder g sent)
    (hs : g.step config (.peer event) = some g') :
    TakenInOrder g' (watchSent g (.peer event) sent) := by
  have hasked := asked_step hg hs
  have hhands : ∀ p path, g.main = .countIn p path ∨ g.main = .createClient p path →
      Asked (watchSent g (.peer event) sent) p path :=
    fun p path hmain => (hg.inHand p path hmain).grows g (.peer event)
  -- a change of one connection, with what it has sent
  have changed : ∀ (p : Nat) (connection connection' : Peer),
      g.peers[p]? = some connection → g' = { g with peers := g.peers.set p connection' } →
      (watchSent g (.peer event) sent).length = sent.length →
      (∀ q, p ≠ q → (watchSent g (.peer event) sent)[q]? = sent[q]?) →
      (connection'.reset = false → connection.reset = false ∧
        (sent[p]? = some connection.pending →
          (watchSent g (.peer event) sent)[p]? = some connection'.pending)) →
      TakenInOrder g' (watchSent g (.peer event) sent) := by
    rintro p connection connection' hknown rfl hlength hother hsame
    refine ⟨hg.threads, fun hstays => ?_, ?_, fun q hq other hread hreset => ?_, hhands, hasked⟩
    · rw [List.length_set]
      exact hg.arrivals hstays
    · rw [hlength, hg.known, List.length_set]
    · by_cases hpq : p = q
      · subst hpq
        rw [List.getElem?_set_self (List.getElem?_eq_some_iff.mp hknown).1,
          Option.some.injEq] at hread
        subst hread
        obtain ⟨hopen, hkept⟩ := hsame hreset
        exact hkept (hg.unread p hq connection hknown hopen)
      · rw [List.getElem?_set_ne hpq] at hread
        rw [hother q hpq]
        exact hg.unread q hq other hread hreset
  cases event with
  | connect =>
      simp only [Gateway.step, Gateway.stepPeer] at hs
      split at hs
      · cases hs
        refine ⟨hg.threads, fun hstays => ?_, ?_, fun p hp connection hread hopen => ?_, hhands,
          hasked⟩
        · rw [List.length_append, List.length_singleton, List.range_succ, ← hg.arrivals hstays]
          simp only [Gateway.arrivals, List.append_assoc]
        · simp only [watchSent, List.length_append, List.length_singleton, hg.known]
        · dsimp only at hread
          rw [Gateway.line, ← List.append_assoc, List.mem_append, List.mem_singleton] at hp
          cases hp with
          | inl hold =>
              have hlt : p < g.peers.length :=
                hconn.known p (List.mem_append_right _ ((line_sublist g).subset hold))
              rw [List.getElem?_append_left hlt] at hread
              rw [watchSent, List.getElem?_append_left (hg.known ▸ hlt)]
              exact hg.unread p hold connection hread hopen
          | inr hnew =>
              subst hnew
              rw [List.getElem?_concat_length, Option.some.injEq] at hread
              subst hread
              rw [watchSent, ← hg.known, List.getElem?_concat_length]
      · cases hs
  | send p bytes =>
      obtain ⟨connection, hknown, rfl⟩ := Option.map_eq_some_iff.mp hs
      refine changed p connection _ hknown rfl ?_ ?_ ?_
      · rw [watchSent]
        split
        · rfl
        · exact List.length_modify ..
      · intro q hpq
        rw [watchSent]
        split
        · rfl
        · exact List.getElem?_modify_ne _ _ hpq
      · rw [watchSent, hknown, Option.any_some]
        dsimp only
        by_cases hended : (connection.closed || connection.reset) = true
        · rw [if_pos hended, if_pos hended]
          exact fun hopen => ⟨hopen, fun hsaid => hsaid⟩
        · rw [if_neg hended, if_neg hended]
          refine fun hopen => ⟨hopen, fun hsaid => ?_⟩
          rw [List.getElem?_modify_eq, hsaid]
          rfl
  | close p =>
      obtain ⟨connection, hknown, rfl⟩ := Option.map_eq_some_iff.mp hs
      exact changed p connection _ hknown rfl rfl (fun _ _ => rfl)
        fun hopen => ⟨hopen, fun hsaid => hsaid⟩
  | reset p =>
      obtain ⟨connection, hknown, rfl⟩ := Option.map_eq_some_iff.mp hs
      refine changed p connection _ hknown rfl rfl (fun _ _ => rfl) fun hopen => ?_
      cases hopen

theorem reachable_takenInOrder
    (h : TransitionSystem.Reachable (sendingGateway config) (g, sent)) : TakenInOrder g sent := by
  refine TransitionSystem.Reachable.observed_invariant (I := TakenInOrder) ?_ ?_ h
  · exact ⟨rfl, fun _ => rfl, rfl, nofun, fun _ _ hmain => by simp [gateway, Gateway.init] at hmain,
      nofun⟩
  · intro g g' sent action hreach hg (hs : g.step config action = some g')
    have hconn := reachable_connections hreach
    cases action with
    | main ok => exact takenInOrder_main hconn hg hs
    | peer event => exact takenInOrder_peer hconn hg hs
    | capture event =>
        have hasked := asked_step hg hs
        obtain ⟨step, -, rfl⟩ := Option.map_eq_some_iff.mp hs
        have hpeers := applyCapture_peers g step
        have hlength := length_of_threads hpeers
        refine ⟨by rw [hpeers, hlength, hg.threads], fun hstays => ?_, hg.known, hg.unread,
          hg.inHand, hasked⟩
        rw [Gateway.arrivals, hpeers]
        exact hg.arrivals hstays
    | client i event =>
        have hasked := asked_step hg hs
        obtain ⟨hmain, hbacklog, hpeers, -, hthreads⟩ := stepClient_line hs
        have hlength : g'.clients.length = g.clients.length := (stepClient_frame hs).length
        refine ⟨by rw [hthreads, hlength, hg.threads], fun hstays => ?_,
          by rw [hpeers]; exact hg.known, ?_, ?_, hasked⟩
        · rw [hmain] at hstays
          rw [hpeers, ← hg.arrivals hstays, Gateway.arrivals, Gateway.arrivals, hthreads, hmain,
            hbacklog]
        · rw [Gateway.line, hmain, hbacklog, hpeers]
          exact hg.unread
        · rw [hmain]
          exact hg.inHand

end Order

/-- The count of the requests, and the result of main, against the client threads. -/
structure RequestsCounted (config : CameraConfig) (g : Gateway) : Prop where
  running : g.main.left = false →
    g.requestCount + g.main.receiving.length = g.clients.length + g.main.inHand.length
  left : g.clients.length ≤ g.requestCount ∧ g.requestCount ≤ g.clients.length + 1
  limited : config.frameCount ≠ 0 → g.requestCount ≤ 1
  result : ∀ result, g.main.result = some result →
    result = 0 ∧ config.frameCount ≠ 0 ∧ g.clients.length = 1 ∨
      result = -1 ∧ (config.frameCount ≠ 0 → g.clients.length = 0)

section Counting

theorem requestsCounted_kept (hg : RequestsCounted config g) (hmain : g'.main = g.main)
    (hcount : g'.requestCount = g.requestCount) (hlength : g'.clients.length = g.clients.length) :
    RequestsCounted config g' := by
  constructor
  · rw [hmain, hcount, hlength]
    exact hg.running
  · rw [hcount, hlength]
    exact hg.left
  · rw [hcount]
    exact hg.limited
  · rw [hmain, hlength]
    exact hg.result

/-- With a frame count main is in its loop until the one client thread is done. -/
theorem reachable_limited (hlimited : config.frameCount ≠ 0)
    (h : TransitionSystem.Reachable (gateway config) g) : Teardown config g := by
  apply reachable_teardown
  refine TransitionSystem.Reachable.invariant
    (I := TransitionSystem.ReachableUnder (gateway config) (LeavesIdle config)) .refl ?_ h
  intro t u action _ ht hs
  exact .step action ht (fun hcontinuous => absurd hcontinuous hlimited) hs

/-- Main counts a request where it stays in its loop. -/
theorem mainStep_leaving {ok : Bool} (h : g.mainStep config ok = some g')
    (hleft : g'.main.left = true) : g'.requestCount = g.requestCount := by
  revert h hleft
  fun_cases Gateway.mainStep config g ok
  case case14 =>
      intro h hleft
      cases h
      cases hleft
  all_goals
    intro h _
    cases h <;> rfl

/-- Main chooses its result where it leaves its loop: 0 after the join, and -1 elsewhere. -/
theorem mainStep_status {ok : Bool} {result : Int} (h : g.mainStep config ok = some g')
    (hresult : g'.main.result = some result) :
    g.main.result = some result ∨
      result = -1 ∧ g.main.left = false ∧ (∀ i, g.main ≠ .join i) ∨
        result = 0 ∧ ∃ i, g.main = .join i := by
  revert h hresult
  fun_cases Gateway.mainStep config g ok
  case case2 hmain _ | case7 hmain =>
      intro h hresult
      cases h
      cases ok with
      | true => cases hresult
      | false =>
          cases hresult
          exact Or.inr (Or.inl ⟨rfl, by rw [hmain]; rfl, by simp [hmain]⟩)
  case case18 =>
      intro h hresult
      cases h
      dsimp only at hresult
      split at hresult <;> cases hresult
  case case20 i hmain _ =>
      intro h hresult
      cases h
      cases hresult
      exact Or.inr (Or.inr ⟨rfl, i, hmain⟩)
  all_goals
    intro h hresult
    cases h <;> simp_all [MainState.result, MainState.left]

theorem result_main {ok : Bool} {result : Int}
    (hreach : TransitionSystem.Reachable (gateway config) g) (hg : RequestsCounted config g)
    (hs : g.mainStep config ok = some g') (hresult : g'.main.result = some result) :
    result = 0 ∧ config.frameCount ≠ 0 ∧ g'.clients.length = 1 ∨
      result = -1 ∧ (config.frameCount ≠ 0 → g'.clients.length = 0) := by
  have hlength : g'.clients.length = g.clients.length := by
    cases mainStep_clients hs with
    | same hsame _ => rw [hsame]
    | woken _ _ _ hwoken => rw [hwoken, List.length_map]
    | created _ _ _ hnext _ =>
        rw [hnext] at hresult
        split at hresult <;> cases hresult
  rw [hlength]
  obtain hbefore | ⟨rfl, hstays, hnever⟩ | ⟨rfl, i, hjoin⟩ := mainStep_status hs hresult
  · exact hg.result result hbefore
  · exact Or.inr ⟨rfl, fun hlimited => (reachable_limited hlimited hreach).single hlimited hstays
      hnever⟩
  · by_cases hcontinuous : config.frameCount = 0
    · exact absurd hjoin (reachable_continuous hcontinuous hreach i)
    · exact Or.inl ⟨rfl, hcontinuous, ((reachable_limited hcontinuous hreach).joining hcontinuous i
        hjoin).2⟩

theorem requestsCounted_main {ok : Bool} (hreach : TransitionSystem.Reachable (gateway config) g)
    (hg : RequestsCounted config g) (hs : g.mainStep config ok = some g') :
    RequestsCounted config g' := by
  have hresult := fun result => @result_main config g g' ok result hreach hg hs
  have hrunning : g'.main.left = false → g.main.left = false :=
    fun hstays => (mainStep_stays hs hstays).1
  cases mainStep_line hs with
  | left hleft _ _ hthreads =>
      have hlength := length_of_threads hthreads
      have hcount := mainStep_leaving hs hleft
      refine ⟨fun hstays => ?_, by rw [hcount, hlength]; exact hg.left,
        by rw [hcount]; exact hg.limited, hresult⟩
      rw [hleft] at hstays
      cases hstays
  | moved hline hinHand _ hcount hthreads =>
      have hlength := length_of_threads hthreads
      refine ⟨fun hstays => ?_, by rw [hcount, hlength]; exact hg.left,
        by rw [hcount]; exact hg.limited, hresult⟩
      have hbefore := hg.running (hrunning hstays)
      have hlines := congrArg List.length hline
      have hhands := congrArg List.length hinHand
      simp only [Gateway.line, List.length_append] at hlines hhands
      omega
  | received p _ hmain hreceiving hinHand _ _ _ _ _ hcount hthreads =>
      have hlength := length_of_threads hthreads
      have hbefore := hg.running (by rw [hmain]; rfl)
      rw [hmain, MainState.receiving, MainState.inHand, List.length_singleton] at hbefore
      refine ⟨fun _ => ?_, by omega, fun hlimited => ?_, hresult⟩
      · rw [hreceiving, hinHand, List.length_nil, List.length_singleton]
        omega
      · have hnone := (reachable_limited hlimited hreach).single hlimited (by rw [hmain]; rfl)
          (by simp [hmain])
        omega
  | created p path hmain hreceiving hinHand _ _ hcount hthreads =>
      have hlength : g'.clients.length = g.clients.length + 1 := by
        simpa using congrArg List.length hthreads
      have hbefore := hg.running (by rw [hmain]; rfl)
      rw [hmain] at hbefore
      simp only [MainState.receiving, MainState.inHand, List.length_nil, List.length_singleton]
        at hbefore
      refine ⟨fun _ => ?_, by omega, by rw [hcount]; exact hg.limited, hresult⟩
      rw [hreceiving, hinHand, List.length_nil]
      omega

theorem reachable_requestsCounted (h : TransitionSystem.Reachable (gateway config) g) :
    RequestsCounted config g := by
  refine TransitionSystem.Reachable.invariant (I := RequestsCounted config) ?_ ?_ h
  · exact ⟨fun _ => rfl, by simp [gateway, Gateway.init], fun _ => Nat.zero_le 1,
      by simp [gateway, Gateway.init, MainState.result]⟩
  · intro g g' action hreach hg hs
    cases action with
    | main ok => exact requestsCounted_main hreach hg hs
    | capture event =>
        obtain ⟨step, -, rfl⟩ := Option.map_eq_some_iff.mp hs
        exact requestsCounted_kept hg rfl rfl (length_of_threads (applyCapture_peers g step))
    | client i event =>
        have hframe := stepClient_frame hs
        exact requestsCounted_kept hg hframe.main hframe.requestCount hframe.length
    | peer event =>
        obtain ⟨hmain, hclients, hcount, -⟩ := stepPeer_line hs
        exact requestsCounted_kept hg hmain hcount (by rw [hclients])

end Counting

/-- In every run the client threads serve the connections in the order of their arrival,
each on the path that it has asked for; while main is in its loop none is lost, and the
count that main prints and the result that it returns say how many have been served. -/
theorem requests_taken_in_order (config : CameraConfig) {sent : List (List UInt8)}
    (h : TransitionSystem.Reachable (sendingGateway config) (g, sent)) :
    (g.clients.map HttpClient.peer = List.range g.clients.length ∧
      (g.main.left = false → g.arrivals = List.range g.peers.length) ∧
      ∀ client ∈ g.clients, Asked sent client.peer client.path) ∧
    (g.clients.length ≤ g.requestCount ∧ g.requestCount ≤ g.clients.length + 1 ∧
      (config.frameCount ≠ 0 → g.requestCount ≤ 1)) ∧
    ∀ result, g.main.result = some result →
      (result = 0 ∨ result = -1) ∧
        (result = 0 ↔ config.frameCount ≠ 0 ∧ g.clients.length = 1) := by
  have horder := reachable_takenInOrder h
  have hcounted := reachable_requestsCounted h.unobserved
  refine ⟨⟨horder.threads, horder.arrivals, horder.asked⟩,
    ⟨hcounted.left.1, hcounted.left.2, hcounted.limited⟩, fun result hresult => ?_⟩
  obtain ⟨rfl, hserved⟩ | ⟨rfl, hnone⟩ := hcounted.result result hresult
  · exact ⟨Or.inl rfl, iff_of_true rfl hserved⟩
  · refine ⟨Or.inr rfl, iff_of_false (by decide) ?_⟩
    rintro ⟨hlimited, hone⟩
    rw [hnone hlimited] at hone
    cases hone

/-- Two requests of continuous mode, and the one request of a run with a frame count,
which leaves a second connection unanswered. -/
theorem requests_taken_in_order_twoConnections :
    (∃ g sent, TransitionSystem.Reachable (sendingGateway streamConfig) (g, sent) ∧
      g.clients.map HttpClient.path = [ascii "/stream", ascii "/metrics"] ∧
      g.arrivals = List.range g.peers.length ∧
      ∀ client ∈ g.clients, Asked sent client.peer client.path) ∧
    ∃ g sent, TransitionSystem.Reachable (sendingGateway oneFrameConfig) (g, sent) ∧
      g.main = .out 0 ∧ g.peers.length = 2 ∧ g.clients.length = 1 := by
  constructor
  · have hrun : (TransitionSystem.exec (sendingGateway streamConfig) (Gateway.init, [])
        (startup ++ serve 0 (ascii "/stream") ++ serve 1 (ascii "/metrics"))).any
        (fun p => decide (p.1.main = .accept ∧
          p.1.clients.map HttpClient.path = [ascii "/stream", ascii "/metrics"])) = true := by
      decide +kernel
    obtain ⟨⟨g, sent⟩, hexec, hg⟩ := TransitionSystem.exists_exec_of_any
      (M := sendingGateway streamConfig) hrun
    have hreach := (TransitionSystem.Reachable.init (sendingGateway streamConfig)).exec hexec
    obtain ⟨hmain, hpaths⟩ := of_decide_eq_true hg
    obtain ⟨⟨-, harrivals, hasked⟩, -⟩ := requests_taken_in_order streamConfig hreach
    exact ⟨g, sent, hreach, hpaths, harrivals (by rw [hmain]; rfl), hasked⟩
  · have hrun : (TransitionSystem.exec (sendingGateway oneFrameConfig) (Gateway.init, [])
        (startup ++ [.peer .connect] ++ serve 0 (ascii "/snapshot") ++ answerUnavailable 0 ++
          [.main true])).any
        (fun p => decide (p.1.main = .out 0 ∧ p.1.peers.length = 2)) = true := by
      decide +kernel
    obtain ⟨⟨g, sent⟩, hexec, hg⟩ := TransitionSystem.exists_exec_of_any
      (M := sendingGateway oneFrameConfig) hrun
    have hreach := (TransitionSystem.Reachable.init (sendingGateway oneFrameConfig)).exec hexec
    obtain ⟨hmain, hpeers⟩ := of_decide_eq_true hg
    obtain ⟨-, -, hresult⟩ := requests_taken_in_order oneFrameConfig hreach
    obtain ⟨-, hserved⟩ := hresult 0 (by rw [hmain]; rfl)
    exact ⟨g, sent, hreach, hmain, hpeers, (hserved.mp rfl).2⟩

end CameraGateway
