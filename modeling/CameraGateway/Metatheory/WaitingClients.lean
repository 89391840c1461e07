import CameraGateway.Metatheory.Teardown

/-!
Whether a request that waits in the backlog can be served without the help of
other clients. Main reads each connection before it creates a thread for it, and
that read blocks: what is in front of a request decides.
-/
namespace CameraGateway
variable {config : CameraConfig} {g g' : Gateway}

def MainState.receiving : MainState → List Nat
  | .recv peer => [peer]
  | _ => []

def MainState.inHand : MainState → List Nat
  | .recv peer | .countIn peer _ | .createClient peer _ => [peer]
  | _ => []

/-- The connections that main still has to read from, in their order. -/
def Gateway.line (g : Gateway) : List Nat := g.main.receiving ++ g.backlog

/-- All connections of a run that are still known, each in one place. -/
def Gateway.arrivals (g : Gateway) : List Nat :=
  g.clients.map HttpClient.peer ++ (g.main.inHand ++ g.backlog)

/-- The peer has sent bytes that nobody has read yet. -/
def Spoken (g : Gateway) (p : Nat) : Prop :=
  ∃ connection, g.peers[p]? = some connection ∧ connection.pending ≠ []

/-- The request of the peer has been handed to a client thread. -/
def HandedOver (g : Gateway) (p : Nat) : Prop := ∃ client ∈ g.clients, client.peer = p

def PeerEvent.isOf (event : PeerEvent) (p : Nat) : Prop :=
  match event with
  | .connect => False
  | .send i _ | .close i | .reset i => i = p

/-- Steps of the server's threads and of one peer. -/
def OnlyServerAnd (p : Nat) (_ : Gateway) (action : Action) : Prop :=
  ∀ event, action = .peer event → event.isOf p

section Steps

/-- What a step of main does to the connections. -/
inductive LineChange (g g' : Gateway) : Prop where
  | left (main : g'.main.left = true) (backlog : g'.backlog = g.backlog)
      (peers : g'.peers = g.peers)
      (threads : g'.clients.map HttpClient.peer = g.clients.map HttpClient.peer)
  | moved (line : g'.line = g.line) (inHand : g'.main.inHand ++ g'.backlog =
        g.main.inHand ++ g.backlog) (peers : g'.peers = g.peers)
      (requestCount : g'.requestCount = g.requestCount)
      (threads : g'.clients.map HttpClient.peer = g.clients.map HttpClient.peer)
  | received (p : Nat) (connection : Peer) (main : g.main = .recv p)
      (receiving : g'.main.receiving = []) (inHand : g'.main.inHand = [p])
      (backlog : g'.backlog = g.backlog) (known : g.peers[p]? = some connection)
      (pending : connection.pending ≠ [])
      (peers : g'.peers = g.peers.set p { connection with pending := connection.pending.drop 1023 })
      (limit : g.requestCount < Gateway.requestLimit)
      (requestCount : g'.requestCount = g.requestCount + 1)
      (threads : g'.clients.map HttpClient.peer = g.clients.map HttpClient.peer)
  | created (p : Nat) (path : List UInt8) (main : g.main = .createClient p path)
      (receiving : g'.main.receiving = []) (inHand : g'.main.inHand = [])
      (backlog : g'.backlog = g.backlog) (peers : g'.peers = g.peers)
      (requestCount : g'.requestCount = g.requestCount)
      (threads : g'.clients.map HttpClient.peer = g.clients.map HttpClient.peer ++ [p])

theorem wake_peer (client : HttpClient) : client.wake.peer = client.peer := by
  rw [HttpClient.wake]
  split <;> rfl

theorem map_wake_peer (clients : List HttpClient) :
    (clients.map HttpClient.wake).map HttpClient.peer = clients.map HttpClient.peer := by
  rw [List.map_map]
  exact List.map_congr_left fun client _ => wake_peer client

theorem mainStep_line {ok : Bool} (h : g.mainStep config ok = some g') : LineChange g g' := by
  revert h
  fun_cases Gateway.mainStep config g ok
  case case2 hmain _ | case7 hmain =>
      intro h
      cases ok with
      | true =>
          cases h
          refine .moved ?_ ?_ rfl rfl rfl
          · rw [Gateway.line, Gateway.line, hmain]
            rfl
          · rw [hmain]
            rfl
      | false =>
          cases h
          exact .left rfl rfl rfl rfl
  case case9 hmain _ peer backlog hbacklog =>
      intro h
      cases h
      refine .moved ?_ ?_ rfl rfl rfl
      · rw [Gateway.line, Gateway.line, hmain, hbacklog]
        rfl
      · rw [hmain, hbacklog]
        rfl
  case case14 p hmain connection hconnection received hreceived path hpath hlimit =>
      intro h
      cases h
      have hsome : ¬ (connection.reset = true ∨ connection.pending = []) := by
        rw [← acceptRequest_none_iff hreceived, hpath]
        exact Option.some_ne_none path
      exact .received p connection hmain rfl rfl rfl hconnection (fun h => hsome (Or.inr h)) rfl
        hlimit rfl rfl
  case case18 p path hmain _ =>
      intro h
      cases h
      refine .created p path hmain ?_ ?_ rfl rfl rfl (by simp [HttpClient.start])
      · dsimp only
        split <;> rfl
      · dsimp only
        split <;> rfl
  case case22 =>
      intro h
      cases h
      exact .left rfl rfl rfl (map_wake_peer g.clients)
  all_goals
    intro h
    cases h <;> first
      | exact .left rfl rfl rfl rfl
      | exact .moved (by simp [Gateway.line, MainState.receiving, *])
          (by simp [MainState.inHand, *]) rfl rfl rfl

theorem clientStep_peer {service : HttpService} {index : Nat} {client client' : HttpClient}
    {event : ClientEvent} (h : clientStep config service index client event = some client') :
    client'.peer = client.peer := by
  have sent : ∀ {sent : Sent} {ok failed : ClientState},
      client.afterSend sent ok failed = some client' → client'.peer = client.peer := by
    intro sent ok failed hafter
    simp only [HttpClient.afterSend] at hafter
    split at hafter
    · cases hafter
    · cases hafter
      rfl
  revert h sent
  fun_cases clientStep config service index client event
  case case1 =>
      intro h _
      cases h
      rw [HttpClient.dispatch]
      split
      · rfl
      · dsimp only
        split <;> rfl
      · rfl
      · rfl
  case case2 | case3 =>
      intro h _
      cases h
      rw [HttpClient.waitStep]
      split
      · rfl
      · split <;> rfl
  case case5 | case6 | case7 => exact fun h sent => sent h
  case case9 | case11 | case14 =>
      intro h _
      cases h
      rfl
  case case13 =>
      intro h _
      cases h
      split <;> rfl
  all_goals
    intro h _
    cases h

theorem stepClient_line {i : Nat} {event : ClientEvent} (h : g.stepClient config i event = some g') :
    g'.main = g.main ∧ g'.backlog = g.backlog ∧ g'.peers = g.peers ∧
      g'.requestCount = g.requestCount ∧
      g'.clients.map HttpClient.peer = g.clients.map HttpClient.peer := by
  obtain ⟨client, client', hclient, -, hcases⟩ := stepClient_cases h
  have hset : client'.peer = client.peer →
      (g.clients.set i client').map HttpClient.peer = g.clients.map HttpClient.peer := by
    intro hpeer
    rw [List.map_set, hpeer]
    apply List.ext_getElem?
    intro j
    rw [List.getElem?_set]
    split
    · rename_i hij
      subst hij
      have hlt : i < (g.clients.map HttpClient.peer).length := by
        rw [List.length_map]
        exact (List.getElem?_eq_some_iff.mp hclient).1
      rw [if_pos hlt, List.getElem?_map, hclient, Option.map_some]
    · rfl
  cases hcases with
  | inl hcount =>
      obtain ⟨-, rfl, rfl⟩ := hcount
      exact ⟨rfl, rfl, rfl, rfl, hset rfl⟩
  | inr hstep =>
      obtain ⟨hstep, rfl⟩ := hstep
      exact ⟨rfl, rfl, rfl, rfl, hset (clientStep_peer hstep)⟩

theorem applyCapture_peers (g : Gateway) (step : CaptureStep) :
    (g.applyCapture step).clients.map HttpClient.peer = g.clients.map HttpClient.peer := by
  rw [Gateway.applyCapture]
  split
  · exact map_wake_peer g.clients
  · rfl

/-- What the network does to the connections: a new one, or a change of one. -/
theorem stepPeer_line {event : PeerEvent} (h : g.stepPeer event = some g') :
    g'.main = g.main ∧ g'.clients = g.clients ∧ g'.requestCount = g.requestCount ∧
      (g.listening = true ∧ g'.backlog = g.backlog ++ [g.peers.length] ∧
          g'.peers = g.peers ++ [⟨[], false, false⟩] ∧ event = .connect ∨
        ∃ p connection connection', event.isOf p ∧ g.peers[p]? = some connection ∧
          g'.backlog = g.backlog ∧ g'.peers = g.peers.set p connection' ∧
          (connection'.reset = true → connection.reset = true ∧
            connection'.pending = connection.pending ∨ connection'.pending = [])) := by
  cases event with
  | connect =>
      simp only [Gateway.stepPeer] at h
      split at h
      · rename_i hlistening
        cases h
        exact ⟨rfl, rfl, rfl, Or.inl ⟨hlistening, rfl, rfl, rfl⟩⟩
      · cases h
  | send p bytes =>
      obtain ⟨connection, hconnection, rfl⟩ := Option.map_eq_some_iff.mp h
      refine ⟨rfl, rfl, rfl, Or.inr ⟨p, connection, _, rfl, hconnection, rfl, rfl, ?_⟩⟩
      dsimp only
      split
      · exact fun hreset => Or.inl ⟨hreset, rfl⟩
      · rename_i hopen
        simp only [Bool.or_eq_true, not_or, Bool.not_eq_true] at hopen
        intro hreset
        simp [hopen.2] at hreset
  | close p =>
      obtain ⟨connection, hconnection, rfl⟩ := Option.map_eq_some_iff.mp h
      exact ⟨rfl, rfl, rfl, Or.inr ⟨p, connection, _, rfl, hconnection, rfl, rfl,
        fun hreset => Or.inl ⟨hreset, rfl⟩⟩⟩
  | reset p =>
      obtain ⟨connection, hconnection, rfl⟩ := Option.map_eq_some_iff.mp h
      exact ⟨rfl, rfl, rfl, Or.inr ⟨p, connection, _, rfl, hconnection, rfl, rfl,
        fun _ => Or.inr rfl⟩⟩

end Steps

/-- The connections of a reachable state: each is in one place, a backlog needs a
listening socket, and a reset connection has nothing to read. -/
structure Connections (g : Gateway) : Prop where
  nodup : g.arrivals.Nodup
  known : ∀ p ∈ g.arrivals, p < g.peers.length
  listening : g.backlog = [] ∨ g.listening = true ∨ g.main.left = true
  reset : ∀ connection ∈ g.peers, connection.reset = true → connection.pending = []

theorem mainStep_listening {ok : Bool} (h : g.mainStep config ok = some g')
    (hg : g.backlog = [] ∨ g.listening = true ∨ g.main.left = true) :
    g'.backlog = [] ∨ g'.listening = true ∨ g'.main.left = true := by
  revert h
  fun_cases Gateway.mainStep config g ok
  case case2 hmain _ =>
      intro h
      cases ok with
      | true =>
          cases h
          exact Or.inl (by simpa [Gateway.listening, MainState.left, hmain] using hg)
      | false =>
          cases h
          exact Or.inr (Or.inr rfl)
  case case7 =>
      intro h
      cases ok with
      | true =>
          cases h
          exact Or.inr (Or.inl rfl)
      | false =>
          cases h
          exact Or.inr (Or.inr rfl)
  case case3 hmain _ | case5 hmain _ =>
      intro h
      cases h
      exact Or.inl (by simpa [Gateway.listening, MainState.left, hmain] using hg)
  case case18 =>
      intro h
      cases h
      refine Or.inr (Or.inl ?_)
      rw [Gateway.listening]
      dsimp only
      split <;> first
        | rfl
        | (split at * <;> simp_all)
  all_goals
    intro h
    cases h <;> first
      | exact Or.inr (Or.inl rfl)
      | exact Or.inr (Or.inr rfl)

theorem connections_main {ok : Bool} (hg : Connections g) (hs : g.mainStep config ok = some g') :
    Connections g' := by
  have hlistening := mainStep_listening hs hg.listening
  have kept : g'.arrivals.Sublist g.arrivals → g'.peers = g.peers → Connections g' := by
    intro hsub hpeers
    refine ⟨hg.nodup.sublist hsub, fun p hp => ?_, hlistening, ?_⟩
    · rw [hpeers]
      exact hg.known p (hsub.subset hp)
    · rw [hpeers]
      exact hg.reset
  cases mainStep_line hs with
  | left hleft hbacklog hpeers hthreads =>
      have hnone : g'.main.inHand = [] := by
        cases hmain : g'.main with
        | recv _ | countIn _ _ | createClient _ _ => rw [hmain] at hleft; cases hleft
        | _ => rfl
      refine kept ?_ hpeers
      rw [Gateway.arrivals, Gateway.arrivals, hthreads, hnone, hbacklog]
      exact (List.sublist_append_right _ _).append_left _
  | moved _ hinHand hpeers _ hthreads =>
      refine kept ?_ hpeers
      rw [Gateway.arrivals, Gateway.arrivals, hthreads, hinHand]
  | received p connection hmain _ hinHand hbacklog hknown _ hpeers _ _ hthreads =>
      have hsame : g'.arrivals = g.arrivals := by
        rw [Gateway.arrivals, Gateway.arrivals, hthreads, hinHand, hbacklog, hmain]
        rfl
      refine ⟨hsame ▸ hg.nodup, fun q hq => ?_, hlistening, fun other hother => ?_⟩
      · rw [hpeers, List.length_set]
        exact hg.known q (hsame ▸ hq)
      · rw [hpeers] at hother
        cases List.mem_or_eq_of_mem_set hother with
        | inl hold => exact hg.reset other hold
        | inr hnew =>
            subst hnew
            intro hreset
            rw [hg.reset connection (List.mem_of_getElem? hknown) hreset]
            rfl
  | created p path hmain _ hinHand hbacklog hpeers _ hthreads =>
      refine kept ?_ hpeers
      rw [Gateway.arrivals, Gateway.arrivals, hthreads, hinHand, hbacklog, hmain,
        List.append_assoc]
      exact List.Sublist.refl _

theorem connections_peer {event : PeerEvent} (hg : Connections g)
    (hs : g.stepPeer event = some g') : Connections g' := by
  obtain ⟨hmain, hclients, -, hcases⟩ := stepPeer_line hs
  have hlistening : g'.listening = g.listening := by rw [Gateway.listening, hmain]; rfl
  cases hcases with
  | inl hconnect =>
      obtain ⟨hopen, hbacklog, hpeers, -⟩ := hconnect
      have harrivals : g'.arrivals = g.arrivals ++ [g.peers.length] := by
        rw [Gateway.arrivals, Gateway.arrivals, hclients, hmain, hbacklog]
        simp only [List.append_assoc]
      refine ⟨?_, fun p hp => ?_, Or.inr (Or.inl (hlistening.trans hopen)), ?_⟩
      · rw [harrivals, List.nodup_append]
        refine ⟨hg.nodup, by simp, fun p hp q hq => ?_⟩
        rw [List.mem_singleton.mp hq]
        exact Nat.ne_of_lt (hg.known p hp)
      · rw [harrivals, List.mem_append, List.mem_singleton] at hp
        rw [hpeers, List.length_append, List.length_singleton]
        cases hp with
        | inl hold => exact Nat.lt_succ_of_lt (hg.known p hold)
        | inr hnew => omega
      · intro connection hconnection
        rw [hpeers, List.mem_append, List.mem_singleton] at hconnection
        cases hconnection with
        | inl hold => exact hg.reset connection hold
        | inr hnew =>
            subst hnew
            exact fun _ => rfl
  | inr hchange =>
      obtain ⟨p, connection, connection', -, hknown, hbacklog, hpeers, hreset⟩ := hchange
      have harrivals : g'.arrivals = g.arrivals := by
        rw [Gateway.arrivals, Gateway.arrivals, hclients, hmain, hbacklog]
      refine ⟨harrivals ▸ hg.nodup, fun q hq => ?_, ?_, fun other hother => ?_⟩
      · rw [hpeers, List.length_set]
        exact hg.known q (harrivals ▸ hq)
      · rw [hbacklog, hlistening, hmain]
        exact hg.listening
      · rw [hpeers] at hother
        cases List.mem_or_eq_of_mem_set hother with
        | inl hold => exact hg.reset other hold
        | inr hnew =>
            subst hnew
            intro hset
            cases hreset hset with
            | inl hbefore =>
                rw [hbefore.2]
                exact hg.reset connection (List.mem_of_getElem? hknown) hbefore.1
            | inr hempty => exact hempty

theorem reachable_connections (h : TransitionSystem.Reachable (gateway config) g) :
    Connections g := by
  refine TransitionSystem.Reachable.invariant (I := Connections) ?_ ?_ h
  · exact ⟨List.nodup_nil, nofun, Or.inl rfl, nofun⟩
  · intro g g' action _ hg hs
    cases action with
    | main ok => exact connections_main hg hs
    | capture event =>
        obtain ⟨step, -, rfl⟩ := Option.map_eq_some_iff.mp hs
        have harrivals : (g.applyCapture step).arrivals = g.arrivals := by
          rw [Gateway.arrivals, Gateway.arrivals, applyCapture_peers]
          rfl
        exact ⟨harrivals ▸ hg.nodup, fun p hp => hg.known p (harrivals ▸ hp), hg.listening,
          hg.reset⟩
    | client i event =>
        obtain ⟨hmain, hbacklog, hpeers, -, hthreads⟩ := stepClient_line hs
        have harrivals : g'.arrivals = g.arrivals := by
          rw [Gateway.arrivals, Gateway.arrivals, hthreads, hmain, hbacklog]
        refine ⟨harrivals ▸ hg.nodup, fun p hp => ?_, ?_, hpeers ▸ hg.reset⟩
        · rw [hpeers]
          exact hg.known p (harrivals ▸ hp)
        · rw [hbacklog, Gateway.listening, hmain]
          exact hg.listening
    | peer event => exact connections_peer hg hs

section Obstruction
variable {b : Nat}

/-- The request of `b` is not with a thread, and something in front of it stays. -/
structure Obstructed (g : Gateway) (b : Nat) : Prop where
  waiting : ¬ HandedOver g b
  obstacle : g.main.left = true ∨ ∃ ahead rest, g.line = ahead ++ b :: rest ∧
    ((∃ p ∈ ahead, ¬ Spoken g p) ∨ Gateway.requestLimit ≤ g.requestCount + ahead.length)

theorem handedOver_iff : HandedOver g b ↔ b ∈ g.clients.map HttpClient.peer := by
  rw [List.mem_map]
  rfl

theorem line_sublist (g : Gateway) : g.line.Sublist (g.main.inHand ++ g.backlog) := by
  rw [Gateway.line]
  apply List.Sublist.append_right
  cases g.main <;> simp [MainState.receiving, MainState.inHand]

theorem Connections.line_nodup (h : Connections g) : g.line.Nodup :=
  (List.nodup_append.mp h.nodup).2.1.sublist (line_sublist g)

theorem spoken_set {p q : Nat} {connection : Peer} (hpeers : g'.peers = g.peers.set p connection)
    (hne : p ≠ q) : Spoken g' q ↔ Spoken g q := by
  rw [Spoken, Spoken, hpeers, List.getElem?_set_ne hne]

theorem spoken_congr (hpeers : g'.peers = g.peers) (q : Nat) : Spoken g' q ↔ Spoken g q := by
  rw [Spoken, Spoken, hpeers]

/-- A step that changes neither the line nor the connections in it. -/
theorem Obstructed.kept (h : Obstructed g b) (hmain : g.main.left = true → g'.main.left = true)
    (hline : g'.line = g.line) (hspoken : ∀ p ∈ g.line, p ≠ b → (Spoken g' p ↔ Spoken g p))
    (hnodup : g.line.Nodup) (hcount : g'.requestCount = g.requestCount)
    (hthreads : g'.clients.map HttpClient.peer = g.clients.map HttpClient.peer) :
    Obstructed g' b := by
  obtain ⟨hwaiting, hobstacle⟩ := h
  refine ⟨?_, ?_⟩
  · rwa [handedOver_iff, hthreads, ← handedOver_iff]
  · cases hobstacle with
    | inl hleft => exact Or.inl (hmain hleft)
    | inr hahead =>
        obtain ⟨ahead, rest, hsplit, hor⟩ := hahead
        refine Or.inr ⟨ahead, rest, hline.trans hsplit, ?_⟩
        rw [hcount]
        cases hor with
        | inl hsilent =>
            obtain ⟨p, hp, hnot⟩ := hsilent
            have hne : p ≠ b := by
              rintro rfl
              rw [hsplit, List.nodup_append] at hnodup
              exact hnodup.2.2 p hp p (List.mem_cons_self ..) rfl
            have hmem : p ∈ g.line := by
              rw [hsplit]
              exact List.mem_append_left _ hp
            exact Or.inl ⟨p, hp, by rwa [hspoken p hmem hne]⟩
        | inr hlimit => exact Or.inr hlimit

theorem obstructed_main {ok : Bool} (hg : Connections g) (h : Obstructed g b)
    (hs : g.mainStep config ok = some g') : Obstructed g' b := by
  have hleft : g.main.left = true → g'.main.left = true := by
    intro hbefore
    cases hstays : g'.main.left with
    | true => rfl
    | false => rw [(mainStep_stays hs hstays).1] at hbefore; cases hbefore
  cases mainStep_line hs with
  | left hgone _ _ hthreads =>
      refine ⟨?_, Or.inl hgone⟩
      rw [handedOver_iff, hthreads, ← handedOver_iff]
      exact h.waiting
  | moved hline _ hpeers hcount hthreads =>
      exact h.kept hleft hline (fun p _ _ => spoken_congr hpeers p) hg.line_nodup hcount hthreads
  | received p connection hmain hreceiving _ hbacklog hknown hpending hpeers hlimit hcount
      hthreads =>
      refine ⟨?_, ?_⟩
      · rw [handedOver_iff, hthreads, ← handedOver_iff]
        exact h.waiting
      · cases h.obstacle with
        | inl hgone => exact Or.inl (hleft hgone)
        | inr hahead =>
            obtain ⟨ahead, rest, hsplit, hor⟩ := hahead
            have hnodup := hg.line_nodup
            rw [Gateway.line, hmain, MainState.receiving, List.singleton_append] at hsplit hnodup
            have hline : g'.line = g.backlog := by
              rw [Gateway.line, hreceiving, hbacklog, List.nil_append]
            cases ahead with
            | nil =>
                simp only [List.length_nil, List.not_mem_nil, false_and,
                  exists_false, false_or, Nat.add_zero] at hor
                omega
            | cons first ahead =>
                simp only [List.cons_append, List.cons.injEq] at hsplit
                obtain ⟨rfl, hsplit⟩ := hsplit
                refine Or.inr ⟨ahead, rest, hline.trans hsplit, ?_⟩
                rw [hcount]
                cases hor with
                | inl hsilent =>
                    obtain ⟨q, hq, hnot⟩ := hsilent
                    cases List.mem_cons.mp hq with
                    | inl hfirst => exact absurd ⟨connection, hfirst ▸ hknown, hpending⟩ hnot
                    | inr hrest =>
                        have hne : p ≠ q := by
                          rintro rfl
                          exact (List.nodup_cons.mp hnodup).1
                            (hsplit ▸ List.mem_append_left _ hrest)
                        exact Or.inl ⟨q, hrest, by rwa [spoken_set hpeers hne]⟩
                | inr hmany =>
                    rw [List.length_cons] at hmany
                    exact Or.inr (by omega)
  | created p path hmain hreceiving hinHand hbacklog hpeers hcount hthreads =>
      have hline : g'.line = g.line := by
        rw [Gateway.line, Gateway.line, hreceiving, hbacklog, hmain]
        rfl
      cases h.obstacle with
      | inl hgone =>
          rw [hmain] at hgone
          cases hgone
      | inr hahead =>
          obtain ⟨ahead, rest, hsplit, hor⟩ := hahead
          have hother : b ≠ p := by
            rintro rfl
            have hbacklog' : b ∈ g.backlog := by
              rw [Gateway.line, hmain] at hsplit
              exact (show g.backlog = ahead ++ b :: rest from hsplit) ▸ by simp
            have hnodup := (List.nodup_append.mp hg.nodup).2.1
            rw [hmain, MainState.inHand, List.singleton_append, List.nodup_cons] at hnodup
            exact hnodup.1 hbacklog'
          refine ⟨?_, Or.inr ⟨ahead, rest, hline.trans hsplit, ?_⟩⟩
          · rw [handedOver_iff, hthreads, List.mem_append, List.mem_singleton, not_or,
              ← handedOver_iff]
            exact ⟨h.waiting, hother⟩
          · rw [hcount]
            cases hor with
            | inl hsilent =>
                obtain ⟨q, hq, hnot⟩ := hsilent
                exact Or.inl ⟨q, hq, by rwa [spoken_congr hpeers]⟩
            | inr hmany => exact Or.inr hmany

/-- No step of the server and of `b` removes what is in front of `b`. -/
theorem obstructed_step {action : Action} (hg : Connections g) (h : Obstructed g b)
    (hguard : OnlyServerAnd b g action) (hs : g.step config action = some g') :
    Obstructed g' b := by
  cases action with
  | main ok => exact obstructed_main hg h hs
  | capture event =>
      obtain ⟨step, -, rfl⟩ := Option.map_eq_some_iff.mp hs
      exact h.kept id rfl (fun _ _ _ => Iff.rfl) hg.line_nodup rfl (applyCapture_peers g step)
  | client i event =>
      obtain ⟨hmain, hbacklog, hpeers, hcount, hthreads⟩ := stepClient_line hs
      refine h.kept (by rw [hmain]; exact id) ?_ (fun p _ _ => spoken_congr hpeers p) hg.line_nodup
        hcount hthreads
      rw [Gateway.line, Gateway.line, hmain, hbacklog]
  | peer event =>
      obtain ⟨hmain, hclients, hcount, hcases⟩ := stepPeer_line hs
      have hof := hguard event rfl
      cases hcases with
      | inl hconnect =>
          rw [hconnect.2.2.2] at hof
          exact absurd hof id
      | inr hchange =>
          obtain ⟨p, connection, connection', hisOf, -, hbacklog, hpeers, -⟩ := hchange
          have hp : p = b := by
            cases event with
            | connect => exact absurd hof id
            | send i _ | close i | reset i =>
                exact (show i = p from hisOf).symm.trans hof
          subst hp
          refine h.kept (by rw [hmain]; exact id) ?_ (fun q _ hne => spoken_set hpeers hne.symm)
            hg.line_nodup hcount (by rw [hclients])
          rw [Gateway.line, Gateway.line, hmain, hbacklog]

theorem obstructed_run (hreach : TransitionSystem.Reachable (gateway config) g)
    (h : Obstructed g b)
    (hrun : TransitionSystem.RunUnder (gateway config) (OnlyServerAnd b) g g') :
    Obstructed g' b := by
  refine hrun.invariant (I := fun g => Obstructed g b) h ?_
  intro t u action ht hobstructed hguard hs
  exact obstructed_step (reachable_connections (ht.reachable hreach)) hobstructed hguard hs

end Obstruction

section Progress
variable {b : Nat}

/-- Main has come back to its accept call with one more thread. -/
structure Handed (g g' : Gateway) (p : Nat) : Prop where
  main : g'.main = .accept
  backlog : g'.backlog = g.backlog
  spoken : ∀ q, p ≠ q → (Spoken g' q ↔ Spoken g q)
  requestCount : g'.requestCount = g.requestCount + g.main.receiving.length
  threads : g'.clients.map HttpClient.peer = g.clients.map HttpClient.peer ++ [p]

def MainRuns (config : CameraConfig) (n : Nat) (g g' : Gateway) : Prop :=
  TransitionSystem.exec (gateway config) g (List.replicate n (.main true)) = some g'

theorem MainRuns.run {n : Nat} (h : MainRuns config n g g') :
    TransitionSystem.RunUnder (gateway config) (OnlyServerAnd b) g g' := by
  refine TransitionSystem.RunUnder.exec .refl ?_ h
  intro action haction _ event hpeer
  rw [List.eq_of_mem_replicate haction] at hpeer
  cases hpeer

/-- Main gives the connection in its hand to a thread, if it has sent something. -/
theorem handed_inHand (hcontinuous : config.frameCount = 0) {p : Nat}
    (hmain : g.main.inHand = [p]) (hspoken : g.main.receiving = [p] → Spoken g p)
    (hreset : ∀ connection ∈ g.peers, connection.reset = true → connection.pending = [])
    (hlimit : g.requestCount + g.main.receiving.length ≤ Gateway.requestLimit) :
    ∃ n g', MainRuns config n g g' ∧ Handed g g' p := by
  cases hstate : g.main with
  | recv q =>
      rw [hstate] at hmain hlimit hspoken
      obtain rfl : q = p := by simpa [MainState.inHand] using hmain
      obtain ⟨connection, hknown, hpending⟩ := hspoken rfl
      have hopen : connection.reset = false := by
        cases hr : connection.reset with
        | false => rfl
        | true => exact absurd (hreset connection (List.mem_of_getElem? hknown) hr) hpending
      have hreceived : connection.recv = some (.received connection.pending) := by
        simp [Peer.recv, hopen, hpending]
      have haccepted : httpMjpegAcceptRequest true (.received connection.pending) 256 ≠ none := by
        rw [ne_eq, acceptRequest_none_iff hreceived]
        simp [hopen, hpending]
      obtain ⟨path, hpath⟩ := Option.ne_none_iff_exists'.mp haccepted
      have hcount : g.requestCount < Gateway.requestLimit := hlimit
      refine ⟨3, { g with
        requestCount := g.requestCount + 1
        peers := g.peers.set q { connection with pending := connection.pending.drop 1023 }
        service := countIn g.service
        clients := g.clients ++ [HttpClient.start q path]
        main := .accept }, ?_, rfl, rfl, fun r hne => spoken_set rfl hne, ?_, ?_⟩
      · simp [MainRuns, TransitionSystem.exec, gateway, Gateway.step, Gateway.mainStep, hstate,
          hknown, hreceived, hpath, hcount, hcontinuous]
      · rw [hstate]
        rfl
      · simp [HttpClient.start]
  | countIn q path =>
      rw [hstate] at hmain
      obtain rfl : q = p := by simpa [MainState.inHand] using hmain
      refine ⟨2, { g with
        service := countIn g.service
        clients := g.clients ++ [HttpClient.start q path]
        main := .accept }, ?_, rfl, rfl, fun _ _ => Iff.rfl, ?_, ?_⟩
      · simp [MainRuns, TransitionSystem.exec, gateway, Gateway.step, Gateway.mainStep, hstate,
          hcontinuous]
      · rw [hstate]
        rfl
      · simp [HttpClient.start]
  | createClient q path =>
      rw [hstate] at hmain
      obtain rfl : q = p := by simpa [MainState.inHand] using hmain
      refine ⟨1, { g with clients := g.clients ++ [HttpClient.start q path], main := .accept }, ?_,
        rfl, rfl, fun _ _ => Iff.rfl, ?_, ?_⟩
      · simp [MainRuns, TransitionSystem.exec, gateway, Gateway.step, Gateway.mainStep, hstate,
          hcontinuous]
      · rw [hstate]
        rfl
      · simp [HttpClient.start]
  | start | initService | createCapture | listen | accept | join _ | out _ | joinCapture _
  | destroy _ | returned _ =>
      rw [hstate] at hmain
      cases hmain

theorem accept_next (hcontinuous : config.frameCount = 0) {p : Nat} {rest : List Nat}
    (hreach : TransitionSystem.Reachable (gateway config) g) (hmain : g.main = .accept)
    (hbacklog : g.backlog = p :: rest) (hspoken : Spoken g p)
    (hlimit : g.requestCount < Gateway.requestLimit) :
    ∃ g', TransitionSystem.RunUnder (gateway config) (OnlyServerAnd b) g g' ∧
      g'.main = .accept ∧ g'.backlog = rest ∧ (∀ q, p ≠ q → (Spoken g' q ↔ Spoken g q)) ∧
      g'.requestCount = g.requestCount + 1 ∧
      g'.clients.map HttpClient.peer = g.clients.map HttpClient.peer ++ [p] := by
  have haccept : MainRuns config 1 g { g with backlog := rest, main := .recv p } := by
    simp [MainRuns, TransitionSystem.exec, gateway, Gateway.step, Gateway.mainStep, hmain, hbacklog]
  obtain ⟨n, g', hruns, hhanded⟩ := handed_inHand (g := { g with backlog := rest, main := .recv p })
    hcontinuous rfl (fun _ => hspoken) (reachable_connections hreach).reset hlimit
  exact ⟨g', haccept.run.trans hruns.run, hhanded.main, hhanded.backlog, hhanded.spoken,
    hhanded.requestCount, hhanded.threads⟩

/-- From its accept call main works off the backlog up to `b`. -/
theorem accept_serves (hcontinuous : config.frameCount = 0) {before after : List Nat}
    (hreach : TransitionSystem.Reachable (gateway config) g) (hmain : g.main = .accept)
    (hbacklog : g.backlog = before ++ b :: after) (hspoken : ∀ p ∈ before, Spoken g p)
    (hsent : Spoken g b) (hlimit : g.requestCount + before.length < Gateway.requestLimit) :
    ∃ g', TransitionSystem.RunUnder (gateway config) (OnlyServerAnd b) g g' ∧
      HandedOver g' b := by
  induction before generalizing g with
  | nil =>
      obtain ⟨g', hrun, -, -, -, -, hthreads⟩ :=
        accept_next hcontinuous hreach hmain hbacklog hsent hlimit
      refine ⟨g', hrun, ?_⟩
      rw [handedOver_iff, hthreads]
      simp
  | cons p before ih =>
      have hnodup : (p :: (before ++ b :: after)).Nodup := by
        have hline := (reachable_connections hreach).line_nodup
        rw [Gateway.line, hmain, hbacklog] at hline
        exact hline
      have hfresh := (List.nodup_cons.mp hnodup).1
      rw [List.length_cons] at hlimit
      obtain ⟨middle, hfirst, haccept, hrest, hkept, hcount, -⟩ :=
        @accept_next config g b hcontinuous p _ hreach hmain hbacklog
          (hspoken p (List.mem_cons_self ..)) (by omega)
      have hdifferent : ∀ q ∈ before ++ [b], p ≠ q := by
        rintro q hq rfl
        apply hfresh
        cases List.mem_append.mp hq with
        | inl hbefore => exact List.mem_append_left _ hbefore
        | inr hlast => simp [List.mem_singleton.mp hlast]
      obtain ⟨g', hlater, hhanded⟩ := ih (hfirst.reachable hreach) haccept hrest
        (fun q hq => (hkept q (hdifferent q (List.mem_append_left _ hq))).mpr
          (hspoken q (List.mem_cons_of_mem p hq)))
        ((hkept b (hdifferent b (by simp))).mpr hsent) (by omega)
      exact ⟨g', hfirst.trans hlater, hhanded⟩

end Progress

/-- Nothing in front of the request of `b` keeps main from it. -/
structure Unblocked (g : Gateway) (before : List Nat) : Prop where
  serving : g.main.left = false
  spoken : ∀ p ∈ g.main.receiving ++ before, Spoken g p
  limit : g.requestCount + (g.main.receiving ++ before).length < Gateway.requestLimit

theorem unblocked_serves (hcontinuous : config.frameCount = 0) {b : Nat} {before after : List Nat}
    (hreach : TransitionSystem.Reachable (gateway config) g)
    (hbacklog : g.backlog = before ++ b :: after) (hsent : Spoken g b)
    (h : Unblocked g before) :
    ∃ g', TransitionSystem.RunUnder (gateway config) (OnlyServerAnd b) g g' ∧
      HandedOver g' b := by
  have hconnections := reachable_connections hreach
  obtain ⟨serving, spoken, limit⟩ := h
  rw [List.length_append] at limit
  have hlistening : g.listening = true := by
    cases hconnections.listening with
    | inl hnone => simp [hnone] at hbacklog
    | inr hrest =>
        cases hrest with
        | inl hopen => exact hopen
        | inr hleft => rw [hleft] at serving; cases serving
  by_cases hmain : g.main = .accept
  · exact accept_serves hcontinuous hreach hmain hbacklog
      (fun p hp => spoken p (List.mem_append_right _ hp)) hsent (by omega)
  · -- main is at work on a connection, which is not one of the backlog
    obtain ⟨p, hp⟩ : ∃ p, g.main.inHand = [p] := by
      cases hstate : g.main with
      | accept => exact absurd hstate hmain
      | recv p => exact ⟨p, rfl⟩
      | countIn p _ => exact ⟨p, rfl⟩
      | createClient p _ => exact ⟨p, rfl⟩
      | join i => exact absurd hstate (reachable_continuous hcontinuous hreach i)
      | _ => simp [Gateway.listening, hstate] at hlistening
    obtain ⟨n, middle, hruns, hhanded⟩ := @handed_inHand config g hcontinuous p hp
      (fun hreceiving => spoken p (by simp [hreceiving])) hconnections.reset (by omega)
    have hdifferent : ∀ q ∈ g.backlog, p ≠ q := by
      rintro q hq rfl
      have hnodup := (List.nodup_append.mp hconnections.nodup).2.1
      rw [hp, List.singleton_append] at hnodup
      exact (List.nodup_cons.mp hnodup).1 hq
    have hb : b ∈ g.backlog := by simp [hbacklog]
    have hfirst := @MainRuns.run config g middle b n hruns
    have hcount := hhanded.requestCount
    obtain ⟨g', hlater, hserved⟩ := accept_serves hcontinuous (hfirst.reachable hreach) hhanded.main
      (hhanded.backlog.trans hbacklog)
      (fun q hq => (hhanded.spoken q (hdifferent q (by simp [hbacklog, hq]))).mpr
        (spoken q (List.mem_append_right _ hq)))
      ((hhanded.spoken b (hdifferent b hb)).mpr hsent) (by omega)
    exact ⟨g', hfirst.trans hlater, hserved⟩

/-- In continuous mode a request that waits in the backlog can be served by the
server's threads and its own peer exactly when main is still in its loop and the
connection it reads from, and every one in front of the request, has sent something. -/
theorem waiting_request_served_iff (hcontinuous : config.frameCount = 0)
    (h : TransitionSystem.Reachable (gateway config) g) {b : Nat} {before after : List Nat}
    (hbacklog : g.backlog = before ++ b :: after) (hsent : Spoken g b) :
    (∃ g', TransitionSystem.RunUnder (gateway config) (OnlyServerAnd b) g g' ∧
        HandedOver g' b) ↔ Unblocked g before := by
  constructor
  · rintro ⟨g', hrun, hhanded⟩
    apply Classical.byContradiction
    intro hblocked
    have hconnections := reachable_connections h
    have hline : g.line = (g.main.receiving ++ before) ++ b :: after := by
      rw [Gateway.line, hbacklog, List.append_assoc]
    have hobstructed : Obstructed g b := by
      constructor
      · rw [handedOver_iff]
        intro hthread
        refine (List.nodup_append.mp hconnections.nodup).2.2 b hthread b ?_ rfl
        simp [hbacklog]
      · cases hserving : g.main.left with
        | true => exact Or.inl rfl
        | false =>
            refine Or.inr ⟨_, after, hline, ?_⟩
            by_cases hlimit : g.requestCount + (g.main.receiving ++ before).length <
                Gateway.requestLimit
            · apply Or.inl
              apply Classical.byContradiction
              intro hall
              refine hblocked ⟨hserving, fun p hp => ?_, hlimit⟩
              exact Classical.byContradiction fun hsilent => hall ⟨p, hp, hsilent⟩
            · exact Or.inr (Nat.le_of_not_lt hlimit)
    exact (obstructed_run h hobstructed hrun).waiting hhanded
  · exact unblocked_serves hcontinuous h hbacklog hsent

def getRequest (path : List UInt8) : List UInt8 :=
  ascii "GET " ++ path ++ ascii " HTTP/1.0\r\n\r\n"

/-- Two requests wait and main is in its accept call: the second one can be served. -/
theorem waiting_request_served_iff_secondInLine :
    ∃ g, TransitionSystem.Reachable (gateway streamConfig) g ∧
      (g.backlog = [0, 1] ∧ g.main = .accept ∧ Spoken g 1) ∧
      ((∃ g', TransitionSystem.RunUnder (gateway streamConfig) (OnlyServerAnd 1) g g' ∧
        HandedOver g' 1) ↔ Unblocked g [0]) ∧ Unblocked g [0] := by
  have hrun : (TransitionSystem.exec (gateway streamConfig) Gateway.init
      (startup ++ [.peer .connect, .peer .connect, .peer (.send 0 (getRequest (ascii "/stream"))),
        .peer (.send 1 (getRequest (ascii "/snapshot")))])).any
      (fun g => decide (g.backlog = [0, 1] ∧ g.main = .accept ∧ g.requestCount = 0 ∧
        (∃ connection ∈ g.peers[0]?, connection.pending ≠ []) ∧
        ∃ connection ∈ g.peers[1]?, connection.pending ≠ [])) = true := by
    decide +kernel
  obtain ⟨g, hexec, hg⟩ := TransitionSystem.exists_exec_of_any hrun
  have hreach := (TransitionSystem.Reachable.init (gateway streamConfig)).exec hexec
  obtain ⟨hbacklog, hmain, hcount, hfirst, hsecond⟩ := of_decide_eq_true hg
  refine ⟨g, hreach, ⟨hbacklog, hmain, hsecond⟩,
    @waiting_request_served_iff streamConfig g rfl hreach 1 [0] [] hbacklog hsecond, ?_⟩
  refine ⟨by rw [hmain]; rfl, fun p hp => ?_, by rw [hmain, hcount]; decide⟩
  rw [hmain] at hp
  obtain rfl : p = 0 := by simpa [MainState.receiving] using hp
  exact hfirst

/-- A peer that has connected and sends nothing keeps main in its read, and a
complete request behind it is not served without that peer. -/
theorem waiting_request_blocked_by_silent_peer :
    ¬ ∀ (config : CameraConfig) (g : Gateway) (b : Nat), config.frameCount = 0 →
      TransitionSystem.Reachable (gateway config) g → b ∈ g.backlog →
      (∃ connection path, g.peers[b]? = some connection ∧ connection.pending = getRequest path) →
      ∃ g', TransitionSystem.RunUnder (gateway config) (OnlyServerAnd b) g g' ∧
        HandedOver g' b := by
  intro claim
  have hrun : (TransitionSystem.exec (gateway streamConfig) Gateway.init
      (startup ++ [.peer .connect, .main true, .peer .connect,
        .peer (.send 1 (getRequest (ascii "/snapshot")))])).any
      (fun g => decide (g.backlog = [1] ∧ g.main = .recv 0 ∧
        (∃ connection ∈ g.peers[0]?, connection.pending = []) ∧
        ∃ connection ∈ g.peers[1]?, connection.pending = getRequest (ascii "/snapshot"))) = true := by
    decide +kernel
  obtain ⟨g, hexec, hg⟩ := TransitionSystem.exists_exec_of_any hrun
  have hreach := (TransitionSystem.Reachable.init (gateway streamConfig)).exec hexec
  obtain ⟨hbacklog, hmain, ⟨silent, hknown, hempty⟩, connection, hsecond, hrequest⟩ :=
    of_decide_eq_true hg
  obtain ⟨g', hrun, hhanded⟩ := claim streamConfig g 1 rfl hreach (by simp [hbacklog])
    ⟨connection, ascii "/snapshot", hsecond, hrequest⟩
  have hobstructed : Obstructed g 1 := by
    refine ⟨?_, Or.inr ⟨[0], [], by rw [Gateway.line, hmain, hbacklog]; rfl, Or.inl ⟨0, by simp, ?_⟩⟩⟩
    · rw [handedOver_iff]
      intro hthread
      refine (List.nodup_append.mp (reachable_connections hreach).nodup).2.2 1 hthread 1 ?_ rfl
      simp [hbacklog]
    · rintro ⟨other, hother, hpending⟩
      cases hknown.symm.trans hother
      exact hpending hempty
  exact (obstructed_run hreach hobstructed hrun).waiting hhanded

end CameraGateway
