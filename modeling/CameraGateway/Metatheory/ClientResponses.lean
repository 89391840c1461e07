import CameraGateway.Metatheory.HttpResponses
import CameraGateway.Metatheory.Publication

/-!
What the socket of each client has accepted, in every state of every run. A client
thread sends one answer, or the stream of the frames it is handed; a metrics answer
shows the service at one moment of the run.
-/
namespace CameraGateway
variable {config : CameraConfig} {g g' : Gateway}

/-- The service at a moment of a run that has led to `g`. -/
def SeenService (config : CameraConfig) (g : Gateway) (service : HttpService) : Prop :=
  ∃ past, TransitionSystem.Reachable (gateway config) past ∧ past.alive = true ∧
    TransitionSystem.RunUnder (gateway config) (fun _ _ => True) past g ∧ past.service = service

def Response.message : Response → List UInt8
  | .metrics body => textHeader (ascii "200 OK") body.length ++ body
  | .unavailable =>
      let body := ascii "snapshot not ready\n"
      textHeader (ascii "503 Service Unavailable") body.length ++ body
  | .jpeg frame => jpegHeader frame.value.bytes.length ++ frame.value.bytes
  | .notFound =>
      let body := ascii "not found\n"
      textHeader (ascii "404 Not Found") body.length ++ body

def HttpClient.frames (client : HttpClient) : List (List UInt8) :=
  client.handed.map fun entry => entry.2.value.bytes

/-- The answers that a client can be given on its path. -/
inductive Answers (config : CameraConfig) (g : Gateway) (client : HttpClient) :
    Response → Prop where
  | metrics (service : HttpService) (route : httpClientRoute client.path = .metrics)
      (seen : SeenService config g service) :
      Answers config g client (.metrics (metricsBody config service))
  | unavailable (route : httpClientRoute client.path = .snapshot) (handed : client.handed = []) :
      Answers config g client .unavailable
  | jpeg (index : Nat) (frame : Frame) (route : httpClientRoute client.path = .snapshot)
      (handed : client.handed = [(index, frame)]) : Answers config g client (.jpeg frame)
  | notFound (route : httpClientRoute client.path = .notFound) :
      Answers config g client .notFound

/-- All the bytes that a client can be owed by now. -/
inductive DueAnswer (config : CameraConfig) (g : Gateway) (client : HttpClient) :
    List UInt8 → Prop where
  | answer (response : Response) (answers : Answers config g client response) :
      DueAnswer config g client response.message
  | stream (route : httpClientRoute client.path = .stream) :
      DueAnswer config g client (mjpegStream client.frames)

/-- What is on the socket, by where the client thread is. -/
def WireAt (config : CameraConfig) (g : Gateway) (client : HttpClient) : ClientState → Prop
  | .route => client.wire = [] ∧ client.handed = []
  | .respond response => client.wire = [] ∧ Answers config g client response
  | .streamHeader =>
      httpClientRoute client.path = .stream ∧ client.wire = [] ∧ client.handed = []
  | .wait | .blocked | .timedOut | .checkStop =>
      httpClientRoute client.path = .stream ∧ client.wire = mjpegStream client.frames
  | .sendFrame frame =>
      httpClientRoute client.path = .stream ∧ ∃ before index,
        client.handed = before ++ [(index, frame)] ∧
        client.wire = mjpegStream (before.map fun entry => entry.2.value.bytes)
  | .countOut | .closing | .done =>
      ∃ message, DueAnswer config g client message ∧ client.wire <+: message

section Answers

theorem message_ne_nil {header body : List UInt8} (h : contentLength body.length <:+ header) :
    [] ≠ header ++ body := by
  intro hnil
  exact header_ne_nil h (List.append_eq_nil_iff.mp hnil.symm).1

theorem textResponse_delivers (outcomes : List SendResult) (status body : List UInt8) :
    (httpMjpegSendTextResponse outcomes status body).Delivers
      (textHeader status body.length ++ body) :=
  (response_complete outcomes (textHeader_contentLength status body.length) body).toDelivers

/-- An answer goes out as far as the send gets; one that does not fit into its buffer is
not sent at all. -/
theorem Response.send_delivers (response : Response) (outcomes : List SendResult) :
    (response.send outcomes).Delivers response.message := by
  cases response with
  | metrics body =>
      rw [Response.send]
      split
      · refine ⟨List.nil_prefix, ?_⟩
        have hne : [] ≠ (Response.metrics body).message :=
          message_ne_nil (textHeader_contentLength _ body.length)
        simp [hne]
      · exact textResponse_delivers outcomes _ body
  | unavailable =>
      exact textResponse_delivers outcomes (ascii "503 Service Unavailable")
        (ascii "snapshot not ready\n")
  | jpeg frame =>
      have hlength := jpegHeader_contentLength frame.value.bytes.length
      exact (response_complete outcomes hlength frame.value.bytes).toDelivers
  | notFound =>
      exact textResponse_delivers outcomes (ascii "404 Not Found") (ascii "not found\n")

theorem afterSend_wire {client client' : HttpClient} {sent : Sent} {ok failed : ClientState}
    (h : client.afterSend sent ok failed = some client') :
    client'.wire = client.wire ++ sent.wire ∧ client'.path = client.path ∧
      client'.handed = client.handed ∧
      (sent.ret = some 0 ∧ client'.state = ok ∨ client'.state = failed) := by
  simp only [HttpClient.afterSend] at h
  split at h
  · cases h
  · rename_i ret hret
    cases h
    refine ⟨rfl, rfl, rfl, ?_⟩
    by_cases hzero : ret = 0
    · exact Or.inl ⟨hret.trans (congrArg some hzero), if_pos hzero⟩
    · exact Or.inr (if_neg hzero)

theorem mjpegStream_concat (frames : List (List UInt8)) (data : List UInt8) :
    mjpegStream (frames ++ [data]) = mjpegStream frames ++ framePart data := by
  simp [mjpegStream, Framing.stream]

end Answers

section Moves
variable {client client' : HttpClient}

/-- The rest of the run adds moments, and changes nothing of a client. -/
theorem SeenService.later {service : HttpService} (h : SeenService config g service)
    {action : Action} (hs : g.step config action = some g') : SeenService config g' service := by
  obtain ⟨past, hpast, halive, hrun, hservice⟩ := h
  exact ⟨past, hpast, halive, .step action hrun trivial hs, hservice⟩

theorem Answers.later {response : Response} (h : Answers config g client response)
    {action : Action} (hs : g.step config action = some g') :
    Answers config g' client response := by
  cases h with
  | metrics service route seen => exact .metrics service route (seen.later hs)
  | unavailable route handed => exact .unavailable route handed
  | jpeg index frame route handed => exact .jpeg index frame route handed
  | notFound route => exact .notFound route

theorem Answers.congr {response : Response} (h : Answers config g client response)
    (hpath : client'.path = client.path) (hhanded : client'.handed = client.handed) :
    Answers config g client' response := by
  cases h with
  | metrics service route seen => exact .metrics service (hpath ▸ route) seen
  | unavailable route handed => exact .unavailable (hpath ▸ route) (hhanded ▸ handed)
  | jpeg index frame route handed => exact .jpeg index frame (hpath ▸ route) (hhanded ▸ handed)
  | notFound route => exact .notFound (hpath ▸ route)

theorem DueAnswer.later {message : List UInt8} (h : DueAnswer config g client message)
    {action : Action} (hs : g.step config action = some g') :
    DueAnswer config g' client message := by
  cases h with
  | answer response answers => exact .answer response (answers.later hs)
  | stream route => exact .stream route

theorem DueAnswer.congr {message : List UInt8} (h : DueAnswer config g client message)
    (hpath : client'.path = client.path) (hhanded : client'.handed = client.handed) :
    DueAnswer config g client' message := by
  cases h with
  | answer response answers => exact .answer response (answers.congr hpath hhanded)
  | stream route =>
      have hframes : client.frames = client'.frames := by
        rw [HttpClient.frames, HttpClient.frames, hhanded]
      rw [hframes]
      exact .stream (hpath ▸ route)

theorem wireAt_ended (h : ∃ message, DueAnswer config g client message ∧ client.wire <+: message)
    (hpath : client'.path = client.path) (hhanded : client'.handed = client.handed)
    (hwire : client'.wire = client.wire) :
    ∃ message, DueAnswer config g client' message ∧ client'.wire <+: message := by
  obtain ⟨message, howed, hprefix⟩ := h
  exact ⟨message, howed.congr hpath hhanded, hwire ▸ hprefix⟩

theorem WireAt.later {state : ClientState} (h : WireAt config g client state) {action : Action}
    (hs : g.step config action = some g') : WireAt config g' client state := by
  cases state with
  | respond response => exact ⟨h.1, h.2.later hs⟩
  | countOut | closing | done =>
      obtain ⟨message, howed, hwire⟩ := h
      exact ⟨message, howed.later hs, hwire⟩
  | _ => exact h

end Moves

section Steps
variable {client client' : HttpClient} {service : HttpService} {index : Nat}

theorem wireAt_wake (h : WireAt config g client client.state) :
    WireAt config g client.wake client.wake.state := by
  rw [HttpClient.wake]
  split
  · rename_i hblocked
    rw [hblocked] at h
    exact h
  · exact h

theorem wireAt_dispatch (h : WireAt config g client .route) (malloc : Option Nat)
    (hseen : SeenService config g service) :
    let next := client.dispatch config service index malloc
    WireAt config g next next.state := by
  obtain ⟨hwire, hhanded⟩ := h
  dsimp only
  rw [HttpClient.dispatch]
  split
  · rename_i hroute
    exact ⟨hwire, .metrics service hroute hseen⟩
  · rename_i hroute
    dsimp only
    split
    · exact ⟨hwire, .unavailable hroute hhanded⟩
    · refine ⟨hwire, .jpeg index _ hroute ?_⟩
      rw [hhanded, List.nil_append]
  · rename_i hroute
    exact ⟨hroute, hwire, hhanded⟩
  · rename_i hroute
    exact ⟨hwire, .notFound hroute⟩

theorem wireAt_waitStep {timedOut : Bool} {malloc : Option Nat}
    (hroute : httpClientRoute client.path = .stream)
    (hwire : client.wire = mjpegStream client.frames) :
    let next := client.waitStep service index timedOut malloc
    WireAt config g next next.state := by
  dsimp only
  rw [HttpClient.waitStep]
  split
  · exact ⟨hroute, hwire⟩
  · rename_i ret out lastSequence _
    by_cases hret : ret = 0
    · simp only [hret, if_true]
      exact ⟨hroute, client.handed, index, rfl, hwire⟩
    · simp only [hret, if_false]
      exact ⟨hroute, hwire⟩

/-- The end of a client thread that sends an answer, whether all of it went out or not. -/
theorem wireAt_answered {response : Response} {outcomes : List SendResult}
    (h : WireAt config g client (.respond response))
    (hs : client.afterSend (response.send outcomes) .countOut .countOut = some client') :
    WireAt config g client' client'.state := by
  obtain ⟨hempty, hanswers⟩ := h
  obtain ⟨hwire, hpath, hhanded, hstate⟩ := afterSend_wire hs
  have hend : client'.state = .countOut := hstate.elim And.right id
  rw [hend]
  refine ⟨response.message, .answer response (hanswers.congr hpath hhanded), ?_⟩
  rw [hwire, hempty, List.nil_append]
  exact (response.send_delivers outcomes).wire_within

/-- The stream goes on while the part just sent went out completely. -/
theorem wireAt_streamed {sent : Sent} {before : List UInt8} {part : List UInt8}
    (hsent : sent.Delivers part) (hroute : httpClientRoute client.path = .stream)
    (hwire : client.wire = before) (hall : mjpegStream client.frames = before ++ part)
    (hs : client.afterSend sent .wait .countOut = some client') :
    WireAt config g client' client'.state := by
  obtain ⟨hwire', hpath, hhanded, hstate⟩ := afterSend_wire hs
  have hroute' : httpClientRoute client'.path = .stream := hpath ▸ hroute
  have hframes : mjpegStream client'.frames = before ++ part := by
    rw [HttpClient.frames, hhanded]
    exact hall
  cases hstate with
  | inl hok =>
      rw [hok.2]
      refine ⟨hroute', ?_⟩
      rw [hwire', hwire, hframes, hsent.ok_iff.mp hok.1]
  | inr hended =>
      rw [hended]
      refine ⟨_, .stream hroute', ?_⟩
      rw [hwire', hwire, hframes]
      exact (List.prefix_append_right_inj before).mpr hsent.wire_within

theorem wireAt_clientStep {event : ClientEvent} (h : WireAt config g client client.state)
    (hseen : client.state.usesService = true → SeenService config g service)
    (hs : clientStep config service index client event = some client') :
    WireAt config g client' client'.state := by
  revert hs
  fun_cases clientStep config service index client event
  case case1 malloc hstate =>
      intro hs
      cases hs
      exact wireAt_dispatch (hstate ▸ h) malloc (hseen (by rw [hstate]; rfl))
  case case2 malloc hstate | case3 malloc hstate =>
      intro hs
      cases hs
      rw [hstate] at h
      exact wireAt_waitStep h.1 h.2
  case case5 outcomes response hstate =>
      intro hs
      exact wireAt_answered (hstate ▸ h) hs
  case case6 outcomes hstate =>
      intro hs
      rw [hstate] at h
      obtain ⟨hroute, hwire, hhanded⟩ := h
      refine wireAt_streamed (sendAll_delivers outcomes streamHeader) hroute hwire ?_ hs
      rw [HttpClient.frames, hhanded, List.nil_append]
      exact List.append_nil streamHeader
  case case7 outcomes frame hstate =>
      intro hs
      rw [hstate] at h
      obtain ⟨hroute, before, position, hhanded, hwire⟩ := h
      refine wireAt_streamed (httpMjpegSendFrame_delivers outcomes frame.value.bytes) hroute hwire
        ?_ hs
      rw [HttpClient.frames, hhanded, List.map_append]
      exact mjpegStream_concat _ _
  case case9 hstate | case11 hstate =>
      intro hs
      cases hs
      rw [hstate] at h
      exact h
  case case13 hstate =>
      intro hs
      cases hs
      rw [hstate] at h
      split
      · refine ⟨_, .stream h.1, ?_⟩
        exact h.2 ▸ List.prefix_rfl
      · exact h
  case case14 hstate =>
      intro hs
      cases hs
      rw [hstate] at h
      exact wireAt_ended h rfl rfl rfl
  all_goals
    intro hs
    cases hs

end Steps

section Runs

theorem wireAt_thread {action : Action} {i : Nat} {client' : HttpClient}
    (hreach : TransitionSystem.Reachable (gateway config) g)
    (h : ∀ client ∈ g.clients, WireAt config g client client.state)
    (hs : g.step config action = some g') (hclient : g'.clients[i]? = some client') :
    WireAt config g client' client'.state := by
  cases step_thread hs hclient with
  | same hbefore => exact h client' (List.mem_of_getElem? hbefore)
  | woken client hbefore hafter =>
      rw [hafter]
      exact wireAt_wake (h client (List.mem_of_getElem? hbefore))
  | created peer path _ _ hafter =>
      rw [hafter]
      exact ⟨rfl, rfl⟩
  | countedOut client _ hbefore hstate hafter =>
      have hold := h client (List.mem_of_getElem? hbefore)
      rw [hstate] at hold
      rw [hafter]
      exact wireAt_ended hold rfl rfl rfl
  | stepped client event _ hbefore halive hstep =>
      refine wireAt_clientStep (h client (List.mem_of_getElem? hbefore)) ?_ hstep
      intro huses
      exact ⟨g, hreach, halive huses, .refl, rfl⟩

theorem reachable_wireAt (h : TransitionSystem.Reachable (gateway config) g) :
    ∀ client ∈ g.clients, WireAt config g client client.state := by
  refine TransitionSystem.Reachable.invariant
    (I := fun g => ∀ client ∈ g.clients, WireAt config g client client.state)
    (by simp [gateway, Gateway.init]) ?_ h
  intro g g' action hreach hg hs client hclient
  obtain ⟨i, hi⟩ := List.getElem?_of_mem hclient
  exact (wireAt_thread hreach hg hs hi).later hs

/-- The states in which a stream client has nothing more to send for now. -/
def ClientState.caughtUp : ClientState → Bool
  | .wait | .blocked | .timedOut | .checkStop => true
  | _ => false

/-- What a client's socket has accepted. -/
structure ServedExactly (config : CameraConfig) (g : Gateway) (client : HttpClient) : Prop where
  wire : client.wire = [] ∨ ∃ message, DueAnswer config g client message ∧ client.wire <+: message
  caughtUp : client.state.caughtUp = true → client.wire = mjpegStream client.frames
  frames : ∀ entry ∈ client.handed, ∃ frame,
    g.published[entry.1]? = some frame ∧ entry.2.value = frame.value
  increasing : client.handed.Pairwise fun first second => first.1 < second.1

/-- In every state of every run, a client has got the beginning of the one answer it is
owed, or of the stream of the frames it was handed: all of them while it waits for the
next. -/
theorem clients_served_exactly (h : TransitionSystem.Reachable (gateway config) g) :
    ∀ client ∈ g.clients, ServedExactly config g client := by
  intro client hclient
  have hwire := reachable_wireAt h client hclient
  have hdelivery := (reachable_published h).delivery client hclient
  refine ⟨?_, ?_, hdelivery.exact, hdelivery.increasing⟩
  · cases hstate : client.state with
    | route | respond response | streamHeader =>
        rw [hstate] at hwire
        first
        | exact Or.inl hwire.1
        | exact Or.inl hwire.2.1
    | wait | blocked | timedOut | checkStop =>
        rw [hstate] at hwire
        exact Or.inr ⟨_, .stream hwire.1, hwire.2 ▸ List.prefix_rfl⟩
    | sendFrame frame =>
        rw [hstate] at hwire
        obtain ⟨hroute, before, index, hhanded, hsent⟩ := hwire
        refine Or.inr ⟨_, .stream hroute, ?_⟩
        rw [hsent, HttpClient.frames, hhanded, List.map_append, List.map_singleton,
          mjpegStream_concat]
        exact List.prefix_append _ _
    | countOut | closing | done =>
        rw [hstate] at hwire
        exact Or.inr hwire
  · intro hcaught
    cases hstate : client.state with
    | wait | blocked | timedOut | checkStop =>
        rw [hstate] at hwire
        exact hwire.2
    | _ =>
        rw [hstate] at hcaught
        cases hcaught

/-- A stream client has been sent the first frame and is cut off in the second. -/
theorem clients_served_exactly_cutOff :
    ∃ g, TransitionSystem.Reachable (gateway streamConfig) g ∧
      (g.clients.map fun client => (client.state, client.handed.length, client.wire.length)) =
        [(.countOut, 2, 242)] ∧
      ∀ client ∈ g.clients, ServedExactly streamConfig g client := by
  have hrun : (TransitionSystem.exec (gateway streamConfig) Gateway.init
      (startup ++ serve 0 (ascii "/stream") ++ startStream 0 ++ publishFrame 7 ++
        [.client 0 (.copied (some 3)), .client 0 (.sent (List.replicate 3 (.accepted 1000))),
          .capture (.decoded none false), .capture .go, .capture (.requeued true)] ++
        publishFrame 8 ++
        [.client 0 (.copied (some 4)), .client 0 (.sent [.accepted 20, .failed])])).any
      (fun g => decide ((g.clients.map fun client =>
        (client.state, client.handed.length, client.wire.length)) =
          [(.countOut, 2, 242)])) = true := by
    decide +kernel
  obtain ⟨g, hexec, hg⟩ := TransitionSystem.exists_exec_of_any hrun
  have hreach := (TransitionSystem.Reachable.init (gateway streamConfig)).exec hexec
  exact ⟨g, hreach, of_decide_eq_true hg, clients_served_exactly hreach⟩

end Runs

end CameraGateway
