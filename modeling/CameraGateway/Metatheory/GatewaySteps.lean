import CameraGateway.Core.Gateway

/-!
What the steps of each thread can do to the parts of the gateway that the other
threads see. The invariants of the service are derived from these lemmas and do
not unfold the threads again.
-/
namespace CameraGateway
variable {config : CameraConfig} {g g' : Gateway}

section Main
variable {ok : Bool}

theorem mainStep_history (h : g.mainStep config ok = some g') :
    g'.published = g.published ∧ g'.files = g.files := by
  revert h
  fun_cases Gateway.mainStep config g ok
  all_goals
    intro h
    cases h <;> exact ⟨rfl, rfl⟩

theorem mainStep_capture (h : g.mainStep config ok = some g') :
    g'.capture = g.capture ∨ g.main = .createCapture ∧ g'.capture = .head := by
  revert h
  fun_cases Gateway.mainStep config g ok
  case case5 hmain _ =>
      intro h
      cases h
      exact Or.inr ⟨hmain, rfl⟩
  all_goals
    intro h
    cases h <;> exact Or.inl rfl

@[simp] theorem wake_handed (client : HttpClient) : client.wake.handed = client.handed := by
  rw [HttpClient.wake]
  split <;> rfl

inductive ClientsChange (config : CameraConfig) (g g' : Gateway) : Prop where
  | same (clients : g'.clients = g.clients) (join : ∀ i, g'.main ≠ .join i)
  | woken (result : Int) (main : g.main = .out result) (next : g'.main = .joinCapture result)
      (clients : g'.clients = g.clients.map HttpClient.wake)
  | created (peer : Nat) (path : List UInt8) (main : g.main = .createClient peer path)
      (next : g'.main = if config.frameCount = 0 then .accept else .join g.clients.length)
      (clients : g'.clients = g.clients ++ [HttpClient.start peer path])

theorem mainStep_clients (h : g.mainStep config ok = some g') : ClientsChange config g g' := by
  revert h
  fun_cases Gateway.mainStep config g ok
  case case2 | case7 =>
      intro h
      cases ok <;> (cases h; exact .same rfl nofun)
  case case18 peer path hmain _ =>
      intro h
      cases h
      exact .created peer path hmain rfl rfl
  case case22 result hmain _ =>
      intro h
      cases h
      exact .woken result hmain rfl rfl
  all_goals
    intro h
    cases h <;> exact .same rfl nofun

/-- What a step of main does to the service: it writes only the client counters
and the stop flag of a live one. -/
inductive ServiceChange (g g' : Gateway) : Prop where
  | same (alive : g'.alive = g.alive) (service : g'.service = g.service)
  | countedIn (peer : Nat) (path : List UInt8) (main : g.main = .countIn peer path)
      (next : g'.main = .createClient peer path) (alive : g'.alive = g.alive)
      (service : g'.service = countIn g.service)
  | countedOut (alive : g'.alive = g.alive) (service : g'.service = countOut g.service)
  | stopped (result : Int) (main : g.main = .out result) (alive : g'.alive = g.alive)
      (service : g'.service = httpServiceStop g.service)
      (clients : g'.clients = g.clients.map HttpClient.wake)
  | started (main : g.main = .initService) (alive : g'.alive = true)
      (service : g'.service = HttpService.zero)
  | destroyed (result : Int) (main : g.main = .destroy result) (alive : g'.alive = false)
      (service : g'.service = HttpService.zero)

theorem mainStep_service (h : g.mainStep config ok = some g') : ServiceChange g g' := by
  revert h
  fun_cases Gateway.mainStep config g ok
  case case3 hmain _ =>
      intro h
      cases h
      exact .started hmain rfl rfl
  case case16 peer path hmain _ =>
      intro h
      cases h
      exact .countedIn peer path hmain rfl rfl rfl
  case case19 =>
      intro h
      cases h
      exact .countedOut rfl rfl
  case case22 result hmain _ =>
      intro h
      cases h
      exact .stopped result hmain rfl rfl rfl
  case case27 result hmain _ =>
      intro h
      cases h
      exact .destroyed result hmain rfl rfl
  all_goals
    intro h
    cases h <;> exact .same rfl rfl

theorem countOut_kept (service : HttpService) :
    (countOut service).latest = service.latest ∧
      (countOut service).hasFrame = service.hasFrame ∧ (countOut service).stop = service.stop := by
  rw [countOut]
  split <;> exact ⟨rfl, rfl, rfl⟩

/-- Main publishes nothing: it leaves the latest frame as it is, or the service is
new or gone. -/
theorem ServiceChange.latest (h : ServiceChange g g') :
    g'.alive = g.alive ∧ g'.service.latest = g.service.latest ∧
        g'.service.hasFrame = g.service.hasFrame ∨
      g.main = .initService ∧ g'.service = HttpService.zero ∨ g'.alive = false := by
  cases h with
  | same alive service | countedIn _ _ _ _ alive service | stopped _ _ alive service _ =>
      refine Or.inl ⟨alive, ?_, ?_⟩ <;> rw [service] <;> rfl
  | countedOut alive service =>
      obtain ⟨hlatest, hready, -⟩ := countOut_kept g.service
      exact Or.inl ⟨alive, service ▸ hlatest, service ▸ hready⟩
  | started main _ service => exact Or.inr (Or.inl ⟨main, service⟩)
  | destroyed _ _ alive _ => exact Or.inr (Or.inr alive)

theorem mainStep_unstarted (h : g.mainStep config ok = some g')
    (hmain : g'.main = .start ∨ g'.main = .initService) : g.main = .start ∧ g'.alive = g.alive := by
  revert h hmain
  fun_cases Gateway.mainStep config g ok
  case case2 hstart _ =>
      intro h hmain
      cases h
      exact ⟨hstart, rfl⟩
  case case7 | case18 =>
      intro h hmain
      cases h
      split at hmain <;> simp at hmain
  all_goals
    intro h hmain
    cases h <;> simp at hmain

theorem mainStep_setup (h : g.mainStep config ok = some g')
    (hmain : g'.main = .start ∨ g'.main = .initService ∨ g'.main = .createCapture) :
    (g.main = .start ∨ g.main = .initService) ∧ g'.capture = g.capture ∧
      g'.clients = g.clients := by
  revert h hmain
  fun_cases Gateway.mainStep config g ok
  case case2 hstart _ =>
      intro h _
      cases h
      exact ⟨Or.inl hstart, rfl, rfl⟩
  case case3 hinit _ =>
      intro h _
      cases h
      exact ⟨Or.inr hinit, rfl, rfl⟩
  case case7 | case18 =>
      intro h hmain
      cases h
      split at hmain <;> simp at hmain
  all_goals
    intro h hmain
    cases h <;> simp at hmain

end Main

section Capture
variable {service : HttpService} {state : CaptureState} {event : CaptureEvent}
  {step : CaptureStep}

/-- The fields that the capture thread leaves to publication, stop and clients. -/
structure SameShared (service service' : HttpService) : Prop where
  latest : service'.latest = service.latest
  hasFrame : service'.hasFrame = service.hasFrame
  stop : service'.stop = service.stop
  connected : service'.connectedClients = service.connectedClients
  total : service'.totalClients = service.totalClients

theorem SameShared.refl (service : HttpService) : SameShared service service :=
  ⟨rfl, rfl, rfl, rfl, rfl⟩

theorem SameShared.trans {first second third : HttpService} (h : SameShared first second)
    (h' : SameShared second third) : SameShared first third :=
  ⟨h'.latest.trans h.latest, h'.hasFrame.trans h.hasFrame, h'.stop.trans h.stop,
    h'.connected.trans h.connected, h'.total.trans h.total⟩

theorem sameShared_countLcd (service : HttpService) (display : Bool) (ret : Int) :
    SameShared service (countLcd service display ret) := by
  rw [countLcd]
  split
  · exact ⟨rfl, rfl, rfl, rfl, rfl⟩
  · split
    · exact ⟨rfl, rfl, rfl, rfl, rfl⟩
    · exact SameShared.refl service

theorem sameShared_countSnapshot (service : HttpService) (written : Bool) :
    SameShared service (countSnapshot service written) := by
  cases written <;> exact ⟨rfl, rfl, rfl, rfl, rfl⟩

theorem sameShared_resizeBaseline (service : HttpService) (picture : Picture) :
    SameShared service (resizeBaseline service picture) := by
  rw [resizeBaseline]
  split
  · exact ⟨rfl, rfl, rfl, rfl, rfl⟩
  · exact SameShared.refl service

/-- Drawing publishes nothing, and it does not end the thread. -/
theorem drawStep_shared (config : CameraConfig) (service : HttpService) (frame : Frame)
    (picture : Option Picture) (malloc : Bool) :
    (drawStep config service frame picture malloc).published = none ∧
      (drawStep config service frame picture malloc).next ≠ .ended ∧
      SameShared service (drawStep config service frame picture malloc).service := by
  fun_cases drawStep config service frame picture malloc
  case case3 picture _ service' hmotion =>
      have hresize := sameShared_resizeBaseline service picture
      simp only [motionBlock] at hmotion
      split at hmotion
      · cases hmotion
        exact ⟨rfl, nofun, hresize.trans ⟨rfl, rfl, rfl, rfl, rfl⟩⟩
      · simp at hmotion
  case case4 picture _ service' result event hmotion =>
      have hresize := sameShared_resizeBaseline service picture
      simp only [motionBlock] at hmotion
      split at hmotion
      · simp at hmotion
      · cases hmotion
        exact ⟨rfl, nofun, hresize.trans ⟨rfl, rfl, rfl, rfl, rfl⟩⟩
  all_goals exact ⟨rfl, nofun, SameShared.refl service⟩

/-- A step of the capture thread publishes, ends the thread, or does neither. -/
inductive SharedChange (service : HttpService) (state : CaptureState) (event : CaptureEvent)
    (step : CaptureStep) : Prop where
  | quiet (published : step.published = none) (next : step.next ≠ .ended)
      (shared : SameShared service step.service)
  | publishes (frame : Frame) (malloc : Option Nat) (state : state = .publish frame)
      (event : event = .copied malloc) (published : step.published = some frame)
      (next : step.next = .draw frame) (broadcast : step.broadcast = true)
      (updated : httpServiceUpdateLatest service frame malloc = (0, step.service))
  | stops (state : state = .stopping) (published : step.published = none)
      (next : step.next = .ended) (broadcast : step.broadcast = true)
      (service : step.service = httpServiceStop service)

theorem captureStep_shared (h : captureStep config service state event = some step) :
    SharedChange service state event step := by
  have quiet : ∀ {next : CaptureState} {service' : HttpService} {broadcast file},
      SameShared service service' →
      some (CaptureStep.mk next service' broadcast none file) = some step → next ≠ .ended →
      SharedChange service state event step := by
    intro next service' broadcast file hshared hstep hnext
    cases hstep
    exact .quiet rfl hnext hshared
  have same : SameShared service service := SameShared.refl service
  have counted : SameShared service (markFailed service) := ⟨rfl, rfl, rfl, rfl, rfl⟩
  revert h quiet
  fun_cases captureStep config service state event
  case case1 =>
      intro h quiet
      split at h
      · exact quiet same h nofun
      · exact quiet same h nofun
  case case9 frame malloc updated hok =>
      intro h _
      cases h
      have hret : updated.1 = 0 := by simpa using hok
      exact .publishes frame malloc rfl rfl rfl rfl rfl (Prod.ext hret rfl)
  case case10 frame picture malloc =>
      intro h _
      cases h
      obtain ⟨hnone, hnext, hshared⟩ := drawStep_shared config service frame picture malloc
      exact .quiet hnone hnext hshared
  case case15 frame eventId calls stored =>
      intro h quiet
      refine quiet ?_ h nofun
      exact storeSnapshot_service service frame.value.bytes calls same
        (sameShared_countSnapshot service calls.written)
  case case16 ret =>
      intro h quiet
      exact quiet (sameShared_countLcd service config.fbPreview ret) h nofun
  case case18 ok =>
      intro h quiet
      cases ok with
      | true => exact quiet same h nofun
      | false => exact quiet counted h nofun
  case case19 =>
      intro h _
      cases h
      exact .stops rfl rfl rfl rfl rfl
  case case20 =>
      intro h _
      cases h
  all_goals
    intro h _
    cases h
    exact .quiet rfl nofun ⟨rfl, rfl, rfl, rfl, rfl⟩

end Capture

section Client
variable {service : HttpService} {index : Nat} {client client' : HttpClient}
  {event : ClientEvent}

theorem httpServiceCopyLatest_value {malloc : Option Nat}
    (h : (httpServiceCopyLatest service malloc).1 = 0) :
    service.hasFrame = true ∧
      (httpServiceCopyLatest service malloc).2.value = service.latest.value := by
  cases hframe : service.hasFrame with
  | false => simp [httpServiceCopyLatest, hframe] at h
  | true =>
      simp only [httpServiceCopyLatest, hframe, if_true] at h ⊢
      exact ⟨trivial, frameCopyAlloc_value h⟩

theorem httpServiceWaitLatest_value {last sequence : UInt32} {timedOut : Bool}
    {malloc : Option Nat} {ret : Int} {out : Frame}
    (h : httpServiceWaitLatest service last timedOut malloc = .returned ret out sequence) :
    ret = 0 ∧ service.stop = false ∧ service.hasFrame = true ∧ service.latest.sequence ≠ last ∧
        out.value = service.latest.value ∧ sequence = out.sequence ∨
      ret ≠ 0 ∧ sequence = last := by
  revert h
  fun_cases httpServiceWaitLatest service last timedOut malloc
  case case1 =>
      intro h
      cases h
  case case2 hready copy hcopy =>
      intro h
      cases h
      simp only [Bool.and_eq_true, Bool.not_eq_true', bne_iff_ne, ne_eq] at hready
      exact Or.inl ⟨rfl, hready.1.1, hready.1.2, hready.2, frameCopyAlloc_value hcopy, rfl⟩
  all_goals
    intro h
    cases h
    exact Or.inr ⟨by decide, rfl⟩

/-- The states before the handler is known and those of the stream handler. -/
def ClientState.streams : ClientState → Bool
  | .route | .streamHeader | .wait | .blocked | .timedOut | .checkStop | .sendFrame _ => true
  | _ => false

theorem afterSend_state {sent : Sent} {ok failed : ClientState}
    (h : client.afterSend sent ok failed = some client') :
    client'.handed = client.handed ∧ client'.lastSequence = client.lastSequence ∧
      (client'.state = ok ∨ client'.state = failed) := by
  simp only [HttpClient.afterSend] at h
  split at h
  · simp at h
  · cases h
    refine ⟨rfl, rfl, ?_⟩
    show (if _ then ok else failed) = ok ∨ (if _ then ok else failed) = failed
    split
    · exact Or.inl rfl
    · exact Or.inr rfl

/-- What a step does to the frames a client has been handed. -/
inductive HandedChange (service : HttpService) (index : Nat) (client client' : HttpClient) :
    Prop where
  | same (handed : client'.handed = client.handed)
      (sequence : client'.lastSequence = client.lastSequence)
      (streams : client'.state.streams = true → client.state.streams = true)
  | snapshot (frame : Frame) (before : client.state = .route)
      (route : httpClientRoute client.path = .snapshot)
      (handed : client'.handed = client.handed ++ [(index, frame)])
      (ready : service.hasFrame = true) (value : frame.value = service.latest.value)
      (streams : client'.state.streams = false)
  | streamed (frame : Frame) (before : client.state = .wait ∨ client.state = .timedOut)
      (handed : client'.handed = client.handed ++ [(index, frame)])
      (running : service.stop = false) (ready : service.hasFrame = true)
      (other : service.latest.sequence ≠ client.lastSequence)
      (value : frame.value = service.latest.value)
      (sequence : client'.lastSequence = frame.sequence)

theorem waitStep_handed (timedOut : Bool) (malloc : Option Nat)
    (before : client.state = .wait ∨ client.state = .timedOut) :
    HandedChange service index client (client.waitStep service index timedOut malloc) ∧
      (client.waitStep service index timedOut malloc).state ≠ .route := by
  have hstreams : client.state.streams = true := by
    rcases before with h | h <;> rw [h] <;> rfl
  rw [HttpClient.waitStep]
  split
  · exact ⟨.same rfl rfl fun _ => hstreams, nofun⟩
  · rename_i ret out sequence hwait
    split
    · rename_i hret
      cases httpServiceWaitLatest_value hwait with
      | inl hcopied =>
          obtain ⟨-, hstop, hready, hother, hvalue, hseq⟩ := hcopied
          exact ⟨.streamed out before rfl hstop hready hother hvalue hseq, nofun⟩
      | inr hnothing => exact absurd hret hnothing.1
    · rename_i hret
      cases httpServiceWaitLatest_value hwait with
      | inl hcopied => exact absurd hcopied.1 hret
      | inr hnothing => exact ⟨.same rfl hnothing.2 fun _ => hstreams, nofun⟩

theorem dispatch_handed (malloc : Option Nat) (before : client.state = .route) :
    HandedChange service index client (client.dispatch config service index malloc) ∧
      (client.dispatch config service index malloc).state ≠ .route := by
  have hstreams : client.state.streams = true := by rw [before]; rfl
  rw [HttpClient.dispatch]
  split
  · exact ⟨.same rfl rfl fun _ => hstreams, nofun⟩
  · rename_i hroute
    by_cases hcopy : (httpServiceCopyLatest service malloc).1 = 0
    · obtain ⟨hready, hvalue⟩ := httpServiceCopyLatest_value hcopy
      simp only [hcopy, ne_eq, not_true_eq_false, if_false]
      exact ⟨.snapshot _ before hroute rfl hready hvalue rfl, nofun⟩
    · simp only [ne_eq, hcopy, not_false_eq_true, if_true]
      exact ⟨.same rfl rfl fun _ => hstreams, nofun⟩
  · exact ⟨.same rfl rfl fun _ => hstreams, nofun⟩
  · exact ⟨.same rfl rfl fun _ => hstreams, nofun⟩

theorem clientStep_handed (h : clientStep config service index client event = some client') :
    HandedChange service index client client' ∧ client'.state ≠ .route := by
  revert h
  fun_cases clientStep config service index client event
  case case1 malloc hstate =>
      intro h
      cases h
      exact dispatch_handed malloc hstate
  case case2 malloc hstate =>
      intro h
      cases h
      exact waitStep_handed false malloc (Or.inl hstate)
  case case3 malloc hstate =>
      intro h
      cases h
      exact waitStep_handed true malloc (Or.inr hstate)
  case case5 =>
      intro h
      obtain ⟨hhanded, hsequence, hstate | hstate⟩ := afterSend_state h
      all_goals exact ⟨.same hhanded hsequence (by simp [hstate, ClientState.streams]),
        by simp [hstate]⟩
  case case6 hbefore | case7 hbefore =>
      intro h
      obtain ⟨hhanded, hsequence, hstate | hstate⟩ := afterSend_state h
      all_goals exact ⟨.same hhanded hsequence fun _ => by rw [hbefore]; rfl, by simp [hstate]⟩
  case case9 hbefore | case11 hbefore =>
      intro h
      cases h
      exact ⟨.same rfl rfl fun _ => by rw [hbefore]; rfl, nofun⟩
  case case13 hbefore =>
      intro h
      cases h
      split <;> exact ⟨.same rfl rfl fun _ => by rw [hbefore]; rfl, nofun⟩
  case case14 =>
      intro h
      cases h
      exact ⟨.same rfl rfl nofun, nofun⟩
  all_goals
    intro h
    cases h

/-- A step of client thread `i`: its last step on the service, or one that only
reads the service. -/
theorem stepClient_cases {i : Nat} (h : g.stepClient config i event = some g') :
    ∃ client client', g.clients[i]? = some client ∧
      (client.state.usesService = true → g.alive = true) ∧
      (client.state = .countOut ∧ client' = client.goto .closing ∧
          g' = { g with service := countOut g.service, clients := g.clients.set i client' } ∨
        clientStep config g.service (g.published.length - 1) client event = some client' ∧
          g' = { g with clients := g.clients.set i client' }) := by
  rw [Gateway.stepClient] at h
  split at h
  · cases h
  · rename_i client hclient
    split at h
    · cases h
    · rename_i hguard
      have halive : client.state.usesService = true → g.alive = true := by
        intro huses
        simpa [huses] using hguard
      split at h
      · rename_i hcount
        cases h
        exact ⟨client, _, hclient, halive, Or.inl ⟨hcount.1, rfl, rfl⟩⟩
      · obtain ⟨client', hstep, rfl⟩ := Option.map_eq_some_iff.mp h
        exact ⟨client, client', hclient, halive, Or.inr ⟨hstep, rfl⟩⟩

/-- The parts of the gateway that the client threads leave as they are. -/
structure ClientFrame (g g' : Gateway) : Prop where
  main : g'.main = g.main
  capture : g'.capture = g.capture
  alive : g'.alive = g.alive
  requestCount : g'.requestCount = g.requestCount
  published : g'.published = g.published
  latest : g'.service.latest = g.service.latest
  hasFrame : g'.service.hasFrame = g.service.hasFrame
  stop : g'.service.stop = g.service.stop
  length : g'.clients.length = g.clients.length

theorem stepClient_frame {i : Nat} (h : g.stepClient config i event = some g') :
    ClientFrame g g' := by
  obtain ⟨_, _, -, -, hcases⟩ := stepClient_cases h
  cases hcases with
  | inl hcount =>
      obtain ⟨-, -, rfl⟩ := hcount
      obtain ⟨hlatest, hready, hstop⟩ := countOut_kept g.service
      exact ⟨rfl, rfl, rfl, rfl, rfl, hlatest, hready, hstop, List.length_set⟩
  | inr hstep =>
      obtain ⟨-, rfl⟩ := hstep
      exact ⟨rfl, rfl, rfl, rfl, rfl, rfl, rfl, rfl, List.length_set⟩

end Client

section Network

theorem stepPeer_frame {event : PeerEvent} (h : g.stepPeer event = some g') :
    ∃ peers backlog, g' = { g with peers := peers, backlog := backlog } := by
  have update : ∀ {i : Nat} {f : Peer → Peer}, g.updatePeer i f = some g' →
      ∃ peers backlog, g' = { g with peers := peers, backlog := backlog } := by
    intro i f hf
    obtain ⟨peer, -, rfl⟩ := Option.map_eq_some_iff.mp hf
    exact ⟨_, _, rfl⟩
  cases event with
  | connect =>
      rw [Gateway.stepPeer] at h
      split at h
      · cases h
        exact ⟨_, _, rfl⟩
      · cases h
  | send i bytes => exact update h
  | close i => exact update h
  | reset i => exact update h

end Network

section Threads

inductive ThreadChange (config : CameraConfig) (g : Gateway) (action : Action) (i : Nat)
    (client' : HttpClient) : Prop where
  | same (before : g.clients[i]? = some client')
  | woken (client : HttpClient) (before : g.clients[i]? = some client)
      (after : client' = client.wake)
  | created (peer : Nat) (path : List UInt8) (main : g.main = .createClient peer path)
      (fresh : i = g.clients.length) (after : client' = HttpClient.start peer path)
  | countedOut (client : HttpClient) (label : action = .client i .go)
      (before : g.clients[i]? = some client) (state : client.state = .countOut)
      (after : client' = client.goto .closing)
  | stepped (client : HttpClient) (event : ClientEvent) (label : action = .client i event)
      (before : g.clients[i]? = some client)
      (alive : client.state.usesService = true → g.alive = true)
      (step : clientStep config g.service (g.published.length - 1) client event = some client')

variable {action : Action} {i : Nat} {client' : HttpClient}

theorem threadChange_woken (hclient : (g.clients.map HttpClient.wake)[i]? = some client') :
    ThreadChange config g action i client' := by
  rw [List.getElem?_map, Option.map_eq_some_iff] at hclient
  obtain ⟨client, hbefore, hafter⟩ := hclient
  exact .woken client hbefore hafter.symm

theorem threadChange_main {ok : Bool} (hs : g.mainStep config ok = some g')
    (hclient : g'.clients[i]? = some client') : ThreadChange config g (.main ok) i client' := by
  cases mainStep_clients hs with
  | same hsame _ => exact .same (hsame ▸ hclient)
  | woken _ _ _ hwoken => exact threadChange_woken (hwoken ▸ hclient)
  | created peer path hmain _ hcreated =>
      rw [hcreated] at hclient
      by_cases hi : i < g.clients.length
      · rw [List.getElem?_append_left hi] at hclient
        exact .same hclient
      · have hlt := (List.getElem?_eq_some_iff.mp hclient).1
        rw [List.length_append, List.length_singleton] at hlt
        have hlast : i = g.clients.length := by omega
        subst hlast
        rw [List.getElem?_concat_length, Option.some.injEq] at hclient
        exact .created peer path hmain rfl hclient.symm

theorem threadChange_client {j : Nat} {event : ClientEvent}
    (hs : g.stepClient config j event = some g') (hclient : g'.clients[i]? = some client') :
    ThreadChange config g (.client j event) i client' := by
  rw [Gateway.stepClient] at hs
  split at hs
  · cases hs
  · rename_i client hbefore
    have hlt := (List.getElem?_eq_some_iff.mp hbefore).1
    split at hs
    · cases hs
    · rename_i hguard
      have halive : client.state.usesService = true → g.alive = true := by
        intro huses
        simpa [huses] using hguard
      split at hs
      · rename_i hcount
        cases hs
        by_cases hij : j = i
        · subst hij
          rw [List.getElem?_set_self hlt, Option.some.injEq] at hclient
          exact .countedOut client (by rw [hcount.2]) hbefore hcount.1 hclient.symm
        · rw [List.getElem?_set_ne hij] at hclient
          exact .same hclient
      · obtain ⟨next, hstep, rfl⟩ := Option.map_eq_some_iff.mp hs
        by_cases hij : j = i
        · subst hij
          rw [List.getElem?_set_self hlt, Option.some.injEq] at hclient
          exact .stepped client event rfl hbefore halive (hclient ▸ hstep)
        · rw [List.getElem?_set_ne hij] at hclient
          exact .same hclient

theorem step_thread (hs : g.step config action = some g')
    (hclient : g'.clients[i]? = some client') : ThreadChange config g action i client' := by
  cases action with
  | main ok => exact threadChange_main hs hclient
  | capture event =>
      obtain ⟨step, -, rfl⟩ := Option.map_eq_some_iff.mp hs
      simp only [Gateway.applyCapture] at hclient
      split at hclient
      · exact threadChange_woken hclient
      · exact .same hclient
  | client j event => exact threadChange_client hs hclient
  | peer event =>
      obtain ⟨peers, backlog, rfl⟩ := stepPeer_frame hs
      exact .same hclient

end Threads

end CameraGateway
