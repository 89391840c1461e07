import CameraGateway.Metatheory.Publication

/-!
When a stream client gets the newest frame. The client compares the driver's
number of the latest frame with the number of the frame it was handed last, or
with 0; a client that is blocked in its wait has found them equal, or no frame.
-/
namespace CameraGateway
variable {config : CameraConfig} {g g' : Gateway}

/-- The published frame is newer than every frame the client has been handed. -/
def Owed (g : Gateway) (client : HttpClient) : Prop :=
  ∀ entry ∈ client.handed, entry.1 < g.published.length - 1

/-- A call of `http_service_wait_latest` by the client returns 0 with the frame. -/
def WaitDelivers (g : Gateway) (client : HttpClient) (timedOut : Bool) (address : Nat)
    (frame : Frame) : Prop :=
  ∃ out sequence,
    httpServiceWaitLatest g.service client.lastSequence timedOut (some address) =
      .returned 0 out sequence ∧ out.value = frame.value

theorem httpServiceWaitLatest_delivers {service : HttpService} {last : UInt32} (timedOut : Bool)
    (address : Nat) (hready : service.hasFrame = true) (hrunning : service.stop = false)
    (hdata : service.latest.data ≠ none) (hsize : service.latest.size ≠ 0)
    (hother : service.latest.sequence ≠ last) :
    ∃ out sequence,
      httpServiceWaitLatest service last timedOut (some address) = .returned 0 out sequence ∧
        out.value = service.latest.value := by
  have hcopy : (frameCopyAlloc service.latest (some address)).1 = 0 :=
    (frameCopyAlloc_ok_iff _ _).mpr ⟨hdata, hsize, rfl⟩
  refine ⟨_, (frameCopyAlloc service.latest (some address)).2.sequence, ?_,
    frameCopyAlloc_value hcopy⟩
  have hbeq : (service.latest.sequence == last) = false := beq_eq_false_iff_ne.mpr hother
  have hbne : (service.latest.sequence != last) = true := bne_iff_ne.mpr hother
  simp [httpServiceWaitLatest, hready, hrunning, hbeq, hbne, hcopy]

section Blocked
variable {service service' : HttpService} {client client' : HttpClient}

/-- A blocked client has nothing to fetch, and the service is not stopped. -/
def NothingNew (service : HttpService) (client : HttpClient) : Prop :=
  client.state = .blocked → service.stop = false ∧
    (service.hasFrame = true → service.latest.sequence = client.lastSequence)

theorem nothingNew_wake (service : HttpService) (client : HttpClient) :
    NothingNew service client.wake := by
  intro hblocked
  rw [HttpClient.wake] at hblocked
  split at hblocked
  · cases hblocked
  · exact absurd hblocked ‹_›

theorem nothingNew_waitStep (index : Nat) (timedOut : Bool) (malloc : Option Nat) :
    NothingNew service (client.waitStep service index timedOut malloc) := by
  intro hblocked
  rw [HttpClient.waitStep] at hblocked ⊢
  split at hblocked
  · rename_i hwaits
    revert hwaits
    fun_cases httpServiceWaitLatest service client.lastSequence timedOut malloc
    case case1 hloop =>
        intro _
        simp only [Bool.and_eq_true, Bool.not_eq_true', Bool.or_eq_true, beq_iff_eq] at hloop
        refine ⟨hloop.2.1, fun hready => ?_⟩
        exact hloop.2.2.resolve_left (by simp [hready])
    all_goals
      intro hwaits
      cases hwaits
  · split at hblocked <;> cases hblocked

theorem nothingNew_clientStep {index : Nat} {event : ClientEvent}
    (h : clientStep config service index client event = some client') :
    NothingNew service client' := by
  revert h
  fun_cases clientStep config service index client event
  case case1 malloc hstate =>
      intro h hblocked
      cases h
      rw [HttpClient.dispatch] at hblocked
      split at hblocked
      · cases hblocked
      · dsimp only at hblocked
        split at hblocked <;> cases hblocked
      · cases hblocked
      · cases hblocked
  case case2 malloc _ =>
      intro h
      cases h
      exact nothingNew_waitStep index false malloc
  case case3 malloc _ =>
      intro h
      cases h
      exact nothingNew_waitStep index true malloc
  case case5 | case6 | case7 =>
      intro h hblocked
      obtain ⟨-, -, hstate | hstate⟩ := afterSend_state h <;> simp [hstate] at hblocked
  case case13 =>
      intro h hblocked
      cases h
      split at hblocked <;> cases hblocked
  all_goals
    intro h hblocked
    cases h
    try cases hblocked

theorem NothingNew.congr (h : NothingNew service client)
    (hlatest : service'.latest = service.latest)
    (hready : service'.hasFrame = service.hasFrame) (hstop : service'.stop = service.stop) :
    NothingNew service' client := by
  intro hblocked
  rw [hlatest, hready, hstop]
  exact h hblocked

theorem nothingNew_zero (client : HttpClient) : NothingNew HttpService.zero client :=
  fun _ => ⟨rfl, nofun⟩

end Blocked

/-- The blocked clients of a state, whatever state of the run it is. -/
def BlockedClients (g : Gateway) : Prop := ∀ client ∈ g.clients, NothingNew g.service client

theorem blockedClients_main {ok : Bool} (h : BlockedClients g)
    (hs : g.mainStep config ok = some g') : BlockedClients g' := by
  intro client hclient
  have same : g'.service.latest = g.service.latest →
      g'.service.hasFrame = g.service.hasFrame → g'.service.stop = g.service.stop →
      NothingNew g'.service client := by
    intro hlatest hready hstop
    refine NothingNew.congr ?_ hlatest hready hstop
    cases mainStep_clients hs with
    | same hsame _ => exact h client (hsame ▸ hclient)
    | woken _ _ _ hwoken =>
        rw [hwoken] at hclient
        obtain ⟨before, -, rfl⟩ := List.mem_map.mp hclient
        exact nothingNew_wake g.service before
    | created peer path _ _ hcreated =>
        rw [hcreated] at hclient
        cases List.mem_append.mp hclient with
        | inl hold => exact h client hold
        | inr hnew =>
            rw [List.mem_singleton.mp hnew]
            nofun
  cases mainStep_service hs with
  | same _ hservice => exact same (by rw [hservice]) (by rw [hservice]) (by rw [hservice])
  | countedIn _ _ _ _ _ hservice =>
      exact same (by rw [hservice]; rfl) (by rw [hservice]; rfl) (by rw [hservice]; rfl)
  | countedOut _ hservice =>
      obtain ⟨hlatest, hready, hstop⟩ := countOut_kept g.service
      exact same (hservice ▸ hlatest) (hservice ▸ hready) (hservice ▸ hstop)
  | stopped _ _ _ _ hwoken =>
      rw [hwoken] at hclient
      obtain ⟨before, -, rfl⟩ := List.mem_map.mp hclient
      exact nothingNew_wake g'.service before
  | started _ _ hservice | destroyed _ _ _ hservice =>
      rw [hservice]
      exact nothingNew_zero client

theorem blockedClients_capture {event : CaptureEvent} {step : CaptureStep}
    (h : BlockedClients g) (hs : captureStep config g.service g.capture event = some step) :
    BlockedClients (g.applyCapture step) := by
  intro client hclient
  have hwoken : step.broadcast = true → NothingNew (g.applyCapture step).service client := by
    intro hbroadcast
    simp only [Gateway.applyCapture, hbroadcast, if_true] at hclient
    obtain ⟨before, -, rfl⟩ := List.mem_map.mp hclient
    exact nothingNew_wake _ before
  cases hbroadcast : step.broadcast with
  | true => exact hwoken hbroadcast
  | false =>
      cases captureStep_shared hs with
      | quiet _ _ hshared =>
          simp only [Gateway.applyCapture, hbroadcast, Bool.false_eq_true, if_false] at hclient
          exact (h client hclient).congr hshared.latest hshared.hasFrame hshared.stop
      | publishes _ _ _ _ _ _ hb => simp [hb] at hbroadcast
      | stops _ _ _ hb => simp [hb] at hbroadcast

theorem blockedClients_client {i : Nat} {event : ClientEvent} (h : BlockedClients g)
    (hs : g.stepClient config i event = some g') : BlockedClients g' := by
  obtain ⟨client, next, hclient, -, ⟨-, rfl, rfl⟩ | ⟨hstep, rfl⟩⟩ := stepClient_cases hs
  · obtain ⟨hlatest, hready, hstop⟩ := countOut_kept g.service
    intro other hother
    rcases List.mem_or_eq_of_mem_set hother with hold | rfl
    · exact (h other hold).congr hlatest hready hstop
    · nofun
  · intro other hother
    rcases List.mem_or_eq_of_mem_set hother with hold | rfl
    · exact h other hold
    · exact nothingNew_clientStep hstep

theorem blockedClients_step {action : Action} (h : BlockedClients g)
    (hs : g.step config action = some g') : BlockedClients g' := by
  cases action with
  | main ok => exact blockedClients_main h hs
  | capture event =>
      obtain ⟨step, hstep, rfl⟩ := Option.map_eq_some_iff.mp hs
      exact blockedClients_capture h hstep
  | client i event => exact blockedClients_client h hs
  | peer event =>
      obtain ⟨peers, backlog, rfl⟩ := stepPeer_frame hs
      exact h

theorem reachable_blockedClients (h : TransitionSystem.Reachable (gateway config) g) :
    BlockedClients g :=
  TransitionSystem.Reachable.invariant (I := BlockedClients)
    (by simp [BlockedClients, gateway, Gateway.init])
    (fun _ _ hi hs => blockedClients_step hi hs) h

/-- A stream client that is owed the published frame gets it exactly when the
driver numbered it differently from the frame handed out last, and from 0 if
there was none; a client that is blocked would not get it. -/
theorem stream_wait_delivers_iff (h : TransitionSystem.Reachable (gateway config) g)
    (halive : g.alive = true) (hready : g.service.hasFrame = true)
    (hrunning : g.service.stop = false) {client : HttpClient} (hclient : client ∈ g.clients)
    (hstreams : client.state.streams = true) {newest : Frame}
    (hnewest : g.published.getLast? = some newest) (timedOut : Bool) (address : Nat) :
    ((Owed g client → WaitDelivers g client timedOut address newest) ↔
        (Owed g client → newest.sequence ≠ lastSequenceOf client.handed)) ∧
      (client.state = .blocked → newest.sequence = lastSequenceOf client.handed) := by
  have hpublished := reachable_published h
  have hlatest := hpublished.newest halive
  have hvalue := hlatest.exact newest hnewest
  have hsame : g.service.latest.sequence = newest.sequence :=
    congrArg FrameValue.sequence hvalue
  have hlast := (hpublished.delivery client hclient).sequence hstreams
  obtain ⟨hdata, hsize⟩ := hlatest.stored hready
  have hiff : WaitDelivers g client timedOut address newest ↔
      newest.sequence ≠ lastSequenceOf client.handed := by
    constructor
    · rintro ⟨out, sequence, hwait, -⟩
      rcases httpServiceWaitLatest_value hwait with ⟨-, -, -, hother, -⟩ | ⟨hne, -⟩
      · rwa [hsame, hlast] at hother
      · exact absurd rfl hne
    · intro hother
      rw [← hsame, ← hlast] at hother
      obtain ⟨out, sequence, hwait, hout⟩ :=
        httpServiceWaitLatest_delivers timedOut address hready hrunning hdata hsize hother
      exact ⟨out, sequence, hwait, hout.trans hvalue⟩
  refine ⟨imp_congr_right fun _ => hiff, fun hblocked => ?_⟩
  rw [← hsame, ← hlast]
  exact (reachable_blockedClients h client hclient hblocked).2 hready

/-- A first frame with number 7 reaches the client that waits for it. -/
theorem stream_wait_delivers_iff_numberSeven :
    ∃ g client newest,
      TransitionSystem.Reachable (gateway streamConfig) g ∧
      client ∈ g.clients ∧ g.published.getLast? = some newest ∧ newest.sequence = 7 ∧
      ((Owed g client → WaitDelivers g client false 3 newest) ↔
        (Owed g client → newest.sequence ≠ lastSequenceOf client.handed)) ∧
      (client.state = .blocked → newest.sequence = lastSequenceOf client.handed) := by
  have hrun : (TransitionSystem.exec (gateway streamConfig) Gateway.init
      (startup ++ serve 0 (ascii "/stream") ++ startStream 0 ++ publishFrame 7)).any
      (fun g => decide (g.alive = true ∧ g.service.hasFrame = true ∧ g.service.stop = false ∧
        (∃ client ∈ g.clients[0]?, client.state.streams = true) ∧
        ∃ newest ∈ g.published.getLast?, newest.sequence = 7)) = true := by
    decide +kernel
  obtain ⟨g, hexec, hg⟩ := TransitionSystem.exists_exec_of_any hrun
  have hreach := (TransitionSystem.Reachable.init (gateway streamConfig)).exec hexec
  obtain ⟨halive, hready, hrunning, ⟨client, hclient, hstreams⟩, newest, hnewest, hseven⟩ :=
    of_decide_eq_true hg
  have hmem : client ∈ g.clients := List.mem_of_getElem? hclient
  exact ⟨g, client, newest, hreach, hmem, hnewest, hseven,
    stream_wait_delivers_iff hreach halive hready hrunning hmem hstreams hnewest false 3⟩

/-- A first frame with number 0 is not delivered to a client that has nothing. -/
theorem stream_wait_misses_number_zero :
    ¬ ∀ (config : CameraConfig) (g : Gateway) (client : HttpClient) (newest : Frame)
        (timedOut : Bool) (address : Nat),
      TransitionSystem.Reachable (gateway config) g → g.alive = true →
      g.service.hasFrame = true → g.service.stop = false → client ∈ g.clients →
      client.state.streams = true → g.published.getLast? = some newest → Owed g client →
      WaitDelivers g client timedOut address newest := by
  intro claim
  have hrun : (TransitionSystem.exec (gateway streamConfig) Gateway.init
      (startup ++ serve 0 (ascii "/stream") ++ startStream 0 ++ publishFrame 0)).any
      (fun g => decide (g.alive = true ∧ g.service.hasFrame = true ∧ g.service.stop = false ∧
        (∃ client ∈ g.clients[0]?, client.state.streams = true ∧ client.handed = [] ∧
          httpServiceWaitLatest g.service client.lastSequence false (some 3) = .waits) ∧
        g.published.getLast?.isSome)) = true := by
    decide +kernel
  obtain ⟨g, hexec, hg⟩ := TransitionSystem.exists_exec_of_any hrun
  have hreach := (TransitionSystem.Reachable.init (gateway streamConfig)).exec hexec
  obtain ⟨halive, hready, hrunning, ⟨client, hclient, hstreams, hnone, hwaits⟩, hsome⟩ :=
    of_decide_eq_true hg
  obtain ⟨newest, hnewest⟩ := Option.isSome_iff_exists.mp hsome
  have howed : Owed g client := by
    intro entry hentry
    simp [hnone] at hentry
  obtain ⟨out, sequence, hwait, -⟩ := claim streamConfig g client newest false 3 hreach halive
    hready hrunning (List.mem_of_getElem? hclient) hstreams hnewest howed
  rw [hwaits] at hwait
  cases hwait

end CameraGateway
