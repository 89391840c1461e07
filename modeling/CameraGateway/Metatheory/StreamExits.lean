import CameraGateway.Metatheory.AcceptLoop

/-!
Why a client thread leaves the loop of the stream handler. After a wait that has failed
it looks at the flags `stop` and `failed`. The capture thread raises `failed` on its way
out of its loop, and also when the frame copy of a publication fails, after which it
goes on capturing. A client that looks at the flags after such a copy leaves for it.
-/
namespace CameraGateway
variable {config : CameraConfig} {g g' : Gateway}

/-- The capture thread is on its way out or has ended. -/
def CaptureState.leaving : CaptureState → Bool
  | .stopping | .ended => true
  | _ => false

def copyFails (service : HttpService) : CaptureState → CaptureEvent → Bool
  | .publish frame, .copied malloc => decide ((httpServiceUpdateLatest service frame malloc).1 ≠ 0)
  | _, _ => false

def Gateway.copyFails (g : Gateway) : Action → Bool
  | .capture event => CameraGateway.copyFails g.service g.capture event
  | _ => false

section Flag
variable {service : HttpService} {state : CaptureState} {event : CaptureEvent}
  {step : CaptureStep}

/-- What a step of the capture thread does to `failed`. -/
inductive FlagChange (service : HttpService) (state : CaptureState) (event : CaptureEvent)
    (step : CaptureStep) : Prop where
  | kept (copied : copyFails service state event = false)
      (failed : step.service.failed = service.failed)
      (leaving : state.leaving = true → step.next.leaving = true)
  | leaves (copied : copyFails service state event = false)
      (failed : step.service.failed = true) (leaving : step.next.leaving = true)
  | copyFailed (copied : copyFails service state event = true)
      (failed : step.service.failed = true)

theorem resizeBaseline_failed (service : HttpService) (picture : Picture) :
    (resizeBaseline service picture).failed = service.failed := by
  rw [resizeBaseline]
  split <;> rfl

theorem drawStep_failed (config : CameraConfig) (service : HttpService) (frame : Frame)
    (picture : Option Picture) (malloc : Bool) :
    (drawStep config service frame picture malloc).service.failed = service.failed := by
  fun_cases drawStep config service frame picture malloc
  case case3 picture _ service' hmotion =>
      simp only [motionBlock] at hmotion
      split at hmotion
      · cases hmotion
        exact resizeBaseline_failed service picture
      · cases hmotion
  case case4 picture _ service' result event hmotion =>
      simp only [motionBlock] at hmotion
      split at hmotion
      · cases hmotion
      · cases hmotion
        exact resizeBaseline_failed service picture
  all_goals rfl

theorem countLcd_failed (service : HttpService) (display : Bool) (ret : Int) :
    (countLcd service display ret).failed = service.failed := by
  rw [countLcd]
  split
  · rfl
  · split <;> rfl

theorem countSnapshot_failed (service : HttpService) (written : Bool) :
    (countSnapshot service written).failed = service.failed := by
  cases written <;> rfl

theorem captureStep_flag (h : captureStep config service state event = some step) :
    FlagChange service state event step := by
  have running : false = true → step.next.leaving = true := fun h => absurd h Bool.false_ne_true
  revert h
  fun_cases captureStep config service state event
  case case1 =>
      intro h
      split at h <;> (cases h; exact .kept rfl rfl running)
  case case2 | case5 =>
      intro h
      cases h
      exact .leaves rfl rfl rfl
  case case8 frame malloc updated hfailed =>
      intro h
      cases h
      exact .copyFailed (decide_eq_true hfailed) rfl
  case case9 frame malloc updated hok =>
      intro h
      cases h
      refine .kept (decide_eq_false hok) ?_ running
      show (httpServiceUpdateLatest service frame malloc).2.failed = service.failed
      rw [httpServiceUpdateLatest]
      split <;> rfl
  case case10 frame picture malloc =>
      intro h
      cases h
      exact .kept rfl (drawStep_failed config service frame picture malloc) running
  case case15 frame eventId calls stored =>
      intro h
      cases h
      exact .kept rfl (storeSnapshot_keeps service _ calls (countSnapshot_failed service)) running
  case case16 ret =>
      intro h
      cases h
      exact .kept rfl (countLcd_failed service config.fbPreview ret) running
  case case18 ok =>
      intro h
      cases ok with
      | true =>
          cases h
          exact .kept rfl rfl running
      | false =>
          cases h
          exact .leaves rfl rfl rfl
  case case19 =>
      intro h
      cases h
      exact .kept rfl rfl fun _ => rfl
  case case20 =>
      intro h
      cases h
  all_goals
    intro h
    cases h
    exact .kept rfl rfl running

theorem countOut_failed (service : HttpService) :
    (countOut service).failed = service.failed := by
  rw [countOut]
  split <;> rfl

/-- Main leaves the flag as it is, or the service is new or gone. -/
theorem ServiceChange.failed (h : ServiceChange g g') :
    g'.alive = g.alive ∧ g'.service.failed = g.service.failed ∨
      (g.main = .initService ∨ g'.alive = false) ∧ g'.service.failed = false := by
  cases h with
  | same alive service | countedIn _ _ _ _ alive service | stopped _ _ alive service _ =>
      exact .inl ⟨alive, (congrArg HttpService.failed service).trans rfl⟩
  | countedOut alive service =>
      exact .inl ⟨alive, (congrArg HttpService.failed service).trans (countOut_failed g.service)⟩
  | started main _ service => exact .inr ⟨.inl main, congrArg HttpService.failed service⟩
  | destroyed _ _ alive service =>
      exact .inr ⟨.inr alive, congrArg HttpService.failed service⟩

end Flag

section Watch

/-- A client thread leaves the loop in this state, with this outcome of its calls. -/
structure StreamExit where
  gateway : Gateway
  client : HttpClient
  event : ClientEvent

def ClientState.inStreamLoop : ClientState → Bool
  | .wait | .blocked | .timedOut | .checkStop | .sendFrame _ => true
  | _ => false

def streamExit (config : CameraConfig) (g : Gateway) : Action → Option StreamExit
  | .client i event =>
      match g.clients[i]? with
      | none => none
      | some client =>
          match clientStep config g.service (g.published.length - 1) client event with
          | none => none
          | some next =>
              if client.state.inStreamLoop && !next.state.inStreamLoop then
                some { gateway := g, client := client, event := event }
              else none
  | _ => none

/-- The history of a run: whether a frame copy has failed, and who has left the loop. -/
structure StreamWatch where
  copyFailed : Bool
  exits : List StreamExit

def watchStreams (config : CameraConfig) (g : Gateway) (action : Action) (watch : StreamWatch) :
    StreamWatch :=
  { copyFailed := watch.copyFailed || g.copyFails action
    exits := watch.exits ++ (streamExit config g action).toList }

def streamGateway (config : CameraConfig) :
    TransitionSystem.System (Gateway × StreamWatch) Action :=
  (gateway config).observe { copyFailed := false, exits := [] } (watchStreams config)

/-- A send to this client has failed, the service has been stopped, or the capture thread has
ended or is about to. -/
inductive StreamExit.Justified (exit : StreamExit) : Prop where
  | sendFailed (frame : Frame) (outcomes : List SendResult) (ret : Int)
      (state : exit.client.state = .sendFrame frame) (event : exit.event = .sent outcomes)
      (sent : (httpMjpegSendFrame outcomes frame.value.bytes).ret = some ret) (failed : ret ≠ 0)
  | stopped (stop : exit.gateway.service.stop = true)
  | captureLeaves (capture : exit.gateway.capture.leaving = true)

/-- A client that looks at the flags after a failed copy finds more than that. -/
def Spared (s : Gateway × StreamWatch) (action : Action) : Prop :=
  ∀ i client, action = .client i .go → s.1.clients[i]? = some client →
    client.state = .checkStop → s.2.copyFailed = true →
      s.1.service.stop = true ∨ s.1.capture.leaving = true

end Watch

section Exits
variable {service : HttpService} {index : Nat} {client client' : HttpClient}
  {event : ClientEvent}

/-- The loop is left after a send that has failed, or by the flags. -/
theorem clientStep_exits (h : clientStep config service index client event = some client')
    (hbefore : client.state.inStreamLoop = true) (hafter : client'.state.inStreamLoop = false) :
    (∃ frame outcomes ret, client.state = .sendFrame frame ∧ event = .sent outcomes ∧
        (httpMjpegSendFrame outcomes frame.value.bytes).ret = some ret ∧ ret ≠ 0) ∨
      client.state = .checkStop ∧ event = .go ∧ (service.stop || service.failed) = true := by
  have waits : ∀ timedOut malloc,
      (client.waitStep service index timedOut malloc).state.inStreamLoop = true := by
    intro timedOut malloc
    rw [HttpClient.waitStep]
    split
    · rfl
    · split <;> rfl
  revert h
  fun_cases clientStep config service index client event
  case case2 malloc hstate =>
      intro h
      cases h
      rw [waits] at hafter
      cases hafter
  case case3 malloc hstate =>
      intro h
      cases h
      rw [waits] at hafter
      cases hafter
  case case7 outcomes frame hstate =>
      intro h
      rw [HttpClient.afterSend] at h
      split at h
      · cases h
      · rename_i ret hret
        cases h
        refine .inl ⟨frame, outcomes, ret, hstate, rfl, hret, ?_⟩
        intro hzero
        rw [if_pos hzero] at hafter
        cases hafter
  case case13 hstate =>
      intro h
      cases h
      refine .inr ⟨hstate, rfl, ?_⟩
      cases hflags : service.stop || service.failed with
      | true => rfl
      | false =>
          rw [hflags] at hafter
          cases hafter
  case case1 hstate | case5 hstate | case6 hstate | case14 hstate =>
      rw [hstate] at hbefore
      cases hbefore
  case case9 | case11 =>
      intro h
      cases h
      cases hafter
  all_goals
    intro h
    cases h

/-- An exit of a step, and what it comes from. -/
theorem streamExit_cases {action : Action} {exit : StreamExit}
    (h : streamExit config g action = some exit) :
    exit.Justified ∨ exit.gateway = g ∧ (g.service.stop || g.service.failed) = true ∧
      ∃ i client, action = .client i .go ∧ g.clients[i]? = some client ∧
        client.state = .checkStop := by
  revert h
  fun_cases streamExit config g action
  case case3 i event client hclient next hstep hleaves =>
      intro h
      cases h
      simp only [Bool.and_eq_true, Bool.not_eq_true'] at hleaves
      cases clientStep_exits hstep hleaves.1 hleaves.2 with
      | inl hsend =>
          obtain ⟨frame, outcomes, ret, hstate, hevent, hsent, hfailed⟩ := hsend
          exact .inl (.sendFailed frame outcomes ret hstate hevent hsent hfailed)
      | inr hflags =>
          obtain ⟨hstate, rfl, hflags⟩ := hflags
          exact .inr ⟨rfl, hflags, i, client, rfl, hclient, hstate⟩
  all_goals
    intro h
    cases h

theorem streamExit_flags {i : Nat} (hclient : g.clients[i]? = some client)
    (hstate : client.state = .checkStop)
    (hflags : (g.service.stop || g.service.failed) = true) :
    streamExit config g (.client i .go) =
      some { gateway := g, client := client, event := .go } := by
  simp only [streamExit, hclient, clientStep, hstate]
  rw [if_pos hflags]
  rfl

end Exits

section Invariant
variable {copyFailed : Bool}

structure FlagInvariant (g : Gateway) (copyFailed : Bool) : Prop where
  setup : g.main = .start ∨ g.main = .initService ∨ g.main = .createCapture →
    copyFailed = false ∧ g.service.failed = false
  raised : g.service.failed = true → copyFailed = true ∨ g.capture.leaving = true
  kept : copyFailed = true → g.alive = true → g.service.failed = true

theorem flagInvariant_init : FlagInvariant Gateway.init false := by
  constructor
  · intro _
    exact ⟨rfl, rfl⟩
  · intro hfailed
    cases hfailed
  · intro hcopy
    cases hcopy

theorem main_flags {ok : Bool} (h : FlagInvariant g copyFailed)
    (hs : g.mainStep config ok = some g') : FlagInvariant g' copyFailed := by
  have hchange := (mainStep_service hs).failed
  have hleaving : g.service.failed = true → g.capture.leaving = true →
      g'.capture.leaving = true := by
    intro hfailed hleaving
    cases mainStep_capture hs with
    | inl hsame => rw [hsame, hleaving]
    | inr hcreate =>
        rw [(h.setup (.inr (.inr hcreate.1))).2] at hfailed
        cases hfailed
  constructor
  · intro hmain
    obtain ⟨hbefore, -, -⟩ := mainStep_setup hs hmain
    obtain ⟨hcopy, hfailed⟩ := h.setup (hbefore.imp_right .inl)
    cases hchange with
    | inl hsame => exact ⟨hcopy, hsame.2.trans hfailed⟩
    | inr hzero => exact ⟨hcopy, hzero.2⟩
  · intro hfailed
    cases hchange with
    | inl hsame =>
        rw [hsame.2] at hfailed
        exact (h.raised hfailed).imp_right (hleaving hfailed)
    | inr hzero =>
        rw [hzero.2] at hfailed
        cases hfailed
  · intro hcopy halive
    cases hchange with
    | inl hsame => exact hsame.2.trans (h.kept hcopy (hsame.1 ▸ halive))
    | inr hzero =>
        cases hzero.1 with
        | inl hinit =>
            rw [(h.setup (.inr (.inl hinit))).1] at hcopy
            cases hcopy
        | inr hdead =>
            rw [hdead] at halive
            cases halive

theorem capture_flags {event : CaptureEvent} {step : CaptureStep} (hsetup : Setup g)
    (h : FlagInvariant g copyFailed)
    (hs : captureStep config g.service g.capture event = some step) :
    FlagInvariant (g.applyCapture step) (copyFailed || g.copyFails (.capture event)) := by
  have hrunning : ¬ (g.main = .start ∨ g.main = .initService ∨ g.main = .createCapture) := by
    intro hmain
    rw [(hsetup hmain).1] at hs
    cases event <;> cases hs
  have hcopies : g.copyFails (.capture event) = copyFails g.service g.capture event := rfl
  rw [hcopies]
  constructor
  · exact fun hmain => absurd hmain hrunning
  · intro hfailed
    cases captureStep_flag hs with
    | kept _ hsame hleaving =>
        cases h.raised (hsame.symm.trans hfailed) with
        | inl hcopy => exact .inl (Bool.or_eq_true_iff.mpr (.inl hcopy))
        | inr hleaves => exact .inr (hleaving hleaves)
    | leaves _ _ hleaving => exact .inr hleaving
    | copyFailed hcopy _ => exact .inl (Bool.or_eq_true_iff.mpr (.inr hcopy))
  · intro hcopy halive
    cases captureStep_flag hs with
    | kept hcopied hsame _ =>
        rw [hcopied, Bool.or_false] at hcopy
        exact hsame.trans (h.kept hcopy halive)
    | leaves _ hfailed _ => exact hfailed
    | copyFailed _ hfailed => exact hfailed

theorem client_flags {i : Nat} {event : ClientEvent} (h : FlagInvariant g copyFailed)
    (hs : g.stepClient config i event = some g') : FlagInvariant g' copyFailed := by
  obtain ⟨client, client', -, -, hcases⟩ := stepClient_cases hs
  cases hcases with
  | inl hcount =>
      obtain ⟨-, -, rfl⟩ := hcount
      have hfailed := countOut_failed g.service
      exact ⟨fun hmain => ⟨(h.setup hmain).1, hfailed.trans (h.setup hmain).2⟩,
        fun hraised => h.raised (hfailed.symm.trans hraised),
        fun hcopy halive => hfailed.trans (h.kept hcopy halive)⟩
  | inr hstep =>
      obtain ⟨-, rfl⟩ := hstep
      exact ⟨h.setup, h.raised, h.kept⟩

theorem reachable_flags {watch : StreamWatch}
    (h : TransitionSystem.Reachable (streamGateway config) (g, watch)) :
    FlagInvariant g watch.copyFailed := by
  refine TransitionSystem.Reachable.observed_invariant
    (I := fun g watch => FlagInvariant g watch.copyFailed) flagInvariant_init ?_ h
  intro g g' watch action hreach hg hs
  cases action with
  | main ok =>
      show FlagInvariant g' (watch.copyFailed || false)
      rw [Bool.or_false]
      exact main_flags hg hs
  | capture event =>
      obtain ⟨step, hstep, rfl⟩ := Option.map_eq_some_iff.mp hs
      exact capture_flags (reachable_setup hreach) hg hstep
  | client i event =>
      show FlagInvariant g' (watch.copyFailed || false)
      rw [Bool.or_false]
      exact client_flags hg hs
  | peer event =>
      obtain ⟨peers, backlog, rfl⟩ := stepPeer_frame hs
      show FlagInvariant _ (watch.copyFailed || false)
      rw [Bool.or_false]
      exact ⟨hg.setup, hg.raised, hg.kept⟩

end Invariant

section Runs
variable {watch : StreamWatch} {action : Action}

/-- A step takes nobody out of the loop without a reason, exactly if no client looks at flags
that a failed copy alone has raised. -/
theorem exit_justified_iff (h : TransitionSystem.Reachable (streamGateway config) (g, watch))
    (hs : g.step config action = some g') :
    (∀ exit ∈ streamExit config g action, exit.Justified) ↔ Spared (g, watch) action := by
  have hflags := reachable_flags h
  constructor
  · intro hjustified i client haction hclient hstate hcopy
    subst haction
    obtain ⟨client', next, hclient', halive, -⟩ := stepClient_cases hs
    cases hclient.symm.trans hclient'
    have hfailed := hflags.kept hcopy (halive (by rw [hstate]; rfl))
    have hexit := @streamExit_flags config g client i hclient hstate
      (Bool.or_eq_true_iff.mpr (.inr hfailed))
    cases hjustified _ hexit with
    | sendFailed frame outcomes ret hsend => rw [hstate] at hsend; cases hsend
    | stopped hstop => exact .inl hstop
    | captureLeaves hleaving => exact .inr hleaving
  · intro hspared exit hexit
    cases streamExit_cases hexit with
    | inl hjustified => exact hjustified
    | inr hchecks =>
        obtain ⟨hgateway, hraised, i, client, haction, hclient, hstate⟩ := hchecks
        have hreason : g.service.stop = true ∨ g.capture.leaving = true := by
          cases Bool.or_eq_true_iff.mp hraised with
          | inl hstop => exact .inl hstop
          | inr hfailed =>
              cases hflags.raised hfailed with
              | inl hcopy => exact hspared i client haction hclient hstate hcopy
              | inr hleaving => exact .inr hleaving
        cases hreason with
        | inl hstop => exact .stopped (by rw [hgateway]; exact hstop)
        | inr hleaving => exact .captureLeaves (by rw [hgateway]; exact hleaving)

/-- In every run in which no client looks at flags that only a failed frame copy has raised,
every client that has left the stream loop had a reason; and a step in which one does look
at them is the only kind that takes a client out without one. -/
theorem stream_exits_justified (config : CameraConfig) :
    (∀ g watch, TransitionSystem.ReachableUnder (streamGateway config) Spared (g, watch) →
      ∀ exit ∈ watch.exits, exit.Justified) ∧
    ∀ g watch action g', TransitionSystem.Reachable (streamGateway config) (g, watch) →
      g.step config action = some g' →
        ((∀ exit ∈ streamExit config g action, exit.Justified) ↔ Spared (g, watch) action) := by
  refine ⟨?_, fun g watch action g' h hs => exit_justified_iff h hs⟩
  intro g watch h
  refine TransitionSystem.ReachableUnder.invariant
    (I := fun s => ∀ exit ∈ s.2.exits, exit.Justified) ?_ ?_ h
  · intro exit hexit
    cases hexit
  · intro s t action hreach hbefore hspared hs exit hexit
    obtain ⟨hstep, hwatch⟩ := TransitionSystem.observe_step.mp hs
    rw [hwatch] at hexit
    cases List.mem_append.mp hexit with
    | inl hold => exact hbefore exit hold
    | inr hnew =>
        exact (exit_justified_iff hreach hstep).mpr hspared exit (Option.mem_toList.mp hnew)

/-- A frame is dequeued and its copy fails; its buffer goes back and the loop goes on. -/
def failedCopy : List Action :=
  [.capture .go, .capture .selectReady, .capture (.dequeued ⟨1, [0xff, 0xd8]⟩ 2 6 0),
    .capture (.copied none), .capture (.requeued true)]

def deliverLatest (i : Nat) : List Action :=
  [.client i (.copied (some 3)),
    .client i (.sent [.accepted 1000, .accepted 1000, .accepted 1000])]

def waitInVain (i : Nat) : List Action :=
  [.client i (.copied none), .client i .timeout, .client i (.copied none), .client i .go]

/-- One frame copy fails, the next frame is published and delivered; then the client waits
longer than two seconds, and is dropped while the capture thread draws. -/
theorem failed_copy_drops_client :
    ∃ g watch exit, TransitionSystem.Reachable (streamGateway streamConfig) (g, watch) ∧
      g.published.length = 1 ∧ g.service.stop = false ∧ g.capture.leaving = false ∧
      exit ∈ watch.exits ∧ ¬ exit.Justified := by
  have hrun : (TransitionSystem.exec (streamGateway streamConfig) (streamGateway streamConfig).init
      (startup ++ serve 0 (ascii "/stream") ++ startStream 0 ++ failedCopy ++ publishFrame 7 ++
        deliverLatest 0 ++ waitInVain 0)).any
      (fun s => decide (s.1.published.length = 1 ∧ s.1.service.stop = false ∧
          s.1.capture.leaving = false) &&
        s.2.exits.any fun exit => decide (exit.client.state = .checkStop ∧
          exit.gateway.service.stop = false ∧ exit.gateway.capture.leaving = false)) = true := by
    decide +kernel
  obtain ⟨⟨g, watch⟩, hexec, hs⟩ := TransitionSystem.exists_exec_of_any hrun
  have hreach := (TransitionSystem.Reachable.init (streamGateway streamConfig)).exec hexec
  simp only [Bool.and_eq_true, List.any_eq_true, decide_eq_true_eq] at hs
  obtain ⟨⟨hpublished, hstop, hleaving⟩, exit, hexit, hstate, hrunning, hcapturing⟩ := hs
  refine ⟨g, watch, exit, hreach, hpublished, hstop, hleaving, hexit, ?_⟩
  intro hjustified
  cases hjustified with
  | sendFailed frame outcomes ret hsend =>
      rw [hstate] at hsend
      cases hsend
  | stopped hstopped =>
      rw [hrunning] at hstopped
      cases hstopped
  | captureLeaves hleaves =>
      rw [hcapturing] at hleaves
      cases hleaves

end Runs
end CameraGateway
