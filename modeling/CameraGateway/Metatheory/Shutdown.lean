import CameraGateway.Metatheory.DrawingRuns
import CameraGateway.Metatheory.Teardown

/-!
The end of the service. When the stop flag is up, or the service is gone, each thread has
only so many steps left, in whichever order the threads run; and main, past its `out`
label, waits for nothing that does not come.
-/
namespace CameraGateway
variable {config : CameraConfig} {g g' : Gateway} {action : Action}

section Measures

/-- How many steps the thread makes at most when it may not wait for a frame. -/
def ClientState.remaining : ClientState → Nat
  | .route => 6
  | .streamHeader | .blocked | .sendFrame _ => 5
  | .wait | .timedOut => 4
  | .respond _ | .checkStop => 3
  | .countOut => 2
  | .closing => 1
  | .done => 0

/-- How many steps the capture thread makes at most when the stop flag is up. -/
def CaptureState.remaining : CaptureState → Nat
  | .select => 12
  | .dequeue => 11
  | .publish _ => 10
  | .draw _ => 9
  | .show _ _ _ => 8
  | .readEventId _ => 7
  | .saveSnapshot _ _ => 6
  | .countLcd _ _ => 5
  | .countFrame _ => 4
  | .requeue => 3
  | .head => 2
  | .stopping => 1
  | .absent | .ended => 0

/-- How many steps main makes after `http_service_stop`. -/
def MainState.remaining : MainState → Nat
  | .joinCapture _ => 2
  | .destroy _ => 1
  | _ => 0

/-- A client thread that main has not created yet has all its steps. -/
def Gateway.threadRemaining (i : Nat) (g : Gateway) : Nat :=
  ((g.clients[i]?.map HttpClient.state).getD .route).remaining

def Gateway.clientsRemaining (g : Gateway) : Nat :=
  (g.clients.map fun client => client.state.remaining).sum

def Gateway.remaining (g : Gateway) : Nat :=
  g.main.remaining + g.capture.remaining + g.clientsRemaining

def Action.ofCapture : Action → Bool
  | .capture _ => true
  | _ => false

def Action.ofClient (i : Nat) : Action → Bool
  | .client j _ => i == j
  | _ => false

/-- The steps of the program; the others are the network's. -/
def Action.ofServer : Action → Bool
  | .main _ | .capture _ | .client _ _ => true
  | .peer _ => false

end Measures

section Invariant

def MainState.starting : MainState → Bool
  | .start | .initService | .createCapture => true
  | _ => false

/-- No thread that looks at the stop flag finds it down. -/
structure Stopped (g : Gateway) : Prop where
  flag : g.alive = true → g.service.stop = true
  main : g.main.starting = false

theorem mainStep_starting {ok : Bool} (hs : g.mainStep config ok = some g')
    (hmain : g.main.starting = false) : g'.main.starting = false := by
  have setup : ∀ {main : MainState}, main.starting = true →
      main = .start ∨ main = .initService ∨ main = .createCapture := by
    intro main hstarting
    cases main <;> simp [MainState.starting] at hstarting ⊢
  apply Bool.eq_false_iff.mpr
  intro hstarting
  cases (mainStep_setup hs (setup hstarting)).1 with
  | inl hstart => rw [hstart] at hmain; cases hmain
  | inr hinit => rw [hinit] at hmain; cases hmain

theorem stopped_main {ok : Bool} (h : Stopped g) (hs : g.mainStep config ok = some g') :
    Stopped g' := by
  refine ⟨?_, mainStep_starting hs h.main⟩
  cases mainStep_service hs with
  | same halive hservice | countedIn _ _ _ _ halive hservice =>
      rw [halive, hservice]
      exact h.flag
  | countedOut halive hservice =>
      rw [halive, hservice, (countOut_kept g.service).2.2]
      exact h.flag
  | stopped _ _ _ hservice _ =>
      rw [hservice]
      exact fun _ => rfl
  | started hmain _ _ =>
      have hstarted := h.main
      rw [hmain] at hstarted
      cases hstarted
  | destroyed _ _ hdead _ =>
      rw [hdead]
      exact nofun

theorem captureStep_stop {service : HttpService} {state : CaptureState} {event : CaptureEvent}
    {step : CaptureStep} (hs : captureStep config service state event = some step)
    (hstop : service.stop = true) : step.service.stop = true := by
  cases captureStep_shared hs with
  | quiet _ _ hshared => rwa [hshared.stop]
  | publishes frame malloc _ _ _ _ _ hupdated =>
      obtain ⟨-, -, hservice, -⟩ := httpServiceUpdateLatest_ok hupdated
      rwa [hservice]
  | stops _ _ _ _ hservice =>
      rw [hservice]
      rfl

theorem stopped_step (h : Stopped g) (hs : g.step config action = some g') : Stopped g' := by
  cases action with
  | main ok => exact stopped_main h hs
  | capture event =>
      obtain ⟨step, hstep, rfl⟩ := Option.map_eq_some_iff.mp hs
      exact ⟨fun halive => captureStep_stop hstep (h.flag halive), h.main⟩
  | client i event =>
      have hframe := stepClient_frame hs
      refine ⟨?_, hframe.main ▸ h.main⟩
      rw [hframe.alive, hframe.stop]
      exact h.flag
  | peer event =>
      obtain ⟨peers, backlog, rfl⟩ := stepPeer_frame hs
      exact ⟨h.flag, h.main⟩

end Invariant

section Threads
variable {service : HttpService} {index : Nat} {client client' : HttpClient}
  {state : CaptureState}

/-- When the stop flag is up, each step of the capture thread is one towards its end. -/
theorem captureStep_remaining {event : CaptureEvent} {step : CaptureStep}
    (hs : captureStep config service state event = some step) (hstop : service.stop = true) :
    step.next.remaining < state.remaining := by
  have drawn : ∀ frame picture malloc,
      (drawStep config service frame picture malloc).next.remaining < 9 := by
    intro frame picture malloc
    fun_cases drawStep config service frame picture malloc
    all_goals
      simp only [CaptureStep.quiet, CaptureState.remaining, Nat.reduceLT]
  revert hs
  fun_cases captureStep config service state event
  case case1 =>
      rw [if_pos hstop]
      intro hs
      cases hs
      exact Nat.one_lt_two
  case case10 frame picture malloc =>
      intro hs
      cases hs
      exact drawn frame picture malloc
  case case18 ok =>
      intro hs
      cases hs
      cases ok <;> simp only [CaptureStep.quiet, CaptureStep.fails, CaptureState.remaining,
        if_true, Bool.false_eq_true, if_false, Nat.reduceLT]
  all_goals
    intro hs
    cases hs <;> simp only [CaptureStep.quiet, CaptureStep.fails, CaptureState.remaining,
      Nat.reduceLT]

theorem waitStep_stopped (timedOut : Bool) (malloc : Option Nat) (hstop : service.stop = true) :
    (client.waitStep service index timedOut malloc).state = .checkStop := by
  have hwait : httpServiceWaitLatest service client.lastSequence timedOut malloc =
      .returned (-1) Frame.zero client.lastSequence := by
    rw [httpServiceWaitLatest, hstop]
    simp
  rw [HttpClient.waitStep, hwait]
  rfl

theorem dispatch_remaining (malloc : Option Nat) :
    (client.dispatch config service index malloc).state.remaining < 6 := by
  rw [HttpClient.dispatch]
  cases httpClientRoute client.path with
  | snapshot =>
      simp only
      split <;> simp only [HttpClient.goto, ClientState.remaining, Nat.reduceLT]
  | metrics | stream | notFound =>
      simp only [HttpClient.goto, ClientState.remaining, Nat.reduceLT]

/-- When the flag is up for the states that look at it, each step of a client thread is one
towards its end. -/
theorem clientStep_remaining {event : ClientEvent}
    (hs : clientStep config service index client event = some client')
    (hstop : client.state.usesService = true → service.stop = true) :
    client'.state.remaining < client.state.remaining := by
  have sent : ∀ {sent : Sent} {ok : ClientState},
      client.afterSend sent ok .countOut = some client' →
        client'.state = ok ∨ client'.state = .countOut :=
    fun hsent => (afterSend_state hsent).2.2
  revert hs
  fun_cases clientStep config service index client event
  case case1 malloc hstate =>
      intro hs
      cases hs
      rw [hstate]
      exact dispatch_remaining malloc
  case case2 malloc hstate | case3 malloc hstate =>
      intro hs
      cases hs
      rw [waitStep_stopped _ _ (hstop (by rw [hstate]; rfl)), hstate]
      simp only [ClientState.remaining, Nat.reduceLT]
  case case5 outcomes response hstate =>
      intro hs
      cases sent hs with
      | inl hnext | inr hnext =>
          simp only [hnext, hstate, ClientState.remaining, Nat.reduceLT]
  case case6 outcomes hstate | case7 outcomes frame hstate =>
      intro hs
      cases sent hs with
      | inl hnext | inr hnext =>
          simp only [hnext, hstate, ClientState.remaining, Nat.reduceLT]
  case case9 hstate | case11 hstate | case14 hstate =>
      intro hs
      cases hs
      simp only [HttpClient.goto, hstate, ClientState.remaining, Nat.reduceLT]
  case case13 hstate =>
      intro hs
      rw [if_pos (by rw [hstop (by rw [hstate]; rfl)]; rfl)] at hs
      cases hs
      simp only [HttpClient.goto, hstate, ClientState.remaining, Nat.reduceLT]
  all_goals
    intro hs
    cases hs

end Threads

section Steps

theorem wake_remaining (client : HttpClient) :
    client.wake.state.remaining ≤ client.state.remaining := by
  rw [HttpClient.wake]
  split
  · rename_i hblocked
    simp only [hblocked, ClientState.remaining, Nat.reduceLeDiff]
  · exact Nat.le_refl _

theorem threadRemaining_wake (i : Nat) (hclients : g'.clients = g.clients.map HttpClient.wake) :
    g'.threadRemaining i ≤ g.threadRemaining i := by
  rw [Gateway.threadRemaining, Gateway.threadRemaining, hclients, List.getElem?_map]
  cases g.clients[i]? with
  | none => exact Nat.le_refl _
  | some client => exact wake_remaining client

theorem threadRemaining_append (i : Nat) {peer : Nat} {path : List UInt8}
    (hclients : g'.clients = g.clients ++ [HttpClient.start peer path]) :
    g'.threadRemaining i = g.threadRemaining i := by
  rw [Gateway.threadRemaining, Gateway.threadRemaining, hclients, List.getElem?_append]
  split
  · rfl
  · rename_i hi
    rw [List.getElem?_eq_none (Nat.not_lt.mp hi)]
    cases i - g.clients.length <;> rfl

theorem stepClient_remaining {i : Nat} {event : ClientEvent} (h : Stopped g)
    (hs : g.stepClient config i event = some g') :
    ∃ client client', g.clients[i]? = some client ∧ g'.clients = g.clients.set i client' ∧
      client'.state.remaining < client.state.remaining := by
  obtain ⟨client, client', hclient, halive, hcases⟩ := stepClient_cases hs
  refine ⟨client, client', hclient, ?_⟩
  cases hcases with
  | inl hcount =>
      obtain ⟨hstate, rfl, rfl⟩ := hcount
      refine ⟨rfl, ?_⟩
      simp only [HttpClient.goto, hstate, ClientState.remaining, Nat.reduceLT]
  | inr hstep =>
      obtain ⟨hstep, rfl⟩ := hstep
      exact ⟨rfl, clientStep_remaining hstep fun huses => h.flag (halive huses)⟩

theorem step_threadRemaining (i : Nat) (h : Stopped g) (hs : g.step config action = some g') :
    (action.ofClient i).toNat + g'.threadRemaining i ≤ g.threadRemaining i := by
  have others : ∀ {k : Nat}, g'.threadRemaining i ≤ g.threadRemaining i → k = 0 →
      k + g'.threadRemaining i ≤ g.threadRemaining i := by
    intro k hle hk
    rwa [hk, Nat.zero_add]
  cases action with
  | main ok =>
      refine others ?_ rfl
      cases mainStep_clients hs with
      | same hsame _ => rw [Gateway.threadRemaining, hsame]; exact Nat.le_refl _
      | woken _ _ _ hwoken => exact threadRemaining_wake i hwoken
      | created peer path _ _ hcreated => exact Nat.le_of_eq (threadRemaining_append i hcreated)
  | capture event =>
      refine others ?_ rfl
      obtain ⟨step, -, rfl⟩ := Option.map_eq_some_iff.mp hs
      cases hbroadcast : step.broadcast with
      | true => exact threadRemaining_wake i (by rw [Gateway.applyCapture, hbroadcast]; rfl)
      | false => rw [Gateway.threadRemaining, Gateway.applyCapture, hbroadcast]; exact Nat.le_refl _
  | client j event =>
      obtain ⟨client, client', hclient, hclients, hless⟩ := stepClient_remaining h hs
      have hlt := (List.getElem?_eq_some_iff.mp hclient).1
      by_cases hij : j = i
      · subst hij
        rw [Gateway.threadRemaining, Gateway.threadRemaining, hclients, hclient,
          List.getElem?_set_self hlt, Action.ofClient, beq_self_eq_true, Bool.toNat_true]
        exact Nat.one_add _ ▸ hless
      · refine others (Nat.le_of_eq ?_) ?_
        · rw [Gateway.threadRemaining, Gateway.threadRemaining, hclients, List.getElem?_set_ne hij]
        · rw [Action.ofClient, beq_false_of_ne (Ne.symm hij)]
          rfl
  | peer event =>
      refine others ?_ rfl
      obtain ⟨peers, backlog, rfl⟩ := stepPeer_frame hs
      exact Nat.le_refl _

theorem step_captureRemaining (hreach : TransitionSystem.Reachable (gateway config) g)
    (h : Stopped g) (hs : g.step config action = some g') :
    action.ofCapture.toNat + g'.capture.remaining ≤ g.capture.remaining := by
  have others : ∀ {k : Nat}, g'.capture = g.capture → k = 0 →
      k + g'.capture.remaining ≤ g.capture.remaining := by
    intro k hsame hk
    rw [hk, hsame, Nat.zero_add]
  cases action with
  | main ok =>
      refine others ?_ rfl
      cases mainStep_capture hs with
      | inl hsame => exact hsame
      | inr hcreate =>
          have hstarted := h.main
          rw [hcreate.1] at hstarted
          cases hstarted
  | capture event =>
      obtain ⟨step, hstep, rfl⟩ := Option.map_eq_some_iff.mp hs
      have halive := captureStep_alive hreach hstep
      have hless := captureStep_remaining hstep (h.flag halive)
      exact Nat.one_add _ ▸ hless
  | client i event => exact others (stepClient_frame hs).capture rfl
  | peer event =>
      obtain ⟨peers, backlog, rfl⟩ := stepPeer_frame hs
      exact others rfl rfl

end Steps

section Stop

theorem mainStep_createCapture {ok : Bool} (hs : g.mainStep config ok = some g')
    (hmain : g'.main = .createCapture) : g'.service = HttpService.zero := by
  revert hs hmain
  fun_cases Gateway.mainStep config g ok
  case case3 =>
      intro hs _
      cases hs
      rfl
  case case2 | case7 | case18 =>
      intro hs hmain
      cases hs
      dsimp only at hmain
      split at hmain <;> cases hmain
  all_goals
    intro hs hmain
    cases hs <;> cases hmain

/-- While main sets the service up nobody stops it. -/
theorem reachable_createCapture (h : TransitionSystem.Reachable (gateway config) g) :
    g.main = .createCapture → g.service.stop = false := by
  refine TransitionSystem.Reachable.invariant
    (I := fun g => g.main = .createCapture → g.service.stop = false)
    (by simp [gateway, Gateway.init]) ?_ h
  intro g g' action hreach hg hs hmain
  cases action with
  | main ok =>
      rw [mainStep_createCapture hs hmain]
      rfl
  | capture event =>
      obtain ⟨step, hstep, rfl⟩ := Option.map_eq_some_iff.mp hs
      rw [(reachable_setup hreach (Or.inr (Or.inr hmain))).1] at hstep
      simp [captureStep] at hstep
  | client i event =>
      have hframe := stepClient_frame hs
      rw [hframe.stop]
      exact hg (hframe.main ▸ hmain)
  | peer event =>
      obtain ⟨peers, backlog, rfl⟩ := stepPeer_frame hs
      exact hg hmain

theorem stopped_of_flag (hreach : TransitionSystem.Reachable (gateway config) g)
    (halive : g.alive = true) (hstop : g.service.stop = true) : Stopped g := by
  refine ⟨fun _ => hstop, ?_⟩
  cases hmain : g.main with
  | start =>
      rw [((reachable_published hreach).unstarted (Or.inl hmain)).1] at halive
      cases halive
  | initService =>
      rw [((reachable_published hreach).unstarted (Or.inr hmain)).1] at halive
      cases halive
  | createCapture =>
      rw [reachable_createCapture hreach hmain] at hstop
      cases hstop
  | _ => rfl

theorem run_captureRemaining (hreach : TransitionSystem.Reachable (gateway config) g)
    (h : Stopped g) {actions : List Action}
    (hexec : TransitionSystem.exec (gateway config) g actions = some g') :
    actions.countP Action.ofCapture + g'.capture.remaining ≤ g.capture.remaining := by
  refine @TransitionSystem.exec_countP_le _ _ (gateway config)
    (fun g => TransitionSystem.Reachable (gateway config) g ∧ Stopped g) Action.ofCapture
    (fun g => g.capture.remaining) ?_ ?_ g g' actions ⟨hreach, h⟩ hexec
  · intro g g' action hg hs
    exact ⟨hg.1.step action hs, stopped_step hg.2 hs⟩
  · intro g g' action hg hs
    exact step_captureRemaining hg.1 hg.2 hs

theorem run_threadRemaining (i : Nat) (h : Stopped g) {actions : List Action}
    (hexec : TransitionSystem.exec (gateway config) g actions = some g') :
    actions.countP (Action.ofClient i) + g'.threadRemaining i ≤ g.threadRemaining i :=
  TransitionSystem.exec_countP_le (M := gateway config) (I := Stopped)
    (fun _ hg hs => stopped_step hg hs) (fun _ hg hs => step_threadRemaining i hg hs) h hexec

theorem capture_remaining_le (state : CaptureState) : state.remaining ≤ 12 := by
  cases state <;> simp only [CaptureState.remaining, Nat.reduceLeDiff]

theorem threadRemaining_le (g : Gateway) (i : Nat) : g.threadRemaining i ≤ 6 := by
  rw [Gateway.threadRemaining]
  cases (g.clients[i]?.map HttpClient.state).getD .route <;>
    simp only [ClientState.remaining, Nat.reduceLeDiff, Nat.le_refl]

end Stop

/-- Once the stop flag is up, whoever raised it, the capture thread makes at most twelve more
steps and each client thread at most six before the service is destroyed, also one that main
creates later. -/
theorem stopped_threads_end (hreach : TransitionSystem.Reachable (gateway config) g)
    (halive : g.alive = true) (hstop : g.service.stop = true) {actions : List Action}
    (hexec : TransitionSystem.exec (gateway config) g actions = some g') :
    actions.countP Action.ofCapture ≤ 12 ∧ ∀ i, actions.countP (Action.ofClient i) ≤ 6 := by
  have hstopped := stopped_of_flag hreach halive hstop
  have hcapture := run_captureRemaining hreach hstopped hexec
  constructor
  · exact (Nat.le_add_right _ _).trans (hcapture.trans (capture_remaining_le g.capture))
  · intro i
    have hthread := run_threadRemaining i hstopped hexec
    exact (Nat.le_add_right _ _).trans (hthread.trans (threadRemaining_le g i))

/-- The capture thread has failed, and a waiting client and a later one come to their end. -/
theorem stopped_threads_end_twoClients :
    ∃ g actions g', TransitionSystem.Reachable (gateway streamConfig) g ∧
      (g.alive = true ∧ g.service.stop = true) ∧
      TransitionSystem.exec (gateway streamConfig) g actions = some g' ∧
      (g'.clients.map HttpClient.state = [.done, .done]) ∧
      actions.countP Action.ofCapture ≤ 12 ∧
        ∀ i, actions.countP (Action.ofClient i) ≤ 6 := by
  have hrun : (TransitionSystem.exec (gateway streamConfig) Gateway.init
      (startup ++ serve 0 (ascii "/stream") ++ startStream 0 ++
        [.capture .go, .capture .selectFailed, .capture .go])).any (fun g =>
      decide (g.alive = true ∧ g.service.stop = true) &&
        (TransitionSystem.exec (gateway streamConfig) g
          (serve 1 (ascii "/stream") ++
            [.client 0 (.copied none), .client 0 .go, .client 0 .go, .client 0 .go] ++
            startStream 1 ++ [.client 1 .go, .client 1 .go, .client 1 .go])).any fun g' =>
          decide (g'.clients.map HttpClient.state = [.done, .done])) = true := by
    decide +kernel
  obtain ⟨g, hexec, hg⟩ := TransitionSystem.exists_exec_of_any hrun
  have hreach := (TransitionSystem.Reachable.init (gateway streamConfig)).exec hexec
  obtain ⟨hstate, hrest⟩ := Bool.and_eq_true_iff.mp hg
  obtain ⟨halive, hstop⟩ := of_decide_eq_true hstate
  obtain ⟨g', hend, hdone⟩ := (Option.any_eq_true _ _).mp hrest
  exact ⟨g, _, g', hreach, ⟨halive, hstop⟩, hend, of_decide_eq_true hdone,
    stopped_threads_end hreach halive hstop hend⟩

section Shutdown

/-- Main has run `http_service_stop`, if there was a service, and only joins and destroys. -/
def MainState.pastStop : MainState → Bool
  | .joinCapture _ | .destroy _ | .returned _ => true
  | _ => false

/-- Main has returned, the capture thread has ended, and so has every client thread that was
not about to look at the destroyed service. -/
structure Finished (g : Gateway) : Prop where
  main : ∃ result, g.main = .returned result
  capture : g.capture = .absent ∨ g.capture = .ended
  clients : ∀ client ∈ g.clients,
    client.state = .done ∨ client.state.usesService = true ∧ g.alive = false

theorem mainStep_pastStop {ok : Bool} (hs : g.mainStep config ok = some g')
    (hpast : g.main.pastStop = true) :
    g'.main.pastStop = true ∧ g'.main.remaining + 1 = g.main.remaining ∧
      g'.capture = g.capture ∧ g'.clients = g.clients := by
  cases hmain : g.main with
  | joinCapture result =>
      rw [Gateway.mainStep, hmain] at hs
      simp only at hs
      split at hs
      · cases hs
        exact ⟨rfl, rfl, rfl, rfl⟩
      · cases hs
        exact ⟨rfl, rfl, rfl, rfl⟩
      · cases hs
  | destroy result =>
      rw [Gateway.mainStep, hmain] at hs
      simp only at hs
      split at hs
      · cases hs
        exact ⟨rfl, rfl, rfl, rfl⟩
      · cases hs
        exact ⟨rfl, rfl, rfl, rfl⟩
  | returned result =>
      rw [Gateway.mainStep, hmain] at hs
      cases hs
  | _ =>
      rw [hmain] at hpast
      cases hpast

/-- Main comes past `http_service_stop` from its `out` label, or returns before the service
exists. -/
theorem mainStep_toPastStop {ok : Bool} (hs : g.mainStep config ok = some g')
    (hunstarted : g.main = .start → g.alive = false) (hpast : g'.main.pastStop = true)
    (hbefore : g.main.pastStop = false) : Stopped g' := by
  revert hs hpast hbefore
  fun_cases Gateway.mainStep config g ok
  case case1 hmain _ =>
      intro hs _ _
      cases hs
      refine ⟨fun halive => ?_, rfl⟩
      rw [hunstarted hmain] at halive
      cases halive
  case case22 =>
      intro hs _ _
      cases hs
      exact ⟨fun _ => rfl, rfl⟩
  case case23 halive =>
      intro hs _ _
      cases hs
      exact ⟨fun hlive => absurd hlive halive, rfl⟩
  case case24 hmain _ | case25 hmain _ | case26 hmain _ _ | case27 hmain _ | case28 hmain _ =>
      intro _ _ hbefore
      rw [hmain] at hbefore
      cases hbefore
  case case2 | case7 | case18 =>
      intro hs hpast
      cases hs
      dsimp only at hpast
      split at hpast <;> cases hpast
  all_goals
    intro hs hpast
    cases hs <;> cases hpast

theorem reachable_pastStop (h : TransitionSystem.Reachable (gateway config) g) :
    g.main.pastStop = true → Stopped g := by
  refine TransitionSystem.Reachable.invariant (I := fun g => g.main.pastStop = true → Stopped g)
    (by simp [gateway, Gateway.init, MainState.pastStop]) ?_ h
  intro g g' action hreach hg hs hpast
  cases hbefore : g.main.pastStop with
  | true => exact stopped_step (hg hbefore) hs
  | false =>
      cases action with
      | main ok =>
          refine mainStep_toPastStop hs (fun hstart => ?_) hpast hbefore
          exact ((reachable_published hreach).unstarted (Or.inl hstart)).1
      | capture event =>
          obtain ⟨step, -, rfl⟩ := Option.map_eq_some_iff.mp hs
          rw [show (g.applyCapture step).main = g.main from rfl, hbefore] at hpast
          cases hpast
      | client i event =>
          rw [(stepClient_frame hs).main, hbefore] at hpast
          cases hpast
      | peer event =>
          obtain ⟨peers, backlog, rfl⟩ := stepPeer_frame hs
          rw [hbefore] at hpast
          cases hpast

theorem clientsRemaining_wake (clients : List HttpClient) :
    ((clients.map HttpClient.wake).map fun client => client.state.remaining).sum ≤
      (clients.map fun client => client.state.remaining).sum := by
  induction clients with
  | nil => exact Nat.le_refl _
  | cons client clients ih =>
      simp only [List.map_cons, List.sum_cons]
      exact Nat.add_le_add (wake_remaining client) ih

theorem clientsRemaining_set {i : Nat} {client client' : HttpClient}
    (hclient : g.clients[i]? = some client) (hclients : g'.clients = g.clients.set i client')
    (hless : client'.state.remaining < client.state.remaining) :
    1 + g'.clientsRemaining ≤ g.clientsRemaining := by
  obtain ⟨hlt, hget⟩ := List.getElem?_eq_some_iff.mp hclient
  have hsplit : g.clients = g.clients.take i ++ client :: g.clients.drop (i + 1) := by
    rw [← hget, List.getElem_cons_drop, List.take_append_drop]
  rw [Gateway.clientsRemaining, Gateway.clientsRemaining, hclients,
    List.set_eq_take_append_cons_drop, if_pos hlt]
  conv_rhs => rw [hsplit]
  simp only [List.map_append, List.map_cons, List.sum_append, List.sum_cons]
  omega

theorem step_remaining (hreach : TransitionSystem.Reachable (gateway config) g)
    (hpast : g.main.pastStop = true) (hs : g.step config action = some g') :
    g'.main.pastStop = true ∧ action.ofServer.toNat + g'.remaining ≤ g.remaining := by
  have hstopped := reachable_pastStop hreach hpast
  have hcapture := step_captureRemaining hreach hstopped hs
  cases action with
  | main ok =>
      obtain ⟨hafter, hmain, hsame, hclients⟩ := mainStep_pastStop hs hpast
      refine ⟨hafter, ?_⟩
      rw [Gateway.remaining, Gateway.remaining, Gateway.clientsRemaining, hsame, hclients, ← hmain,
        Action.ofServer, Bool.toNat_true, ← Gateway.clientsRemaining]
      omega
  | capture event =>
      obtain ⟨step, -, rfl⟩ := Option.map_eq_some_iff.mp hs
      refine ⟨hpast, ?_⟩
      have hclients : (g.applyCapture step).clientsRemaining ≤ g.clientsRemaining := by
        rw [Gateway.clientsRemaining, Gateway.applyCapture]
        cases step.broadcast with
        | true => exact clientsRemaining_wake g.clients
        | false => exact Nat.le_refl _
      rw [Action.ofCapture, Bool.toNat_true] at hcapture
      rw [Gateway.remaining, Gateway.remaining, Action.ofServer, Bool.toNat_true,
        show (g.applyCapture step).main = g.main from rfl]
      omega
  | client i event =>
      have hframe := stepClient_frame hs
      obtain ⟨client, client', hclient, hclients, hless⟩ := stepClient_remaining hstopped hs
      have hsum := clientsRemaining_set hclient hclients hless
      refine ⟨hframe.main ▸ hpast, ?_⟩
      rw [Gateway.remaining, Gateway.remaining, hframe.main, hframe.capture, Action.ofServer,
        Bool.toNat_true]
      omega
  | peer event =>
      obtain ⟨peers, backlog, rfl⟩ := stepPeer_frame hs
      refine ⟨hpast, ?_⟩
      rw [Action.ofServer, Bool.toNat_false, Nat.zero_add]
      exact Nat.le_refl _

theorem run_remaining (hreach : TransitionSystem.Reachable (gateway config) g)
    (hpast : g.main.pastStop = true) {actions : List Action}
    (hexec : TransitionSystem.exec (gateway config) g actions = some g') :
    actions.countP Action.ofServer + g'.remaining ≤ g.remaining := by
  refine TransitionSystem.exec_countP_le (M := gateway config)
    (I := fun g => TransitionSystem.Reachable (gateway config) g ∧ g.main.pastStop = true)
    ?_ ?_ ⟨hreach, hpast⟩ hexec
  · intro g g' action hg hs
    exact ⟨hg.1.step action hs, (step_remaining hg.1 hg.2 hs).1⟩
  · intro g g' action hg hs
    exact (step_remaining hg.1 hg.2 hs).2

theorem captureStep_enabled (config : CameraConfig) (service : HttpService)
    {state : CaptureState} (hcreated : state ≠ .absent) (hrunning : state ≠ .ended) :
    ∃ event step, captureStep config service state event = some step := by
  cases state with
  | absent => exact absurd rfl hcreated
  | ended => exact absurd rfl hrunning
  | select => exact ⟨.selectReady, _, rfl⟩
  | dequeue => exact ⟨.dequeueFailed, _, rfl⟩
  | draw frame => exact ⟨.decoded none false, _, rfl⟩
  | publish frame =>
      refine ⟨.copied none, ?_⟩
      rw [captureStep]
      split <;> exact ⟨_, rfl⟩
  | «show» frame pixels motionEvent =>
      refine ⟨.drawn true, ?_⟩
      rw [captureStep]
      split
      · exact ⟨_, rfl⟩
      · split <;> exact ⟨_, rfl⟩
  | saveSnapshot frame eventId =>
      exact ⟨.written .unopened, _, rfl⟩
  | requeue => exact ⟨.requeued true, _, rfl⟩
  | head | readEventId _ | countLcd _ _ | countFrame _ | stopping => exact ⟨.go, _, rfl⟩

theorem sendAll_failed (data : List UInt8) : (sendAll [.failed] data).ret ≠ none := by
  rw [sendAll]
  split <;> exact nofun

/-- A failing `send` ends every sequence of sends. -/
theorem sendParts_failed (parts : List (List UInt8)) : (sendParts [.failed] parts).ret ≠ none := by
  induction parts with
  | nil => exact nofun
  | cons part parts ih =>
      rw [sendParts, sendAll]
      split
      · exact ih
      · exact nofun

theorem sendMessage_failed (limit : Nat) (header : List UInt8) (parts : List (List UInt8)) :
    (sendMessage limit [.failed] header parts).ret ≠ none := by
  rw [sendMessage]
  split
  · exact nofun
  · exact sendParts_failed (header :: parts)

theorem response_failed (response : Response) : (response.send [.failed]).ret ≠ none := by
  cases response with
  | metrics body =>
      rw [Response.send]
      split
      · exact nofun
      · exact sendMessage_failed _ _ _
  | unavailable =>
      rw [Response.send, httpMjpegSendTextResponse]
      exact sendMessage_failed _ _ _
  | jpeg frame =>
      rw [Response.send, httpMjpegSendJpegResponse]
      exact sendMessage_failed _ _ _
  | notFound =>
      rw [Response.send, httpMjpegSendNotFound, httpMjpegSendTextResponse]
      exact sendMessage_failed _ _ _

theorem afterSend_enabled {client : HttpClient} {sent : Sent} {ok failed : ClientState}
    (h : sent.ret ≠ none) : ∃ client', client.afterSend sent ok failed = some client' := by
  rw [HttpClient.afterSend]
  cases hret : sent.ret with
  | none => exact absurd hret h
  | some ret => exact ⟨_, rfl⟩

theorem stepClient_enabled (config : CameraConfig) {i : Nat} {client : HttpClient}
    (hclient : g.clients[i]? = some client) (hrunning : client.state ≠ .done)
    (halive : client.state.usesService = true → g.alive = true) :
    ∃ event g', g.stepClient config i event = some g' := by
  have enabled : ∀ event, (¬ (client.state = .countOut ∧ event = .go)) →
      (∃ client', clientStep config g.service (g.published.length - 1) client event =
        some client') → ∃ event g', g.stepClient config i event = some g' := by
    intro event hother hstep
    obtain ⟨client', hstep⟩ := hstep
    refine ⟨event, { g with clients := g.clients.set i client' }, ?_⟩
    have hguard : ¬ (client.state.usesService && !g.alive) = true := by
      cases huses : client.state.usesService with
      | false => exact Bool.false_ne_true
      | true => rw [halive huses]; exact Bool.false_ne_true
    simp only [Gateway.stepClient, hclient]
    rw [if_neg hguard, if_neg hother, hstep]
    rfl
  cases hstate : client.state with
  | done => exact absurd hstate hrunning
  | countOut =>
      have hlive := halive (by rw [hstate]; rfl)
      refine ⟨.go, { g with
        service := countOut g.service, clients := g.clients.set i (client.goto .closing) }, ?_⟩
      simp only [Gateway.stepClient, hclient, hstate, hlive, Bool.not_true, Bool.and_false,
        Bool.false_eq_true, if_false, and_self, if_true]
  | route | wait | timedOut =>
      refine enabled (.copied none) (by rw [hstate]; exact fun hcount => by cases hcount.1) ?_
      simp only [clientStep, hstate]
      exact ⟨_, rfl⟩
  | blocked =>
      refine enabled .timeout (by rw [hstate]; exact fun hcount => by cases hcount.1) ?_
      simp only [clientStep, hstate]
      exact ⟨_, rfl⟩
  | checkStop | closing =>
      refine enabled .go (by rw [hstate]; exact fun hcount => by cases hcount.1) ?_
      simp only [clientStep, hstate]
      exact ⟨_, rfl⟩
  | respond response =>
      refine enabled (.sent [.failed]) (by rw [hstate]; exact fun hcount => by cases hcount.1) ?_
      simp only [clientStep, hstate]
      exact afterSend_enabled (response_failed response)
  | streamHeader =>
      refine enabled (.sent [.failed]) (by rw [hstate]; exact fun hcount => by cases hcount.1) ?_
      simp only [clientStep, hstate]
      exact afterSend_enabled (sendAll_failed _)
  | sendFrame frame =>
      refine enabled (.sent [.failed]) (by rw [hstate]; exact fun hcount => by cases hcount.1) ?_
      simp only [clientStep, hstate]
      exact afterSend_enabled (sendMessage_failed _ _ _)

theorem finished_of_stuck (hpast : g.main.pastStop = true)
    (hstuck : ∀ action, action.ofServer = true → g.step config action = none) : Finished g := by
  have hcapture : g.capture = .absent ∨ g.capture = .ended := by
    apply Classical.byContradiction
    intro hneither
    obtain ⟨hcreated, hrunning⟩ := not_or.mp hneither
    obtain ⟨event, step, hstep⟩ := captureStep_enabled config g.service hcreated hrunning
    have hnone := hstuck (.capture event) rfl
    simp only [Gateway.step, hstep, Option.map_some, reduceCtorEq] at hnone
  have hmain : ∃ result, g.main = .returned result := by
    have hnone := hstuck (.main true) rfl
    rw [Gateway.step, Gateway.mainStep] at hnone
    cases hmain : g.main with
    | returned result => exact ⟨result, rfl⟩
    | destroy result =>
        rw [hmain] at hnone
        simp only at hnone
        split at hnone <;> cases hnone
    | joinCapture result =>
        rw [hmain] at hnone
        cases hcapture with
        | inl habsent => simp [habsent] at hnone
        | inr hended => simp [hended] at hnone
    | _ =>
        rw [hmain] at hpast
        cases hpast
  refine ⟨hmain, hcapture, fun client hclient => ?_⟩
  apply Classical.byContradiction
  intro hunfinished
  obtain ⟨hrunning, hlooks⟩ := not_or.mp hunfinished
  obtain ⟨i, hi⟩ := List.mem_iff_getElem?.mp hclient
  obtain ⟨event, g', hstep⟩ := stepClient_enabled config hi hrunning fun huses =>
    Bool.not_eq_false _ ▸ fun hdead => hlooks ⟨huses, hdead⟩
  have hnone := hstuck (.client i event) rfl
  rw [Gateway.step, hstep] at hnone
  cases hnone

theorem Finished.stuck (h : Finished g) (action : Action) (hserver : action.ofServer = true) :
    g.step config action = none := by
  cases hstep : g.step config action with
  | none => rfl
  | some g' =>
      cases action with
      | main ok =>
          obtain ⟨result, hmain⟩ := h.main
          rw [Gateway.step, Gateway.mainStep, hmain] at hstep
          cases hstep
      | capture event =>
          obtain ⟨step, hs, -⟩ := Option.map_eq_some_iff.mp hstep
          cases h.capture with
          | inl habsent => simp [habsent, captureStep] at hs
          | inr hended => simp [hended, captureStep] at hs
      | client i event =>
          obtain ⟨client, client', hclient, halive, hcases⟩ := stepClient_cases hstep
          cases h.clients client (List.mem_of_getElem? hclient) with
          | inl hdone =>
              rcases hcases with ⟨hcount, -⟩ | ⟨hs, -⟩
              · rw [hdone] at hcount
                cases hcount
              · cases event <;> simp [clientStep, hdone] at hs
          | inr hlooks =>
              have hlive := halive hlooks.1
              rw [hlooks.2] at hlive
              cases hlive
      | peer event => cases hserver

end Shutdown

/-- After main's `http_service_stop` the threads of the program make at most as many more steps
as remain to them, in any order. If every `send` returns, with whatever result, they can all go
no further exactly when main has returned, the capture thread has ended, and each client thread
has ended or is about to look at the destroyed service. -/
theorem shutdown_terminates (hreach : TransitionSystem.Reachable (gateway config) g)
    (hpast : g.main.pastStop = true) :
    (∀ actions g', TransitionSystem.exec (gateway config) g actions = some g' →
      actions.countP Action.ofServer + g'.remaining ≤ g.remaining) ∧
    ((∀ action, action.ofServer = true → g.step config action = none) ↔ Finished g) :=
  ⟨fun _ _ hexec => run_remaining hreach hpast hexec,
    fun hstuck => finished_of_stuck hpast hstuck, fun h => h.stuck⟩

/-- Main leaves its loop while a client waits for a frame. -/
theorem shutdown_terminates_waitingClient :
    ∃ g, TransitionSystem.Reachable (gateway streamConfig) g ∧
      (g.main.pastStop = true ∧ g.remaining = 8) ∧
      (∀ actions g', TransitionSystem.exec (gateway streamConfig) g actions = some g' →
        actions.countP Action.ofServer + g'.remaining ≤ g.remaining) ∧
      ((∀ action, action.ofServer = true → g.step streamConfig action = none) ↔ Finished g) := by
  have hrun : (TransitionSystem.exec (gateway streamConfig) Gateway.init
      (startup ++ serve 0 (ascii "/stream") ++ startStream 0 ++
        [.peer .connect, .peer (.close 1), .main true, .main true, .main true])).any
      (fun g => decide (g.main.pastStop = true ∧ g.remaining = 8)) = true := by
    decide +kernel
  obtain ⟨g, hexec, hg⟩ := TransitionSystem.exists_exec_of_any hrun
  have hreach := (TransitionSystem.Reachable.init (gateway streamConfig)).exec hexec
  obtain ⟨hpast, hremaining⟩ := of_decide_eq_true hg
  exact ⟨g, hreach, ⟨hpast, hremaining⟩, shutdown_terminates hreach hpast⟩

end CameraGateway
