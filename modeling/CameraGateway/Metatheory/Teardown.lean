import CameraGateway.Metatheory.AcceptLoop

/-!
Which threads are left when main destroys the service and returns. Main joins the
capture thread, and with a frame count the one client thread; the client threads
of continuous mode are detached, and nothing waits for them.
-/
namespace CameraGateway
variable {config : CameraConfig} {g g' : Gateway}

def ClientsDone (g : Gateway) : Prop := ∀ client ∈ g.clients, client.state = .done

/-- In continuous mode main leaves its accept loop only when no client thread runs. -/
def LeavesIdle (config : CameraConfig) (g : Gateway) (action : Action) : Prop :=
  config.frameCount = 0 → ∀ ok, action = .main ok → Leaves config g ok → ClientsDone g

/-- The label `out` is passed before the service is destroyed. -/
def MainState.ending : MainState → Bool
  | .destroy _ | .returned _ => true
  | _ => false

/-- Which client threads there are before and after main has left its loop. -/
structure Teardown (config : CameraConfig) (g : Gateway) : Prop where
  clients : g.main.left = true → ClientsDone g
  joining : config.frameCount ≠ 0 → ∀ i, g.main = .join i → i = 0 ∧ g.clients.length = 1
  single : config.frameCount ≠ 0 → g.main.left = false → (∀ i, g.main ≠ .join i) →
    g.clients.length = 0

section ClientsDone

theorem clientsDone_of_length (h : g.clients.length = 0) : ClientsDone g := by
  intro client hclient
  simp [List.length_eq_zero_iff.mp h] at hclient

theorem clientsDone_map_wake (h : g'.clients = g.clients.map HttpClient.wake) :
    ClientsDone g' ↔ ClientsDone g := by
  have hwake : ∀ client : HttpClient, client.wake.state = .done ↔ client.state = .done := by
    intro client
    rw [HttpClient.wake]
    split
    · rename_i hblocked
      simp [hblocked]
    · rfl
  simp only [ClientsDone, h, List.mem_map, forall_exists_index, and_imp,
    forall_apply_eq_imp_iff₂, hwake]

theorem clientsDone_applyCapture (g : Gateway) (step : CaptureStep) :
    ClientsDone (g.applyCapture step) ↔ ClientsDone g := by
  cases hbroadcast : step.broadcast with
  | true => exact clientsDone_map_wake (by simp [Gateway.applyCapture, hbroadcast])
  | false => simp [ClientsDone, Gateway.applyCapture, hbroadcast]

/-- A client thread that has ended takes no step. -/
theorem stepClient_running {i : Nat} {event : ClientEvent}
    (hs : g.stepClient config i event = some g') : ¬ ClientsDone g := by
  intro hdone
  obtain ⟨client, next, hclient, -, hcases⟩ := stepClient_cases hs
  have hstate := hdone client (List.mem_of_getElem? hclient)
  cases hcases with
  | inl hcount => simp [hcount.1] at hstate
  | inr hstep =>
      have hnone : clientStep config g.service (g.published.length - 1) client event = none := by
        cases event <;> simp [clientStep, hstate]
      rw [hnone] at hstep
      cases hstep.1

end ClientsDone

section Main
variable {ok : Bool}

/-- A step of main that stays in front of the label `out` comes from no join. -/
theorem mainStep_stays (h : g.mainStep config ok = some g') (hstays : g'.main.left = false) :
    g.main.left = false ∧ ∀ i, g.main ≠ .join i := by
  cases hleft : g.main.left with
  | true =>
      revert h hstays
      fun_cases Gateway.mainStep config g ok
      all_goals
        intro h hstays
        cases h <;> simp_all [MainState.left]
  | false =>
      refine ⟨rfl, fun i hjoin => ?_⟩
      simp only [Gateway.mainStep, hjoin] at h
      split at h
      · cases h
        cases hstays
      · cases h

theorem mainStep_ending (h : g.mainStep config ok = some g') (hending : g'.main.ending = true) :
    g.main.ending = true ∨ g.main = .start ∨ g'.capture = .absent ∨ g'.capture = .ended := by
  revert h hending
  fun_cases Gateway.mainStep config g ok
  case case1 hmain _ => exact fun _ _ => Or.inr (Or.inl hmain)
  case case24 | case25 =>
      intro h _
      cases h
      simp [*]
  case case7 | case18 =>
      intro h hending
      cases h
      dsimp only at hending
      split at hending <;> cases hending
  all_goals
    intro h hending
    cases h <;> simp_all [MainState.ending]

/-- Main creates no client thread on its way out. -/
theorem mainStep_clientsDone (h : g.mainStep config ok = some g') (hleft : g'.main.left = true) :
    ClientsDone g' ↔ ClientsDone g := by
  cases mainStep_clients h with
  | same hsame _ => rw [ClientsDone, ClientsDone, hsame]
  | woken _ _ _ hwoken => exact clientsDone_map_wake hwoken
  | created _ _ _ hnext _ =>
      rw [hnext] at hleft
      split at hleft <;> cases hleft

end Main

theorem teardown_main {ok : Bool} (hg : Teardown config g)
    (hguard : LeavesIdle config g (.main ok)) (hs : g.mainStep config ok = some g') :
    Teardown config g' := by
  refine ⟨fun hleft => ?_, fun hframes i hjoin => ?_, ?_⟩
  · rw [mainStep_clientsDone hs hleft]
    cases mainStep_leaves hs hleft with
    | inl hbefore => exact hg.clients hbefore
    | inr hleaves =>
        by_cases hframes : config.frameCount = 0
        · exact hguard hframes ok rfl hleaves
        · cases hleaves with
          | served i hjoin hdone =>
              obtain ⟨rfl, hone⟩ := hg.joining hframes i hjoin
              obtain ⟨client, hsingle⟩ := List.length_eq_one_iff.mp hone
              simpa [ClientsDone, hsingle] using hdone
          | setup hmain _ =>
              apply clientsDone_of_length
              apply hg.single hframes <;> rcases hmain with h | h | h | h <;> rw [h] <;> first
                | rfl
                | exact nofun
          | format hmain _ | listener hmain _ | noRequest _ _ hmain _ _ | allocation _ _ hmain _
          | thread _ _ hmain _ =>
              apply clientsDone_of_length
              apply hg.single hframes <;> rw [hmain] <;> first
                | rfl
                | exact nofun
  · cases mainStep_clients hs with
    | same _ hnever => exact absurd hjoin (hnever i)
    | woken _ _ hnext _ => simp [hnext] at hjoin
    | created _ _ hmain hnext hcreated =>
        have hnone : g.clients.length = 0 := by
          apply hg.single hframes <;> rw [hmain] <;> first
            | rfl
            | exact nofun
        rw [hnext, if_neg hframes, hnone] at hjoin
        cases hjoin
        exact ⟨rfl, by simp [hcreated, hnone]⟩
  · intro hframes hstays hnever
    obtain ⟨hbefore, hnot⟩ := mainStep_stays hs hstays
    have hnone := hg.single hframes hbefore hnot
    cases mainStep_clients hs with
    | same hsame _ => rw [hsame, hnone]
    | woken _ _ _ hwoken => rw [hwoken, List.length_map, hnone]
    | created _ _ _ hnext _ =>
        rw [if_neg hframes] at hnext
        exact absurd hnext (hnever _)

theorem teardown_step {action : Action} (hg : Teardown config g)
    (hguard : LeavesIdle config g action) (hs : g.step config action = some g') :
    Teardown config g' := by
  cases action with
  | main ok => exact teardown_main hg hguard hs
  | capture event =>
      obtain ⟨step, hstep, rfl⟩ := Option.map_eq_some_iff.mp hs
      have hlength : (g.applyCapture step).clients.length = g.clients.length := by
        cases hbroadcast : step.broadcast <;> simp [Gateway.applyCapture, hbroadcast]
      refine ⟨fun hleft => ?_, fun hframes i hjoin => ?_, ?_⟩
      · exact (clientsDone_applyCapture g step).mpr (hg.clients hleft)
      · rw [hlength]
        exact hg.joining hframes i hjoin
      · rw [hlength]
        exact hg.single
  | client i event =>
      have hrunning := stepClient_running hs
      have hframe := stepClient_frame hs
      refine ⟨fun hleft => ?_, ?_, ?_⟩
      · rw [hframe.main] at hleft
        exact absurd (hg.clients hleft) hrunning
      · rw [hframe.main, hframe.length]
        exact hg.joining
      · rw [hframe.main, hframe.length]
        exact hg.single
  | peer event =>
      obtain ⟨peers, backlog, rfl⟩ := stepPeer_frame hs
      exact ⟨hg.clients, hg.joining, hg.single⟩

theorem reachable_teardown
    (h : TransitionSystem.ReachableUnder (gateway config) (LeavesIdle config) g) :
    Teardown config g := by
  refine TransitionSystem.ReachableUnder.invariant (I := Teardown config) ?_ ?_ h
  · exact ⟨nofun, fun _ => nofun, fun _ _ _ => rfl⟩
  · intro g g' action _ hg hguard hs
    exact teardown_step hg hguard hs

theorem reachable_captureJoined (h : TransitionSystem.Reachable (gateway config) g) :
    g.main.ending = true → g.capture = .absent ∨ g.capture = .ended := by
  refine TransitionSystem.Reachable.invariant
    (I := fun g => g.main.ending = true → g.capture = .absent ∨ g.capture = .ended)
    (by simp [gateway, Gateway.init, MainState.ending]) ?_ h
  intro g g' action hreach hg hs hending
  cases action with
  | main ok =>
      have hkept : g.main ≠ .createCapture → g'.capture = g.capture := by
        intro hmain
        cases mainStep_capture hs with
        | inl hsame => exact hsame
        | inr hcreate => exact absurd hcreate.1 hmain
      cases mainStep_ending hs hending with
      | inl hbefore =>
          rw [hkept fun hmain => by simp [hmain, MainState.ending] at hbefore]
          exact hg hbefore
      | inr hrest =>
          cases hrest with
          | inl hstart =>
              rw [hkept (by simp [hstart])]
              exact Or.inl (reachable_setup hreach (Or.inl hstart)).1
          | inr hjoined => exact hjoined
  | capture event =>
      obtain ⟨step, hstep, rfl⟩ := Option.map_eq_some_iff.mp hs
      cases hg hending with
      | inl habsent =>
          rw [habsent] at hstep
          simp [captureStep] at hstep
      | inr hended =>
          rw [hended] at hstep
          simp [captureStep] at hstep
  | client i event =>
      have hframe := stepClient_frame hs
      rw [hframe.main] at hending
      rw [hframe.capture]
      exact hg hending
  | peer event =>
      obtain ⟨peers, backlog, rfl⟩ := stepPeer_frame hs
      exact hg hending

section Exit

/-- Without a step of main or of a client, the capture thread can come to its end. -/
def CanEnd (config : CameraConfig) (g : Gateway) : Prop :=
  ∃ actions g', TransitionSystem.exec (gateway config) g actions = some g' ∧
    (g'.capture = .absent ∨ g'.capture = .ended) ∧ g'.main = g.main ∧
    (ClientsDone g' ↔ ClientsDone g)

theorem CanEnd.step (event : CaptureEvent) {next : CaptureState}
    (hs : (captureStep config g.service g.capture event).map CaptureStep.next = some next)
    (h : ∀ g : Gateway, g.capture = next → CanEnd config g) : CanEnd config g := by
  obtain ⟨step, hstep, rfl⟩ := Option.map_eq_some_iff.mp hs
  obtain ⟨actions, g', hexec, hcapture, hmain, hclients⟩ := h (g.applyCapture step) rfl
  refine ⟨.capture event :: actions, g', ?_, hcapture, hmain,
    hclients.trans (clientsDone_applyCapture g step)⟩
  have hfirst : (gateway config).step g (.capture event) = some (g.applyCapture step) := by
    simp [gateway, Gateway.step, hstep]
  rw [TransitionSystem.exec, hfirst]
  exact hexec

/-- From each of its states the capture thread has a way to its end: a failing
driver or allocator takes it there. -/
theorem capture_canEnd (config : CameraConfig) (g : Gateway) : CanEnd config g := by
  have ended : ∀ g : Gateway, g.capture = .absent ∨ g.capture = .ended → CanEnd config g :=
    fun g h => ⟨[], g, rfl, h, rfl, Iff.rfl⟩
  have stopping : ∀ g : Gateway, g.capture = .stopping → CanEnd config g := by
    intro g h
    exact .step .go (by rw [h]; rfl) fun g h => ended g (Or.inr h)
  have select : ∀ g : Gateway, g.capture = .select → CanEnd config g := by
    intro g h
    exact .step .selectFailed (by rw [h]; rfl) stopping
  have requeue : ∀ g : Gateway, g.capture = .requeue → CanEnd config g := by
    intro g h
    exact .step (.requeued false) (by rw [h]; rfl) stopping
  have countFrame : ∀ frame (g : Gateway), g.capture = .countFrame frame → CanEnd config g := by
    intro frame g h
    exact .step .go (by rw [h]; rfl) requeue
  have countLcd : ∀ frame ret (g : Gateway), g.capture = .countLcd frame ret → CanEnd config g := by
    intro frame ret g h
    exact .step .go (by rw [h]; rfl) (countFrame frame)
  have saveSnapshot : ∀ frame eventId (g : Gateway), g.capture = .saveSnapshot frame eventId →
      CanEnd config g := by
    intro frame eventId g h
    exact .step (.written .unopened) (by rw [h]; rfl) (countLcd frame 0)
  have readEventId : ∀ frame (g : Gateway), g.capture = .readEventId frame → CanEnd config g := by
    intro frame g h
    exact .step .go (by rw [h]; rfl) (saveSnapshot frame g.service.motionEvents)
  cases h : g.capture with
  | absent => exact ended g (Or.inl h)
  | ended => exact ended g (Or.inr h)
  | stopping => exact stopping g h
  | select => exact select g h
  | requeue => exact requeue g h
  | countFrame frame => exact countFrame frame g h
  | countLcd frame ret => exact countLcd frame ret g h
  | saveSnapshot frame eventId => exact saveSnapshot frame eventId g h
  | readEventId frame => exact readEventId frame g h
  | head =>
      cases hstop : g.service.stop with
      | true => exact .step .go (by simp [h, captureStep, hstop, CaptureStep.quiet]) stopping
      | false => exact .step .go (by simp [h, captureStep, hstop, CaptureStep.quiet]) select
  | dequeue => exact .step .dequeueFailed (by rw [h]; rfl) stopping
  | publish frame =>
      apply CanEnd.step (.copied none) _ requeue
      simp [h, captureStep, httpServiceUpdateLatest, frameCopyAlloc_ok_iff, CaptureStep.fails]
  | draw frame =>
      cases hskip : !config.fbPreview && !config.motionDetect with
      | true =>
          apply CanEnd.step (.decoded none false) _ (countFrame frame)
          simp [h, captureStep, drawStep, hskip, CaptureStep.quiet]
      | false =>
          apply CanEnd.step (.decoded none false) _ (countLcd frame (-1))
          simp [h, captureStep, drawStep, hskip, CaptureStep.quiet]
  | «show» frame pixels motionEvent =>
      cases hsave : motionEvent && config.motionSave with
      | true =>
          apply CanEnd.step (.drawn true) _ (readEventId frame)
          simp [h, captureStep, hsave, CaptureStep.quiet]
      | false =>
          apply CanEnd.step (.drawn true) _ (countLcd frame 0)
          simp [h, captureStep, hsave, CaptureStep.quiet]

/-- After main has left its loop it can come to the point where it destroys the
service, with every client thread where it was. -/
theorem left_canDestroy (hleft : g.main.left = true) :
    ∃ g', TransitionSystem.RunUnder (gateway config) (fun _ _ => True) g g' ∧
      g'.main.ending = true ∧ (ClientsDone g' ↔ ClientsDone g) := by
  have joining : ∀ (g : Gateway) result, g.main = .joinCapture result →
      ∃ g', TransitionSystem.RunUnder (gateway config) (fun _ _ => True) g g' ∧
        g'.main.ending = true ∧ (ClientsDone g' ↔ ClientsDone g) := by
    intro g result hmain
    obtain ⟨actions, ended, hexec, hcapture, hsame, hclients⟩ := capture_canEnd config g
    have hrun : TransitionSystem.RunUnder (gateway config) (fun _ _ => True) g ended :=
      .exec .refl (fun _ _ _ => True.intro) hexec
    refine ⟨{ ended with main := .destroy result }, ?_, rfl, hclients⟩
    refine .step (.main true) hrun True.intro ?_
    cases hcapture with
    | inl h | inr h => simp [gateway, Gateway.step, Gateway.mainStep, hsame, hmain, h]
  cases hmain : g.main with
  | destroy _ | returned _ => exact ⟨g, .refl, by rw [hmain]; rfl, Iff.rfl⟩
  | joinCapture result => exact joining g result hmain
  | out result =>
      cases hs : g.mainStep config true with
      | none =>
          simp only [Gateway.mainStep, hmain] at hs
          split at hs <;> cases hs
      | some next =>
          have hnext : next.main = .joinCapture result := by
            simp only [Gateway.mainStep, hmain] at hs
            split at hs <;> cases hs <;> rfl
          obtain ⟨g', hrun, hending, hclients⟩ := joining next result hnext
          have hfirst : TransitionSystem.RunUnder (gateway config) (fun _ _ => True) g next :=
            .step (.main true) .refl True.intro hs
          refine ⟨g', hfirst.trans hrun, hending, hclients.trans ?_⟩
          exact mainStep_clientsDone hs (by rw [hnext]; rfl)
  | start | initService | createCapture | listen | accept | recv _ | countIn _ _
  | createClient _ _ | join _ => simp [hmain, MainState.left] at hleft

/-- Once main has left its loop, no client thread is created. -/
theorem left_step {action : Action} (hleft : g.main.left = true) (hdone : ClientsDone g)
    (hs : g.step config action = some g') : g'.main.left = true ∧ ClientsDone g' := by
  cases action with
  | main ok =>
      have hafter : g'.main.left = true := by
        cases hstays : g'.main.left with
        | true => rfl
        | false => simp [(mainStep_stays hs hstays).1] at hleft
      exact ⟨hafter, (mainStep_clientsDone hs hafter).mpr hdone⟩
  | capture event =>
      obtain ⟨step, -, rfl⟩ := Option.map_eq_some_iff.mp hs
      exact ⟨hleft, (clientsDone_applyCapture g step).mpr hdone⟩
  | client i event => exact absurd hdone (stepClient_running hs)
  | peer event =>
      obtain ⟨peers, backlog, rfl⟩ := stepPeer_frame hs
      exact ⟨hleft, hdone⟩

/-- A step with which main leaves its loop is safe exactly if no client runs. -/
theorem exit_safe_iff {ok : Bool} (hs : g.mainStep config ok = some g')
    (hleft : g'.main.left = true) :
    (∀ g'', TransitionSystem.RunUnder (gateway config) (fun _ _ => True) g' g'' →
      g''.main.ending = true → ClientsDone g'') ↔ ClientsDone g := by
  constructor
  · intro hsafe
    obtain ⟨g'', hrun, hending, hclients⟩ := @left_canDestroy config g' hleft
    exact (mainStep_clientsDone hs hleft).mp (hclients.mp (hsafe g'' hrun hending))
  · intro hdone g'' hrun _
    have hstart : g'.main.left = true ∧ ClientsDone g' :=
      ⟨hleft, (mainStep_clientsDone hs hleft).mpr hdone⟩
    exact (hrun.invariant hstart fun _ _ hg _ hstep => left_step hg.1 hg.2 hstep).2

end Exit

/-- The service is destroyed when the capture thread has ended, and, if main leaves
the loop of continuous mode only while no client runs, when every client thread has
ended. A step that leaves the loop while one runs leads to its destruction under it. -/
theorem teardown_waits_for_clients (config : CameraConfig) :
    (∀ g, TransitionSystem.Reachable (gateway config) g → g.main.ending = true →
      g.capture = .absent ∨ g.capture = .ended) ∧
    (∀ g, TransitionSystem.ReachableUnder (gateway config) (LeavesIdle config) g →
      g.main.ending = true → ClientsDone g) ∧
    ∀ g g' ok, TransitionSystem.Reachable (gateway config) g → g.main.left = false →
      g.step config (.main ok) = some g' → g'.main.left = true →
      ((∀ g'', TransitionSystem.RunUnder (gateway config) (fun _ _ => True) g' g'' →
        g''.main.ending = true → ClientsDone g'') ↔ ClientsDone g) := by
  refine ⟨fun g h => reachable_captureJoined h, fun g h hending => ?_, ?_⟩
  · apply (reachable_teardown h).clients
    cases hmain : g.main <;> simp_all [MainState.ending, MainState.left]
  · intro g g' ok _ _ hs hleft
    exact exit_safe_iff hs hleft

section Runs

def oneFrameConfig : CameraConfig := { streamConfig with frameCount := 1 }

def answerUnavailable (i : Nat) : List Action :=
  [.client i (.copied none), .client i (.sent [.accepted 1000, .accepted 1000]),
    .client i .go, .client i .go]

/-- Main goes from `out` to the destruction, past the end of the capture thread. -/
def endCapture : List Action := [.main true, .capture .go, .capture .go, .main true]

end Runs

/-- With a frame count the client thread has ended before the service is destroyed. -/
theorem teardown_waits_for_clients_oneFrame :
    ∃ g, TransitionSystem.ReachableUnder (gateway oneFrameConfig) (LeavesIdle oneFrameConfig) g ∧
      (g.main = .destroy 0 ∧ g.clients.length = 1) ∧
      (g.capture = .absent ∨ g.capture = .ended) ∧ ClientsDone g := by
  have hrun : (TransitionSystem.exec (gateway oneFrameConfig) Gateway.init
      (startup ++ serve 0 (ascii "/snapshot") ++ answerUnavailable 0 ++ [.main true] ++
        endCapture)).any
      (fun g => decide (g.main = .destroy 0 ∧ g.clients.length = 1)) = true := by
    decide +kernel
  obtain ⟨g, hexec, hg⟩ := TransitionSystem.exists_exec_of_any hrun
  have hreach : TransitionSystem.ReachableUnder (gateway oneFrameConfig)
      (LeavesIdle oneFrameConfig) g :=
    TransitionSystem.RunUnder.exec .refl (fun _ _ _ => nofun) hexec
  obtain ⟨hmain, hclients⟩ := of_decide_eq_true hg
  obtain ⟨hcapture, hdone, -⟩ := teardown_waits_for_clients oneFrameConfig
  have hending : g.main.ending = true := by rw [hmain]; rfl
  exact ⟨g, hreach, ⟨hmain, hclients⟩, hcapture g hreach.reachable hending,
    hdone g hreach hending⟩

/-- In continuous mode the service is destroyed while a client thread is about to
choose its handler. -/
theorem teardown_under_live_client :
    ¬ ∀ (config : CameraConfig) (g : Gateway), TransitionSystem.Reachable (gateway config) g →
      g.main.ending = true → (g.capture = .absent ∨ g.capture = .ended) ∧ ClientsDone g := by
  intro claim
  have hrun : (TransitionSystem.exec (gateway streamConfig) Gateway.init
      (startup ++ serve 0 (ascii "/stream") ++
        [.peer .connect, .peer (.close 1), .main true, .main true] ++ endCapture)).any
      (fun g => decide (g.main = .destroy (-1) ∧ ∃ client ∈ g.clients[0]?,
        client.state = .route)) = true := by
    decide +kernel
  obtain ⟨g, hexec, hg⟩ := TransitionSystem.exists_exec_of_any hrun
  have hreach := (TransitionSystem.Reachable.init (gateway streamConfig)).exec hexec
  obtain ⟨hmain, client, hclient, hroute⟩ := of_decide_eq_true hg
  obtain ⟨-, hdone⟩ := claim streamConfig g hreach (by rw [hmain]; rfl)
  have hstate := hdone client (List.mem_of_getElem? hclient)
  rw [hroute] at hstate
  cases hstate

end CameraGateway
