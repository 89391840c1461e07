import CameraGateway.Library.Execution
import CameraGateway.Metatheory.AcceptLoop

/-!
What the service still does after its capture thread has ended. The stream handler
looks at the stop flag; the snapshot handler and the accept loop look at nothing
that the end of the capture thread has changed. Nothing wakes main from `accept` either,
so it leaves only if the network lets its calls return.
-/
namespace CameraGateway
variable {config : CameraConfig} {g g' : Gateway}

def Gateway.handedOut (g : Gateway) : List (Nat × Frame) := g.clients.flatMap HttpClient.handed

/-- Main reads from a connection that has sent something. -/
def RequestArrives (g : Gateway) : Prop :=
  ∃ peer connection, g.main = .recv peer ∧ g.peers[peer]? = some connection ∧
    connection.reset = false ∧ connection.pending ≠ []

/-- A client thread chooses the snapshot handler and its copy of the stored frame
succeeds. -/
def SnapshotCopied (service : HttpService) (client : HttpClient) (event : ClientEvent) : Prop :=
  client.state = .route ∧ httpClientRoute client.path = .snapshot ∧ service.hasFrame = true ∧
    ∃ address, event = .copied (some address)

/-- No request reaches main, and none for a snapshot is answered from the store. -/
structure Undisturbed (g : Gateway) (action : Action) : Prop where
  main : ∀ ok, action = .main ok → ¬ RequestArrives g
  snapshot : ∀ i event client, action = .client i event → g.clients[i]? = some client →
    ¬ SnapshotCopied g.service client event

theorem undisturbed_main {ok : Bool} (h : ¬ RequestArrives g) : Undisturbed g (.main ok) := by
  refine ⟨fun _ _ => h, ?_⟩
  intro _ _ _ haction
  cases haction

theorem undisturbed_peer (event : PeerEvent) : Undisturbed g (.peer event) := by
  refine ⟨?_, ?_⟩
  · intro _ haction
    cases haction
  · intro _ _ _ haction
    cases haction

theorem undisturbed_client_iff {i : Nat} {event : ClientEvent} {client : HttpClient}
    (hclient : g.clients[i]? = some client) :
    Undisturbed g (.client i event) ↔ ¬ SnapshotCopied g.service client event := by
  constructor
  · exact fun hquiet => hquiet.snapshot i event client rfl hclient
  · intro hcopied
    refine ⟨?_, ?_⟩
    · intro _ haction
      cases haction
    · intro i' event' client' haction hclient'
      cases haction
      cases hclient.symm.trans hclient'
      exact hcopied

def MainState.result : MainState → Option Int
  | .out result | .joinCapture result | .destroy result | .returned result => some result
  | _ => none

section Main
variable {ok : Bool}

theorem mainStep_result {result : Int} (h : g.mainStep config ok = some g')
    (hresult : g'.main.result = some result) :
    g.main.result = some result ∨ result = -1 ∨ ∃ i, g.main = .join i := by
  revert h hresult
  fun_cases Gateway.mainStep config g ok
  case case2 | case7 =>
      intro h hresult
      cases h
      cases ok with
      | true => cases hresult
      | false =>
          cases hresult
          exact Or.inr (Or.inl rfl)
  case case18 =>
      intro h hresult
      cases h
      dsimp only at hresult
      split at hresult <;> cases hresult
  case case20 i hmain _ => exact fun _ _ => Or.inr (Or.inr ⟨i, hmain⟩)
  all_goals
    intro h hresult
    cases h <;> simp_all [MainState.result]

theorem mainStep_requests (h : g.mainStep config ok = some g') :
    RequestArrives g ∧ g'.requestCount = g.requestCount + 1 ∨
      ¬ RequestArrives g ∧ g'.requestCount = g.requestCount := by
  have other : (∀ peer, g.main ≠ .recv peer) → ¬ RequestArrives g := by
    intro hmain harrives
    obtain ⟨peer, _, hrecv, -⟩ := harrives
    exact hmain peer hrecv
  revert h
  fun_cases Gateway.mainStep config g ok
  case case13 peer hmain connection hconnection received hreceived hnone =>
      intro h
      cases h
      refine Or.inr ⟨?_, rfl⟩
      rintro ⟨peer', connection', hmain', hconnection', hreset, hpending⟩
      cases hmain.symm.trans hmain'
      cases hconnection.symm.trans hconnection'
      simp [acceptRequest_none_iff hreceived, hreset, hpending] at hnone
  case case14 peer hmain connection hconnection received hreceived path hpath _ =>
      intro h
      cases h
      have hsome : ¬ (connection.reset = true ∨ connection.pending = []) := by
        rw [← acceptRequest_none_iff hreceived, hpath]
        exact Option.some_ne_none path
      simp only [not_or, Bool.not_eq_true] at hsome
      exact Or.inl ⟨⟨peer, connection, hmain, hconnection, hsome⟩, rfl⟩
  all_goals
    intro h
    cases h <;> exact Or.inr ⟨other (by simp [*]), rfl⟩

theorem mainStep_handedOut (h : g.mainStep config ok = some g') : g'.handedOut = g.handedOut := by
  rw [Gateway.handedOut, Gateway.handedOut]
  cases mainStep_clients h with
  | same hsame _ => rw [hsame]
  | woken _ _ _ hwoken => simp only [hwoken, List.flatMap_map, wake_handed]
  | created peer path _ _ hcreated => simp [hcreated, HttpClient.start]

end Main

section Client
variable {service : HttpService} {client client' : HttpClient} {event : ClientEvent}

theorem clientStep_snapshot {index : Nat}
    (hstored : service.hasFrame = true → service.latest.data ≠ none ∧ service.latest.size ≠ 0)
    (hcopied : SnapshotCopied service client event)
    (hs : clientStep config service index client event = some client') :
    client'.handed ≠ client.handed := by
  obtain ⟨hstate, hroute, hready, address, rfl⟩ := hcopied
  obtain ⟨hdata, hsize⟩ := hstored hready
  have hcopy : (frameCopyAlloc service.latest (some address)).1 = 0 :=
    (frameCopyAlloc_ok_iff service.latest (some address)).mpr ⟨hdata, hsize, rfl⟩
  simp only [clientStep, hstate, HttpClient.dispatch, hroute, httpServiceCopyLatest, hready,
    if_true, hcopy, ne_eq, not_true_eq_false, if_false, Option.some.injEq] at hs
  simp [← hs]

/-- When the stop flag is up a step hands out nothing but a copied snapshot. -/
theorem clientStep_stopped {index : Nat}
    (hstop : client.state.usesService = true → service.stop = true)
    (hcopied : ¬ SnapshotCopied service client event)
    (hs : clientStep config service index client event = some client') :
    client'.handed = client.handed := by
  cases (clientStep_handed hs).1 with
  | same hhanded => exact hhanded
  | snapshot frame hstate hroute hhanded hready =>
      cases event with
      | copied malloc =>
          cases malloc with
          | some address => exact absurd ⟨hstate, hroute, hready, address, rfl⟩ hcopied
          | none =>
              have hcopy : (frameCopyAlloc service.latest none).1 ≠ 0 := by
                simp [frameCopyAlloc_ok_iff]
              simp only [clientStep, hstate, HttpClient.dispatch, hroute, httpServiceCopyLatest,
                hready, if_true, hcopy, ne_eq, not_false_eq_true, Option.some.injEq] at hs
              rw [← hs]
              rfl
      | go | sent _ | wakeUp | timeout => simp [clientStep, hstate] at hs
  | streamed frame hstate _ hrunning =>
      have huses : client.state.usesService = true := by
        cases hstate with
        | inl h | inr h => rw [h]; rfl
      rw [hstop huses] at hrunning
      cases hrunning

private theorem flatMap_set_iff {α β : Type} (f : α → List β) {l : List α} {i : Nat} {a b : α}
    (h : l[i]? = some a) : (l.set i b).flatMap f = l.flatMap f ↔ f b = f a := by
  induction l generalizing i with
  | nil => simp at h
  | cons x l ih =>
      cases i with
      | zero =>
          simp only [List.getElem?_cons_zero, Option.some.injEq] at h
          subst h
          simp
      | succ i =>
          simp only [List.getElem?_cons_succ] at h
          simp [ih h]

end Client

theorem reachable_endedStops (h : TransitionSystem.Reachable (gateway config) g) :
    g.capture = .ended → g.alive = true → g.service.stop = true := by
  refine TransitionSystem.Reachable.invariant
    (I := fun g => g.capture = .ended → g.alive = true → g.service.stop = true)
    (by simp [gateway, Gateway.init]) ?_ h
  intro g g' action hreach hg hs hended halive
  cases action with
  | main ok =>
      have hbefore : g.capture = .ended := by
        cases mainStep_capture hs with
        | inl hsame => exact hsame.symm.trans hended
        | inr hcreate => simp [hcreate.2] at hended
      cases mainStep_service hs with
      | same hsame hservice =>
          rw [hservice]
          exact hg hbefore (hsame ▸ halive)
      | countedIn _ _ _ _ hsame hservice =>
          rw [hservice]
          exact hg hbefore (hsame ▸ halive)
      | countedOut hsame hservice =>
          rw [hservice, (countOut_kept g.service).2.2]
          exact hg hbefore (hsame ▸ halive)
      | stopped _ _ _ hservice => rw [hservice]; rfl
      | started hmain _ _ =>
          rw [(reachable_setup hreach (Or.inr (Or.inl hmain))).1] at hbefore
          cases hbefore
      | destroyed _ _ hdead _ => simp [hdead] at halive
  | capture event =>
      obtain ⟨step, hstep, rfl⟩ := Option.map_eq_some_iff.mp hs
      cases captureStep_shared hstep with
      | quiet _ hnext => exact absurd hended hnext
      | publishes _ _ _ _ _ hnext =>
          rw [show (g.applyCapture step).capture = step.next from rfl, hnext] at hended
          cases hended
      | stops _ _ _ _ hservice =>
          rw [show (g.applyCapture step).service = step.service from rfl, hservice]
          rfl
  | client i event =>
      have hframe := stepClient_frame hs
      rw [hframe.stop]
      exact hg (hframe.capture ▸ hended) (hframe.alive ▸ halive)
  | peer event =>
      obtain ⟨peers, backlog, rfl⟩ := stepPeer_frame hs
      exact hg hended halive

theorem reachable_result (hcontinuous : config.frameCount = 0)
    (h : TransitionSystem.Reachable (gateway config) g) :
    ∀ result, g.main.result = some result → result = -1 := by
  refine TransitionSystem.Reachable.invariant
    (I := fun g => ∀ result, g.main.result = some result → result = -1)
    (by simp [gateway, Gateway.init, MainState.result]) ?_ h
  intro g g' action hreach hg hs result hresult
  cases action with
  | main ok =>
      cases mainStep_result hs hresult with
      | inl hbefore => exact hg result hbefore
      | inr hrest =>
          cases hrest with
          | inl hfailed => exact hfailed
          | inr hjoin =>
              obtain ⟨i, hi⟩ := hjoin
              exact absurd hi (reachable_continuous hcontinuous hreach i)
  | capture event =>
      obtain ⟨step, -, rfl⟩ := Option.map_eq_some_iff.mp hs
      exact hg result hresult
  | client i event => exact hg result ((stepClient_frame hs).main ▸ hresult)
  | peer event =>
      obtain ⟨peers, backlog, rfl⟩ := stepPeer_frame hs
      exact hg result hresult

/-- After the capture thread has ended, a step hands out a frame or starts with a
request exactly if it is one of those two. -/
theorem ended_step {action : Action} (h : TransitionSystem.Reachable (gateway config) g)
    (hended : g.capture = .ended) (hs : g.step config action = some g') :
    (g'.handedOut = g.handedOut ∧ g'.requestCount = g.requestCount ↔ Undisturbed g action) ∧
      g'.capture = .ended := by
  cases action with
  | main ok =>
      have hcapture : g'.capture = .ended := by
        cases mainStep_capture hs with
        | inl hsame => exact hsame.trans hended
        | inr hcreate =>
            rw [(reachable_setup h (Or.inr (Or.inr hcreate.1))).1] at hended
            cases hended
      refine ⟨?_, hcapture⟩
      cases mainStep_requests hs with
      | inl hrequest =>
          constructor
          · rintro ⟨-, hcount⟩
            omega
          · exact fun hquiet => absurd hrequest.1 (hquiet.main ok rfl)
      | inr hnone =>
          exact ⟨fun _ => undisturbed_main hnone.1, fun _ => ⟨mainStep_handedOut hs, hnone.2⟩⟩
  | capture event =>
      obtain ⟨step, hstep, rfl⟩ := Option.map_eq_some_iff.mp hs
      rw [hended] at hstep
      simp [captureStep] at hstep
  | client i event =>
      have hframe := stepClient_frame hs
      refine ⟨?_, hframe.capture.trans hended⟩
      obtain ⟨client, next, hclient, halive, hcases⟩ := stepClient_cases hs
      rw [undisturbed_client_iff hclient]
      have hhanded : g'.handedOut = g.handedOut ↔ next.handed = client.handed := by
        cases hcases with
        | inl hcount =>
            obtain ⟨-, -, rfl⟩ := hcount
            exact flatMap_set_iff HttpClient.handed hclient
        | inr hstep =>
            obtain ⟨-, rfl⟩ := hstep
            exact flatMap_set_iff HttpClient.handed hclient
      simp only [hhanded, hframe.requestCount, and_true]
      cases hcases with
      | inl hcount =>
          obtain ⟨hstate, rfl, -⟩ := hcount
          refine ⟨fun _ hcopied => ?_, fun _ => rfl⟩
          simp [SnapshotCopied, hstate] at hcopied
      | inr hstep =>
          have hstop : client.state.usesService = true → g.service.stop = true :=
            fun huses => reachable_endedStops h hended (halive huses)
          constructor
          · intro hsame hcopied
            have huses : g.alive = true := halive (by rw [hcopied.1]; rfl)
            exact clientStep_snapshot ((reachable_published h).newest huses).stored hcopied
              hstep.1 hsame
          · exact fun hcopied => clientStep_stopped hstop hcopied hstep.1
  | peer event =>
      obtain ⟨peers, backlog, rfl⟩ := stepPeer_frame hs
      exact ⟨⟨fun _ => undisturbed_peer event, fun _ => ⟨rfl, rfl⟩⟩, hended⟩

section Leaving
variable {ok : Bool}

def Action.isMain (action : Action) : Prop := ∃ ok, action = .main ok

/-- How often main's calls can still return before it is at `out`, if no request arrives. -/
def MainState.toLeave : MainState → Nat
  | .start => 6
  | .initService => 5
  | .createCapture | .countIn _ _ => 4
  | .listen | .createClient _ _ => 3
  | .accept => 2
  | .recv _ | .join _ => 1
  | .out _ | .joinCapture _ | .destroy _ | .returned _ => 0

theorem mainStep_toLeave (hmain : g.main.left = false) (hquiet : ¬ RequestArrives g)
    (h : g.mainStep config ok = some g') : g'.main.toLeave < g.main.toLeave := by
  have hcount := mainStep_requests h
  revert h hcount
  fun_cases Gateway.mainStep config g ok
  case case14 =>
      intro h hcount
      cases h
      simp [hquiet] at hcount
  case case2 hstart _ =>
      intro h _
      cases h
      cases ok <;> simp [hstart, MainState.toLeave]
  case case7 hstart =>
      intro h _
      cases h
      cases ok <;> simp [hstart, MainState.toLeave]
  case case18 hcreate _ =>
      intro h _
      cases h
      by_cases hcontinuous : config.frameCount = 0 <;>
        simp [hcreate, hcontinuous, MainState.toLeave]
  all_goals
    intro h _
    cases h <;> simp_all [MainState.toLeave, MainState.left]

theorem left_result : g.main.left = true ↔ ∃ result, g.main.result = some result := by
  cases hmain : g.main <;> simp [MainState.left, MainState.result]

theorem mainStep_stays_left (hleft : g.main.left = true) (h : g.mainStep config ok = some g') :
    g'.main.left = true := by
  revert h
  fun_cases Gateway.mainStep config g ok
  all_goals
    intro h
    cases h <;> simp_all [MainState.left]

theorem unmarked_main {action : Action} (haction : ¬ action.isMain)
    (hs : g.step config action = some g') : g'.main = g.main := by
  cases action with
  | main ok => exact absurd ⟨ok, rfl⟩ haction
  | capture event =>
      obtain ⟨step, -, rfl⟩ := Option.map_eq_some_iff.mp hs
      rfl
  | client i event => exact (stepClient_frame hs).main
  | peer event =>
      obtain ⟨peers, backlog, rfl⟩ := stepPeer_frame hs
      rfl

/-- In its loop main is kept from a step by `accept` and `recv` only. -/
theorem main_blocks (hjoin : ∀ i, g.main ≠ .join i) (hmain : g.main.left = false) :
    g.main = .accept ∧ g.backlog = [] ∨ (∃ peer, g.main = .recv peer) ∨
      ∃ g', g.step config (.main true) = some g' := by
  cases hstate : g.main with
  | accept =>
      cases hbacklog : g.backlog with
      | nil => exact .inl ⟨rfl, rfl⟩
      | cons peer backlog => simp [Gateway.step, Gateway.mainStep, hstate, hbacklog]
  | recv peer => exact .inr (.inl ⟨peer, rfl⟩)
  | join i => exact absurd hstate (hjoin i)
  | start =>
      by_cases hformat : config.pixelFormat = v4l2PixFmtMjpeg <;>
        simp [Gateway.step, Gateway.mainStep, hstate, hformat]
  | initService | createCapture | listen | countIn _ _ | createClient _ _ =>
      simp [Gateway.step, Gateway.mainStep, hstate]
  | out _ | joinCapture _ | destroy _ | returned _ =>
      rw [hstate] at hmain
      cases hmain

end Leaving

section Executions
variable (run : TransitionSystem.Execution (gateway config) g)

/-- After the end of the capture thread nothing is served any more, and main leaves its loop
with -1. -/
structure Abandoned : Prop where
  handedOut : ∀ n, (run.state n).handedOut = g.handedOut
  requests : ∀ n, (run.state n).requestCount = g.requestCount
  leaves : ∃ n, (run.state n).main.result = some (-1)

/-- No request reaches main, none for a snapshot is answered from the store, and as long as
main is in its loop its calls return. -/
structure LeftAlone : Prop where
  undisturbed : ∀ n action, run.label n = some action → Undisturbed (run.state n) action
  returns : run.Recurs Action.isMain fun g => g.main.left = true

variable {run}

theorem ended_states (h : TransitionSystem.Reachable (gateway config) g)
    (hended : g.capture = .ended) (n : Nat) : (run.state n).capture = .ended := by
  have hboth : TransitionSystem.Reachable (gateway config) (run.state n) ∧
      (run.state n).capture = .ended := by
    refine run.invariant (I := fun g => TransitionSystem.Reachable (gateway config) g ∧
      g.capture = .ended) ⟨h, hended⟩ ?_ n
    intro n action hlabel hn
    have hs := run.next n action hlabel
    exact ⟨hn.1.step action hs, (ended_step hn.1 hn.2 hs).2⟩
  exact hboth.2

theorem abandoned_of_leftAlone (hcontinuous : config.frameCount = 0)
    (h : TransitionSystem.Reachable (gateway config) g) (hended : g.capture = .ended)
    (halone : LeftAlone run) : Abandoned run := by
  have hserved : ∀ n, (run.state n).handedOut = g.handedOut ∧
      (run.state n).requestCount = g.requestCount := by
    intro n
    refine run.invariant (I := fun g' => g'.handedOut = g.handedOut ∧
      g'.requestCount = g.requestCount) ⟨rfl, rfl⟩ ?_ n
    intro n action hlabel hn
    obtain ⟨hiff, -⟩ := ended_step (run.reachable h n) (ended_states h hended n)
      (run.next n action hlabel)
    obtain ⟨hhanded, hcount⟩ := hiff.mpr (halone.undisturbed n action hlabel)
    exact ⟨hhanded.trans hn.1, hcount.trans hn.2⟩
  refine ⟨fun n => (hserved n).1, fun n => (hserved n).2, ?_⟩
  -- every return of one of main's calls brings it nearer to `out`
  obtain ⟨n, hleft⟩ := halone.returns.eventually (fun g => g.main.toLeave)
    (fun n action hlabel hmarked hmain => by
      obtain ⟨ok, rfl⟩ := hmarked
      refine mainStep_toLeave (by simpa using hmain) ?_ (run.next n _ hlabel)
      exact (halone.undisturbed n _ hlabel).main ok rfl)
    (fun n action hlabel hunmarked =>
      Nat.le_of_eq (congrArg MainState.toLeave (unmarked_main hunmarked (run.next n _ hlabel))))
  obtain ⟨result, hresult⟩ := left_result.mp hleft
  refine ⟨n, ?_⟩
  rw [hresult, reachable_result hcontinuous (run.reachable h n) result hresult]

theorem leftAlone_of_abandoned (h : TransitionSystem.Reachable (gateway config) g)
    (hended : g.capture = .ended) (habandoned : Abandoned run) : LeftAlone run := by
  constructor
  · intro n action hlabel
    refine (ended_step (run.reachable h n) (ended_states h hended n)
      (run.next n action hlabel)).1.mp ⟨?_, ?_⟩
    · rw [habandoned.handedOut, habandoned.handedOut]
    · rw [habandoned.requests, habandoned.requests]
  · obtain ⟨n, hresult⟩ := habandoned.leaves
    refine TransitionSystem.Execution.recurs_of_eventually (left_result.mpr ⟨-1, hresult⟩) ?_ ?_
    · intro n action hlabel hleft
      have hs : (run.state n).step config action = some (run.state (n + 1)) :=
        run.next n action hlabel
      by_cases hmarked : action.isMain
      · obtain ⟨ok, rfl⟩ := hmarked
        exact mainStep_stays_left hleft hs
      · rwa [unmarked_main hmarked hs]
    · intro n action hlabel hunmarked hleft
      rwa [unmarked_main hunmarked (run.next n action hlabel)] at hleft

end Executions

/-- Once the capture thread has ended no frame is handed out, no request is started and main
leaves with -1, in exactly those runs in which no request arrives, no snapshot is copied and
main's calls return; only `accept` and `recv` can keep it. The first two conditions are exact
for each step. -/
theorem dead_capture_serves_nothing (hcontinuous : config.frameCount = 0)
    (h : TransitionSystem.Reachable (gateway config) g) (hended : g.capture = .ended) :
    (∀ run : TransitionSystem.Execution (gateway config) g, Abandoned run ↔ LeftAlone run) ∧
      (∀ (run : TransitionSystem.Execution (gateway config) g) n,
        (run.state n).main.left = false →
        (run.state n).main = .accept ∧ (run.state n).backlog = [] ∨
          (∃ peer, (run.state n).main = .recv peer) ∨
          ∃ g', (run.state n).step config (.main true) = some g') ∧
      ∀ action g', g.step config action = some g' →
        (g'.handedOut = g.handedOut ∧ g'.requestCount = g.requestCount ↔
          Undisturbed g action) := by
  refine ⟨fun run => ?_, fun run n hmain => ?_, fun action g' hs => (ended_step h hended hs).1⟩
  · constructor
    · exact leftAlone_of_abandoned h hended
    · exact abandoned_of_leftAlone hcontinuous h hended
  · exact main_blocks (reachable_continuous hcontinuous (run.reachable h n)) hmain

section Runs

def CaptureState.isEnded : CaptureState → Bool
  | .ended => true
  | _ => false

theorem ended_of_isEnded {state : CaptureState} (h : state.isEnded = true) : state = .ended := by
  cases state with
  | ended => rfl
  | _ => cases h

/-- One frame is published and recorded; giving its buffer back to the driver fails. -/
def captureFailure : List Action :=
  publishFrame 7 ++ [.capture (.decoded none false), .capture .go, .capture (.requeued false),
    .capture .go]

/-- No request reaches main and no client moves, as a check of one step. -/
def leavesAlone (g : Gateway) : Action → Bool
  | .main _ =>
      match g.main with
      | .recv peer => g.peers[peer]?.all fun connection =>
          connection.reset || connection.pending.isEmpty
      | _ => true
  | .client _ _ => false
  | _ => true

theorem leavesAlone_sound (g : Gateway) (action : Action) (h : leavesAlone g action = true) :
    Undisturbed g action := by
  cases action with
  | main ok =>
      apply undisturbed_main
      rintro ⟨peer, connection, hmain, hconnection, hreset, hpending⟩
      simp [leavesAlone, hmain, hconnection, hreset, hpending] at h
  | capture event =>
      refine ⟨?_, ?_⟩
      · intro _ haction
        cases haction
      · intro _ _ _ haction
        cases haction
  | client i event => cases h
  | peer event => exact undisturbed_peer event

end Runs

/-- The capture thread has failed. A peer connects and closes without a byte, and main
returns -1. -/
theorem dead_capture_serves_nothing_closedConnection :
    ∃ (g : Gateway) (run : TransitionSystem.Execution (gateway streamConfig) g),
      TransitionSystem.Reachable (gateway streamConfig) g ∧
      (g.capture = .ended ∧ g.service.failed = true ∧ g.service.hasFrame = true ∧
        g.main = .accept) ∧
      (LeftAlone run ∧ Abandoned run) ∧
      ∀ action g', g.step streamConfig action = some g' →
        (g'.handedOut = g.handedOut ∧ g'.requestCount = g.requestCount ↔
          Undisturbed g action) := by
  let actions : List Action := [.peer .connect, .peer (.close 0)] ++ List.replicate 5 (.main true)
  have hrun : (TransitionSystem.exec (gateway streamConfig) Gateway.init
      (startup ++ captureFailure)).any
      (fun g => decide (g.capture.isEnded = true ∧ g.service.failed = true ∧
        g.service.hasFrame = true ∧ g.main = .accept) &&
        (TransitionSystem.exec ((gateway streamConfig).restrict leavesAlone) g actions).any
          fun g' => decide (g'.main = .returned (-1))) = true := by
    decide +kernel
  obtain ⟨g, hexec, hg⟩ := TransitionSystem.exists_exec_of_any hrun
  have hreach := (TransitionSystem.Reachable.init (gateway streamConfig)).exec hexec
  simp only [Bool.and_eq_true, Option.any_eq_true, decide_eq_true_eq] at hg
  obtain ⟨⟨hcapture, hbefore⟩, g', hchecked, hmain⟩ := hg
  have hended := ended_of_isEnded hcapture
  have hactions := TransitionSystem.exec_unrestricted hchecked
  let run := TransitionSystem.Execution.ofExec hactions
  have halone : LeftAlone run := by
    refine ⟨fun n action hlabel => leavesAlone_sound _ _
      (TransitionSystem.Execution.ofExec_checked hchecked hactions hlabel), fun n hloop => ?_⟩
    by_cases hn : n ≤ 6
    · exact ⟨6, hn, .main true, rfl, true, rfl⟩
    · have hlast : run.state n = g' :=
        TransitionSystem.Execution.ofExec_end hactions (Nat.lt_of_not_le hn)
      have hleft : (run.state n).main.left = true := by
        rw [hlast, hmain]
        rfl
      exact absurd hleft hloop
  obtain ⟨hiff, -, hexact⟩ := @dead_capture_serves_nothing streamConfig g rfl hreach hended
  exact ⟨g, run, hreach, ⟨hended, hbefore⟩, ⟨halone, (hiff run).mpr halone⟩, hexact⟩

/-- After the capture thread has failed a request for a snapshot is taken, and
answered with the frame from before the failure. -/
theorem dead_capture_serves_snapshot :
    ¬ ∀ (config : CameraConfig) (g g' : Gateway), config.frameCount = 0 →
      TransitionSystem.Reachable (gateway config) g → g.capture = .ended →
      g.service.failed = true →
      TransitionSystem.RunUnder (gateway config) (fun _ _ => True) g g' →
      g'.handedOut = g.handedOut ∧ g'.requestCount = g.requestCount := by
  intro claim
  have hrun : (TransitionSystem.exec (gateway streamConfig) Gateway.init
      (startup ++ captureFailure)).any
      (fun g => g.capture.isEnded && g.service.failed &&
        (TransitionSystem.exec (gateway streamConfig) g
          (serve 0 (ascii "/snapshot") ++ [.client 0 (.copied (some 3))])).any fun g' =>
            decide (g.handedOut.length = 0 ∧ g'.handedOut.length = 1)) = true := by
    decide +kernel
  obtain ⟨g, hexec, hg⟩ := TransitionSystem.exists_exec_of_any hrun
  have hreach := (TransitionSystem.Reachable.init (gateway streamConfig)).exec hexec
  simp only [Bool.and_eq_true, Option.any_eq_true, decide_eq_true_eq] at hg
  obtain ⟨⟨hcapture, hfailed⟩, g', hserve, hbefore, hafter⟩ := hg
  have hleads : TransitionSystem.RunUnder (gateway streamConfig) (fun _ _ => True) g g' :=
    .exec .refl (fun _ _ _ => True.intro) hserve
  obtain ⟨hsame, -⟩ :=
    claim streamConfig g g' rfl hreach (ended_of_isEnded hcapture) hfailed hleads
  rw [hsame, hbefore] at hafter
  cases hafter

end CameraGateway
