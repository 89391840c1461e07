import CameraGateway.Metatheory.AcceptLoop
import CameraGateway.Metatheory.MotionArithmetic

/-!
What a locked snapshot of the metrics can show. The capture thread updates the
counters of one frame in several critical sections; how far they may be apart is a
function of where it is between them.
-/
namespace CameraGateway
variable {config : CameraConfig} {g g' : Gateway}

section Places

/-- The frame at hand is published and not yet in `captured_frames`. -/
def CaptureState.uncounted : CaptureState → Nat
  | .draw _ | .show _ _ _ | .readEventId _ | .saveSnapshot _ _ | .countLcd _ _ | .countFrame _ => 1
  | _ => 0

def CaptureState.undrawn : CaptureState → Nat
  | .draw _ | .show _ _ _ | .readEventId _ | .saveSnapshot _ _ | .countLcd _ _ => 1
  | _ => 0

def CaptureState.unprocessed : CaptureState → Nat
  | .draw _ => 1
  | _ => 0

def CaptureState.unsaved : CaptureState → Nat
  | .show _ _ true | .readEventId _ | .saveSnapshot _ _ => 1
  | _ => 0

def MainState.uncounted : MainState → Nat
  | .countIn _ _ => 1
  | _ => 0

end Places

theorem u32_succ {n bound : Nat} (h : n < bound) (hbound : bound < 2 ^ 32) : u32 (n + 1) = n + 1 :=
  Nat.mod_eq_of_lt (by omega)

structure CaptureMetrics where
  captured : Nat
  lcdFrames : Nat
  lcdErrors : Nat
  processed : Nat
  activeFrames : Nat
  events : Nat
  snapshots : Nat
  brightness : Nat
  delta : Nat
  maxDelta : Nat
  peakDelta : Nat
  activeBlocks : Nat
  boxValid : Bool
  detected : Bool

def HttpService.captureMetrics (service : HttpService) : CaptureMetrics :=
  { captured := service.capturedFrames, lcdFrames := service.lcdFrames
    lcdErrors := service.lcdErrors, processed := service.processedFrames
    activeFrames := service.motionActiveFrames, events := service.motionEvents
    snapshots := service.motionSnapshots, brightness := service.brightness
    delta := service.motionDelta, maxDelta := service.motionMaxDelta
    peakDelta := service.motionBoxPeakDelta, activeBlocks := service.motionActiveBlocks
    boxValid := service.motionBoxValid, detected := service.motionDetected }

/-- The relations between them, with the capture thread in a state and a number of
frames published. -/
structure Coherent (config : CameraConfig) (metrics : CaptureMetrics) (state : CaptureState)
    (published : Nat) : Prop where
  captured : metrics.captured + state.uncounted = published
  lcd : config.fbPreview = true →
    metrics.lcdFrames + metrics.lcdErrors + state.undrawn = published
  processed : metrics.processed + state.unprocessed ≤ published
  active : metrics.activeFrames ≤ metrics.processed
  events : metrics.events ≤ metrics.activeFrames
  snapshots : metrics.snapshots + state.unsaved ≤ metrics.events
  values : MotionValues config.threshold metrics.brightness metrics.delta metrics.peakDelta
    metrics.activeBlocks metrics.boxValid metrics.detected
  maximum : metrics.delta ≤ metrics.maxDelta

section Capture
variable {service : HttpService} {metrics : CaptureMetrics} {state next : CaptureState}
  {published : Nat}

theorem Coherent.move (h : Coherent config metrics state published)
    (huncounted : next.uncounted = state.uncounted)
    (hundrawn : config.fbPreview = true → next.undrawn = state.undrawn)
    (hunprocessed : next.unprocessed ≤ state.unprocessed)
    (hunsaved : next.unsaved ≤ state.unsaved) : Coherent config metrics next published := by
  obtain ⟨captured, lcd, processed, active, events, snapshots, values, maximum⟩ := h
  refine ⟨?_, fun hdisplay => ?_, ?_, active, events, ?_, values, maximum⟩
  · rw [huncounted, captured]
  · rw [hundrawn hdisplay, lcd hdisplay]
  · omega
  · omega

theorem Coherent.publish {frame : Frame} (h : Coherent config metrics (.publish frame) published) :
    Coherent config metrics (.draw frame) (published + 1) := by
  obtain ⟨captured, lcd, processed, active, events, snapshots, values, maximum⟩ := h
  exact ⟨congrArg (· + 1) captured, fun hdisplay => congrArg (· + 1) (lcd hdisplay),
    Nat.succ_le_succ processed, active, events, snapshots, values, maximum⟩

theorem resizeBaseline_metrics (service : HttpService) (picture : Picture) :
    (resizeBaseline service picture).captureMetrics = service.captureMetrics := by
  rw [resizeBaseline]
  split <;> rfl

theorem countOut_metrics (service : HttpService) :
    (countOut service).captureMetrics = service.captureMetrics := by
  rw [countOut]
  split <;> rfl

theorem updateLatest_metrics (service : HttpService) (frame : Frame) (malloc : Option Nat) :
    (httpServiceUpdateLatest service frame malloc).2.captureMetrics = service.captureMetrics := by
  rw [httpServiceUpdateLatest]
  split <;> rfl

theorem Coherent.commit {frame : Frame}
    (h : Coherent config service.captureMetrics (.draw frame) published)
    (hbound : published < 2 ^ 32) (hthreshold : 0 < config.threshold) (picture : Picture)
    (previous : Option (List UInt16)) (pixels : List UInt16) :
    let result := detectMotion picture previous config.threshold
    Coherent config (commitMotion (saveBaseline service picture) result).captureMetrics
      (.show frame pixels (result.detected && !service.motionWasDetected)) published := by
  obtain ⟨captured, lcd, processed, active, events, snapshots, values, maximum⟩ := h
  have hvalues := detectMotion_values picture previous hthreshold
  dsimp only at hvalues ⊢
  generalize detectMotion picture previous config.threshold = result at hvalues ⊢
  simp only [HttpService.captureMetrics, CaptureState.unprocessed, CaptureState.unsaved]
    at processed active events snapshots
  have hprocessed : u32 (service.processedFrames + 1) = service.processedFrames + 1 :=
    u32_succ processed hbound
  have hactive : u32 (service.motionActiveFrames + 1) = service.motionActiveFrames + 1 :=
    u32_succ (Nat.lt_of_le_of_lt active processed) hbound
  have hevents : u32 (service.motionEvents + 1) = service.motionEvents + 1 :=
    u32_succ (Nat.lt_of_le_of_lt (Nat.le_trans events active) processed) hbound
  refine ⟨captured, lcd, ?_, ?_, ?_, ?_, hvalues, ?_⟩
  all_goals
    simp only [HttpService.captureMetrics, commitMotion, saveBaseline, hprocessed, hactive, hevents]
  · exact processed
  · split <;> omega
  · cases result.detected <;> cases service.motionWasDetected <;>
      simp only [Bool.true_and, Bool.false_and, Bool.not_true, Bool.not_false, if_true,
        Bool.false_eq_true, if_false] <;> omega
  · cases result.detected <;> cases service.motionWasDetected <;>
      simp only [CaptureState.unsaved, Bool.true_and, Bool.false_and, Bool.not_true, Bool.not_false,
        if_true, Bool.false_eq_true, if_false] <;> omega
  · change result.delta ≤
      if result.delta > service.motionMaxDelta then result.delta else service.motionMaxDelta
    split <;> omega

theorem Coherent.countLcd {frame : Frame} {ret : Int}
    (h : Coherent config service.captureMetrics (.countLcd frame ret) published)
    (hbound : published < 2 ^ 32) :
    Coherent config (countLcd service config.fbPreview ret).captureMetrics (.countFrame frame)
      published := by
  obtain ⟨captured, lcd, processed, active, events, snapshots, values, maximum⟩ := h
  simp only [HttpService.captureMetrics, CaptureState.undrawn] at lcd
  cases hdisplay : config.fbPreview with
  | false =>
      simp only [CameraGateway.countLcd, Bool.false_eq_true, and_false, if_false]
      exact ⟨captured, by simp [hdisplay], processed, active, events, snapshots, values, maximum⟩
  | true =>
      have hcount := lcd hdisplay
      by_cases hret : ret = 0
      · have hframes : u32 (service.lcdFrames + 1) = service.lcdFrames + 1 :=
          u32_succ (by omega) hbound
        simp only [CameraGateway.countLcd, hret, true_and, if_true, hframes]
        refine ⟨captured, fun _ => ?_, processed, active, events, snapshots, values, maximum⟩
        simp only [HttpService.captureMetrics, CaptureState.undrawn]
        omega
      · have herrors : u32 (service.lcdErrors + 1) = service.lcdErrors + 1 :=
          u32_succ (by omega) hbound
        simp only [CameraGateway.countLcd, hret, false_and, if_false, ne_eq, not_false_eq_true,
          true_and, if_true, herrors]
        refine ⟨captured, fun _ => ?_, processed, active, events, snapshots, values, maximum⟩
        simp only [HttpService.captureMetrics, CaptureState.undrawn]
        omega

theorem Coherent.countSnapshot {frame : Frame} {eventId : Nat}
    (h : Coherent config service.captureMetrics (.saveSnapshot frame eventId) published)
    (hbound : published < 2 ^ 32) (written : Bool) (ret : Int) :
    Coherent config (countSnapshot service written).captureMetrics (.countLcd frame ret)
      published := by
  obtain ⟨captured, lcd, processed, active, events, snapshots, values, maximum⟩ := h
  simp only [HttpService.captureMetrics, CaptureState.unprocessed, CaptureState.unsaved]
    at processed active events snapshots
  cases written with
  | true =>
      have hsnapshots : u32 (service.motionSnapshots + 1) = service.motionSnapshots + 1 :=
        u32_succ (by omega) hbound
      refine ⟨captured, lcd, processed, active, events, ?_, values, maximum⟩
      simp only [HttpService.captureMetrics, CameraGateway.countSnapshot, if_true, hsnapshots,
        CaptureState.unsaved]
      exact snapshots
  | false =>
      refine ⟨captured, lcd, processed, active, events, ?_, values, maximum⟩
      simp only [HttpService.captureMetrics, CameraGateway.countSnapshot, Bool.false_eq_true,
        if_false, CaptureState.unsaved]
      omega

theorem Coherent.countCaptured {frame : Frame}
    (h : Coherent config service.captureMetrics (.countFrame frame) published)
    (hbound : published < 2 ^ 32) (bytesused : Nat) :
    Coherent config (countCaptured service bytesused).captureMetrics .requeue published := by
  obtain ⟨captured, lcd, processed, active, events, snapshots, values, maximum⟩ := h
  simp only [HttpService.captureMetrics, CaptureState.uncounted] at captured
  refine ⟨?_, lcd, processed, active, events, snapshots, values, maximum⟩
  simp only [HttpService.captureMetrics, CameraGateway.countCaptured, CaptureState.uncounted]
  rw [u32_succ (by omega) hbound, captured]

theorem coherent_drawStep {frame : Frame}
    (h : Coherent config service.captureMetrics (.draw frame) published)
    (hbound : published < 2 ^ 32) (hthreshold : 0 < config.threshold) (picture : Option Picture)
    (malloc : Bool) :
    Coherent config (drawStep config service frame picture malloc).service.captureMetrics
      (drawStep config service frame picture malloc).next published := by
  fun_cases drawStep config service frame picture malloc
  case case1 hskip =>
      -- without a display and without motion detection the frame is not decoded
      have hdisplay : config.fbPreview = false := by
        simp only [Bool.and_eq_true, Bool.not_eq_true'] at hskip
        exact hskip.1
      exact h.move rfl (by simp [hdisplay]) (Nat.zero_le _) (Nat.le_refl _)
  case case3 picture _ service' hmotion =>
      simp only [motionBlock] at hmotion
      split at hmotion
      · cases hmotion
        change Coherent config (resizeBaseline service picture).captureMetrics
          (.countLcd frame (-1)) published
        rw [resizeBaseline_metrics]
        exact h.move rfl (fun _ => rfl) (Nat.zero_le _) (Nat.le_refl _)
      · simp at hmotion
  case case4 picture _ service' result event hmotion =>
      simp only [motionBlock] at hmotion
      split at hmotion
      · simp at hmotion
      · cases hmotion
        rw [← resizeBaseline_metrics service picture] at h
        exact h.commit hbound hthreshold picture _ _
  all_goals exact h.move rfl (fun _ => rfl) (Nat.zero_le _) (Nat.le_refl _)

theorem coherent_captureStep {event : CaptureEvent} {step : CaptureStep}
    (h : Coherent config service.captureMetrics state published)
    (hs : captureStep config service state event = some step)
    (hbound : published + step.published.toList.length < 2 ^ 32)
    (hthreshold : 0 < config.threshold) :
    Coherent config step.service.captureMetrics step.next
      (published + step.published.toList.length) := by
  have hlt : published < 2 ^ 32 := Nat.lt_of_le_of_lt (Nat.le_add_right _ _) hbound
  revert hs hbound h
  fun_cases captureStep config service state event
  case case1 =>
      intro h hs _
      split at hs <;> cases hs <;> exact h.move rfl (fun _ => rfl) (Nat.le_refl _) (Nat.le_refl _)
  case case9 frame malloc updated hok =>
      intro h hs _
      cases hs
      change Coherent config (httpServiceUpdateLatest service frame malloc).2.captureMetrics
        (.draw frame) (published + 1)
      rw [updateLatest_metrics]
      exact h.publish
  case case10 frame picture malloc =>
      intro h hs _
      cases hs
      rw [(drawStep_shared config service frame picture malloc).1]
      exact coherent_drawStep h hlt hthreshold picture malloc
  case case12 frame pixels motionEvent ok _ hsave =>
      intro h hs _
      cases hs
      have hevent : motionEvent = true := by
        simp only [Bool.and_eq_true] at hsave
        exact hsave.1
      subst hevent
      exact h.move rfl (fun _ => rfl) (Nat.le_refl _) (Nat.le_refl _)
  case case11 | case13 =>
      intro h hs _
      cases hs
      exact h.move rfl (fun _ => rfl) (Nat.le_refl _) (Nat.zero_le _)
  case case15 frame eventId calls stored =>
      intro h hs _
      cases hs
      refine storeSnapshot_service (p := fun stored => Coherent config stored.captureMetrics
        (.countLcd frame 0) published) service frame.value.bytes calls ?_ ?_
      · exact h.move rfl (fun _ => rfl) (Nat.le_refl _) (Nat.zero_le _)
      · exact h.countSnapshot hlt calls.written 0
  case case16 frame ret =>
      intro h hs _
      cases hs
      exact h.countLcd hlt
  case case17 frame =>
      intro h hs _
      cases hs
      exact h.countCaptured hlt frame.size
  case case18 ok =>
      intro h hs _
      cases ok <;> cases hs <;> exact h.move rfl (fun _ => rfl) (Nat.le_refl _) (Nat.le_refl _)
  case case20 =>
      intro _ hs
      cases hs
  all_goals
    intro h hs _
    cases hs
    exact h.move rfl (fun _ => rfl) (Nat.le_refl _) (Nat.le_refl _)

end Capture

section Clients

/-- The client counters, against the requests that main has counted. -/
structure ClientCounts (service : HttpService) (main : MainState) (requestCount : Nat) : Prop where
  connected : service.connectedClients ≤ service.totalClients
  total : service.totalClients + main.uncounted ≤ requestCount

theorem mainStep_requestCount {ok : Bool} (h : g.mainStep config ok = some g') :
    g.requestCount + g'.main.uncounted ≤ g'.requestCount ∧
      (g.requestCount ≤ Gateway.requestLimit → g'.requestCount ≤ Gateway.requestLimit) := by
  revert h
  fun_cases Gateway.mainStep config g ok
  case case2 | case7 =>
      intro h
      cases ok <;> (cases h; exact ⟨Nat.le_refl _, id⟩)
  case case14 hlimit =>
      intro h
      cases h
      exact ⟨Nat.le_refl _, fun _ => hlimit⟩
  case case18 =>
      intro h
      cases h
      refine ⟨?_, id⟩
      dsimp only
      split <;> exact Nat.le_refl _
  all_goals
    intro h
    cases h <;> exact ⟨Nat.le_refl _, id⟩

theorem ClientCounts.countIn {service : HttpService} {peer : Nat} {path : List UInt8}
    {requestCount : Nat} (h : ClientCounts service (.countIn peer path) requestCount)
    (hlimit : requestCount ≤ Gateway.requestLimit) :
    ClientCounts (countIn service) (.createClient peer path) requestCount := by
  obtain ⟨connected, total⟩ := h
  simp only [MainState.uncounted] at total
  rw [Gateway.requestLimit] at hlimit
  have htotal : u32 (service.totalClients + 1) = service.totalClients + 1 :=
    Nat.mod_eq_of_lt (by omega)
  have hconnected : u32 (service.connectedClients + 1) = service.connectedClients + 1 :=
    Nat.mod_eq_of_lt (by omega)
  constructor
  · simp only [CameraGateway.countIn, htotal, hconnected]
    omega
  · simp only [CameraGateway.countIn, htotal, MainState.uncounted]
    omega

theorem ClientCounts.countOut {service : HttpService} {main : MainState} {requestCount : Nat}
    (h : ClientCounts service main requestCount) :
    ClientCounts (countOut service) main requestCount := by
  rw [CameraGateway.countOut]
  split
  · exact ⟨Nat.le_trans (Nat.sub_le _ _) h.connected, h.total⟩
  · exact h

theorem ClientCounts.move {service : HttpService} {main : MainState} {requestCount : Nat}
    (h : ClientCounts service main requestCount)
    (hcount : requestCount + g'.main.uncounted ≤ g'.requestCount) :
    ClientCounts service g'.main g'.requestCount := by
  refine ⟨h.connected, ?_⟩
  have htotal := h.total
  omega

end Clients

/-- What the service shows, in every state with the mutex free. -/
structure Metrics (config : CameraConfig) (g : Gateway) : Prop where
  capture : g.alive = true → g.published.length < 2 ^ 32 →
    Coherent config g.service.captureMetrics g.capture g.published.length
  clients : g.alive = true → ClientCounts g.service g.main g.requestCount
  limit : g.requestCount ≤ Gateway.requestLimit

theorem metrics_main {ok : Bool} (hthreshold : 0 < config.threshold) (hpublished : Published g)
    (hsetup : Setup g) (hg : Metrics config g) (hs : g.mainStep config ok = some g') :
    Metrics config g' := by
  obtain ⟨hcount, hlimit⟩ := mainStep_requestCount hs
  have hhistory := (mainStep_history hs).1
  have kept : g'.alive = g.alive → g'.service.captureMetrics = g.service.captureMetrics →
      g'.alive = true → g'.published.length < 2 ^ 32 →
      Coherent config g'.service.captureMetrics g'.capture g'.published.length := by
    intro halive hsame halive' hbound
    rw [hhistory] at hbound ⊢
    have hbefore := hg.capture (halive ▸ halive') hbound
    rw [hsame]
    cases mainStep_capture hs with
    | inl hcapture => rwa [hcapture]
    | inr hcreate =>
        rw [(hsetup (Or.inr (Or.inr hcreate.1))).1] at hbefore
        rw [hcreate.2]
        exact hbefore.move rfl (fun _ => rfl) (Nat.le_refl _) (Nat.le_refl _)
  refine ⟨?_, ?_, hlimit hg.limit⟩
  · cases mainStep_service hs with
    | same halive hservice => exact kept halive (by rw [hservice])
    | countedIn _ _ _ _ halive hservice => exact kept halive (by rw [hservice]; rfl)
    | countedOut halive hservice => exact kept halive (by rw [hservice, countOut_metrics])
    | stopped _ _ halive hservice _ => exact kept halive (by rw [hservice]; rfl)
    | started hmain _ hservice =>
        intro _ _
        obtain ⟨-, hcapture, hnone, -⟩ := hpublished.unstarted (Or.inr hmain)
        have habsent : g'.capture = .absent := by
          cases mainStep_capture hs with
          | inl hsame => exact hsame.trans hcapture
          | inr hcreate => simp [hmain] at hcreate
        rw [hservice, habsent, hhistory, hnone]
        refine ⟨rfl, fun _ => rfl, Nat.le_refl _, Nat.le_refl _, Nat.le_refl _, Nat.le_refl _, ?_,
          Nat.le_refl _⟩
        refine ⟨rfl, ?_, ?_, Nat.le_refl _, Nat.zero_le _, Nat.zero_le _⟩
        · simp [HttpService.captureMetrics, HttpService.zero]
        · simp [HttpService.captureMetrics, HttpService.zero, Nat.ne_of_gt hthreshold]
    | destroyed _ _ hdead _ =>
        intro halive
        rw [hdead] at halive
        cases halive
  · intro halive'
    cases mainStep_service hs with
    | same halive hservice =>
        rw [hservice]
        exact (hg.clients (halive ▸ halive')).move hcount
    | countedIn peer path hmain hnext halive hservice =>
        have hbefore := hg.clients (halive ▸ halive')
        rw [hmain] at hbefore
        rw [hservice]
        exact (hbefore.countIn hg.limit).move hcount
    | countedOut halive hservice =>
        rw [hservice]
        exact (hg.clients (halive ▸ halive')).countOut.move hcount
    | stopped _ _ halive hservice _ =>
        have hbefore := (hg.clients (halive ▸ halive')).move hcount
        rw [hservice]
        exact ⟨hbefore.connected, hbefore.total⟩
    | started _ _ hservice =>
        rw [hservice]
        refine ⟨Nat.le_refl _, ?_⟩
        simp only [HttpService.zero]
        omega
    | destroyed _ _ hdead _ =>
        rw [hdead] at halive'
        cases halive'

theorem metrics_step {action : Action} (hthreshold : 0 < config.threshold)
    (hpublished : Published g) (hsetup : Setup g) (hg : Metrics config g)
    (hs : g.step config action = some g') : Metrics config g' := by
  cases action with
  | main ok => exact metrics_main hthreshold hpublished hsetup hg hs
  | capture event =>
      obtain ⟨step, hstep, rfl⟩ := Option.map_eq_some_iff.mp hs
      refine ⟨fun halive hbound => ?_, fun halive => ?_, hg.limit⟩
      · simp only [Gateway.applyCapture, List.length_append] at hbound ⊢
        exact coherent_captureStep (hg.capture halive (by omega)) hstep hbound hthreshold
      · have hclients := hg.clients halive
        have hcounters : step.service.connectedClients = g.service.connectedClients ∧
            step.service.totalClients = g.service.totalClients := by
          cases captureStep_shared hstep with
          | quiet _ _ hshared => exact ⟨hshared.connected, hshared.total⟩
          | publishes _ _ _ _ _ _ _ hok =>
              obtain ⟨-, -, hservice, -⟩ := httpServiceUpdateLatest_ok hok
              rw [hservice]
              exact ⟨rfl, rfl⟩
          | stops _ _ _ _ hservice =>
              rw [hservice]
              exact ⟨rfl, rfl⟩
        constructor
        · simp only [Gateway.applyCapture, hcounters]
          exact hclients.connected
        · simp only [Gateway.applyCapture, hcounters]
          exact hclients.total
  | client i event =>
      obtain ⟨_, _, -, -, hcases⟩ := stepClient_cases hs
      cases hcases with
      | inl hcount =>
          obtain ⟨-, -, rfl⟩ := hcount
          refine ⟨fun halive hbound => ?_, fun halive => (hg.clients halive).countOut, hg.limit⟩
          rw [countOut_metrics]
          exact hg.capture halive hbound
      | inr hstep =>
          obtain ⟨-, rfl⟩ := hstep
          exact ⟨hg.capture, hg.clients, hg.limit⟩
  | peer event =>
      obtain ⟨peers, backlog, rfl⟩ := stepPeer_frame hs
      exact ⟨hg.capture, hg.clients, hg.limit⟩

theorem reachable_metrics (hthreshold : 0 < config.threshold)
    (h : TransitionSystem.Reachable (gateway config) g) : Metrics config g := by
  refine TransitionSystem.Reachable.invariant (I := Metrics config) ?_ ?_ h
  · exact ⟨by simp [gateway, Gateway.init], by simp [gateway, Gateway.init], Nat.zero_le _⟩
  · intro g g' action hreach hg hs
    exact metrics_step hthreshold (reachable_published hreach) (reachable_setup hreach) hg hs

/-- The relations between the values of one metrics snapshot. -/
structure MetricsCoherent (config : CameraConfig) (service : HttpService) : Prop where
  detected : service.motionDetected = service.motionBoxValid
  blocks : service.motionBoxValid = true ↔ 0 < service.motionActiveBlocks
  peak : service.motionBoxValid = true ↔ config.threshold ≤ service.motionBoxPeakDelta
  deltaPeak : service.motionDelta ≤ service.motionBoxPeakDelta
  peakBound : service.motionBoxPeakDelta ≤ 255
  brightness : service.brightness ≤ 255
  deltaMaximum : service.motionDelta ≤ service.motionMaxDelta
  snapshots : service.motionSnapshots ≤ service.motionEvents
  events : service.motionEvents ≤ service.motionActiveFrames
  active : service.motionActiveFrames ≤ service.processedFrames
  processed : service.processedFrames ≤ service.capturedFrames + 1
  lcd : config.fbPreview = true →
    service.capturedFrames ≤ service.lcdFrames + service.lcdErrors ∧
      service.lcdFrames + service.lcdErrors ≤ service.capturedFrames + 1
  ready : 0 < service.capturedFrames → service.hasFrame = true
  stored : service.hasFrame = true → 0 < service.latest.size
  clients : service.connectedClients ≤ service.totalClients

theorem place_le (state : CaptureState) :
    state.uncounted ≤ 1 ∧ state.undrawn ≤ state.uncounted := by
  cases state <;> exact ⟨by simp [CaptureState.uncounted], by
    simp [CaptureState.uncounted, CaptureState.undrawn]⟩

/-- Whatever a client reads under the mutex is coherent, as long as the counters of
frames have not wrapped. -/
theorem metrics_coherent (hthreshold : 0 < config.threshold)
    (h : TransitionSystem.Reachable (gateway config) g) (halive : g.alive = true)
    (hframes : g.published.length < 2 ^ 32) : MetricsCoherent config g.service := by
  have hmetrics := reachable_metrics hthreshold h
  obtain ⟨captured, lcd, processed, active, events, snapshots, values, maximum⟩ :=
    hmetrics.capture halive hframes
  have hnewest := (reachable_published h).newest halive
  simp only [HttpService.captureMetrics] at captured lcd processed snapshots
  obtain ⟨hcounted, hdrawn⟩ := place_le g.capture
  refine ⟨values.detected, values.blocks, values.peak, values.delta_le, values.peak_le,
    values.brightness_le, maximum, by omega, events, active, by omega, fun hdisplay => ?_,
    fun hsome => ?_, fun hready => ?_, (hmetrics.clients halive).connected⟩
  · have hlcd := lcd hdisplay
    omega
  · rw [hnewest.ready, ← List.length_pos_iff]
    omega
  · exact Nat.pos_of_ne_zero (hnewest.stored hready).2

section Runs

def motionConfig : CameraConfig := { streamConfig with fbPreview := true, motionDetect := true }

def onePixel (pixel : UInt16) : Picture :=
  { width := 1, height := 1, pixels := [pixel], width_pos := by decide, width_le := by decide
    height_pos := by decide, height_le := by decide, size_eq := rfl }

def processPixel (sequence : UInt32) (pixel : UInt16) : List Action :=
  publishFrame sequence ++ [.capture (.decoded (some (onePixel pixel)) true)]

def finishFrame : List Action :=
  [.capture (.drawn true), .capture .go, .capture .go, .capture (.requeued true)]

end Runs

/-- A second frame is processed and not yet counted. -/
theorem metrics_coherent_secondFrame :
    ∃ g, TransitionSystem.Reachable (gateway motionConfig) g ∧
      (g.service.processedFrames = 2 ∧ g.service.capturedFrames = 1 ∧ g.service.lcdFrames = 1) ∧
      MetricsCoherent motionConfig g.service := by
  have hrun : (TransitionSystem.exec (gateway motionConfig) Gateway.init
      (startup ++ processPixel 1 0 ++ finishFrame ++ processPixel 2 0xffff)).any
      (fun g => decide (g.alive = true ∧ g.published.length = 2 ∧ g.service.processedFrames = 2 ∧
        g.service.capturedFrames = 1 ∧ g.service.lcdFrames = 1)) = true := by
    decide +kernel
  obtain ⟨g, hexec, hg⟩ := TransitionSystem.exists_exec_of_any hrun
  have hreach := (TransitionSystem.Reachable.init (gateway motionConfig)).exec hexec
  obtain ⟨halive, hpublished, hcounts⟩ := of_decide_eq_true hg
  exact ⟨g, hreach, hcounts, metrics_coherent (by decide) hreach halive (by omega)⟩

end CameraGateway
