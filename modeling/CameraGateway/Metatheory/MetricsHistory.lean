import CameraGateway.Metatheory.DrawingTotals
import CameraGateway.Metatheory.Publication

/-!
The metrics of the service over whole runs. At the head of the capture loop every figure in
`/metrics` that the capture thread writes is what the history of the run makes it: a count
of the driver's answers, a sum over the published frames, a value of the last of them, or a
total, a maximum or the last value of what became of their pictures.
-/
namespace CameraGateway
variable {config : CameraConfig} {g g' : Gateway}

section History

/-- What the capture thread has come across: its draws, the waits of `select` that ended
without a frame, and the buffers that came back empty. -/
structure CaptureRecord where
  draws : DrawLog
  timeouts : Nat
  empties : Nat

def CaptureRecord.empty : CaptureRecord := { draws := DrawLog.empty, timeouts := 0, empties := 0 }

def timeoutsOf : CaptureState → CaptureEvent → Nat
  | .select, .selectTimeout => 1
  | _, _ => 0

def emptiesOf : CaptureState → CaptureEvent → Nat
  | .dequeue, .dequeued _ bytesused _ _ => if bytesused = 0 then 1 else 0
  | _, _ => 0

def watchDriver (record : CaptureRecord) (state : CaptureState) (event : CaptureEvent) :
    CaptureRecord :=
  { draws := watchCapture record.draws state event
    timeouts := record.timeouts + timeoutsOf state event
    empties := record.empties + emptiesOf state event }

def watchMetrics (g : Gateway) (action : Action) (record : CaptureRecord) : CaptureRecord :=
  match action with
  | .capture event => watchDriver record g.capture event
  | _ => record

def meteredGateway (config : CameraConfig) :
    TransitionSystem.System (Gateway × CaptureRecord) Action :=
  (gateway config).observe CaptureRecord.empty watchMetrics

theorem watchMetrics_draws (g : Gateway) (action : Action) (record : CaptureRecord) :
    (watchMetrics g action record).draws = watchDraws g action record.draws := by
  cases action <;> rfl

end History

section Driver

/-- The published frame that the capture thread has not counted yet. -/
def CaptureState.inHand : CaptureState → Option Frame
  | .draw frame | .show frame _ _ | .readEventId frame | .saveSnapshot frame _
  | .countLcd frame _ | .countFrame frame => some frame
  | _ => none

/-- The counters of what the driver delivers. -/
structure DriverCounts where
  timeouts : Nat
  empties : Nat
  captured : Nat
  bytes : Nat
deriving DecidableEq

def HttpService.driverCounts (service : HttpService) : DriverCounts :=
  { timeouts := service.timeoutCount, empties := service.emptyCount
    captured := service.capturedFrames, bytes := service.totalBytes }

/-- Their values after this many timeouts and empty buffers, and these frames. -/
def driverCountsOf (timeouts empties : Nat) (frames : List Frame) : DriverCounts :=
  { timeouts := u32 timeouts, empties := u32 empties, captured := u32 frames.length
    bytes := u64 (frames.map Frame.size).sum }

/-- The counters follow the history, up to the frame in hand; and the calls that draw are
those of the counted frames. -/
structure FramesCounted (state : CaptureState) (service : HttpService) (published : List Frame)
    (record : CaptureRecord) : Prop where
  counts : ∃ counted, published = counted ++ state.inHand.toList ∧
    service.driverCounts = driverCountsOf record.timeouts record.empties counted ∧
    record.draws.finished.map DrawCall.jpeg = counted.map fun frame => frame.value.bytes
  current : record.draws.current.map DrawCall.jpeg =
    if state.outsideDraw then none else state.inHand.map fun frame => frame.value.bytes

variable {service : HttpService} {state : CaptureState} {event : CaptureEvent} {step : CaptureStep}
  {record : CaptureRecord} {published : List Frame}

theorem countTimeout_driver {timeouts empties : Nat} {frames : List Frame}
    (h : service.driverCounts = driverCountsOf timeouts empties frames) :
    (countTimeout service).driverCounts = driverCountsOf (timeouts + 1) empties frames := by
  simp only [HttpService.driverCounts, driverCountsOf, DriverCounts.mk.injEq] at h
  simp only [countTimeout, HttpService.driverCounts, driverCountsOf, h, u32_u32_succ]

theorem countEmpty_driver {timeouts empties : Nat} {frames : List Frame}
    (h : service.driverCounts = driverCountsOf timeouts empties frames) :
    (countEmpty service).driverCounts = driverCountsOf timeouts (empties + 1) frames := by
  simp only [HttpService.driverCounts, driverCountsOf, DriverCounts.mk.injEq] at h
  simp only [countEmpty, HttpService.driverCounts, driverCountsOf, h, u32_u32_succ]

theorem countCaptured_driver {timeouts empties : Nat} {frames : List Frame} (frame : Frame)
    (h : service.driverCounts = driverCountsOf timeouts empties frames) :
    (countCaptured service frame.size).driverCounts =
      driverCountsOf timeouts empties (frames ++ [frame]) := by
  have hbytes : ∀ n m : Nat, u64 (u64 n + m) = u64 (n + m) := by
    intro n m
    rw [u64, u64, u64, Nat.mod_add_mod]
  simp only [HttpService.driverCounts, driverCountsOf, DriverCounts.mk.injEq] at h
  simp only [countCaptured, HttpService.driverCounts, driverCountsOf, h, u32_u32_succ, hbytes,
    List.length_append, List.length_singleton, List.map_append, List.map_singleton,
    List.sum_append, List.sum_singleton]

theorem countLcd_driver (service : HttpService) (display : Bool) (ret : Int) :
    (countLcd service display ret).driverCounts = service.driverCounts := by
  rw [countLcd]
  split
  · rfl
  · split <;> rfl

theorem countSnapshot_driver (service : HttpService) (written : Bool) :
    (countSnapshot service written).driverCounts = service.driverCounts := by
  cases written <;> rfl

theorem motionBlock_driver (config : CameraConfig) (service : HttpService) (picture : Picture)
    (malloc : Bool) :
    (motionBlock config service picture malloc).service.driverCounts = service.driverCounts := by
  have resized : (resizeBaseline service picture).driverCounts = service.driverCounts := by
    rw [resizeBaseline]
    split <;> rfl
  cases hblock : motionBlock config service picture malloc with
  | unallocated service' =>
      rw [motionBlock_unallocated hblock]
      exact resized
  | processed service' result event =>
      rw [(motionBlock_processed hblock).1]
      exact resized

theorem drawStep_driver (config : CameraConfig) (service : HttpService) (frame : Frame)
    (picture : Option Picture) (malloc : Bool) :
    let step := drawStep config service frame picture malloc
    step.service.driverCounts = service.driverCounts ∧ step.published = none ∧
      step.next.inHand = some frame ∧ step.next.outsideDraw = false := by
  dsimp only
  fun_cases drawStep config service frame picture malloc
  case case3 hon picture hdetect service' hblock =>
      have hsame := motionBlock_driver config service picture malloc
      rw [hblock] at hsame
      exact ⟨hsame, rfl, rfl, rfl⟩
  case case4 hon picture hdetect service' result event hblock =>
      have hsame := motionBlock_driver config service picture malloc
      rw [hblock] at hsame
      exact ⟨hsame, rfl, rfl, rfl⟩
  all_goals exact ⟨rfl, rfl, rfl, rfl⟩

theorem FramesCounted.move {next : CaptureState} {service' : HttpService}
    {record' : CaptureRecord} (h : FramesCounted state service published record)
    (hservice : service'.driverCounts = service.driverCounts)
    (hhand : next.inHand = state.inHand)
    (hrecord : record'.timeouts = record.timeouts ∧ record'.empties = record.empties ∧
      record'.draws.finished = record.draws.finished)
    (hcurrent : record'.draws.current.map DrawCall.jpeg =
      if next.outsideDraw then none else next.inHand.map fun frame => frame.value.bytes) :
    FramesCounted next service' published record' := by
  obtain ⟨⟨counted, hpublished, hcounts, hjpegs⟩, -⟩ := h
  obtain ⟨htimeouts, hempties, hfinished⟩ := hrecord
  refine ⟨⟨counted, ?_, ?_, ?_⟩, hcurrent⟩
  · rw [hhand]
    exact hpublished
  · rw [hservice, htimeouts, hempties]
    exact hcounts
  · rw [hfinished]
    exact hjpegs

theorem framesCounted_capture (h : FramesCounted state service published record)
    (hs : captureStep config service state event = some step) :
    FramesCounted step.next step.service (published ++ step.published.toList)
      (watchDriver record state event) := by
  -- the steps outside a draw that neither publish nor count
  have quiet : ∀ {next : CaptureState} {service' : HttpService} {broadcast file},
      some (CaptureStep.mk next service' broadcast none file) = some step →
      service'.driverCounts = service.driverCounts → next.inHand = state.inHand →
      next.outsideDraw = state.outsideDraw → watchDriver record state event = record →
      FramesCounted step.next step.service (published ++ step.published.toList)
        (watchDriver record state event) := by
    intro next service' broadcast file hstep hservice hhand hout hrecord
    cases hstep
    rw [hrecord, Option.toList_none, List.append_nil]
    refine h.move hservice hhand ⟨rfl, rfl, rfl⟩ ?_
    rw [hout, hhand]
    exact h.current
  revert hs quiet h
  fun_cases captureStep config service state event
  case case1 =>
      intro h hs quiet
      split at hs <;> exact quiet hs rfl rfl rfl rfl
  case case3 =>
      intro h hs _
      cases hs
      obtain ⟨⟨counted, hpublished, hcounts, hjpegs⟩, hcurrent⟩ := h
      exact ⟨⟨counted, (List.append_nil _).trans hpublished, countTimeout_driver hcounts, hjpegs⟩,
        hcurrent⟩
  case case6 =>
      intro h hs _
      cases hs
      obtain ⟨⟨counted, hpublished, hcounts, hjpegs⟩, hcurrent⟩ := h
      refine ⟨⟨counted, (List.append_nil _).trans hpublished, ?_, hjpegs⟩, hcurrent⟩
      simp only [watchDriver, emptiesOf, if_true]
      exact countEmpty_driver hcounts
  case case7 buffer bytesused sequence timestampUs hbytes frame =>
      intro h hs quiet
      refine quiet hs rfl rfl rfl ?_
      simp only [watchDriver, emptiesOf, if_neg hbytes]
      rfl
  case case9 frame malloc updated hok =>
      intro h hs _
      cases hs
      obtain ⟨⟨counted, hpublished, hcounts, hjpegs⟩, hcurrent⟩ := h
      refine ⟨⟨counted, ?_, ?_, hjpegs⟩, hcurrent⟩
      · rw [hpublished]
        simp only [CaptureState.inHand, Option.toList_none, List.append_nil]
      · have hservice : updated.2.driverCounts = service.driverCounts := by
          simp only [updated, httpServiceUpdateLatest]
          split <;> rfl
        exact hservice.trans hcounts
  case case10 frame picture malloc =>
      intro h hs _
      cases hs
      obtain ⟨hservice, hnone, hhand, hinside⟩ :=
        drawStep_driver config service frame picture malloc
      rw [hnone, Option.toList_none, List.append_nil]
      refine h.move hservice hhand ⟨rfl, rfl, rfl⟩ ?_
      rw [hinside, hhand]
      rfl
  case case11 frame pixels motionEvent ok _ | case12 frame pixels motionEvent ok _ _ |
      case13 frame pixels motionEvent ok _ _ =>
      intro h hs _
      cases hs
      rw [show ∀ next, (CaptureStep.quiet next service).published = none from fun _ => rfl,
        Option.toList_none, List.append_nil]
      refine h.move rfl rfl ⟨rfl, rfl, rfl⟩ ?_
      exact (Option.map_map ..).trans h.current
  case case15 frame eventId calls stored =>
      intro h hs _
      cases hs
      rw [Option.toList_none, List.append_nil]
      refine h.move ?_ rfl ⟨rfl, rfl, rfl⟩ ?_
      · exact storeSnapshot_keeps service frame.value.bytes calls (countSnapshot_driver service)
      exact (Option.map_map ..).trans h.current
  case case16 frame ret =>
      intro h hs _
      cases hs
      rw [show ∀ next service', (CaptureStep.quiet next service').published = none from
        fun _ _ => rfl, Option.toList_none, List.append_nil]
      exact h.move (countLcd_driver service config.fbPreview ret) rfl ⟨rfl, rfl, rfl⟩ h.current
  case case17 frame =>
      intro h hs _
      cases hs
      obtain ⟨⟨counted, hpublished, hcounts, hjpegs⟩, hcurrent⟩ := h
      refine ⟨⟨counted ++ [frame], ?_, countCaptured_driver frame hcounts, ?_⟩, rfl⟩
      · rw [hpublished]
        rfl
      · obtain ⟨call, hcall, hjpeg⟩ := Option.map_eq_some_iff.mp hcurrent
        simp only [watchDriver, watchCapture, hcall, Option.toList_some, List.map_append, hjpegs,
          List.map_singleton, hjpeg]
  case case18 ok =>
      intro h hs quiet
      cases ok <;> exact quiet hs rfl rfl rfl rfl
  case case20 =>
      intro _ hs
      cases hs
  all_goals
    intro h hs quiet
    exact quiet hs rfl rfl rfl rfl

end Driver

section Gateway
variable {record : CaptureRecord} {action : Action}

/-- The history of a live service is the one its counters have gone through. -/
structure Metered (g : Gateway) (record : CaptureRecord) : Prop where
  unstarted : g.main = .start ∨ g.main = .initService → record = CaptureRecord.empty
  counted : g.alive = true → FramesCounted g.capture g.service g.published record

theorem countOut_driver (service : HttpService) :
    (countOut service).driverCounts = service.driverCounts := by
  rw [countOut]
  split <;> rfl

theorem framesCounted_zero : FramesCounted .absent HttpService.zero [] CaptureRecord.empty :=
  ⟨⟨[], rfl, rfl, rfl⟩, rfl⟩

theorem metered_main {ok : Bool} (hpublished : Published g) (hsetup : Setup g)
    (hg : Metered g record) (hs : g.mainStep config ok = some g') : Metered g' record := by
  obtain ⟨hsame, -⟩ := mainStep_history hs
  have hkept : ∀ {service : HttpService},
      FramesCounted g.capture g.service g.published record →
      service.driverCounts = g.service.driverCounts →
      FramesCounted g'.capture service g'.published record := by
    intro service hcounted hservice
    rw [hsame]
    cases mainStep_capture hs with
    | inl hcapture =>
        rw [hcapture]
        exact hcounted.move hservice rfl ⟨rfl, rfl, rfl⟩ hcounted.current
    | inr hcreate =>
        rw [(hsetup (Or.inr (Or.inr hcreate.1))).1] at hcounted
        rw [hcreate.2]
        exact hcounted.move hservice rfl ⟨rfl, rfl, rfl⟩ hcounted.current
  refine ⟨fun hmain => hg.unstarted (Or.inl (mainStep_unstarted hs hmain).1), fun halive' => ?_⟩
  cases mainStep_service hs with
  | same halive hservice =>
      rw [hservice]
      exact hkept (hg.counted (halive ▸ halive')) rfl
  | countedIn _ _ _ _ halive hservice | stopped _ _ halive hservice _ =>
      rw [hservice]
      exact hkept (hg.counted (halive ▸ halive')) rfl
  | countedOut halive hservice =>
      rw [hservice]
      exact hkept (hg.counted (halive ▸ halive')) (countOut_driver g.service)
  | started hmain _ hservice =>
      have hcapture : g'.capture = .absent := by
        cases mainStep_capture hs with
        | inl hkept => exact hkept.trans (hsetup (Or.inr (Or.inl hmain))).1
        | inr hcreate => simp [hmain] at hcreate
      rw [hservice, hcapture, hsame, (hpublished.unstarted (Or.inr hmain)).2.2.1,
        hg.unstarted (Or.inr hmain)]
      exact framesCounted_zero
  | destroyed _ _ hdead =>
      rw [hdead] at halive'
      cases halive'

theorem metered_step (hreach : TransitionSystem.Reachable (gateway config) g)
    (hg : Metered g record) (hs : g.step config action = some g') :
    Metered g' (watchMetrics g action record) := by
  have hpublished := reachable_published hreach
  cases action with
  | main ok => exact metered_main hpublished (reachable_setup hreach) hg hs
  | capture event =>
      obtain ⟨step, hstep, rfl⟩ := Option.map_eq_some_iff.mp hs
      refine ⟨fun hmain => ?_, fun halive => framesCounted_capture (hg.counted halive) hstep⟩
      rw [(hpublished.unstarted hmain).2.1] at hstep
      simp [captureStep] at hstep
  | client i event =>
      obtain ⟨_, _, -, -, hcases⟩ := stepClient_cases hs
      cases hcases with
      | inl hcount =>
          obtain ⟨-, -, rfl⟩ := hcount
          refine ⟨hg.unstarted, fun halive => ?_⟩
          have hcounted := hg.counted halive
          exact hcounted.move (countOut_driver g.service) rfl ⟨rfl, rfl, rfl⟩ hcounted.current
      | inr hstep =>
          obtain ⟨-, rfl⟩ := hstep
          exact ⟨hg.unstarted, hg.counted⟩
  | peer event =>
      obtain ⟨peers, backlog, rfl⟩ := stepPeer_frame hs
      exact ⟨hg.unstarted, hg.counted⟩

theorem reachable_metered (h : TransitionSystem.Reachable (meteredGateway config) (g, record)) :
    Metered g record := by
  refine TransitionSystem.Reachable.observed_invariant (I := Metered)
    ⟨fun _ => rfl, by simp [gateway, Gateway.init]⟩ ?_ h
  intro g g' record action hreach hg hs
  exact metered_step hreach hg hs

theorem reachable_draws (h : TransitionSystem.Reachable (meteredGateway config) (g, record)) :
    TransitionSystem.Reachable (drawingGateway config) (g, record.draws) :=
  h.observed_view CaptureRecord.draws rfl watchMetrics_draws

end Gateway

section Latest

/-- The two figures of the latest frame. -/
structure LatestFigures where
  sequence : Nat
  size : Nat
deriving DecidableEq

/-- As `/metrics` prints them: 0 as long as there is no frame. -/
def HttpService.latestFigures (service : HttpService) : LatestFigures :=
  if service.hasFrame then
    { sequence := service.latest.sequence.toNat, size := service.latest.size }
  else { sequence := 0, size := 0 }

def latestFiguresOf (published : List Frame) : LatestFigures :=
  match published.getLast? with
  | none => { sequence := 0, size := 0 }
  | some frame => { sequence := frame.sequence.toNat, size := frame.size }

theorem newest_figures {service : HttpService} {published : List Frame}
    (h : Newest service published) : service.latestFigures = latestFiguresOf published := by
  rw [HttpService.latestFigures, latestFiguresOf]
  cases hlast : published.getLast? with
  | none =>
      have hnone : service.hasFrame ≠ true := by
        rw [Ne, h.ready, Ne, not_not]
        exact List.getLast?_eq_none_iff.mp hlast
      rw [if_neg hnone]
  | some frame =>
      have hready : service.hasFrame = true := by
        rw [h.ready]
        rintro rfl
        cases hlast
      have hvalue := h.exact frame hlast
      have hsequence : service.latest.sequence = frame.sequence :=
        congrArg FrameValue.sequence hvalue
      have hsize : service.latest.size = frame.size := congrArg FrameValue.size hvalue
      rw [if_pos hready, hsequence, hsize]

end Latest

/-- The figures of the capture thread, by the history of a run. -/
structure MetricsFollow (config : CameraConfig) (g : Gateway) (record : CaptureRecord) : Prop where
  jpegs : record.draws.finished.map DrawCall.jpeg =
    g.published.map fun frame => frame.value.bytes
  driver : g.service.driverCounts = driverCountsOf record.timeouts record.empties g.published
  latest : g.service.latestFigures = latestFiguresOf g.published
  detector : g.service.figures = figuresOf (detections config record.draws.finished)
  outputs : g.service.outputs = outputsOf config.fbPreview
    (drawStatuses config record.draws.finished) (snapshotOutcomes config record.draws.finished)
    (baselineFailures config record.draws.finished)
  events : g.service.motionEvents = u32 (eventOnsets config record.draws.finished).length

/-- At the head of the capture loop the metrics are what the history makes them. -/
theorem metrics_follow_history {record : CaptureRecord}
    (h : TransitionSystem.Reachable (meteredGateway config) (g, record))
    (hhead : g.capture = .head) : MetricsFollow config g record := by
  have halive := head_alive h.unobserved hhead
  obtain ⟨counted, hpublished, hcounts, hjpegs⟩ := ((reachable_metered h).counted halive).counts
  rw [hhead] at hpublished
  replace hpublished : g.published = counted := hpublished.trans (List.append_nil counted)
  have hlatest := newest_figures ((reachable_published h.unobserved).newest halive)
  obtain ⟨hdrawing, -⟩ := drawing_at_head (reachable_draws h) hhead
  obtain ⟨hfigures, houtputs⟩ := drawFrames_totals config record.draws.finished
  constructor
  · rw [hpublished]
    exact hjpegs
  · rw [hpublished]
    exact hcounts
  · exact hlatest
  · rw [← hfigures, ← hdrawing]
    rfl
  · rw [← houtputs, ← hdrawing]
    rfl
  · rw [← drawFrames_events, ← hdrawing]
    rfl

/-- After a timeout two pictures are processed. The second shows motion, and its snapshot
cannot be opened. -/
theorem metrics_follow_history_secondPicture :
    ∃ g record, TransitionSystem.Reachable (meteredGateway eventConfig) (g, record) ∧
      (g.service.timeoutCount = 1 ∧ g.service.totalBytes = 4 ∧ g.service.processedFrames = 2 ∧
        g.service.motionMaxDelta = 255 ∧ g.service.lcdFrames = 2 ∧ g.service.motionEvents = 1 ∧
        g.service.motionErrors = 1 ∧ g.service.latest.sequence = 2) ∧
      MetricsFollow eventConfig g record := by
  have hrun : (TransitionSystem.exec (meteredGateway eventConfig)
      (meteredGateway eventConfig).init
      (startup ++ [.capture .go, .capture .selectTimeout] ++ processPixel 1 0 ++ finishFrame ++
        processPixel 2 0xffff ++ [.capture (.drawn true), .capture .go,
          .capture (.written .unopened), .capture .go, .capture .go,
          .capture (.requeued true)])).any
      (fun s => s.1.capture.isHead && decide (s.1.service.timeoutCount = 1 ∧
        s.1.service.totalBytes = 4 ∧ s.1.service.processedFrames = 2 ∧
        s.1.service.motionMaxDelta = 255 ∧ s.1.service.lcdFrames = 2 ∧
        s.1.service.motionEvents = 1 ∧ s.1.service.motionErrors = 1 ∧
        s.1.service.latest.sequence = 2)) = true := by
    decide +kernel
  obtain ⟨⟨g, record⟩, hexec, hg⟩ := TransitionSystem.exists_exec_of_any hrun
  have hreach := (TransitionSystem.Reachable.init (meteredGateway eventConfig)).exec hexec
  obtain ⟨hhead, hvalues⟩ := Bool.and_eq_true_iff.mp hg
  exact ⟨g, record, hreach, of_decide_eq_true hvalues,
    metrics_follow_history hreach (head_of_isHead hhead)⟩

end CameraGateway
