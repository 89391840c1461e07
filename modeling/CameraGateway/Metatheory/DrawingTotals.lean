import CameraGateway.Metatheory.MotionEvents

/-!
The metrics of `http_service_draw_lcd_frame` over a run of calls. Each is a total, a maximum
or the last value of what the calls came to; nothing is counted twice, left out or kept
from an earlier picture. The counters are `unsigned int`, so the totals are modulo 2^32. The
first picture of a run is processed like the others, but only compared with itself.
-/
namespace CameraGateway
variable {config : CameraConfig} {service service' : HttpService} {call : DrawCall}

section History

def drawHistory (config : CameraConfig) (service : HttpService) :
    List DrawCall → List (HttpService × DrawCall)
  | [] => []
  | call :: calls =>
      (service, call) ::
        drawHistory config (httpServiceDrawLcdFrame config service call).service calls

def detections (config : CameraConfig) (calls : List DrawCall) : List MotionResult :=
  (drawHistory config HttpService.zero calls).filterMap fun before =>
    detection config before.1 before.2

def drawStatuses (config : CameraConfig) (calls : List DrawCall) : List Int :=
  (drawHistory config HttpService.zero calls).map fun before =>
    (httpServiceDrawLcdFrame config before.1 before.2).ret

theorem drawHistory_snoc (service : HttpService) (calls : List DrawCall) (call : DrawCall) :
    drawHistory config service (calls ++ [call]) =
      drawHistory config service calls ++ [(drawFrames config service calls, call)] := by
  induction calls generalizing service with
  | nil => rfl
  | cons first rest ih => exact congrArg ((service, first) :: ·) (ih _)

theorem detections_snoc (calls : List DrawCall) (call : DrawCall) :
    detections config (calls ++ [call]) = detections config calls ++
      (detection config (drawFrames config HttpService.zero calls) call).toList := by
  rw [detections, drawHistory_snoc, List.filterMap_append, ← detections]
  cases hdetection : detection config (drawFrames config HttpService.zero calls) call with
  | none => simp [hdetection]
  | some result => simp [hdetection]

theorem drawStatuses_snoc (calls : List DrawCall) (call : DrawCall) :
    drawStatuses config (calls ++ [call]) = drawStatuses config calls ++
      [(httpServiceDrawLcdFrame config (drawFrames config HttpService.zero calls) call).ret] := by
  rw [drawStatuses, drawHistory_snoc, List.map_append]
  rfl

end History

section Figures

/-- The values of one processed picture as the service publishes them. -/
structure Shown where
  brightness : Nat
  delta : Nat
  detected : Bool
  boxValid : Bool
  boxX : Nat
  boxY : Nat
  boxW : Nat
  boxH : Nat
  boxPeakDelta : Nat
  activeBlocks : Nat
deriving DecidableEq

def Shown.nothing : Shown :=
  { brightness := 0, delta := 0, detected := false, boxValid := false, boxX := 0, boxY := 0
    boxW := 0, boxH := 0, boxPeakDelta := 0, activeBlocks := 0 }

def MotionResult.shown (result : MotionResult) : Shown :=
  { brightness := result.brightness, delta := result.delta, detected := result.detected
    boxValid := result.boxValid, boxX := result.boxX, boxY := result.boxY, boxW := result.boxW
    boxH := result.boxH, boxPeakDelta := result.boxPeakDelta
    activeBlocks := result.activeBlockCount }

def HttpService.shown (service : HttpService) : Shown :=
  { brightness := service.brightness, delta := service.motionDelta
    detected := service.motionDetected, boxValid := service.motionBoxValid
    boxX := service.motionBoxX, boxY := service.motionBoxY, boxW := service.motionBoxW
    boxH := service.motionBoxH, boxPeakDelta := service.motionBoxPeakDelta
    activeBlocks := service.motionActiveBlocks }

/-- The figures of the detector: how many pictures it processed, how many of them showed
motion, the greatest delta, and the values of the last one. -/
structure Figures where
  processed : Nat
  active : Nat
  maxDelta : Nat
  last : Shown
deriving DecidableEq

def HttpService.figures (service : HttpService) : Figures :=
  { processed := service.processedFrames, active := service.motionActiveFrames
    maxDelta := service.motionMaxDelta, last := service.shown }

def figuresOf (results : List MotionResult) : Figures :=
  { processed := u32 results.length
    active := u32 (results.countP MotionResult.detected)
    maxDelta := (results.map MotionResult.delta).foldl max 0
    last := (results.getLast?.map MotionResult.shown).getD Shown.nothing }

theorem figures_motion (h : service'.motion = service.motion) :
    service'.figures = service.figures := by
  show service'.motion.figures = service.motion.figures
  rw [h]

theorem resizeBaseline_figures (service : HttpService) (picture : Picture) :
    (resizeBaseline service picture).figures = service.figures := by
  rw [resizeBaseline]
  split <;> rfl

theorem u32_u32_succ (n : Nat) : u32 (u32 n + 1) = u32 (n + 1) := by
  rw [u32, u32, u32, Nat.mod_add_mod]

theorem commitMotion_figures {results : List MotionResult} (result : MotionResult)
    (h : service.figures = figuresOf results) :
    (commitMotion service result).figures = figuresOf (results ++ [result]) := by
  have hprocessed : service.processedFrames = u32 results.length := congrArg Figures.processed h
  have hactive : service.motionActiveFrames = u32 (results.countP MotionResult.detected) :=
    congrArg Figures.active h
  have hmax : service.motionMaxDelta = (results.map MotionResult.delta).foldl max 0 :=
    congrArg Figures.maxDelta h
  have hlonger : figuresOf (results ++ [result]) =
      { processed := u32 (results.length + 1)
        active := u32 (results.countP MotionResult.detected + result.detected.toNat)
        maxDelta := max ((results.map MotionResult.delta).foldl max 0) result.delta
        last := result.shown } := by
    rw [figuresOf, List.map_append, List.foldl_append, List.getLast?_concat, List.countP_append,
      List.length_append]
    cases hdetected : result.detected <;> simp [hdetected]
  rw [hlonger, HttpService.figures, commitMotion, ← hmax]
  refine Figures.mk.injEq .. ▸ ⟨?_, ?_, ?_, rfl⟩
  · rw [hprocessed]
    exact u32_u32_succ _
  · cases hdetected : result.detected with
    | false => exact hactive
    | true =>
        rw [if_pos rfl, hactive]
        exact u32_u32_succ _
  · dsimp only
    split <;> omega

end Figures

section Call
variable {picture : Picture} {malloc : Bool}

theorem motionBlock_unallocated
    (h : motionBlock config service picture malloc = .unallocated service') :
    service' = countMotionError (resizeBaseline service picture) := by
  simp only [motionBlock] at h
  split at h
  · cases h
    rfl
  · cases h

theorem motionBlock_processed {result : MotionResult} {event : Bool}
    (h : motionBlock config service picture malloc = .processed service' result event) :
    service' = commitMotion (saveBaseline (resizeBaseline service picture) picture) result ∧
      event = (result.detected && !service.motionWasDetected) := by
  simp only [motionBlock] at h
  split at h
  · cases h
  · cases h
    rw [resizeBaseline_wasDetected]
    exact ⟨rfl, rfl⟩

theorem detection_block (hpicture : call.picture = some picture)
    (hdetect : config.motionDetect = true) :
    detection config service call = (motionBlock config service picture call.malloc).result := by
  rw [detection, hpicture]
  exact if_pos hdetect

/-- A call adds what its detection came to, if it came to that. -/
theorem draw_figures {results : List MotionResult} (h : service.figures = figuresOf results) :
    (httpServiceDrawLcdFrame config service call).service.figures =
      figuresOf (results ++ (detection config service call).toList) := by
  have unchanged : ∀ {after : HttpService}, after.figures = service.figures →
      detection config service call = none →
      after.figures = figuresOf (results ++ (detection config service call).toList) := by
    intro after hsame hnone
    rw [hnone, Option.toList_none, List.append_nil, hsame, h]
  fun_cases httpServiceDrawLcdFrame config service call
  case case1 hoff =>
      refine unchanged rfl ?_
      have hdetect : config.motionDetect = false := by simpa using (Bool.and_eq_true_iff.mp hoff).2
      rw [detection, hdetect]
      cases call.picture <;> rfl
  case case2 hon hpicture =>
      refine unchanged (figures_motion (drawOut_motion _ _ _ _ _)) ?_
      rw [detection, hpicture]
  case case3 hon picture hpicture hdetect service' hblock =>
      refine unchanged ((figures_motion (drawOut_motion _ _ _ _ _)).trans ?_) ?_
      · rw [motionBlock_unallocated hblock]
        exact resizeBaseline_figures service picture
      · rw [detection_block hpicture hdetect, hblock]
        rfl
  case case4 hon picture hpicture hdetect service' result event hblock =>
      rw [detection_block hpicture hdetect, hblock]
      refine (figures_motion (displayFrame_motion _ _ _ _)).trans ?_
      rw [(motionBlock_processed hblock).1]
      exact commitMotion_figures result ((resizeBaseline_figures service picture).trans h)
  case case5 hon picture hpicture hdetect =>
      refine unchanged (figures_motion (displayFrame_motion _ _ _ _)) ?_
      rw [detection, hpicture]
      exact if_neg hdetect

end Call

section Onsets

/-- Whether the picture of a call begins an event. -/
def motionBegins (config : CameraConfig) (service : HttpService) (call : DrawCall) : Bool :=
  (detection config service call).any fun result =>
    result.detected && !service.motionWasDetected

theorem motionBegins_undetected (h : detection config service call = none) :
    motionBegins config service call = false := by
  rw [motionBegins, h]
  rfl

theorem motionBegins_detected {result : MotionResult}
    (h : detection config service call = some result) :
    motionBegins config service call = (result.detected && !service.motionWasDetected) := by
  rw [motionBegins, h]
  rfl

theorem detection_off (h : config.motionDetect = false) : detection config service call = none := by
  rw [detection, h]
  cases call.picture <;> rfl

theorem eventOnsets_snoc (config : CameraConfig) (calls : List DrawCall) (call : DrawCall) :
    let service := drawFrames config HttpService.zero calls
    eventOnsets config (calls ++ [call]) = eventOnsets config calls ++
      if motionBegins config service call then [ProcessedFrame.mk service call true] else [] := by
  dsimp only
  have hframes := @processedFrames_snoc config HttpService.zero calls call
  cases hdetection : detection config (drawFrames config HttpService.zero calls) call with
  | none =>
      rw [hdetection, Option.map_none, Option.toList_none, List.append_nil] at hframes
      rw [motionBegins_undetected hdetection, eventOnsets, hframes]
      exact (List.append_nil _).symm
  | some result =>
      have hdetect : config.motionDetect = true := by
        cases hoff : config.motionDetect with
        | true => rfl
        | false => simp [detection_off hoff] at hdetection
      rw [hdetection, Option.map_some, Option.toList_some] at hframes
      rw [motionBegins_detected hdetection, eventOnsets, hframes, Episodes.onsets_snoc,
        (eventHistory hdetect calls).wasDetected]
      cases hdetected : result.detected with
      | false => rfl
      | true => rfl

/-- Whether the snapshot of an event is written, unless the draw before it fails or its path
does not fit. -/
def snapshotOutcome (config : CameraConfig) (service : HttpService) (call : DrawCall) :
    Option Bool :=
  if config.motionSave && (!config.fbPreview || call.drawn) &&
      (snapshotPath config (u32 (service.motionEvents + 1))).isSome then
    some call.snapshot.written
  else none

def snapshotOutcomes (config : CameraConfig) (calls : List DrawCall) : List Bool :=
  (eventOnsets config calls).filterMap fun frame => snapshotOutcome config frame.before frame.call

def baselineFailed (config : CameraConfig) (service : HttpService) (call : DrawCall) : Bool :=
  config.motionDetect && call.picture.isSome && (detection config service call).isNone

def baselineFailures (config : CameraConfig) (calls : List DrawCall) : Nat :=
  (drawHistory config HttpService.zero calls).countP fun before =>
    baselineFailed config before.1 before.2

/-- What a call adds to the outcomes of the snapshots. -/
def callSnapshot (config : CameraConfig) (service : HttpService) (call : DrawCall) : Option Bool :=
  if motionBegins config service call then snapshotOutcome config service call else none

theorem snapshotOutcomes_snoc (config : CameraConfig) (calls : List DrawCall) (call : DrawCall) :
    snapshotOutcomes config (calls ++ [call]) = snapshotOutcomes config calls ++
      (callSnapshot config (drawFrames config HttpService.zero calls) call).toList := by
  rw [snapshotOutcomes, eventOnsets_snoc, List.filterMap_append, ← snapshotOutcomes, callSnapshot]
  congr 1
  split
  · cases houtcome : snapshotOutcome config (drawFrames config HttpService.zero calls) call <;>
      simp [houtcome]
  · rfl

theorem baselineFailures_snoc (config : CameraConfig) (calls : List DrawCall) (call : DrawCall) :
    baselineFailures config (calls ++ [call]) = baselineFailures config calls +
      (baselineFailed config (drawFrames config HttpService.zero calls) call).toNat := by
  rw [baselineFailures, drawHistory_snoc, List.countP_append, ← baselineFailures]
  cases hfailed : baselineFailed config (drawFrames config HttpService.zero calls) call <;>
    simp [hfailed]

end Onsets

section Outputs

/-- The counters of the display, of the snapshots and of what went wrong with motion. -/
structure Outputs where
  lcdFrames : Nat
  lcdErrors : Nat
  snapshots : Nat
  errors : Nat
deriving DecidableEq

def HttpService.outputs (service : HttpService) : Outputs :=
  { lcdFrames := service.lcdFrames, lcdErrors := service.lcdErrors
    snapshots := service.motionSnapshots, errors := service.motionErrors }

/-- What a call adds that returned `ret`, wrote the snapshot `saved` and `failed` for want of a
baseline. -/
def Outputs.add (outputs : Outputs) (display : Bool) (ret : Int) (saved : Option Bool)
    (failed : Bool) : Outputs :=
  { lcdFrames := if display ∧ ret = 0 then u32 (outputs.lcdFrames + 1) else outputs.lcdFrames
    lcdErrors := if display ∧ ret ≠ 0 then u32 (outputs.lcdErrors + 1) else outputs.lcdErrors
    snapshots := if saved = some true then u32 (outputs.snapshots + 1) else outputs.snapshots
    errors := if saved = some false ∨ failed then u32 (outputs.errors + 1) else outputs.errors }

theorem countLcd_outputs (service : HttpService) (display : Bool) (ret : Int) :
    (countLcd service display ret).outputs = service.outputs.add display ret none false := by
  rw [countLcd, Outputs.add]
  cases display with
  | false => simp [HttpService.outputs]
  | true =>
      by_cases hret : ret = 0
      · simp [hret, HttpService.outputs]
      · simp [hret, HttpService.outputs]

theorem countSnapshot_outputs (service : HttpService) (written : Bool) :
    (countLcd (countSnapshot service written) config.fbPreview 0).outputs =
      service.outputs.add config.fbPreview 0 (some written) false := by
  rw [countLcd_outputs]
  cases written <;> rfl

theorem displayFrame_outputs (service : HttpService) (call : DrawCall) (pixels : List UInt16)
    (event : Bool) :
    let result := displayFrame config service call pixels event
    result.service.outputs = service.outputs.add config.fbPreview result.ret
      (if event && config.motionSave && (!config.fbPreview || call.drawn) &&
        (snapshotPath config service.motionEvents).isSome then some call.snapshot.written else none)
      false := by
  dsimp only
  by_cases hfailed : (config.fbPreview && !call.drawn) = true
  · obtain ⟨hdisplay, hdrawn⟩ := Bool.and_eq_true_iff.mp hfailed
    rw [Bool.not_eq_true'] at hdrawn
    rw [displayFrame_failed service pixels event hfailed, countLcd_outputs, hdisplay, hdrawn]
    simp
  · have hshown : (!config.fbPreview || call.drawn) = true := by
      rw [Bool.and_eq_true, Bool.not_eq_true', not_and] at hfailed
      cases hdisplay : config.fbPreview with
      | false => rfl
      | true => simpa using hfailed hdisplay
    rw [displayFrame_drawn service pixels event hfailed, hshown]
    by_cases hsave : (event && config.motionSave) = true
    · obtain ⟨rfl, hsave⟩ := Bool.and_eq_true_iff.mp hsave
      rw [drawOut_saved service call _ hsave, hsave]
      cases hpath : snapshotPath config service.motionEvents with
      | none =>
          rw [storeSnapshot_uncounted service _ _ hpath]
          exact countLcd_outputs service config.fbPreview 0
      | some path =>
          rw [storeSnapshot_counted service _ _ hpath]
          exact countSnapshot_outputs service call.snapshot.written
    · rw [drawOut_unsaved service call _ hsave, countLcd_outputs,
        Bool.eq_false_of_not_eq_true hsave]
      rfl

theorem baselineFailed_processed {result : MotionResult}
    (h : detection config service call = some result) :
    baselineFailed config service call = false := by
  rw [baselineFailed, h]
  simp

theorem resizeBaseline_outputs (service : HttpService) (picture : Picture) :
    (resizeBaseline service picture).outputs = service.outputs ∧
      (resizeBaseline service picture).motionEvents = service.motionEvents := by
  rw [resizeBaseline]
  split <;> exact ⟨rfl, rfl⟩

theorem draw_outputs (config : CameraConfig) (service : HttpService) (call : DrawCall) :
    let result := httpServiceDrawLcdFrame config service call
    result.service.outputs = service.outputs.add config.fbPreview result.ret
      (callSnapshot config service call) (baselineFailed config service call) := by
  have silent : detection config service call = none → callSnapshot config service call = none := by
    intro hnone
    rw [callSnapshot, motionBegins_undetected hnone]
    rfl
  fun_cases httpServiceDrawLcdFrame config service call
  case case1 hoff =>
      simp only [Bool.and_eq_true, Bool.not_eq_true'] at hoff
      rw [silent (detection_off hoff.2), baselineFailed, hoff.1, hoff.2]
      rfl
  case case2 hon hpicture =>
      have hnone : detection config service call = none := by rw [detection, hpicture]
      rw [silent hnone, baselineFailed, hpicture, drawOut_failed]
      simpa using countLcd_outputs service config.fbPreview (-1)
  case case3 hon picture hpicture hdetect service' hblock =>
      have hnone : detection config service call = none := by
        rw [detection_block hpicture hdetect, hblock]
        rfl
      rw [silent hnone, baselineFailed, hnone, hpicture, hdetect, drawOut_failed,
        motionBlock_unallocated hblock]
      dsimp only
      rw [countLcd_outputs, ← (resizeBaseline_outputs service picture).1]
      rfl
  case case4 hon picture hpicture hdetect service' result event hblock =>
      have hresult : detection config service call = some result := by
        rw [detection_block hpicture hdetect, hblock]
        rfl
      obtain ⟨hservice, hevent⟩ := motionBlock_processed hblock
      obtain ⟨hsame, hevents⟩ := resizeBaseline_outputs service picture
      have hbefore : service'.outputs = service.outputs := by rw [hservice, ← hsame]; rfl
      have hcall : callSnapshot config service call =
          if event && config.motionSave && (!config.fbPreview || call.drawn) &&
            (snapshotPath config service'.motionEvents).isSome then some call.snapshot.written
          else none := by
        rw [callSnapshot, motionBegins_detected hresult, ← hevent]
        cases event with
        | false => rfl
        | true =>
            have hnumber : service'.motionEvents = u32 (service.motionEvents + 1) := by
              rw [hservice, ← hevents]
              have hwas := resizeBaseline_wasDetected service picture
              simp only [commitMotion, saveBaseline, hwas, ← hevent, if_true]
            rw [hnumber, snapshotOutcome]
            simp
      rw [hcall, baselineFailed_processed hresult, ← hbefore]
      exact displayFrame_outputs service' call (maskedPixels config picture result) event
  case case5 hon picture hpicture hdetect =>
      have hoff : config.motionDetect = false := by simpa using hdetect
      rw [silent (detection_off hoff), baselineFailed, hoff]
      simpa using displayFrame_outputs service call picture.pixels false

/-- The counters after calls with these statuses and snapshots, `failures` of which found no
memory for the baseline. -/
def outputsOf (display : Bool) (statuses : List Int) (saved : List Bool) (failures : Nat) :
    Outputs :=
  { lcdFrames := if display then u32 (statuses.countP (· = 0)) else 0
    lcdErrors := if display then u32 (statuses.countP (· ≠ 0)) else 0
    snapshots := u32 (saved.count true)
    errors := u32 (saved.count false + failures) }

theorem callSnapshot_failed (h : baselineFailed config service call = true) :
    callSnapshot config service call = none := by
  simp only [baselineFailed, Bool.and_eq_true, Option.isNone_iff_eq_none] at h
  rw [callSnapshot, motionBegins_undetected h.2]
  rfl

theorem outputsOf_add (display : Bool) (statuses : List Int) (saved : List Bool) (failures : Nat)
    (ret : Int) (outcome : Option Bool) (failed : Bool)
    (hone : failed = true → outcome = none) :
    (outputsOf display statuses saved failures).add display ret outcome failed =
      outputsOf display (statuses ++ [ret]) (saved ++ outcome.toList)
        (failures + failed.toNat) := by
  have hlcd : (outputsOf display statuses saved failures).add display ret none false =
      { outputsOf display (statuses ++ [ret]) saved failures with } := by
    rw [Outputs.add, outputsOf, outputsOf, List.countP_append, List.countP_append]
    cases display with
    | false => simp
    | true => by_cases hret : ret = 0 <;> simp [hret, u32_u32_succ]
  have hsplit : (outputsOf display statuses saved failures).add display ret outcome failed =
      { (outputsOf display statuses saved failures).add display ret none false with
        snapshots :=
          if outcome = some true then u32 (u32 (saved.count true) + 1)
          else u32 (saved.count true)
        errors :=
          if outcome = some false ∨ failed then u32 (u32 (saved.count false + failures) + 1)
          else u32 (saved.count false + failures) } := rfl
  rw [hsplit, hlcd]
  cases failed with
  | true =>
      rw [hone rfl]
      simp [outputsOf, u32_u32_succ, Nat.add_assoc]
  | false =>
      cases outcome with
      | none => simp [outputsOf]
      | some written =>
          cases written <;>
            simp [outputsOf, u32_u32_succ, List.count_append, Nat.add_right_comm]

end Outputs

section Runs

theorem events_motion (h : service'.motion = service.motion) :
    service'.motionEvents = service.motionEvents := by
  show service'.motion.motionEvents = service.motion.motionEvents
  rw [h]

/-- Without the detector there are no events. -/
theorem draw_undetected_events (h : config.motionDetect = false) :
    (httpServiceDrawLcdFrame config service call).service.motionEvents = service.motionEvents := by
  fun_cases httpServiceDrawLcdFrame config service call
  case case1 => rfl
  case case2 => exact events_motion (drawOut_motion service call none false (-1))
  case case3 hdetect _ _ => simp [h] at hdetect
  case case4 hdetect _ _ _ _ => simp [h] at hdetect
  case case5 picture _ _ =>
      exact events_motion (displayFrame_motion service call picture.pixels false)

theorem drawFrames_events (config : CameraConfig) (calls : List DrawCall) :
    (drawFrames config HttpService.zero calls).motionEvents =
      u32 (eventOnsets config calls).length := by
  cases hdetect : config.motionDetect with
  | true => exact (eventHistory hdetect calls).events
  | false =>
      induction calls using List.reverseRecOn with
      | nil => rfl
      | append_singleton calls call ih =>
          rw [drawFrames_snoc, draw_undetected_events hdetect, ih, eventOnsets_snoc,
            motionBegins_undetected (detection_off hdetect)]
          simp

theorem drawFrames_totals (config : CameraConfig) (calls : List DrawCall) :
    (drawFrames config HttpService.zero calls).figures = figuresOf (detections config calls) ∧
      (drawFrames config HttpService.zero calls).outputs =
        outputsOf config.fbPreview (drawStatuses config calls) (snapshotOutcomes config calls)
          (baselineFailures config calls) := by
  induction calls using List.reverseRecOn with
  | nil => exact ⟨rfl, by cases config.fbPreview <;> rfl⟩
  | append_singleton calls call ih =>
      rw [drawFrames_snoc, detections_snoc, drawStatuses_snoc, snapshotOutcomes_snoc,
        baselineFailures_snoc]
      refine ⟨draw_figures ih.1, ?_⟩
      rw [draw_outputs, ih.2, outputsOf_add _ _ _ _ _ _ _ callSnapshot_failed]

end Runs

end CameraGateway
