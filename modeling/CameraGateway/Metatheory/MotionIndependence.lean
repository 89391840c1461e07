import CameraGateway.Core.LcdFrame
import CameraGateway.Metatheory.MetricsCoherence
import Mathlib.Data.List.Forall2

/-!
What `http_service_draw_lcd_frame` reads and writes of the service, and that its
motion detection sees nothing of the display: two runs on the same decoded
pictures keep the same baseline and publish the same values.
-/
namespace CameraGateway
variable {config : CameraConfig}

/-- The part of the service that only `http_service_draw_lcd_frame` uses. -/
def HttpService.drawing (service : HttpService) : HttpService :=
  { service with
    latest := Frame.zero, hasFrame := false, stop := false, failed := false
    timeoutCount := 0, emptyCount := 0, connectedClients := 0, totalClients := 0
    capturedFrames := 0, totalBytes := 0 }

/-- The part that belongs to the detector: the baseline, the values it publishes
and its counters, without those of the display, the snapshots and the errors. -/
def HttpService.motion (service : HttpService) : HttpService :=
  { service.drawing with lcdFrames := 0, lcdErrors := 0, motionSnapshots := 0, motionErrors := 0 }

def MotionStep.map (f : HttpService → HttpService) : MotionStep → MotionStep
  | .unallocated service => .unallocated (f service)
  | .processed service result event => .processed (f service) result event

theorem countLcd_drawing (service : HttpService) (display : Bool) (ret : Int) :
    (countLcd service display ret).drawing = countLcd service.drawing display ret := by
  simp only [countLcd]
  split
  · rfl
  · split <;> rfl

theorem countSnapshot_drawing (service : HttpService) (written : Bool) :
    (countSnapshot service written).drawing = countSnapshot service.drawing written := by
  cases written <;> rfl

theorem countLcd_motion (service : HttpService) (display : Bool) (ret : Int) :
    (countLcd service display ret).motion = service.motion := by
  simp only [countLcd]
  split
  · rfl
  · split <;> rfl

theorem countSnapshot_motion (service : HttpService) (written : Bool) :
    (countSnapshot service written).motion = service.motion := by
  cases written <;> rfl

section Block
variable (config : CameraConfig) (service : HttpService) (picture : Picture) (malloc : Bool)

theorem resizeBaseline_drawing :
    (resizeBaseline service picture).drawing = resizeBaseline service.drawing picture := by
  by_cases hsize : service.motionPreviousWidth ≠ picture.width ∨
      service.motionPreviousHeight ≠ picture.height
  · have hkept : service.drawing.motionPreviousWidth ≠ picture.width ∨
        service.drawing.motionPreviousHeight ≠ picture.height := hsize
    rw [resizeBaseline, resizeBaseline, if_pos hsize, if_pos hkept]
    rfl
  · have hkept : ¬ (service.drawing.motionPreviousWidth ≠ picture.width ∨
        service.drawing.motionPreviousHeight ≠ picture.height) := hsize
    rw [resizeBaseline, resizeBaseline, if_neg hsize, if_neg hkept]

theorem resizeBaseline_motion :
    (resizeBaseline service picture).motion = resizeBaseline service.motion picture := by
  by_cases hsize : service.motionPreviousWidth ≠ picture.width ∨
      service.motionPreviousHeight ≠ picture.height
  · have hkept : service.motion.motionPreviousWidth ≠ picture.width ∨
        service.motion.motionPreviousHeight ≠ picture.height := hsize
    rw [resizeBaseline, resizeBaseline, if_pos hsize, if_pos hkept]
    rfl
  · have hkept : ¬ (service.motion.motionPreviousWidth ≠ picture.width ∨
        service.motion.motionPreviousHeight ≠ picture.height) := hsize
    rw [resizeBaseline, resizeBaseline, if_neg hsize, if_neg hkept]

/-- The motion block sees the drawing part of the service only. -/
theorem motionBlock_drawing :
    motionBlock config service.drawing picture malloc =
      (motionBlock config service picture malloc).map HttpService.drawing := by
  simp only [motionBlock, ← resizeBaseline_drawing]
  generalize resizeBaseline service picture = service
  by_cases hnone : service.motionPrevious = none ∧ malloc = false
  · have hkept : service.drawing.motionPrevious = none ∧ malloc = false := hnone
    rw [if_pos hnone, if_pos hkept]
    rfl
  · have hkept : ¬ (service.drawing.motionPrevious = none ∧ malloc = false) := hnone
    rw [if_neg hnone, if_neg hkept]
    rfl

theorem motionBlock_own :
    (motionBlock config service picture malloc).service.motion =
      (motionBlock config service.motion picture malloc).service.motion := by
  simp only [motionBlock, ← resizeBaseline_motion]
  generalize resizeBaseline service picture = service
  by_cases hnone : service.motionPrevious = none ∧ malloc = false
  · have hkept : service.motion.motionPrevious = none ∧ malloc = false := hnone
    rw [if_pos hnone, if_pos hkept]
    rfl
  · have hkept : ¬ (service.motion.motionPrevious = none ∧ malloc = false) := hnone
    rw [if_neg hnone, if_neg hkept]
    rfl

/-- What the motion block leaves of the detector's part depends on that part alone. -/
theorem motionBlock_motion {config' : CameraConfig} {service' : HttpService}
    (hthreshold : config.threshold = config'.threshold) (h : service.motion = service'.motion) :
    (motionBlock config service picture malloc).service.motion =
      (motionBlock config' service' picture malloc).service.motion := by
  rw [motionBlock_own config service, motionBlock_own config' service', h]
  simp only [motionBlock, hthreshold]

end Block

theorem storeSnapshot_drawing (service : HttpService) (eventId : Nat) (jpeg : List UInt8)
    (calls : FileCalls) :
    storeSnapshot config service.drawing eventId jpeg calls =
      ((storeSnapshot config service eventId jpeg calls).1.drawing,
        (storeSnapshot config service eventId jpeg calls).2) := by
  cases hpath : snapshotPath config eventId with
  | none =>
      rw [storeSnapshot_uncounted _ jpeg calls hpath, storeSnapshot_uncounted _ jpeg calls hpath]
  | some path =>
      rw [storeSnapshot_counted _ jpeg calls hpath, storeSnapshot_counted _ jpeg calls hpath,
        countSnapshot_drawing]

theorem drawOut_motion (service : HttpService) (call : DrawCall) (shown : Option (List UInt16))
    (event : Bool) (ret : Int) :
    (drawOut config service call shown event ret).service.motion = service.motion := by
  simp only [drawOut, countLcd_motion]
  split
  · exact storeSnapshot_keeps service call.jpeg call.snapshot (countSnapshot_motion service)
  · rfl

theorem displayFrame_motion (service : HttpService) (call : DrawCall) (pixels : List UInt16)
    (event : Bool) :
    (displayFrame config service call pixels event).service.motion = service.motion := by
  rw [displayFrame]
  split <;> exact drawOut_motion ..

/-- What a call leaves of the detector's part is what its motion block leaves. -/
theorem httpServiceDrawLcdFrame_motion (config : CameraConfig) (service : HttpService)
    (call : DrawCall) (hdetect : config.motionDetect = true) :
    (httpServiceDrawLcdFrame config service call).service.motion =
      match call.picture with
      | none => service.motion
      | some picture => (motionBlock config service picture call.malloc).service.motion := by
  rw [httpServiceDrawLcdFrame]
  simp only [hdetect, Bool.not_true, Bool.and_false, Bool.false_eq_true, if_false, if_true]
  cases call.picture with
  | none => exact drawOut_motion ..
  | some picture =>
      dsimp only
      cases motionBlock config service picture call.malloc with
      | unallocated _ => exact drawOut_motion ..
      | processed _ _ _ => exact displayFrame_motion ..

/-- Two calls on the same picture and with the same answer of the allocator. -/
structure SameInput (call call' : DrawCall) : Prop where
  picture : call.picture = call'.picture
  malloc : call.malloc = call'.malloc

section Runs
variable {config' : CameraConfig} {service service' : HttpService}
  (hdetect : config.motionDetect = true)
  (hdetect' : config'.motionDetect = true)
  (hthreshold : config.motionThreshold = config'.motionThreshold)
include hdetect hdetect' hthreshold

theorem draw_sameMotion {call call' : DrawCall} (h : service.motion = service'.motion)
    (hinput : SameInput call call') :
    (httpServiceDrawLcdFrame config service call).service.motion =
      (httpServiceDrawLcdFrame config' service' call').service.motion := by
  have hused : config.threshold = config'.threshold := by
    rw [CameraConfig.threshold, CameraConfig.threshold, hthreshold]
  rw [httpServiceDrawLcdFrame_motion config service call hdetect,
    httpServiceDrawLcdFrame_motion config' service' call' hdetect', hinput.picture, hinput.malloc]
  cases call'.picture with
  | none => exact h
  | some picture => exact motionBlock_motion config service picture call'.malloc hused h

/-- Motion detection does not depend on the display: after every frame of two runs
on the same pictures, with whatever displays, draws and files, the baseline and all
that the detector publishes are the same. -/
theorem motion_independent_of_display (h : service.motion = service'.motion)
    {calls calls' : List DrawCall} (hinputs : List.Forall₂ SameInput calls calls') (n : Nat) :
    (drawFrames config service (calls.take n)).motion =
      (drawFrames config' service' (calls'.take n)).motion := by
  have hprefix := List.forall₂_take n hinputs
  generalize calls.take n = calls, calls'.take n = calls' at hprefix
  induction hprefix generalizing service service' with
  | nil => exact h
  | cons hinput _ ih => exact ih (draw_sameMotion hdetect hdetect' hthreshold h hinput)

end Runs

/-- The file takes all bytes when `fwrite` is called. -/
def storedFile : FileCalls := { fopen := true, fwrite := { ok := true, taken := 2 }, fclose := 0 }

def pixelCall (pixel : UInt16) (drawn : Bool) : DrawCall :=
  { jpeg := [0xff, 0xd8], picture := some (onePixel pixel), malloc := true, drawn := drawn
    snapshot := storedFile }

/-- The second frame starts an event; with a display it is painted over, and the
draw fails. -/
theorem motion_independent_of_display_failedDraw :
    let plain := { motionConfig with fbPreview := false }
    let calls := [pixelCall 0 true, pixelCall 0xffff true, pixelCall 0xffff true]
    let drawn := [pixelCall 0 true, pixelCall 0xffff false, pixelCall 0xffff true]
    ((drawFrames motionConfig HttpService.zero (drawn.take 2)).motionEvents = 1 ∧
      (drawFrames motionConfig HttpService.zero (drawn.take 2)).lcdErrors = 1) ∧
    ∀ n, (drawFrames plain HttpService.zero (calls.take n)).motion =
      (drawFrames motionConfig HttpService.zero (drawn.take n)).motion := by
  refine ⟨by decide +kernel, ?_⟩
  have hinputs : List.Forall₂ SameInput
      [pixelCall 0 true, pixelCall 0xffff true, pixelCall 0xffff true]
      [pixelCall 0 true, pixelCall 0xffff false, pixelCall 0xffff true] :=
    .cons ⟨rfl, rfl⟩ (.cons ⟨rfl, rfl⟩ (.cons ⟨rfl, rfl⟩ .nil))
  have hplain : { motionConfig with fbPreview := false }.motionDetect = true := rfl
  have hshown : motionConfig.motionDetect = true := rfl
  intro n
  exact motion_independent_of_display hplain hshown rfl rfl hinputs n

end CameraGateway
