import CameraGateway.Core.Frame
import CameraGateway.Core.HttpRequest
import CameraGateway.Core.MotionDetect
import CameraGateway.Core.StreamHttpMjpeg

/-!
`http_service_t` of src/v4l2_capture.c and the critical sections on it, each as
a function of the service. The mutex and the condition variable are not fields;
who may run which section, and when, is in Core.Gateway. Flags are Booleans, and
`unsigned` counters are reduced where they are incremented.
-/
namespace CameraGateway

structure CameraConfig where
  device : List UInt8
  width : Int
  height : Int
  fps : Int
  frameCount : Int
  fbPreview : Bool
  motionDetect : Bool
  motionThreshold : Int
  motionSave : Bool
  motionDir : List UInt8
  pixelFormat : UInt32
deriving DecidableEq, Repr

def v4l2PixFmtMjpeg : UInt32 := 0x47504a4d

def cameraPixelFormatName (format : UInt32) : List UInt8 :=
  if format = 0x56595559 then ascii "YUYV"
  else if format = 0x3231564e then ascii "NV12"
  else if format = 0x50424752 then ascii "RGBP"
  else if format = v4l2PixFmtMjpeg then ascii "MJPG"
  else ascii "UNKNOWN"

structure HttpService where
  latest : Frame
  hasFrame : Bool
  stop : Bool
  failed : Bool
  timeoutCount : Nat
  emptyCount : Nat
  connectedClients : Nat
  totalClients : Nat
  capturedFrames : Nat
  lcdFrames : Nat
  lcdErrors : Nat
  processedFrames : Nat
  motionDetected : Bool
  motionEvents : Nat
  motionSnapshots : Nat
  motionErrors : Nat
  brightness : Nat
  motionDelta : Nat
  motionMaxDelta : Nat
  motionActiveFrames : Nat
  motionBoxValid : Bool
  motionBoxX : Nat
  motionBoxY : Nat
  motionBoxW : Nat
  motionBoxH : Nat
  motionBoxPeakDelta : Nat
  motionActiveBlocks : Nat
  motionPrevious : Option (List UInt16)
  motionPreviousWidth : Nat
  motionPreviousHeight : Nat
  motionHasPrevious : Bool
  motionWasDetected : Bool
  totalBytes : Nat
deriving DecidableEq, Repr

def HttpService.zero : HttpService :=
  { latest := Frame.zero, hasFrame := false, stop := false, failed := false
    timeoutCount := 0, emptyCount := 0, connectedClients := 0, totalClients := 0
    capturedFrames := 0, lcdFrames := 0, lcdErrors := 0, processedFrames := 0
    motionDetected := false, motionEvents := 0, motionSnapshots := 0, motionErrors := 0
    brightness := 0, motionDelta := 0, motionMaxDelta := 0, motionActiveFrames := 0
    motionBoxValid := false, motionBoxX := 0, motionBoxY := 0, motionBoxW := 0
    motionBoxH := 0, motionBoxPeakDelta := 0, motionActiveBlocks := 0
    motionPrevious := none, motionPreviousWidth := 0, motionPreviousHeight := 0
    motionHasPrevious := false, motionWasDetected := false, totalBytes := 0 }

def httpServiceStop (service : HttpService) : HttpService := { service with stop := true }

def markFailed (service : HttpService) : HttpService := { service with failed := true }

/-- `http_service_update_latest`; `frame_copy_alloc` runs before the mutex is taken. -/
def httpServiceUpdateLatest (service : HttpService) (frame : Frame) (malloc : Option Nat) :
    Int × HttpService :=
  let copy := frameCopyAlloc frame malloc
  if copy.1 ≠ 0 then (-1, service)
  else (0, { service with latest := copy.2, hasFrame := true })

def httpServiceCopyLatest (service : HttpService) (malloc : Option Nat) : Int × Frame :=
  if service.hasFrame then frameCopyAlloc service.latest malloc else (-1, Frame.zero)

/-- What one pass of `http_service_wait_latest` under the mutex comes to. -/
inductive WaitResult where
  /-- The loop condition holds: `pthread_cond_timedwait` releases the mutex. -/
  | waits
  | returned (ret : Int) (out : Frame) (lastSequence : UInt32)
deriving DecidableEq, Repr

/-- `timedOut` says that the wait ended with ETIMEDOUT, which leaves the loop. -/
def httpServiceWaitLatest (service : HttpService) (lastSequence : UInt32) (timedOut : Bool)
    (malloc : Option Nat) : WaitResult :=
  if !timedOut && (!service.stop &&
      (!service.hasFrame || service.latest.sequence == lastSequence)) then .waits
  else if !service.stop && service.hasFrame && service.latest.sequence != lastSequence then
    let copy := frameCopyAlloc service.latest malloc
    if copy.1 = 0 then .returned 0 copy.2 copy.2.sequence
    else .returned (-1) copy.2 lastSequence
  else .returned (-1) Frame.zero lastSequence

section CaptureCounters

def countTimeout (service : HttpService) : HttpService :=
  { service with timeoutCount := u32 (service.timeoutCount + 1) }

def countEmpty (service : HttpService) : HttpService :=
  { service with emptyCount := u32 (service.emptyCount + 1) }

def countCaptured (service : HttpService) (bytesused : Nat) : HttpService :=
  { service with
    capturedFrames := u32 (service.capturedFrames + 1)
    totalBytes := u64 (service.totalBytes + bytesused) }

def countLcd (service : HttpService) (display : Bool) (ret : Int) : HttpService :=
  if ret = 0 ∧ display then { service with lcdFrames := u32 (service.lcdFrames + 1) }
  else if ret ≠ 0 ∧ display then { service with lcdErrors := u32 (service.lcdErrors + 1) }
  else service

def countSnapshot (service : HttpService) (written : Bool) : HttpService :=
  if written then { service with motionSnapshots := u32 (service.motionSnapshots + 1) }
  else { service with motionErrors := u32 (service.motionErrors + 1) }

def countMotionError (service : HttpService) : HttpService :=
  { service with motionErrors := u32 (service.motionErrors + 1) }

end CaptureCounters

section ClientCounters

def countIn (service : HttpService) : HttpService :=
  { service with
    connectedClients := u32 (service.connectedClients + 1)
    totalClients := u32 (service.totalClients + 1) }

def countOut (service : HttpService) : HttpService :=
  if service.connectedClients > 0 then
    { service with connectedClients := service.connectedClients - 1 }
  else service

end ClientCounters

section Motion

/-- A picture of another size discards the baseline. -/
def resizeBaseline (service : HttpService) (picture : Picture) : HttpService :=
  if service.motionPreviousWidth ≠ picture.width ∨
      service.motionPreviousHeight ≠ picture.height then
    { service with
      motionPrevious := none
      motionHasPrevious := false
      motionPreviousWidth := picture.width
      motionPreviousHeight := picture.height }
  else service

/-- The baseline the picture is compared with, if there is one. -/
def baseline (service : HttpService) : Option (List UInt16) :=
  if service.motionHasPrevious then service.motionPrevious else none

def saveBaseline (service : HttpService) (picture : Picture) : HttpService :=
  { service with motionPrevious := some picture.pixels, motionHasPrevious := true }

def commitMotion (service : HttpService) (result : MotionResult) : HttpService :=
  { service with
    processedFrames := u32 (service.processedFrames + 1)
    brightness := result.brightness
    motionDelta := result.delta
    motionMaxDelta :=
      if result.delta > service.motionMaxDelta then result.delta else service.motionMaxDelta
    motionBoxValid := result.boxValid
    motionBoxX := result.boxX
    motionBoxY := result.boxY
    motionBoxW := result.boxW
    motionBoxH := result.boxH
    motionBoxPeakDelta := result.boxPeakDelta
    motionActiveBlocks := result.activeBlockCount
    motionDetected := result.detected
    motionActiveFrames :=
      if result.detected then u32 (service.motionActiveFrames + 1) else service.motionActiveFrames
    motionEvents :=
      if result.detected && !service.motionWasDetected then u32 (service.motionEvents + 1)
      else service.motionEvents
    motionWasDetected := result.detected }

/-- The threshold as the detector reads it, `(unsigned int)motion_threshold`. -/
def CameraConfig.threshold (config : CameraConfig) : Nat :=
  (config.motionThreshold % 2 ^ 32).toNat

/-- How the motion block of `http_service_draw_lcd_frame` ends. -/
inductive MotionStep where
  | unallocated (service : HttpService)
  | processed (service : HttpService) (result : MotionResult) (event : Bool)

/-- The motion block up to the end of its critical section. The baseline is used
by the capture thread alone, so its part before the mutex is taken is here too. -/
def motionBlock (config : CameraConfig) (service : HttpService) (picture : Picture)
    (malloc : Bool) : MotionStep :=
  let service := resizeBaseline service picture
  if service.motionPrevious = none ∧ malloc = false then
    .unallocated (countMotionError service)
  else
    let result := detectMotion picture (baseline service) config.threshold
    let event := result.detected && !service.motionWasDetected
    .processed (commitMotion (saveBaseline service picture) result) result event

def maskedPixels (config : CameraConfig) (picture : Picture) (result : MotionResult) :
    List UInt16 :=
  if result.detected ∧ config.fbPreview then
    drawRgb565MotionMask picture.pixels picture.width picture.height result.activeBlocks
  else picture.pixels

/-- `"%s/motion_%06u.jpg"` in a buffer of 512 bytes; `none` when it does not fit. -/
def snapshotPath (config : CameraConfig) (eventId : Nat) : Option (List UInt8) :=
  let digits := decimal eventId
  let path := config.motionDir ++ ascii "/motion_" ++
    (List.replicate (6 - digits.length) 48 ++ digits) ++ ascii ".jpg"
  if path.length < 512 then some path else none

end Motion

section Metrics

def signedDecimal (n : Int) : List UInt8 :=
  if n < 0 then 45 :: decimal n.natAbs else decimal n.natAbs

def enabled (flag : Bool) : List UInt8 := if flag then ascii "enabled" else ascii "disabled"

def metricsLine (name : String) (value : List UInt8) : List UInt8 :=
  ascii name ++ 61 :: (value ++ [10])

/-- The body that `send_http_service_metrics` prints from one locked snapshot. -/
def metricsBody (config : CameraConfig) (service : HttpService) : List UInt8 :=
  metricsLine "device" config.device ++
  metricsLine "format" (cameraPixelFormatName config.pixelFormat) ++
  metricsLine "width" (signedDecimal config.width) ++
  metricsLine "height" (signedDecimal config.height) ++
  metricsLine "fps_request" (signedDecimal config.fps) ++
  metricsLine "mode" (ascii "multi-client-service") ++
  metricsLine "connected_clients" (decimal service.connectedClients) ++
  metricsLine "total_clients" (decimal service.totalClients) ++
  metricsLine "captured_frames" (decimal service.capturedFrames) ++
  metricsLine "lcd_preview" (enabled config.fbPreview) ++
  metricsLine "lcd_frames" (decimal service.lcdFrames) ++
  metricsLine "lcd_errors" (decimal service.lcdErrors) ++
  metricsLine "motion_detect" (enabled config.motionDetect) ++
  metricsLine "processed_frames" (decimal service.processedFrames) ++
  metricsLine "brightness" (decimal service.brightness) ++
  metricsLine "motion_delta" (decimal service.motionDelta) ++
  metricsLine "motion_max_delta" (decimal service.motionMaxDelta) ++
  metricsLine "motion_threshold" (signedDecimal config.motionThreshold) ++
  metricsLine "motion_detected" (decimal service.motionDetected.toNat) ++
  metricsLine "motion_active_frames" (decimal service.motionActiveFrames) ++
  metricsLine "motion_box_valid" (decimal service.motionBoxValid.toNat) ++
  metricsLine "motion_box_x" (decimal service.motionBoxX) ++
  metricsLine "motion_box_y" (decimal service.motionBoxY) ++
  metricsLine "motion_box_w" (decimal service.motionBoxW) ++
  metricsLine "motion_box_h" (decimal service.motionBoxH) ++
  metricsLine "motion_box_peak_delta" (decimal service.motionBoxPeakDelta) ++
  metricsLine "motion_active_blocks" (decimal service.motionActiveBlocks) ++
  metricsLine "motion_events" (decimal service.motionEvents) ++
  metricsLine "motion_snapshots" (decimal service.motionSnapshots) ++
  metricsLine "motion_errors" (decimal service.motionErrors) ++
  metricsLine "latest_sequence"
    (decimal (if service.hasFrame then service.latest.sequence.toNat else 0)) ++
  metricsLine "latest_frame_size"
    (decimal (if service.hasFrame then service.latest.size else 0)) ++
  metricsLine "timeouts" (decimal service.timeoutCount) ++
  metricsLine "empty_frames" (decimal service.emptyCount) ++
  metricsLine "total_bytes" (decimal service.totalBytes)

end Metrics

end CameraGateway
