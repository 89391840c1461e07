import CameraGateway.Core.HttpService
import CameraGateway.Core.Yuyv
import CameraGateway.Library.Custody

/-!
`camera_capture_to_file` and `camera_capture_to_framebuffer` of src/v4l2_capture.c
after a successful `camera_start`. A step is one pass through the loop; its label
says what the driver and the calls of the pass come to. `ops` is the history of the
operations on the V4L2 buffers: DQBUF, reads of the mapped memory and QBUF.
-/
namespace CameraGateway

/-- The fields of `camera_config_t` that the capture loops read. -/
structure CaptureConfig extends CameraConfig where
  output : List UInt8
  frameDir : List UInt8
  noSave : Bool
  saveFrames : Bool
  httpMjpeg : Bool
deriving DecidableEq, Repr

def v4l2PixFmtYuyv : UInt32 := 0x56595559

def intMax : Nat := 2 ^ 31 - 1

/-- What `select` and VIDIOC_DQBUF come to in one pass. `memory` is what the mapping
of the buffer holds. -/
inductive DriverEvent where
  | selectFailed
  | timeout
  | dequeueFailed
  | dequeued (index : Nat) (memory : List UInt8) (bytesused : UInt32)

inductive CapturePhase where
  | start
  | loop
  | returned (result : Int)
deriving DecidableEq, Repr

/-- The loop condition, for `int count`. -/
def wantsFrame (config : CameraConfig) (count : Nat) : Bool :=
  config.frameCount == 0 || decide ((count : Int) < config.frameCount)

section File

/-- `"%s/frame_%03d.%s"` in a buffer of 512 bytes; `none` when it does not fit. -/
def framePath (config : CaptureConfig) (frameNumber : Nat) : Option (List UInt8) :=
  let digits := decimal frameNumber
  let ext := if config.pixelFormat = v4l2PixFmtMjpeg then ascii ".jpg" else ascii ".raw"
  let path := config.frameDir ++ ascii "/frame_" ++
    (List.replicate (3 - digits.length) 48 ++ digits) ++ ext
  if path.length < 512 then some path else none

/-- What `write_frame_file` returns, whether it has read the data, and the file it
has written. -/
structure FrameFile where
  ret : Int
  read : Bool
  file : Option (List UInt8 × List UInt8)

def writeFrameFile (config : CaptureConfig) (data : List UInt8) (frameNumber : Nat)
    (fopen fwrite : Bool) : FrameFile :=
  match framePath config frameNumber with
  | none => { ret := -1, read := false, file := none }
  | some path =>
      if !fopen then { ret := -1, read := false, file := none }
      else if !fwrite then { ret := -1, read := true, file := none }
      else { ret := 0, read := true, file := some (path, data) }

structure FileCapture where
  phase : CapturePhase
  /-- The output file, if `fp` is not NULL, with the bytes written to it. -/
  output : Option (List UInt8)
  files : List (List UInt8 × List UInt8)
  count : Nat
  totalBytes : Nat
  timeoutCount : Nat
  emptyCount : Nat
  ops : List (Custody.Op Nat)

structure FilePass where
  driver : DriverEvent
  fopen : Bool
  fwrite : Bool
  requeued : Bool

namespace FileCapture

def init : FileCapture :=
  { phase := .start, output := none, files := [], count := 0, totalBytes := 0, timeoutCount := 0
    emptyCount := 0, ops := [] }

def op (capture : FileCapture) (op : Custody.Op Nat) : FileCapture :=
  { capture with ops := capture.ops ++ [op] }

def fail (capture : FileCapture) : FileCapture := { capture with phase := .returned (-1) }

/-- The rest of a pass whose frame was recorded. -/
def finishPass (capture : FileCapture) (index : Nat) (bytesused : UInt32) (requeued : Bool) :
    Option FileCapture :=
  let capture := { capture with totalBytes := u64 (capture.totalBytes + bytesused.toNat) }
  let capture := capture.op (.giveBack index requeued)
  if !requeued then some capture.fail
  else if capture.count = intMax then none
  else some { capture with count := capture.count + 1 }

/-- A pass that has dequeued a frame with data. -/
def record (config : CaptureConfig) (capture : FileCapture) (index : Nat) (memory : List UInt8)
    (bytesused : UInt32) (pass : FilePass) : Option FileCapture :=
  let data := memory.take bytesused.toNat
  if config.saveFrames then
    if capture.count = intMax then none
    else
      let written := writeFrameFile config data (capture.count + 1) pass.fopen pass.fwrite
      let capture := if written.read then capture.op (.use index) else capture
      let capture := { capture with files := capture.files ++ written.file.toList }
      if written.ret ≠ 0 then some (capture.op (.giveBack index pass.requeued)).fail
      else capture.finishPass index bytesused pass.requeued
  else
    match capture.output with
    | none => capture.finishPass index bytesused pass.requeued
    | some contents =>
        let capture := capture.op (.use index)
        -- this exit does not requeue the buffer
        if !pass.fwrite then some capture.fail
        else
          { capture with output := some (contents ++ data) }.finishPass index bytesused
            pass.requeued

def pass (config : CaptureConfig) (capture : FileCapture) (pass : FilePass) : Option FileCapture :=
  match pass.driver with
  | .selectFailed => some capture.fail
  | .timeout => some { capture with timeoutCount := u32 (capture.timeoutCount + 1) }
  | .dequeueFailed => some capture.fail
  | .dequeued index memory bytesused =>
      let capture := capture.op (.take index)
      if bytesused = 0 then
        let capture := { capture with emptyCount := u32 (capture.emptyCount + 1) }
        let capture := capture.op (.giveBack index pass.requeued)
        some (if pass.requeued then capture else capture.fail)
      else capture.record config index memory bytesused pass

end FileCapture

inductive FileAction where
  | opened (ok : Bool)
  | pass (pass : FilePass)
  | finish

/-- With `http_mjpeg` or `fb_preview` another function is called instead. -/
def FileCapture.step (config : CaptureConfig) (capture : FileCapture) :
    FileAction → Option FileCapture
  | .opened ok =>
      if capture.phase ≠ .start ∨ config.httpMjpeg ∨ config.fbPreview then none
      else if config.saveFrames then
        some { capture with phase := if ok then .loop else .returned (-1) }
      else if config.noSave then some { capture with phase := .loop }
      else if ok then some { capture with phase := .loop, output := some [] }
      else some { capture with phase := .returned (-1) }
  | .pass pass =>
      if capture.phase = .loop ∧ wantsFrame config.toCameraConfig capture.count then
        capture.pass config pass
      else none
  | .finish =>
      if capture.phase = .loop ∧ !wantsFrame config.toCameraConfig capture.count then
        some { capture with phase := .returned 0 }
      else none

def cameraCaptureToFile (config : CaptureConfig) :
    TransitionSystem.System FileCapture FileAction where
  init := FileCapture.init
  step := FileCapture.step config

end File

section Framebuffer

structure FramebufferCapture where
  phase : CapturePhase
  /-- The buffer for converted YUYV pixels, if one was allocated. -/
  yuyvRgb565 : Option (List UInt16)
  count : Nat
  timeoutCount : Nat
  emptyCount : Nat
  /-- The pictures that the display has been given. -/
  drawn : List (List UInt16)
  ops : List (Custody.Op Nat)

structure FramebufferPass where
  driver : DriverEvent
  decoded : Option Picture
  draw : Bool
  requeued : Bool

namespace FramebufferCapture

def init : FramebufferCapture :=
  { phase := .start, yuyvRgb565 := none, count := 0, timeoutCount := 0, emptyCount := 0
    drawn := [], ops := [] }

def op (capture : FramebufferCapture) (op : Custody.Op Nat) : FramebufferCapture :=
  { capture with ops := capture.ops ++ [op] }

def fail (capture : FramebufferCapture) : FramebufferCapture :=
  { capture with phase := .returned (-1) }

def requeue (capture : FramebufferCapture) (index : Nat) (requeued : Bool) : FramebufferCapture :=
  let capture := capture.op (.giveBack index requeued)
  if requeued then capture else capture.fail

/-- The display gets a picture; a draw that fails leaves the loop after a requeue. -/
def display (capture : FramebufferCapture) (pixels : List UInt16) (index : Nat)
    (pass : FramebufferPass) : Option FramebufferCapture :=
  let capture := { capture with drawn := capture.drawn ++ [pixels] }
  if !pass.draw then some (capture.op (.giveBack index pass.requeued)).fail
  else if capture.count = intMax then none
  else some ({ capture with count := capture.count + 1 }.requeue index pass.requeued)

/-- `(unsigned int)(width * height * 2)`. -/
def yuyvSize (config : CameraConfig) : Nat := ((config.width * config.height * 2) % 2 ^ 32).toNat

/-- The size in bytes that the buffer for YUYV pixels is allocated with: two `size_t` products,
of the converted dimensions and of the size of a pixel. -/
def yuyvAllocation (config : CameraConfig) : Nat :=
  u32 (u32 ((config.width % 2 ^ 32).toNat * (config.height % 2 ^ 32).toNat) * 2)

def pass (config : CameraConfig) (capture : FramebufferCapture) (pass : FramebufferPass) :
    Option FramebufferCapture :=
  match pass.driver with
  | .selectFailed => some capture.fail
  | .timeout => some { capture with timeoutCount := u32 (capture.timeoutCount + 1) }
  | .dequeueFailed => some capture.fail
  | .dequeued index memory bytesused =>
      let capture := capture.op (.take index)
      if bytesused = 0 ∨
          config.pixelFormat = v4l2PixFmtYuyv ∧ bytesused.toNat < yuyvSize config then
        let capture := { capture with emptyCount := u32 (capture.emptyCount + 1) }
        some (capture.requeue index pass.requeued)
      else if config.pixelFormat = v4l2PixFmtYuyv then
        let capture := capture.op (.use index)
        let pixels := yuyvToRgb565 memory (capture.yuyvRgb565.getD []) config.width.toNat
          config.height.toNat
        { capture with yuyvRgb565 := some pixels }.display pixels index pass
      else
        let capture := capture.op (.use index)
        match pass.decoded with
        | none => some (capture.op (.giveBack index pass.requeued)).fail
        | some picture => capture.display picture.pixels index pass

end FramebufferCapture

inductive FramebufferAction where
  | opened (malloc : Option (List UInt16)) (display : Bool)
  | pass (pass : FramebufferPass)
  | finish

def FramebufferCapture.step (config : CameraConfig) (capture : FramebufferCapture) :
    FramebufferAction → Option FramebufferCapture
  | .opened malloc display =>
      if capture.phase ≠ .start then none
      else if config.pixelFormat ≠ v4l2PixFmtYuyv ∧ config.pixelFormat ≠ v4l2PixFmtMjpeg then
        some capture.fail
      else if config.pixelFormat = v4l2PixFmtYuyv then
        if malloc = none ∨ display = false then some capture.fail
        else some { capture with phase := .loop, yuyvRgb565 := malloc }
      else if display then some { capture with phase := .loop }
      else some capture.fail
  | .pass pass =>
      if capture.phase = .loop ∧ wantsFrame config capture.count then capture.pass config pass
      else none
  | .finish =>
      if capture.phase = .loop ∧ !wantsFrame config capture.count then
        some { capture with phase := .returned 0 }
      else none

def cameraCaptureToFramebuffer (config : CameraConfig) :
    TransitionSystem.System FramebufferCapture FramebufferAction where
  init := FramebufferCapture.init
  step := FramebufferCapture.step config

end Framebuffer

end CameraGateway
