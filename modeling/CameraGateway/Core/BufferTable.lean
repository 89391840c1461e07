import CameraGateway.Core.Lifetime

/-!
The accesses to `ctx->buffers` between `camera_open` and `camera_close`. The table has
`CAMERA_MAX_BUFFERS` entries and its loops run over `buffer_count`, which VIDIOC_REQBUFS has
set. `accesses` lists the indices in their order; the first one outside of the table is the
last, since nothing is defined after it.
-/
namespace CameraGateway

section Accesses

def mapAccesses (driver : Driver) (i : Nat) : Nat → List Nat
  | 0 => []
  | n + 1 =>
      match driver.queryBuffer i with
      | none => []
      | some _ =>
          i :: if i < cameraMaxBuffers ∧ driver.mmap i ≠ none then mapAccesses driver (i + 1) n
            else []

/-- What VIDIOC_REQBUFS grants when `camera_configure` gets so far and goes on. -/
def Driver.granted (driver : Driver) : Option Nat :=
  match driver.queryCap with
  | none => none
  | some capabilities =>
      if capabilities &&& v4l2CapVideoCapture = 0 ∨ capabilities &&& v4l2CapStreaming = 0 ∨
          driver.setFormat.isNone then none
      else driver.requestBuffers.filter fun count => 2 ≤ count

def configureAccesses (driver : Driver) : List Nat :=
  mapAccesses driver 0 (driver.granted.getD 0)

def closeAccesses (ctx : CameraContext) : List Nat :=
  (List.range ctx.bufferCount).take (cameraMaxBuffers + 1)

/-- Whether a capture loop that has dequeued a frame reads the entry of its buffer: the capture
thread does for every frame with data, the preview for those it does not reject as short, and
`camera_capture_to_file` for those it saves. -/
def readsEntry (config : CaptureConfig) (bytesused : UInt32) : Bool :=
  bytesused != 0 &&
    (if config.httpMjpeg then true
    else if config.fbPreview then
      !(config.pixelFormat == v4l2PixFmtYuyv &&
        decide (bytesused.toNat < FramebufferCapture.yuyvSize config.toCameraConfig))
    else config.saveFrames || !config.noSave)

end Accesses

section Session

inductive SessionPhase where
  | opened
  | configured
  | capturing
  | closing
  | closed
  | undefined
deriving DecidableEq, Repr

/-- `consumed` are the mappings that the capture loops have handed to a consumer. -/
structure Session where
  phase : SessionPhase
  ctx : CameraContext
  accesses : List Nat
  consumed : List (Option Nat)

inductive SessionAction where
  | configure
  | start
  /-- VIDIOC_DQBUF in a capture loop, with a buffer of those that were granted. -/
  | dequeue (index : Nat) (bytesused : UInt32)
  | leave
  | close

def Session.step (driver : Driver) (session : Session) : SessionAction → Option Session
  | .configure =>
      if session.phase ≠ .opened then none
      else
        let session := { session with accesses := session.accesses ++ configureAccesses driver }
        match cameraConfigure session.ctx driver with
        | none => some { session with phase := .undefined }
        | some call =>
            some { session with
              phase := if call.ret = 0 then .configured else .closing, ctx := call.ctx }
  | .start =>
      if session.phase ≠ .configured then none
      else
        some { session with
          phase := if (cameraStart session.ctx driver).ret = 0 then .capturing else .closing }
  | .dequeue index bytesused =>
      if session.phase ≠ .capturing ∨ session.ctx.bufferCount ≤ index then none
      else if readsEntry session.ctx.config bytesused then
        let session := { session with accesses := session.accesses ++ [index] }
        match session.ctx.buffers[index]? with
        | none => some { session with phase := .undefined }
        | some buffer => some { session with consumed := session.consumed ++ [buffer.start] }
      else some session
  | .leave => if session.phase = .capturing then some { session with phase := .closing } else none
  | .close =>
      if session.phase ≠ .closing then none
      else
        some { session with
          accesses := session.accesses ++ closeAccesses session.ctx
          phase := if (cameraClose session.ctx).isSome then .closed else .undefined }

end Session

end CameraGateway
