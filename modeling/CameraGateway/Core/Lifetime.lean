import CameraGateway.Core.CaptureLoops
import CameraGateway.Library.Ledger

/-!
What `main` acquires and releases once its options are parsed: `camera_open`,
`camera_configure`, `camera_start`, `camera_stop` and `camera_close`, the three capture
functions without their loops, and the functions that these call. A record of outcomes
says what the kernel and the C library answer; `ops` lists the successful acquisitions
and the releases in the order of the calls. Served HTTP clients belong to their own
threads and are not listed, and neither is the memory of the frames.
-/
namespace CameraGateway

inductive Resource where
  | cameraFd (fd : Int)
  /-- The mapping of the camera buffer `index`. -/
  | mapping (index start length : Nat)
  /-- From VIDIOC_STREAMON to VIDIOC_STREAMOFF. -/
  | stream
  | outputFile
  | yuyvRgb565
  | displayBlock
  | displayFd (fd : Int)
  | displayMemory (start length : Nat)
  | mutex
  | cond
  | captureThread
  | serverFd (fd : Int)
  | clientFd (fd : Int)
  | clientArgs
deriving DecidableEq, Repr

namespace Resource

def ofCamera : Resource → Bool
  | .cameraFd _ | .mapping .. | .stream => true
  | _ => false

def ofDisplay : Resource → Bool
  | .displayBlock | .displayFd _ | .displayMemory .. => true
  | _ => false

/-- What may not be released while a resource is held. -/
def uses : Resource → Resource → Bool
  | .mapping .., .cameraFd _ => true
  | .stream, .cameraFd _ | .stream, .mapping .. => true
  | .displayFd _, .displayBlock | .displayMemory .., .displayBlock => true
  | .displayMemory .., .displayFd _ => true
  | .captureThread, .mutex | .captureThread, .cond => true
  | .captureThread, resource => resource.ofCamera || resource.ofDisplay
  | _, _ => false

end Resource

structure Call where
  ret : Int
  ops : List (Ledger.Op Resource)

section Camera

def cameraMaxBuffers : Nat := 4

/-- `camera_buffer_t`; `start` is `none` for NULL, which a successful `mmap` never returns. -/
structure CameraBuffer where
  start : Option Nat
  length : Nat

structure CameraContext where
  fd : Int
  config : CaptureConfig
  buffers : List CameraBuffer
  bufferCount : Nat

/-- What VIDIOC_S_FMT has set. -/
structure PixFormat where
  width : UInt32
  height : UInt32
  pixelFormat : UInt32

/-- The answers of the camera driver; `none` and `false` are failures. VIDIOC_S_PARM is
missing because its failure is only a warning. -/
structure Driver where
  /-- `stat`, with whether the path is a character device. -/
  stat : Option Bool
  openDevice : Option Nat
  queryCap : Option UInt32
  setFormat : Option PixFormat
  requestBuffers : Option Nat
  queryBuffer : Nat → Option Nat
  mmap : Nat → Option Nat
  queueBuffer : Nat → Bool
  streamOn : Bool

structure CameraCall extends Call where
  ctx : CameraContext

def CameraContext.setBuffer (ctx : CameraContext) (index : Nat) (buffer : CameraBuffer) :
    CameraContext :=
  { ctx with buffers := ctx.buffers.set index buffer }

def cameraOpen (config : CaptureConfig) (driver : Driver) : CameraCall :=
  let ctx : CameraContext :=
    { fd := -1, config := config, bufferCount := 0
      buffers := List.replicate cameraMaxBuffers { start := none, length := 0 } }
  if driver.stat ≠ some true then { ret := -1, ctx := ctx, ops := [] }
  else
    match driver.openDevice with
    | none => { ret := -1, ctx := ctx, ops := [] }
    | some fd => { ret := 0, ctx := { ctx with fd := fd }, ops := [.acquire (.cameraFd fd)] }

/-- The loop of `camera_configure` over `n` buffers from `i` on; `none` when it writes
outside of `ctx->buffers`. -/
def mapBuffers (driver : Driver) (ctx : CameraContext) (i : Nat) : Nat → Option CameraCall
  | 0 => some { ret := 0, ctx := ctx, ops := [] }
  | n + 1 =>
      match driver.queryBuffer i with
      | none => some { ret := -1, ctx := ctx, ops := [] }
      | some length =>
          if i < cameraMaxBuffers then
            let buffer : CameraBuffer := { start := driver.mmap i, length := length }
            let ctx := ctx.setBuffer i buffer
            match driver.mmap i with
            | none => some { ret := -1, ctx := ctx, ops := [] }
            | some start => (mapBuffers driver ctx (i + 1) n).map fun call =>
                { call with ops := .acquire (.mapping i start length) :: call.ops }
          else none

def v4l2CapVideoCapture : UInt32 := 0x00000001

def v4l2CapStreaming : UInt32 := 0x04000000

def cameraConfigure (ctx : CameraContext) (driver : Driver) : Option CameraCall :=
  let failed (ctx : CameraContext) : Option CameraCall := some { ret := -1, ctx := ctx, ops := [] }
  match driver.queryCap with
  | none => failed ctx
  | some capabilities =>
      if capabilities &&& v4l2CapVideoCapture = 0 then failed ctx
      else if capabilities &&& v4l2CapStreaming = 0 then failed ctx
      else
        match driver.setFormat with
        | none => failed ctx
        | some format =>
            let config := { ctx.config with
              width := format.width.toInt32.toInt, height := format.height.toInt32.toInt
              pixelFormat := format.pixelFormat }
            let ctx := { ctx with config := config }
            match driver.requestBuffers with
            | none => failed ctx
            | some count =>
                if count < 2 then failed ctx
                else mapBuffers driver { ctx with bufferCount := count } 0 count

def cameraStart (ctx : CameraContext) (driver : Driver) : Call :=
  if !(List.range ctx.bufferCount).all driver.queueBuffer then { ret := -1, ops := [] }
  else if !driver.streamOn then { ret := -1, ops := [] }
  else { ret := 0, ops := [.acquire .stream] }

def cameraStop (ctx : CameraContext) : List (Ledger.Op Resource) :=
  if ctx.fd ≠ -1 then [.release .stream] else []

/-- The loop of `camera_close`; `none` when it reads outside of `ctx->buffers`. -/
def unmapBuffers (ctx : CameraContext) (i : Nat) : Nat → Option (List (Ledger.Op Resource))
  | 0 => some []
  | n + 1 =>
      match ctx.buffers[i]? with
      | none => none
      | some buffer =>
          match buffer.start with
          | none => unmapBuffers ctx (i + 1) n
          | some start =>
              let ctx := ctx.setBuffer i { start := none, length := 0 }
              (unmapBuffers ctx (i + 1) n).map fun ops =>
                .release (.mapping i start buffer.length) :: ops

def cameraClose (ctx : CameraContext) : Option (List (Ledger.Op Resource)) :=
  (unmapBuffers ctx 0 ctx.bufferCount).map fun ops =>
    ops ++ if ctx.fd ≠ -1 then [.release (.cameraFd ctx.fd)] else []

end Camera

section Display

structure Display where
  fd : Int
  mem : Option Nat
  memSize : Nat

structure DisplayOutcomes where
  calloc : Bool
  openDevice : Option Nat
  /-- FBIOGET_FSCREENINFO, with the size of the memory. -/
  fixInfo : Option Nat
  varInfo : Bool
  mmap : Option Nat

structure DisplayCall extends Call where
  out : Option Display

def framebufferDisplayOpen (outcomes : DisplayOutcomes) : DisplayCall :=
  if !outcomes.calloc then { ret := -1, out := none, ops := [] }
  else
    match outcomes.openDevice with
    | none =>
        { ret := -1, out := none, ops := [.acquire .displayBlock, .release .displayBlock] }
    | some fd =>
        -- the three later failures close the device and free the block
        let failed : DisplayCall :=
          { ret := -1, out := none
            ops := [.acquire .displayBlock, .acquire (.displayFd fd), .release (.displayFd fd),
              .release .displayBlock] }
        match outcomes.fixInfo with
        | none => failed
        | some size =>
            if !outcomes.varInfo then failed
            else
              match outcomes.mmap with
              | none => failed
              | some start =>
                  { ret := 0, out := some { fd := fd, mem := some start, memSize := size }
                    ops := [.acquire .displayBlock, .acquire (.displayFd fd),
                      .acquire (.displayMemory start size)] }

def framebufferDisplayClose : Option Display → List (Ledger.Op Resource)
  | none => []
  | some display =>
      (display.mem.map fun start => .release (.displayMemory start display.memSize)).toList ++
        (if display.fd ≠ -1 then [.release (.displayFd display.fd)] else []) ++
        [.release .displayBlock]

end Display

section Http

def httpServiceInit (mutexInit condInit : Bool) : Call :=
  if !mutexInit then { ret := -1, ops := [] }
  else if !condInit then { ret := -1, ops := [.acquire .mutex, .release .mutex] }
  else { ret := 0, ops := [.acquire .mutex, .acquire .cond] }

def httpServiceDestroy : List (Ledger.Op Resource) := [.release .cond, .release .mutex]

structure ListenOutcomes where
  socket : Option Nat
  setsockopt : Bool
  bind : Bool
  listen : Bool

def httpMjpegListen (outcomes : ListenOutcomes) : Call :=
  match outcomes.socket with
  | none => { ret := -1, ops := [] }
  | some fd =>
      let opened : Ledger.Op Resource := .acquire (.serverFd fd)
      let closed : Ledger.Op Resource := .release (.serverFd fd)
      if !outcomes.setsockopt then { ret := -1, ops := [opened, closed] }
      else if !outcomes.bind then { ret := -1, ops := [opened, closed] }
      else if !outcomes.listen then { ret := -1, ops := [opened, closed] }
      else { ret := fd, ops := [opened] }

def httpMjpegClose (resource : Int → Resource) (fd : Int) : List (Ledger.Op Resource) :=
  if fd ≠ -1 then [.release (resource fd)] else []

/-- How the accept loop is left before a client thread exists. -/
inductive RoundFailure where
  | accept
  | recv (fd : Nat)
  | calloc (fd : Nat)
  | createClient (fd : Nat)

def RoundFailure.ops : RoundFailure → List (Ledger.Op Resource)
  | .accept => []
  | .recv fd => [.acquire (.clientFd fd), .release (.clientFd fd)]
  | .calloc fd => .acquire (.clientFd fd) :: httpMjpegClose .clientFd fd
  | .createClient fd =>
      [.acquire (.clientFd fd), .acquire .clientArgs] ++ httpMjpegClose .clientFd fd ++
        [.release .clientArgs]

/-- The accept loop: after so many served clients a round fails. Without a limit only that
ends the loop, with one the first client does. -/
def acceptRounds (config : CameraConfig) (failure : RoundFailure) : Nat → Call
  | 0 => { ret := -1, ops := failure.ops }
  | served + 1 =>
      if config.frameCount = 0 then acceptRounds config failure served else { ret := 0, ops := [] }

structure HttpOutcomes where
  display : DisplayOutcomes
  directory : Bool
  mutexInit : Bool
  condInit : Bool
  createCapture : Bool
  listen : ListenOutcomes
  served : Nat
  failure : RoundFailure

/-- The local variables that the cleanup of `camera_capture_http_mjpeg` reads. -/
structure HttpLocals where
  serverFd : Int
  serviceInitialized : Bool
  captureStarted : Bool
  display : Option Display

def HttpLocals.out (locals : HttpLocals) (result : Int) (ops : List (Ledger.Op Resource)) : Call :=
  { ret := result
    ops := ops ++
      ((if locals.captureStarted then [.release .captureThread] else []) ++
        httpMjpegClose .serverFd locals.serverFd ++
        (if locals.serviceInitialized then httpServiceDestroy else []) ++
        framebufferDisplayClose locals.display) }

def cameraCaptureHttpMjpeg (config : CameraConfig) (outcomes : HttpOutcomes) : Call :=
  if config.pixelFormat ≠ v4l2PixFmtMjpeg then { ret := -1, ops := [] }
  else
    let locals : HttpLocals :=
      { serverFd := -1, serviceInitialized := false, captureStarted := false, display := none }
    let opened : DisplayCall :=
      if config.fbPreview then framebufferDisplayOpen outcomes.display
      else { ret := 0, out := none, ops := [] }
    if opened.ret ≠ 0 then locals.out (-1) opened.ops
    else
      let locals := { locals with display := opened.out }
      if config.motionSave ∧ !outcomes.directory then locals.out (-1) opened.ops
      else
        let service := httpServiceInit outcomes.mutexInit outcomes.condInit
        let ops := opened.ops ++ service.ops
        if service.ret ≠ 0 then locals.out (-1) ops
        else
          let locals := { locals with serviceInitialized := true }
          if !outcomes.createCapture then locals.out (-1) ops
          else
            let listened := httpMjpegListen outcomes.listen
            let ops := ops ++ [.acquire .captureThread] ++ listened.ops
            let locals := { locals with captureStarted := true, serverFd := listened.ret }
            if listened.ret = -1 then locals.out (-1) ops
            else
              let rounds := acceptRounds config outcomes.failure outcomes.served
              locals.out rounds.ret (ops ++ rounds.ops)

end Http

section Main

/-- The other two capture functions: whether the calls before the loop succeed, and
whether the loop ends without a failure. -/
structure LoopOutcomes where
  malloc : Bool
  display : DisplayOutcomes
  opened : Bool
  loop : Bool

namespace LoopOutcomes

def framebuffer (outcomes : LoopOutcomes) (config : CameraConfig) : Call :=
  if config.pixelFormat ≠ v4l2PixFmtYuyv ∧ config.pixelFormat ≠ v4l2PixFmtMjpeg then
    { ret := -1, ops := [] }
  else if config.pixelFormat = v4l2PixFmtYuyv ∧ !outcomes.malloc then { ret := -1, ops := [] }
  else
    let allocated : List Resource :=
      if config.pixelFormat = v4l2PixFmtYuyv then [.yuyvRgb565] else []
    let opened := framebufferDisplayOpen outcomes.display
    { ret := if opened.ret = 0 ∧ outcomes.loop then 0 else -1
      ops := allocated.map .acquire ++ (opened.ops ++ framebufferDisplayClose opened.out) ++
        allocated.map .release }

def file (outcomes : LoopOutcomes) (config : CaptureConfig) : Call :=
  if config.saveFrames then
    { ret := if outcomes.opened ∧ outcomes.loop then 0 else -1, ops := [] }
  else if config.noSave then { ret := if outcomes.loop then 0 else -1, ops := [] }
  else if !outcomes.opened then { ret := -1, ops := [] }
  else
    { ret := if outcomes.loop then 0 else -1
      ops := [.acquire .outputFile, .release .outputFile] }

end LoopOutcomes

structure Outcomes where
  driver : Driver
  http : HttpOutcomes
  loops : LoopOutcomes

def cameraCapture (config : CaptureConfig) (outcomes : Outcomes) : Call :=
  if config.httpMjpeg then cameraCaptureHttpMjpeg config.toCameraConfig outcomes.http
  else if config.fbPreview then outcomes.loops.framebuffer config.toCameraConfig
  else outcomes.loops.file config

/-- The exit code of `main`, and whether `camera_start` has returned 0. -/
structure MainCall extends Call where
  started : Bool

def outClose (ctx : CameraContext) (ret : Int) (started : Bool) (ops : List (Ledger.Op Resource)) :
    Option MainCall :=
  (cameraClose ctx).map fun closed => { ret := ret, started := started, ops := ops ++ closed }

def captureMain (config : CaptureConfig) (outcomes : Outcomes) : Option MainCall :=
  let opened := cameraOpen config outcomes.driver
  if opened.ret ≠ 0 then some { ret := 1, started := false, ops := opened.ops }
  else
    match cameraConfigure opened.ctx outcomes.driver with
    | none => none
    | some configured =>
        let ctx := configured.ctx
        let ops := opened.ops ++ configured.ops
        if configured.ret ≠ 0 then outClose ctx 1 false ops
        else
          let start := cameraStart ctx outcomes.driver
          let ops := ops ++ start.ops
          if start.ret ≠ 0 then outClose ctx 1 false ops
          else
            let captured := cameraCapture ctx.config outcomes
            outClose ctx (if captured.ret = 0 then 0 else 1) true
              (ops ++ captured.ops ++ cameraStop ctx)

end Main

end CameraGateway
