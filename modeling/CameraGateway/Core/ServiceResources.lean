import CameraGateway.Core.Gateway
import CameraGateway.Library.Heap

/-!
The heap blocks of `camera_capture_http_mjpeg` and of its threads, and the descriptors
of its clients: which of them a step allocates or opens, uses, and frees or closes, in
the order of the source. A block of `frame_copy_alloc` has the address that `malloc`
returned; the others are known by what they are for. `rgb565` is the local variable of
`http_service_draw_lcd_frame`, which that function frees at its end.
-/
namespace CameraGateway

inductive HttpBlock where
  | frameCopy (address : Nat)
  | rgb565
  | motionPrevious
  | clientArgs (peer : Nat)
  | clientFd (peer : Nat)
deriving DecidableEq, Repr

def frameBlocks (frame : Frame) : List HttpBlock := (frameRelease frame).1.map .frameCopy

/-- `frame_copy_alloc` with its status and destination: the new block, then the source is
read. -/
def copyOps (src : Frame) (copy : Int × Frame) : List (Heap.Op HttpBlock) :=
  if copy.1 = 0 then (frameBlocks copy.2).map .alloc ++ (frameBlocks src).map .use else []

section Main

def httpServiceDestroyOps (service : HttpService) : List (Heap.Op HttpBlock) :=
  (frameBlocks service.latest).map .free ++
    if service.motionPrevious.isSome then [.free .motionPrevious] else []

def mainOps (g : Gateway) (ok : Bool) : List (Heap.Op HttpBlock) :=
  match g.main with
  | .accept => if ok then (g.backlog.head?.map fun peer => .alloc (.clientFd peer)).toList else []
  | .recv peer =>
      match g.peers[peer]?.bind Peer.recv with
      | none => []
      | some received =>
          if httpMjpegAcceptRequest true received 256 = none then
            [.use (.clientFd peer), .free (.clientFd peer)]
          else [.use (.clientFd peer)]
  | .countIn peer _ =>
      if ok then [.alloc (.clientArgs peer), .use (.clientArgs peer)] else [.free (.clientFd peer)]
  | .createClient peer _ =>
      if ok then [] else [.free (.clientFd peer), .free (.clientArgs peer)]
  | .destroy _ => if g.alive then httpServiceDestroyOps g.service else []
  | _ => []

end Main

section Capture

/-- The motion block: a baseline of another size is freed, a missing one allocated, and the
two pictures are compared and the new one stored. -/
def motionBlockOps (service : HttpService) (picture : Picture) (malloc : Bool) :
    List (Heap.Op HttpBlock) :=
  let resized := resizeBaseline service picture
  let freed : List (Heap.Op HttpBlock) :=
    if service.motionPrevious.isSome ∧ resized.motionPrevious = none then [.free .motionPrevious]
    else []
  if resized.motionPrevious = none ∧ malloc = false then freed
  else
    freed ++ (if resized.motionPrevious = none then [.alloc .motionPrevious] else []) ++
      [.use .rgb565, .use .motionPrevious]

/-- `held` says whether `rgb565` points to a block. -/
def captureOps (config : CameraConfig) (service : HttpService) (held : Bool) :
    CaptureState → CaptureEvent → List (Heap.Op HttpBlock)
  | .publish frame, .copied malloc =>
      let copy := frameCopyAlloc frame malloc
      if copy.1 = 0 then
        (frameBlocks copy.2).map .alloc ++ (frameBlocks service.latest).map .free
      else []
  | .draw _, .decoded picture malloc =>
      if !config.fbPreview && !config.motionDetect then []
      else
        match picture with
        | none => []
        | some picture =>
            .alloc .rgb565 ::
              if config.motionDetect then motionBlockOps service picture malloc else []
  | .show _ _ _, .drawn _ => if config.fbPreview then [.use .rgb565] else []
  | .countLcd _ _, .go => if held then [.free .rgb565] else []
  | _, _ => []

def captureHeld (config : CameraConfig) (held : Bool) : CaptureState → CaptureEvent → Bool
  | .draw _, .decoded picture _ =>
      if !config.fbPreview && !config.motionDetect then false else picture.isSome
  | .countLcd _ _, .go => false
  | _, _ => held

end Capture

section Client

def waitOps (service : HttpService) (client : HttpClient) (timedOut : Bool)
    (malloc : Option Nat) : List (Heap.Op HttpBlock) :=
  match httpServiceWaitLatest service client.lastSequence timedOut malloc with
  | .waits => []
  | .returned ret out _ => copyOps service.latest (ret, out)

def clientOps (service : HttpService) (client : HttpClient) :
    ClientEvent → List (Heap.Op HttpBlock)
  | .copied malloc =>
      match client.state with
      | .route =>
          .use (.clientArgs client.peer) ::
            if httpClientRoute client.path = .snapshot then
              copyOps service.latest (httpServiceCopyLatest service malloc)
            else []
      | .wait => waitOps service client false malloc
      | .timedOut => waitOps service client true malloc
      | _ => []
  | .sent _ =>
      match client.state with
      | .respond (.jpeg frame) | .sendFrame frame =>
          .use (.clientFd client.peer) ::
            ((frameBlocks frame).map .use ++ (frameBlocks frame).map .free)
      | .respond _ | .streamHeader => [.use (.clientFd client.peer)]
      | _ => []
  | .go =>
      match client.state with
      | .closing =>
          [.free (.clientFd client.peer), .use (.clientArgs client.peer),
            .free (.clientArgs client.peer)]
      | _ => []
  | _ => []

end Client

structure ResourceLog where
  ops : List (Heap.Op HttpBlock)
  held : Bool

def ResourceLog.empty : ResourceLog := { ops := [], held := false }

def watchResources (config : CameraConfig) (g : Gateway) (action : Action) (log : ResourceLog) :
    ResourceLog :=
  match action with
  | .main ok => { log with ops := log.ops ++ mainOps g ok }
  | .capture event =>
      { ops := log.ops ++ captureOps config g.service log.held g.capture event
        held := captureHeld config log.held g.capture event }
  | .client i event =>
      match g.clients[i]? with
      | none => log
      | some client => { log with ops := log.ops ++ clientOps g.service client event }
  | .peer _ => log

def resourceGateway (config : CameraConfig) :
    TransitionSystem.System (Gateway × ResourceLog) Action :=
  (gateway config).observe ResourceLog.empty (watchResources config)

end CameraGateway
