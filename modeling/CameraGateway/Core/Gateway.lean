import CameraGateway.Core.Snapshot
import CameraGateway.Library.TransitionSystem

/-!
The threads of `camera_capture_http_mjpeg`: main with its accept loop, the
capture thread, one thread for each request, and the peers on the network.

A step is what a thread does up to and including its next critical section on
the service, or up to its next blocking call. A critical section contains no
other blocking call than `pthread_cond_timedwait`, which releases the mutex; the
states between steps are therefore those in which the mutex is free. Every choice
of the scheduler, the driver, the allocator and the network is in the label.

After `http_service_destroy` a thread that still refers to the service has no
defined next step, and neither has main when `request_count`, an `int`, is at its
maximum. `published`, `handed` and `wire` record the history of a run.
-/
namespace CameraGateway

section Capture

inductive CaptureState where
  | absent
  | head
  | select
  | dequeue
  | publish (frame : Frame)
  | draw (frame : Frame)
  | show (frame : Frame) (pixels : List UInt16) (motionEvent : Bool)
  | readEventId (frame : Frame)
  | saveSnapshot (frame : Frame) (eventId : Nat)
  | countLcd (frame : Frame) (ret : Int)
  | countFrame (frame : Frame)
  | requeue
  | stopping
  | ended

/-- The outcome of the calls that a step of the capture thread makes. -/
inductive CaptureEvent where
  | go
  | selectFailed
  | selectTimeout
  | selectReady
  | dequeueFailed
  | dequeued (buffer : Buffer) (bytesused sequence : UInt32) (timestampUs : UInt64)
  | copied (malloc : Option Nat)
  | decoded (picture : Option Picture) (malloc : Bool)
  | drawn (ok : Bool)
  | written (calls : FileCalls)
  | requeued (ok : Bool)

/-- What a step of the capture thread does to the rest of the system. -/
structure CaptureStep where
  next : CaptureState
  service : HttpService
  broadcast : Bool
  published : Option Frame
  file : Option (List UInt8 × List UInt8)

/-- A step that wakes nobody, publishes nothing and writes no file. -/
def CaptureStep.quiet (next : CaptureState) (service : HttpService) : CaptureStep :=
  { next := next, service := service, broadcast := false, published := none, file := none }

def CaptureStep.fails (next : CaptureState) (service : HttpService) : CaptureStep :=
  { next := next, service := markFailed service, broadcast := true, published := none
    file := none }

/-- The `frame_t` that the thread builds around a dequeued buffer. -/
def driverFrame (config : CameraConfig) (buffer : Buffer) (bytesused sequence : UInt32)
    (timestampUs : UInt64) : Frame :=
  { data := some buffer, size := bytesused.toNat, width := config.width
    height := config.height, pixelFormat := config.pixelFormat, sequence := sequence
    timestampUs := timestampUs }

/-- `http_service_draw_lcd_frame` up to its first critical section, if it has one. -/
def drawStep (config : CameraConfig) (service : HttpService) (frame : Frame)
    (picture : Option Picture) (malloc : Bool) : CaptureStep :=
  if !config.fbPreview && !config.motionDetect then .quiet (.countFrame frame) service
  else
    match picture with
    | none => .quiet (.countLcd frame (-1)) service
    | some picture =>
        if config.motionDetect then
          match motionBlock config service picture malloc with
          | .unallocated service => .quiet (.countLcd frame (-1)) service
          | .processed service result event =>
              .quiet (.show frame (maskedPixels config picture result) event) service
        else .quiet (.show frame picture.pixels false) service

def captureStep (config : CameraConfig) (service : HttpService) :
    CaptureState → CaptureEvent → Option CaptureStep
  | .head, .go => some (if service.stop then .quiet .stopping service else .quiet .select service)
  | .select, .selectFailed => some (.fails .stopping service)
  | .select, .selectTimeout => some (.quiet .head (countTimeout service))
  | .select, .selectReady => some (.quiet .dequeue service)
  | .dequeue, .dequeueFailed => some (.fails .stopping service)
  | .dequeue, .dequeued buffer bytesused sequence timestampUs =>
      if bytesused = 0 then some (.quiet .requeue (countEmpty service))
      else
        let frame := driverFrame config buffer bytesused sequence timestampUs
        some (.quiet (.publish frame) service)
  | .publish frame, .copied malloc =>
      let updated := httpServiceUpdateLatest service frame malloc
      -- a failed copy is recorded, but the loop goes on
      if updated.1 ≠ 0 then some (.fails .requeue service)
      else some
        { next := .draw frame, service := updated.2, broadcast := true, published := some frame
          file := none }
  | .draw frame, .decoded picture malloc => some (drawStep config service frame picture malloc)
  | .show frame _ motionEvent, .drawn ok =>
      if config.fbPreview && !ok then some (.quiet (.countLcd frame (-1)) service)
      else if motionEvent && config.motionSave then some (.quiet (.readEventId frame) service)
      else some (.quiet (.countLcd frame 0) service)
  | .readEventId frame, .go => some (.quiet (.saveSnapshot frame service.motionEvents) service)
  | .saveSnapshot frame eventId, .written calls =>
      let stored := storeSnapshot config service eventId frame.value.bytes calls
      some
        { next := .countLcd frame 0, service := stored.1, broadcast := false, published := none
          file := stored.2 }
  | .countLcd frame ret, .go =>
      some (.quiet (.countFrame frame) (countLcd service config.fbPreview ret))
  | .countFrame frame, .go => some (.quiet .requeue (countCaptured service frame.size))
  | .requeue, .requeued ok => some (if ok then .quiet .head service else .fails .stopping service)
  | .stopping, .go => some
      { next := .ended, service := httpServiceStop service, broadcast := true, published := none
        file := none }
  | _, _ => none

end Capture

section Client

inductive Response where
  | metrics (body : List UInt8)
  | unavailable
  | jpeg (frame : Frame)
  | notFound
deriving DecidableEq, Repr

def Response.send (response : Response) (outcomes : List SendResult) : Sent :=
  match response with
  | .metrics body =>
      if 2048 ≤ body.length then ⟨some (-1), [], outcomes⟩
      else httpMjpegSendTextResponse outcomes (ascii "200 OK") body
  | .unavailable =>
      httpMjpegSendTextResponse outcomes (ascii "503 Service Unavailable")
        (ascii "snapshot not ready\n")
  | .jpeg frame => httpMjpegSendJpegResponse outcomes frame.value.bytes
  | .notFound => httpMjpegSendNotFound outcomes

inductive ClientState where
  | route
  | respond (response : Response)
  | streamHeader
  | wait
  | blocked
  | timedOut
  | checkStop
  | sendFrame (frame : Frame)
  | countOut
  | closing
  | done
deriving DecidableEq, Repr

/-- A client thread; `handed` are the frames it was given, with their place in
the order of publication, and `wire` what its completed sends put on the socket. -/
structure HttpClient where
  peer : Nat
  path : List UInt8
  state : ClientState
  lastSequence : UInt32
  handed : List (Nat × Frame)
  wire : List UInt8
deriving DecidableEq, Repr

def HttpClient.start (peer : Nat) (path : List UInt8) : HttpClient :=
  { peer := peer, path := path, state := .route, lastSequence := 0, handed := [], wire := [] }

/-- A broadcast on the condition variable sends every waiter back to the mutex. -/
def HttpClient.wake (client : HttpClient) : HttpClient :=
  if client.state = .blocked then { client with state := .wait } else client

inductive ClientEvent where
  | go
  | copied (malloc : Option Nat)
  | sent (outcomes : List SendResult)
  | wakeUp
  | timeout
deriving DecidableEq, Repr

namespace HttpClient

def goto (client : HttpClient) (state : ClientState) : HttpClient :=
  { client with state := state }

/-- A completed send: where the thread goes on success and on failure. -/
def afterSend (client : HttpClient) (sent : Sent) (ok failed : ClientState) :
    Option HttpClient :=
  match sent.ret with
  | none => none
  | some ret => some
      { client with state := if ret = 0 then ok else failed, wire := client.wire ++ sent.wire }

def dispatch (client : HttpClient) (config : CameraConfig) (service : HttpService)
    (index : Nat) (malloc : Option Nat) : HttpClient :=
  match httpClientRoute client.path with
  | .metrics => client.goto (.respond (.metrics (metricsBody config service)))
  | .snapshot =>
      let copy := httpServiceCopyLatest service malloc
      if copy.1 ≠ 0 then client.goto (.respond .unavailable)
      else
        { client with
          state := .respond (.jpeg copy.2), handed := client.handed ++ [(index, copy.2)] }
  | .stream => client.goto .streamHeader
  | .notFound => client.goto (.respond .notFound)

def waitStep (client : HttpClient) (service : HttpService) (index : Nat) (timedOut : Bool)
    (malloc : Option Nat) : HttpClient :=
  match httpServiceWaitLatest service client.lastSequence timedOut malloc with
  | .waits => client.goto .blocked
  | .returned ret out lastSequence =>
      if ret = 0 then
        { client with
          state := .sendFrame out, lastSequence := lastSequence
          handed := client.handed ++ [(index, out)] }
      else { client with state := .checkStop, lastSequence := lastSequence }

end HttpClient

/-- A step of a client thread that leaves the service as it is. `index` is the
place of the latest frame in the order of publication. -/
def clientStep (config : CameraConfig) (service : HttpService) (index : Nat)
    (client : HttpClient) : ClientEvent → Option HttpClient
  | .copied malloc =>
      match client.state with
      | .route => some (client.dispatch config service index malloc)
      | .wait => some (client.waitStep service index false malloc)
      | .timedOut => some (client.waitStep service index true malloc)
      | _ => none
  | .sent outcomes =>
      match client.state with
      | .respond response => client.afterSend (response.send outcomes) .countOut .countOut
      | .streamHeader => client.afterSend (httpMjpegSendStreamHeader outcomes) .wait .countOut
      | .sendFrame frame =>
          client.afterSend (httpMjpegSendFrame outcomes frame.value.bytes) .wait .countOut
      | _ => none
  | .wakeUp => if client.state = .blocked then some (client.goto .wait) else none
  | .timeout => if client.state = .blocked then some (client.goto .timedOut) else none
  | .go =>
      match client.state with
      | .checkStop =>
          some (if service.stop || service.failed then client.goto .countOut else client.goto .wait)
      | .closing => some (client.goto .done)
      | _ => none

/-- The states whose next step reads or writes the service. -/
def ClientState.usesService : ClientState → Bool
  | .route | .wait | .timedOut | .checkStop | .countOut => true
  | _ => false

end Client

section Network

/-- The peer's end of a connection: bytes sent and not yet received, and whether
it has closed or reset the connection. -/
structure Peer where
  pending : List UInt8
  closed : Bool
  reset : Bool
deriving DecidableEq, Repr

/-- What `recv` returns; `none` while it blocks. -/
def Peer.recv (peer : Peer) : Option RecvResult :=
  if peer.reset then some .failed
  else if peer.pending ≠ [] then some (.received peer.pending)
  else if peer.closed then some (.received [])
  else none

inductive PeerEvent where
  | connect
  | send (peer : Nat) (bytes : List UInt8)
  | close (peer : Nat)
  | reset (peer : Nat)
deriving DecidableEq, Repr

end Network

/-- Where main is in `camera_capture_http_mjpeg`; `out` and what follows carry the
result that will be returned. -/
inductive MainState where
  | start
  | initService
  | createCapture
  | listen
  | accept
  | recv (peer : Nat)
  | countIn (peer : Nat) (path : List UInt8)
  | createClient (peer : Nat) (path : List UInt8)
  | join (client : Nat)
  | out (result : Int)
  | joinCapture (result : Int)
  | destroy (result : Int)
  | returned (result : Int)
deriving DecidableEq, Repr

structure Gateway where
  service : HttpService
  alive : Bool
  main : MainState
  capture : CaptureState
  clients : List HttpClient
  peers : List Peer
  /-- Connections that main has not accepted yet, oldest first. -/
  backlog : List Nat
  requestCount : Nat
  published : List Frame
  files : List (List UInt8 × List UInt8)

namespace Gateway

def init : Gateway :=
  { service := HttpService.zero, alive := false, main := .start, capture := .absent
    clients := [], peers := [], backlog := [], requestCount := 0, published := [], files := [] }

/-- `INT_MAX`, where `++request_count` has no defined result. -/
def requestLimit : Nat := 2 ^ 31 - 1

/-- `ok` is the outcome of the external call that the step makes, if it makes one. -/
def mainStep (config : CameraConfig) (g : Gateway) (ok : Bool) : Option Gateway :=
  match g.main with
  | .start =>
      if config.pixelFormat ≠ v4l2PixFmtMjpeg then some { g with main := .returned (-1) }
      -- the display and the snapshot directory
      else some { g with main := if ok then .initService else .out (-1) }
  | .initService =>
      if ok then some { g with service := HttpService.zero, alive := true, main := .createCapture }
      else some { g with main := .out (-1) }
  | .createCapture =>
      if ok then some { g with capture := .head, main := .listen }
      else some { g with main := .out (-1) }
  | .listen => some { g with main := if ok then .accept else .out (-1) }
  | .accept =>
      if ok then
        match g.backlog with
        | [] => none
        | peer :: backlog => some { g with backlog := backlog, main := .recv peer }
      else some { g with main := .out (-1) }
  | .recv peer =>
      match g.peers[peer]? with
      | none => none
      | some connection =>
          match connection.recv with
          | none => none
          | some received =>
              match httpMjpegAcceptRequest true received 256 with
              | none => some { g with main := .out (-1) }
              | some path =>
                  if g.requestCount < requestLimit then some
                    { g with
                      requestCount := g.requestCount + 1
                      peers := g.peers.set peer
                        { connection with pending := connection.pending.drop 1023 }
                      main := .countIn peer path }
                  else none
  | .countIn peer path =>
      if ok then some
        { g with service := CameraGateway.countIn g.service, main := .createClient peer path }
      else some { g with main := .out (-1) }
  | .createClient peer path =>
      if ok then some
        { g with
          clients := g.clients ++ [HttpClient.start peer path]
          main := if config.frameCount = 0 then .accept else .join g.clients.length }
      else some { g with service := CameraGateway.countOut g.service, main := .out (-1) }
  | .join client =>
      if (g.clients[client]?.map HttpClient.state) = some .done then
        some { g with main := .out 0 }
      else none
  | .out result =>
      if g.alive then some
        { g with
          service := httpServiceStop g.service
          clients := g.clients.map HttpClient.wake
          main := .joinCapture result }
      else some { g with main := .joinCapture result }
  | .joinCapture result =>
      match g.capture with
      | .absent | .ended => some { g with main := .destroy result }
      | _ => none
  | .destroy result =>
      if g.alive then some
        { g with service := HttpService.zero, alive := false, main := .returned result }
      else some { g with main := .returned result }
  | .returned _ => none

def applyCapture (g : Gateway) (step : CaptureStep) : Gateway :=
  { g with
    service := step.service
    capture := step.next
    clients := if step.broadcast then g.clients.map HttpClient.wake else g.clients
    published := g.published ++ step.published.toList
    files := g.files ++ step.file.toList }

/-- A step of the client thread `i`. Counting out is its only write. -/
def stepClient (config : CameraConfig) (g : Gateway) (i : Nat) (event : ClientEvent) :
    Option Gateway :=
  match g.clients[i]? with
  | none => none
  | some client =>
      if client.state.usesService && !g.alive then none
      else if client.state = .countOut ∧ event = .go then some
        { g with
          service := CameraGateway.countOut g.service
          clients := g.clients.set i (client.goto .closing) }
      else
        (clientStep config g.service (g.published.length - 1) client event).map fun client =>
          { g with clients := g.clients.set i client }

def listening (g : Gateway) : Bool :=
  match g.main with
  | .accept | .recv _ | .countIn _ _ | .createClient _ _ | .join _ => true
  | _ => false

def updatePeer (g : Gateway) (i : Nat) (update : Peer → Peer) : Option Gateway :=
  g.peers[i]?.map fun peer => { g with peers := g.peers.set i (update peer) }

def stepPeer (g : Gateway) : PeerEvent → Option Gateway
  | .connect =>
      if g.listening then some
        { g with
          peers := g.peers ++ [⟨[], false, false⟩], backlog := g.backlog ++ [g.peers.length] }
      else none
  | .send i bytes => g.updatePeer i fun peer =>
      if peer.closed || peer.reset then peer else { peer with pending := peer.pending ++ bytes }
  | .close i => g.updatePeer i fun peer => { peer with closed := true }
  | .reset i => g.updatePeer i fun peer => { peer with pending := [], reset := true }

end Gateway

inductive Action where
  | main (ok : Bool)
  | capture (event : CaptureEvent)
  | client (i : Nat) (event : ClientEvent)
  | peer (event : PeerEvent)

def Gateway.step (config : CameraConfig) (g : Gateway) : Action → Option Gateway
  | .main ok => g.mainStep config ok
  | .capture event =>
      (captureStep config g.service g.capture event).map g.applyCapture
  | .client i event => g.stepClient config i event
  | .peer event => g.stepPeer event

def gateway (config : CameraConfig) : TransitionSystem.System Gateway Action where
  init := Gateway.init
  step := Gateway.step config

end CameraGateway
