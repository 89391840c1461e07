import CameraGateway.Library.Assignments
import CameraGateway.Metatheory.FileRecording
import CameraGateway.Metatheory.MetricsReport
import CameraGateway.Metatheory.MotionEvents
import CameraGateway.Metatheory.Program

/-!
The buffers of the printed texts. The options that `parse_args` accepts are short enough, and
the counters and sizes of every run small enough, that no check behind an `snprintf` ever
finds a text that was cut: a send fails only when the socket does.
-/
namespace CameraGateway

section Sends

theorem textResponse_bound (status body : List UInt8) (hstatus : status.length ≤ 30)
    (hbody : body.length < 2048) (outcomes : List SendResult) :
    SocketBound outcomes (httpMjpegSendTextResponse outcomes status body) :=
  sendMessage_bound (textHeader_length hstatus (Nat.lt_trans hbody (by decide))) outcomes [body]

def Response.Sized : Response → Prop
  | .metrics body => body.length < 2048
  | .jpeg frame => frame.value.bytes.length < 2 ^ 64
  | _ => True

theorem Response.send_bound {response : Response} (h : response.Sized)
    (outcomes : List SendResult) : SocketBound outcomes (response.send outcomes) := by
  cases response with
  | metrics body =>
      rw [Response.send, if_neg (Nat.not_le.mpr h)]
      exact textResponse_bound (ascii "200 OK") body (by decide) h outcomes
  | unavailable =>
      exact textResponse_bound (ascii "503 Service Unavailable") (ascii "snapshot not ready\n")
        (by decide) (by decide) outcomes
  | jpeg frame => exact sendMessage_bound (jpegHeader_length h) outcomes [frame.value.bytes]
  | notFound =>
      exact textResponse_bound (ascii "404 Not Found") (ascii "not found\n") (by decide) (by decide)
        outcomes

end Sends

section Runs
variable {config : CameraConfig} {g g' : Gateway} {service : HttpService}
  {state : CaptureState} {event : CaptureEvent} {step : CaptureStep}

/-- The number of the event whose snapshot is being saved has 32 bits. -/
def CaptureState.eventSized : CaptureState → Prop
  | .saveSnapshot _ eventId => eventId < 2 ^ 32
  | _ => True

theorem drawStep_eventSized (config : CameraConfig) (service : HttpService) (frame : Frame)
    (picture : Option Picture) (malloc : Bool) :
    (drawStep config service frame picture malloc).next.eventSized := by
  fun_cases drawStep config service frame picture malloc <;> trivial

theorem captureStep_eventSized (hevents : service.motionEvents < 2 ^ 32)
    (hs : captureStep config service state event = some step) : step.next.eventSized := by
  revert hs
  fun_cases captureStep config service state event
  case case1 =>
      intro hs
      cases hs
      split <;> trivial
  case case10 frame picture malloc =>
      intro hs
      cases hs
      exact drawStep_eventSized config service frame picture malloc
  case case14 frame =>
      intro hs
      cases hs
      exact hevents
  case case18 ok =>
      intro hs
      cases hs
      cases ok <;> trivial
  case case20 =>
      intro hs
      cases hs
  all_goals
    intro hs
    cases hs
    trivial

/-- What the texts of the threads print has 32 bits. -/
structure TextsSized (g : Gateway) : Prop where
  event : g.capture.eventSized
  published : ∀ frame ∈ g.published, frame.size < 2 ^ 32

theorem textsSized_capture (hfit : CountersFit g) (hg : TextsSized g)
    (hs : captureStep config g.service g.capture event = some step)
    (hpublished : g'.published = g.published ++ step.published.toList)
    (hcapture : g'.capture = step.next) : TextsSized g' := by
  have hevents : g.service.motionEvents < 2 ^ 32 :=
    hfit.service.words _ (by simp only [HttpService.words, List.mem_cons, true_or, or_true])
  refine ⟨hcapture ▸ captureStep_eventSized hevents hs, ?_⟩
  intro frame hframe
  rw [hpublished] at hframe
  cases List.mem_append.mp hframe with
  | inl hbefore => exact hg.published frame hbefore
  | inr hnew =>
      rw [Option.mem_toList] at hnew
      cases captureStep_shared hs with
      | quiet hnone | stops _ hnone =>
          rw [hnone] at hnew
          cases hnew
      | publishes newest malloc hstate _ hnewest =>
          rw [hnewest] at hnew
          cases hnew
          have hsized := hfit.capture
          rw [hstate] at hsized
          exact hsized

theorem textsSized_step {action : Action} (hfit : CountersFit g) (hg : TextsSized g)
    (hs : g.step config action = some g') : TextsSized g' := by
  cases action with
  | main ok =>
      refine ⟨?_, (mainStep_history hs).1 ▸ hg.published⟩
      cases mainStep_capture hs with
      | inl hsame => exact hsame ▸ hg.event
      | inr hcreated => exact hcreated.2 ▸ trivial
  | capture event =>
      obtain ⟨step, hstep, rfl⟩ := Option.map_eq_some_iff.mp hs
      exact textsSized_capture hfit hg hstep rfl rfl
  | client i event =>
      have hframe := stepClient_frame hs
      exact ⟨hframe.capture ▸ hg.event, hframe.published ▸ hg.published⟩
  | peer event =>
      obtain ⟨peers, backlog, rfl⟩ := stepPeer_frame hs
      exact ⟨hg.event, hg.published⟩

theorem reachable_textsSized (h : TransitionSystem.Reachable (gateway config) g) :
    TextsSized g := by
  have hinit : TextsSized Gateway.init := ⟨trivial, List.forall_mem_nil _⟩
  exact h.invariant (I := TextsSized) hinit fun _ hreach hg hs =>
    textsSized_step (reachable_countersFit hreach) hg hs

theorem value_length (frame : Frame) : frame.value.bytes.length ≤ frame.value.size :=
  List.length_take_le _ _

theorem handed_sized (h : TransitionSystem.Reachable (gateway config) g) {client : HttpClient}
    (hclient : client ∈ g.clients) {entry : Nat × Frame} (hentry : entry ∈ client.handed) :
    entry.2.value.bytes.length < 2 ^ 64 := by
  have hdelivery := (reachable_published h).delivery client hclient
  obtain ⟨frame, hget, hvalue⟩ := hdelivery.exact entry hentry
  have hsize := (reachable_textsSized h).published frame (List.mem_of_getElem? hget)
  have hlength := value_length frame
  rw [← hvalue] at hlength
  have hsame : entry.2.value.size = frame.size := congrArg FrameValue.size hvalue
  omega

theorem answer_sized (hconfig : ConfigSized config)
    (h : TransitionSystem.Reachable (gateway config) g) {client : HttpClient}
    (hclient : client ∈ g.clients) {response : Response}
    (hanswers : Answers config g client response) : response.Sized := by
  cases hanswers with
  | metrics service _ hseen => exact metricsBody_fits hconfig hseen.fits
  | jpeg index frame _ hhanded =>
      have hentry : (index, frame) ∈ client.handed := by
        rw [hhanded]
        exact List.mem_singleton_self _
      exact handed_sized h hclient hentry
  | unavailable => trivial
  | notFound => trivial

/-- The sends of a client thread that is about to send. -/
def HttpClient.sends (client : HttpClient) (outcomes : List SendResult) : Option Sent :=
  match client.state with
  | .respond response => some (response.send outcomes)
  | .streamHeader => some (httpMjpegSendStreamHeader outcomes)
  | .sendFrame frame => some (httpMjpegSendFrame outcomes frame.value.bytes)
  | _ => none

theorem sends_bound (hconfig : ConfigSized config)
    (h : TransitionSystem.Reachable (gateway config) g) {client : HttpClient}
    (hclient : client ∈ g.clients) {outcomes : List SendResult} {sent : Sent}
    (hsent : client.sends outcomes = some sent) : SocketBound outcomes sent := by
  have hwire := reachable_wireAt h client hclient
  rw [HttpClient.sends] at hsent
  cases hstate : client.state with
  | respond response =>
      rw [hstate] at hsent hwire
      cases hsent
      exact Response.send_bound (answer_sized hconfig h hclient hwire.2) outcomes
  | streamHeader =>
      rw [hstate] at hsent
      cases hsent
      exact sendAll_bound outcomes streamHeader
  | sendFrame frame =>
      rw [hstate] at hsent hwire
      obtain ⟨-, before, index, hhanded, -⟩ := hwire
      have hentry : (index, frame) ∈ client.handed := by
        rw [hhanded]
        exact List.mem_append_right _ (List.mem_singleton_self _)
      cases hsent
      exact sendMessage_bound (partHeader_length (handed_sized h hclient hentry)) outcomes _
  | _ =>
      rw [hstate] at hsent
      cases hsent

end Runs

section Options
variable {options : List CommandOption} {line : CommandLine}

def IntSized (n : Int) : Prop := -2 ^ 31 ≤ n ∧ n < 2 ^ 31

theorem atoi_sized (text : List UInt8) : IntSized (atoi text) := by
  rw [atoi, IntSized]
  omega

theorem strncpy_length (text : List UInt8) {size : Nat} (hsize : 0 < size) :
    (strncpy text size).length < size := by
  have hlength := List.length_take_le (size - 1) text
  rw [strncpy]
  omega

/-- The fields of `camera_config_t` are as large as their types. -/
structure ArgumentsSized (config : CommandConfig) : Prop where
  device : config.device.length < 128
  output : config.output.length < 256
  frameDir : config.frameDir.length < 256
  motionDir : config.motionDir.length < 256
  fbDevice : config.fbDevice.length < 128
  fps : IntSized config.fps
  threshold : IntSized config.motionThreshold

theorem initial_sized : ArgumentsSized initialLine.config := by
  refine ⟨by decide, by decide, by decide, by decide, by decide, ?_, ?_⟩
  · exact ⟨by decide, by decide⟩
  · exact ⟨by decide, by decide⟩

theorem parseOption_sized {option : CommandOption} {next : CommandLine}
    (h : ArgumentsSized line.config) (hs : parseOption line option = .ok next) :
    ArgumentsSized next.config := by
  obtain ⟨device, output, frameDir, motionDir, fbDevice, fps, threshold⟩ := h
  have hname : ∀ text, (strncpy text 128).length < 128 := fun text =>
    strncpy_length text (by decide)
  have hpath : ∀ text, (strncpy text 256).length < 256 := fun text =>
    strncpy_length text (by decide)
  cases option with
  | device optarg =>
      cases hs
      exact ⟨hname optarg, output, frameDir, motionDir, fbDevice, fps, threshold⟩
  | output optarg =>
      cases hs
      exact ⟨device, hpath optarg, frameDir, motionDir, fbDevice, fps, threshold⟩
  | saveFrames optarg =>
      cases hs
      exact ⟨device, output, hpath optarg, motionDir, fbDevice, fps, threshold⟩
  | motionDir optarg =>
      cases hs
      exact ⟨device, output, frameDir, hpath optarg, fbDevice, fps, threshold⟩
  | fbPreview optarg =>
      cases hs
      exact ⟨device, output, frameDir, motionDir, hname optarg, fps, threshold⟩
  | fps optarg =>
      cases hs
      exact ⟨device, output, frameDir, motionDir, fbDevice, atoi_sized optarg, threshold⟩
  | motionThreshold optarg =>
      cases hs
      exact ⟨device, output, frameDir, motionDir, fbDevice, fps, atoi_sized optarg⟩
  | format optarg =>
      rw [parseOption] at hs
      split at hs
      · cases hs
      · cases hs
        exact ⟨device, output, frameDir, motionDir, fbDevice, fps, threshold⟩
  | httpMjpeg optarg =>
      rw [parseOption] at hs
      split at hs
      · cases hs
      · cases hs
        exact ⟨device, output, frameDir, motionDir, fbDevice, fps, threshold⟩
  | help => cases hs
  | unknown => cases hs
  | _ =>
      cases hs
      exact ⟨device, output, frameDir, motionDir, fbDevice, fps, threshold⟩

theorem parseArgs_sized (h : parseArgs options = .ok line) : ArgumentsSized line.config := by
  rw [parseArgs] at h
  split at h
  · cases h
  · rename_i parsed hparsed
    split at h
    · cases h
      exact Assignments.foldlM_preserves (p := fun line => ArgumentsSized line.config)
        parseOption_sized initial_sized hparsed
    · cases h

theorem negotiated_sized (h : ArgumentsSized line.config) (format : PixFormat) :
    ConfigSized (line.config.toCaptureConfig.negotiated format).toCameraConfig := by
  have hint : ∀ n : UInt32, IntSized n.toInt32.toInt := fun n =>
    ⟨n.toInt32.le_toInt, n.toInt32.toInt_lt⟩
  exact ⟨h.device, hint format.width, hint format.height, h.fps, h.threshold⟩

end Options

/-- For every accepted command line, every format that the driver sets and every run. The names
of the frame files and of the snapshot of every event fit into their buffers, and when a
client thread that sends anything, be it a header with its frame or a whole answer, reports
a failure, the socket has failed. -/
theorem accepted_texts_fit {options : List CommandOption} {line : CommandLine}
    (hline : parseArgs options = .ok line) (format : PixFormat) :
    (∀ frameNumber, frameNumber ≤ intMax → ∃ path,
      framePath (line.config.toCaptureConfig.negotiated format) frameNumber = some path) ∧
    ∀ g, TransitionSystem.Reachable
        (gateway (line.config.toCaptureConfig.negotiated format).toCameraConfig) g →
      (∀ frame eventId, g.capture = .saveSnapshot frame eventId → ∃ path,
        snapshotPath (line.config.toCaptureConfig.negotiated format).toCameraConfig eventId =
          some path) ∧
      ∀ client ∈ g.clients, ∀ outcomes sent, client.sends outcomes = some sent →
        ∀ ret, sent.ret = some ret → ret ≠ 0 → SocketFails outcomes := by
  have hsized := parseArgs_sized hline
  refine ⟨?_, ?_⟩
  · intro frameNumber hnumber
    have hdir : (line.config.toCaptureConfig.negotiated format).frameDir.length ≤ 255 :=
      Nat.le_of_lt_succ hsized.frameDir
    exact framePath_fits hdir hnumber
  · intro g hreach
    refine ⟨?_, ?_⟩
    · intro frame eventId hsaving
      have hevent := (reachable_textsSized hreach).event
      rw [hsaving] at hevent
      exact snapshotPath_fits (Nat.le_of_lt_succ hsized.motionDir) hevent
    · intro client hclient outcomes sent hsent
      have hconfig := negotiated_sized hsized format
      exact (sends_bound hconfig hreach hclient hsent).failed

def servingLine : CommandLine :=
  { initialLine with
    config := { cameraConfigInit with
      pixelFormat := v4l2PixFmtMjpeg, frameCount := 0, httpMjpeg := true, fbPreview := true } }

/-- The camera has a smaller format; a client of the service is about to get the metrics. -/
theorem accepted_texts_fit_serving :
    ∃ g, TransitionSystem.Reachable (gateway (servingLine.config.toCaptureConfig.negotiated
        ⟨640, 480, v4l2PixFmtMjpeg⟩).toCameraConfig) g ∧
      (g.clients.map fun client => (client.sends [.accepted 1000, .failed]).map Sent.ret) =
        [some (some (-1))] ∧
      ∀ client ∈ g.clients, ∀ outcomes sent, client.sends outcomes = some sent →
        ∀ ret, sent.ret = some ret → ret ≠ 0 → SocketFails outcomes := by
  have hline : parseArgs servingOptions = .ok servingLine := by decide +kernel
  have hrun : (TransitionSystem.exec (gateway (servingLine.config.toCaptureConfig.negotiated
        ⟨640, 480, v4l2PixFmtMjpeg⟩).toCameraConfig) Gateway.init
      (startup ++ serve 0 (ascii "/metrics") ++ [.client 0 (.copied none)])).any
      (fun g => decide ((g.clients.map fun client =>
        (client.sends [.accepted 1000, .failed]).map Sent.ret) = [some (some (-1))])) = true := by
    decide +kernel
  obtain ⟨g, hexec, hg⟩ := TransitionSystem.exists_exec_of_any hrun
  have hreach := (TransitionSystem.Reachable.init _).exec hexec
  obtain ⟨-, hruns⟩ := accepted_texts_fit hline ⟨640, 480, v4l2PixFmtMjpeg⟩
  exact ⟨g, hreach, of_decide_eq_true hg, (hruns g hreach).2⟩

end CameraGateway
