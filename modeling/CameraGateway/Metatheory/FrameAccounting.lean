import CameraGateway.Metatheory.MotionEvents

/-!
What becomes of a captured frame in the motion counters. With a display every frame
is counted as processed or as an error. Without one, a picture that cannot be decoded
leaves no trace: the exit counts errors of the display only.
-/
namespace CameraGateway
variable {config : CameraConfig}

/-- A call counts its frame as processed, or counts an error. -/
def Accounted (config : CameraConfig) (before : HttpService) (call : DrawCall) : Prop :=
  let after := (httpServiceDrawLcdFrame config before call).service
  after.processedFrames = u32 (before.processedFrames + 1) ∨
    after.motionErrors = u32 (before.motionErrors + 1) ∨
    after.lcdErrors = u32 (before.lcdErrors + 1)

theorem detection_picture {service : HttpService} {call : DrawCall} {result : MotionResult}
    (h : detection config service call = some result) : call.picture ≠ none := by
  intro hnone
  rw [detection, hnone] at h
  cases h

/-- A call loses its frame when the picture is not decoded and there is no display. -/
theorem accounted_iff (hdetect : config.motionDetect = true) (service : HttpService)
    (call : DrawCall) :
    Accounted config service call ↔ config.fbPreview = true ∨ call.picture ≠ none := by
  cases hdetection : detection config service call with
  | some result =>
      obtain ⟨service', pixels, hdraw, hcounts⟩ := draw_processed hdetect hdetection
      have hprocessed := (@displayFrame_keeps config call service' pixels
        (result.detected && !service.motionWasDetected)).2.2
      rw [← hdraw] at hprocessed
      have hcounted : service'.processedFrames = u32 (service.processedFrames + 1) :=
        congrArg DrawCounts.processed hcounts
      constructor
      · exact fun _ => Or.inr (detection_picture hdetection)
      · exact fun _ => Or.inl (hprocessed.trans hcounted)
  | none =>
      have hcounts := (draw_unprocessed hdetect hdetection).2
      have hprocessed : (httpServiceDrawLcdFrame config service call).service.processedFrames =
          service.processedFrames := congrArg DrawCounts.processed hcounts
      have herrors : (httpServiceDrawLcdFrame config service call).service.motionErrors =
          if call.picture.isSome then u32 (service.motionErrors + 1)
          else service.motionErrors := congrArg DrawCounts.errors hcounts
      have hlcd : (httpServiceDrawLcdFrame config service call).service.lcdErrors =
          if config.fbPreview then u32 (service.lcdErrors + 1)
          else service.lcdErrors := congrArg DrawCounts.lcdErrors hcounts
      rw [Accounted]
      rw [hprocessed, herrors, hlcd]
      have hstill := fun n : Nat => (u32_succ_ne n).symm
      cases call.picture with
      | none => cases config.fbPreview <;> simp [hstill]
      | some picture => simp

/-- Every captured frame is one that a call has accounted for. -/
structure FramesAccounted (config : CameraConfig) (g : Gateway) (calls : List DrawCall) : Prop where
  captured : g.service.capturedFrames = u32 calls.length
  accounted : ∀ i call, calls[i]? = some call →
    Accounted config (drawFrames config HttpService.zero (calls.take i)) call

/-- At the head of the capture loop every captured frame has been accounted for just
when there is a display or every frame so far could be decoded. -/
theorem captured_frames_accounted_iff {g : Gateway} {log : DrawLog}
    (hdetect : config.motionDetect = true)
    (h : TransitionSystem.Reachable (drawingGateway config) (g, log)) (hhead : g.capture = .head) :
    FramesAccounted config g log.finished ↔
      config.fbPreview = true ∨ ∀ call ∈ log.finished, call.picture ≠ none := by
  constructor
  · intro haccounted
    cases hdisplay : config.fbPreview with
    | true => exact Or.inl rfl
    | false =>
        refine Or.inr fun call hcall => ?_
        obtain ⟨i, hi⟩ := List.mem_iff_getElem?.mp hcall
        cases (accounted_iff hdetect _ call).mp (haccounted.accounted i call hi) with
        | inl hshown =>
            rw [hdisplay] at hshown
            cases hshown
        | inr hdecoded => exact hdecoded
  · intro hcondition
    refine ⟨(drawing_at_head h hhead).2.2, fun i call hcall => ?_⟩
    apply (accounted_iff hdetect _ call).mpr
    cases hcondition with
    | inl hdisplay => exact Or.inl hdisplay
    | inr hdecoded => exact Or.inr (hdecoded call (List.mem_of_getElem? hcall))

def headlessConfig : CameraConfig := { motionConfig with fbPreview := false }

def headlessFrame (picture : Option Picture) (outcomes : List CaptureEvent) : List Action :=
  startup ++ publishFrame 1 ++ .capture (.decoded picture true) :: outcomes.map .capture ++
    [.capture .go, .capture .go, .capture (.requeued true)]

/-- A frame that is decoded is accounted for without a display. -/
theorem captured_frames_accounted_iff_decoded :
    ∃ g log, TransitionSystem.Reachable (drawingGateway headlessConfig) (g, log) ∧
      (g.capture = .head ∧ log.finished.length = 1) ∧
      (FramesAccounted headlessConfig g log.finished ↔
        headlessConfig.fbPreview = true ∨ ∀ call ∈ log.finished, call.picture ≠ none) ∧
      FramesAccounted headlessConfig g log.finished := by
  have hrun : (TransitionSystem.exec (drawingGateway headlessConfig) (Gateway.init, DrawLog.empty)
      (headlessFrame (some (onePixel 0)) [.drawn true])).any
      (fun s => s.1.capture.isHead && decide (s.2.finished.length = 1) &&
        s.2.finished.all fun call => call.picture.isSome) = true := by
    decide +kernel
  obtain ⟨⟨g, log⟩, hexec, hg⟩ := TransitionSystem.exists_exec_of_any hrun
  have hreach := (TransitionSystem.Reachable.init (drawingGateway headlessConfig)).exec hexec
  simp only [Bool.and_eq_true, decide_eq_true_eq, List.all_eq_true] at hg
  obtain ⟨⟨hhead, hone⟩, hdecoded⟩ := hg
  have hiff := captured_frames_accounted_iff rfl hreach (head_of_isHead hhead)
  refine ⟨g, log, hreach, ⟨head_of_isHead hhead, hone⟩, hiff, hiff.mpr (Or.inr ?_)⟩
  intro call hcall
  exact Option.isSome_iff_ne_none.mp (hdecoded call hcall)

/-- A frame that cannot be decoded vanishes: no processed frame and no error. -/
theorem undecoded_frame_vanishes :
    ¬ ∀ (config : CameraConfig) (g : Gateway) (log : DrawLog), config.motionDetect = true →
      TransitionSystem.Reachable (drawingGateway config) (g, log) → g.capture = .head →
      FramesAccounted config g log.finished := by
  intro claim
  have hrun : (TransitionSystem.exec (drawingGateway headlessConfig) (Gateway.init, DrawLog.empty)
      (headlessFrame none [])).any
      (fun s => s.1.capture.isHead && decide (s.2.finished.length = 1) &&
        s.2.finished.all fun call => call.picture.isNone) = true := by
    decide +kernel
  obtain ⟨⟨g, log⟩, hexec, hg⟩ := TransitionSystem.exists_exec_of_any hrun
  have hreach := (TransitionSystem.Reachable.init (drawingGateway headlessConfig)).exec hexec
  simp only [Bool.and_eq_true, decide_eq_true_eq, List.all_eq_true] at hg
  obtain ⟨⟨hhead, hone⟩, hundecoded⟩ := hg
  obtain ⟨call, hcall⟩ := List.length_eq_one_iff.mp hone
  have haccounted := (claim headlessConfig g log rfl hreach (head_of_isHead hhead)).accounted 0 call
    (by rw [hcall]; rfl)
  cases (accounted_iff rfl _ call).mp haccounted with
  | inl hdisplay => cases hdisplay
  | inr hdecoded =>
      have hnone := hundecoded call (by simp [hcall])
      exact hdecoded (Option.isNone_iff_eq_none.mp hnone)

end CameraGateway
