import CameraGateway.Metatheory.DrawingRuns
import CameraGateway.Metatheory.MotionBaseline
import CameraGateway.Metatheory.MotionBox
import CameraGateway.Metatheory.MotionMask
import CameraGateway.Metatheory.PreviewScreen

/-!
The screen under the capture thread of the HTTP service. The thread decodes, runs the detector,
paints the mask and draws in steps between which every other thread may run; none of them
touches the picture, the baseline or the screen, so that the screen holds the last picture that
was drawn, with the blocks in which it differs from the one decoded before it in red and no
other pixel changed.
-/
namespace CameraGateway
variable {config : CameraConfig} {fb : FramebufferDisplay} {start : List UInt8}

section Mask
variable {width height : Nat}

theorem masked_pixel (hwidth : width ≤ 65500) (hheight : height ≤ 65500) (pixels : List UInt16)
    (activeBlocks : Nat → Nat → Bool) {x y : Nat} (hx : x < width) :
    (drawRgb565MotionMask pixels width height activeBlocks)[Raster.address width x y]? =
      pixels[Raster.address width x y]?.map
        (if (x, y) ∈ tintedPixels width height activeBlocks then redTintRgb565 else id) := by
  rw [drawRgb565MotionMask_eq]
  split
  · rename_i htinted
    exact Updates.apply_once (maskUpdates_nodup hwidth hheight activeBlocks)
      ((mem_maskUpdates hwidth hheight).mpr ⟨(x, y), htinted, rfl⟩) pixels
  · rename_i hplain
    rw [Option.map_id, id]
    apply Updates.apply_untouched
    intro update hupdate heq
    obtain ⟨point, hpoint, rfl⟩ := (mem_maskUpdates hwidth hheight).mp hupdate
    obtain ⟨hx', -⟩ := tintedPixels_inFrame hwidth hheight hpoint
    obtain ⟨hcolumn, hrow⟩ := Raster.address_injective hx' hx heq
    exact hplain ((Prod.ext hcolumn hrow : point = (x, y)) ▸ hpoint)

end Mask

section Frames

/-- The blocks in which the detector has found motion. -/
def LcdFrame.marks (frame : LcdFrame) : Nat → Nat → Bool :=
  match frame.result with
  | none => fun _ _ => false
  | some result => result.activeBlocks

/-- The pixel of the picture, tinted if it lies in a marked block. -/
def LcdFrame.pixel (frame : LcdFrame) (x y : Nat) : UInt16 :=
  let color := frame.picture.pixels.getD (Raster.address frame.picture.width x y) 0
  if (x, y) ∈ tintedPixels frame.picture.width frame.picture.height frame.marks then
    redTintRgb565 color
  else color

/-- The picture is in memory, it is one of those that have been decoded, and the result is that
of the detector, which compares it with the picture decoded before it. -/
structure LcdFrame.Genuine (config : CameraConfig) (decoded : List DecodedFrame)
    (frame : LcdFrame) : Prop where
  inMemory : frame.picture.inMemory = true
  detected : ∃ before processed, before ++ [⟨frame.picture, processed⟩] <+: decoded ∧
    frame.result = if config.motionDetect then
      some (detectMotion frame.picture (comparand before.getLast? frame.picture) config.threshold)
    else none

theorem LcdFrame.Genuine.mono {decoded later : List DecodedFrame} {frame : LcdFrame}
    (h : frame.Genuine config decoded) (hlater : decoded <+: later) :
    frame.Genuine config later := by
  obtain ⟨before, processed, hprefix, hresult⟩ := h.detected
  exact ⟨h.inMemory, before, processed, hprefix.trans hlater, hresult⟩

theorem tintedPixels_none {width height : Nat} {activeBlocks : Nat → Nat → Bool}
    (h : ∀ row col, activeBlocks row col = false) :
    tintedPixels width height activeBlocks = [] := by
  apply List.eq_nil_iff_forall_not_mem.mpr
  intro point hpoint
  obtain ⟨block, -, hactive, -⟩ := mem_tintedPixels.mp hpoint
  rw [h] at hactive
  cases hactive

/-- Where nothing is detected no block is marked. -/
theorem undetected_marks {picture : Picture} {previous : Option (List UInt16)} {threshold : Nat}
    (h : (detectMotion picture previous threshold).detected = false) (row col : Nat) :
    (detectMotion picture previous threshold).activeBlocks row col = false := by
  have hhull := (detectMotion_hull picture previous threshold).1
  cases hactive : (detectMotion picture previous threshold).activeBlocks row col with
  | false => rfl
  | true =>
      have hvalid := hhull.mpr ⟨row, col, hactive⟩
      cases previous with
      | none => cases hactive
      | some baseline =>
          have hsame : (detectMotion picture (some baseline) threshold).detected =
              (detectMotion picture (some baseline) threshold).boxValid := by
            simp only [detectMotion, Option.isSome_some, Bool.true_and]
          rw [hsame, hvalid] at h
          exact h

/-- The mask is painted where blocks are marked, also when none is. -/
theorem maskedPixels_eq (hpreview : config.fbPreview = true) {picture : Picture}
    {previous : Option (List UInt16)} {threshold : Nat} :
    maskedPixels config picture (detectMotion picture previous threshold) =
      drawRgb565MotionMask picture.pixels picture.width picture.height
        (detectMotion picture previous threshold).activeBlocks := by
  rw [maskedPixels]
  split
  · rfl
  · rename_i hundetected
    have hnone : (detectMotion picture previous threshold).detected = false :=
      Bool.eq_false_iff.mpr fun hdetected => hundetected ⟨hdetected, hpreview⟩
    rw [drawRgb565MotionMask_eq, maskUpdates_eq, tintedPixels_none (undetected_marks hnone)]
    rfl

theorem arguments_length (frame : LcdFrame) :
    (frame.arguments config).pixels.length = frame.picture.width * frame.picture.height := by
  rw [LcdFrame.arguments]
  cases frame.result with
  | none => exact frame.picture.size_eq
  | some result =>
      show (maskedPixels config frame.picture result).length = _
      rw [maskedPixels]
      split
      · rw [drawRgb565MotionMask_eq, Updates.length_apply, frame.picture.size_eq]
      · exact frame.picture.size_eq

theorem arguments_pixel (hpreview : config.fbPreview = true) {decoded : List DecodedFrame}
    {frame : LcdFrame} (h : frame.Genuine config decoded) {x y : Nat} (hx : x < frame.picture.width)
    (hy : y < frame.picture.height) :
    (frame.arguments config).pixels.getD (Raster.address frame.picture.width x y) 0 =
      frame.pixel x y := by
  have hplace : Raster.address frame.picture.width x y < frame.picture.pixels.length := by
    rw [frame.picture.size_eq]
    exact Raster.address_lt hx hy
  rw [LcdFrame.pixel, LcdFrame.marks, LcdFrame.arguments]
  cases hresult : frame.result with
  | none =>
      dsimp only
      rw [tintedPixels_none fun _ _ => rfl, if_neg List.not_mem_nil]
  | some result =>
      obtain ⟨before, _, -, hdetected⟩ := h.detected
      rw [hresult, eq_comm, Option.ite_none_right_eq_some, Option.some.injEq] at hdetected
      obtain ⟨-, rfl⟩ := hdetected
      dsimp only
      rw [maskedPixels_eq hpreview, List.getD_eq_getElem?_getD,
        masked_pixel frame.picture.width_le frame.picture.height_le _ _ hx,
        List.getElem?_eq_getElem hplace, List.getD_eq_getElem _ _ hplace]
      split
      · rfl
      · rfl

end Frames

section Baseline
variable {g g' : Gateway} {decoded : List DecodedFrame} {service : HttpService}
  {state : CaptureState} {event : CaptureEvent} {step : CaptureStep}

/-- The pictures that the capture thread has decoded, in their order. -/
def watchDecoded (config : CameraConfig) (g : Gateway) (action : Action)
    (decoded : List DecodedFrame) : List DecodedFrame :=
  match action with
  | .capture (.decoded (some picture) malloc) =>
      decoded ++ [⟨picture, (motionBlock config g.service picture malloc).result.isSome⟩]
  | _ => decoded

theorem watchDecoded_extends (config : CameraConfig) (g : Gateway) (action : Action)
    (decoded : List DecodedFrame) : decoded <+: watchDecoded config g action decoded := by
  unfold watchDecoded
  split
  · exact List.prefix_append _ _
  · exact List.prefix_rfl

/-- While the service lives its baseline is that of the picture decoded last. -/
structure KeepsLast (g : Gateway) (decoded : List DecodedFrame) : Prop where
  unstarted : g.main = .start ∨ g.main = .initService → decoded = []
  baseline : g.alive = true → BaselineOf g.service decoded.getLast?

theorem motion_of_drawing {service' : HttpService} (h : service'.drawing = service.drawing) :
    service'.motion = service.motion := by
  rw [HttpService.motion, h, HttpService.motion]

/-- Only a decoded picture changes the detector's part. -/
theorem captureStep_motion (hother : ∀ picture malloc, event ≠ .decoded (some picture) malloc)
    (hs : captureStep config service state event = some step) :
    step.service.motion = service.motion := by
  revert hs
  fun_cases captureStep config service state event
  case case1 =>
      intro hs
      split at hs <;> cases hs <;> rfl
  case case9 frame malloc updated _ =>
      intro hs
      cases hs
      exact motion_of_drawing (updateLatest_drawing service frame malloc).1
  case case10 frame picture malloc =>
      intro hs
      cases hs
      cases picture with
      | none =>
          rw [drawStep]
          split <;> rfl
      | some picture => exact absurd rfl (hother picture malloc)
  case case15 frame eventId calls =>
      intro hs
      cases hs
      exact storeSnapshot_keeps service _ _ (countSnapshot_motion service)
  case case16 frame ret =>
      intro hs
      cases hs
      exact countLcd_motion ..
  case case18 ok =>
      intro hs
      cases ok <;> cases hs <;> rfl
  case case20 =>
      intro hs
      cases hs
  all_goals
    intro hs
    cases hs
    rfl

/-- A picture goes through the motion block. -/
theorem captureStep_decoded (hdetect : config.motionDetect = true) {picture : Picture}
    {malloc : Bool}
    (hs : captureStep config service state (.decoded (some picture) malloc) = some step) :
    step.service = (motionBlock config service picture malloc).service := by
  cases state with
  | draw frame =>
      cases hs
      rw [drawStep]
      simp only [hdetect, Bool.not_true, Bool.and_false, Bool.false_eq_true, if_false, if_true]
      cases motionBlock config service picture malloc <;> rfl
  | _ => simp [captureStep] at hs

theorem watchDecoded_other (hother : ∀ picture malloc, event ≠ .decoded (some picture) malloc) :
    watchDecoded config g (.capture event) decoded = decoded := by
  unfold watchDecoded
  split
  · rename_i heq
    cases heq
    exact absurd rfl (hother _ _)
  · rfl

theorem keepsLast_main (hg : KeepsLast g decoded) {ok : Bool}
    (hs : g.mainStep config ok = some g') : KeepsLast g' decoded := by
  refine ⟨fun hmain => hg.unstarted (Or.inl (mainStep_unstarted hs hmain).1), fun halive' => ?_⟩
  cases mainStep_service hs with
  | same halive hservice | countedIn _ _ _ _ halive hservice | stopped _ _ halive hservice _ =>
      exact (hg.baseline (halive ▸ halive')).congr (hservice ▸ rfl)
  | countedOut halive hservice =>
      refine (hg.baseline (halive ▸ halive')).congr ?_
      rw [hservice]
      exact motion_of_drawing (countOut_drawing g.service).1
  | started hmain _ hservice =>
      rw [hg.unstarted (Or.inr hmain), hservice]
      exact .empty rfl rfl
  | destroyed _ _ hdead =>
      rw [hdead] at halive'
      cases halive'

theorem keepsLast_capture (hdetect : config.motionDetect = true) (hsetup : Setup g)
    (hg : KeepsLast g decoded)
    (hs : captureStep config g.service g.capture event = some step) :
    KeepsLast (g.applyCapture step) (watchDecoded config g (.capture event) decoded) := by
  constructor
  · intro hmain
    rw [(hsetup (hmain.imp_right Or.inl)).1] at hs
    simp [captureStep] at hs
  · intro halive
    have hbaseline := hg.baseline halive
    show BaselineOf step.service _
    by_cases hpicture : ∃ picture malloc, event = .decoded (some picture) malloc
    · obtain ⟨picture, malloc, rfl⟩ := hpicture
      rw [captureStep_decoded hdetect hs, watchDecoded, List.getLast?_concat]
      exact (motionBlock_baseline hbaseline picture malloc).2
    · have hother : ∀ picture malloc, event ≠ .decoded (some picture) malloc :=
        fun picture malloc heq => hpicture ⟨picture, malloc, heq⟩
      rw [watchDecoded_other hother]
      exact hbaseline.congr (captureStep_motion hother hs)

theorem keepsLast_step (hdetect : config.motionDetect = true) (hsetup : Setup g)
    (hg : KeepsLast g decoded) {action : Action} (hs : g.step config action = some g') :
    KeepsLast g' (watchDecoded config g action decoded) := by
  cases action with
  | main ok => exact keepsLast_main hg hs
  | capture event =>
      obtain ⟨step, hstep, rfl⟩ := Option.map_eq_some_iff.mp hs
      exact keepsLast_capture hdetect hsetup hg hstep
  | client i event =>
      obtain ⟨_, _, -, -, hcases⟩ := stepClient_cases hs
      cases hcases with
      | inl hcount =>
          obtain ⟨-, -, rfl⟩ := hcount
          exact ⟨hg.unstarted, fun halive => (hg.baseline halive).congr
            (motion_of_drawing (countOut_drawing g.service).1)⟩
      | inr hstep =>
          obtain ⟨-, rfl⟩ := hstep
          exact ⟨hg.unstarted, hg.baseline⟩
  | peer event =>
      obtain ⟨peers, backlog, rfl⟩ := stepPeer_frame hs
      exact ⟨hg.unstarted, hg.baseline⟩

theorem lcdFrame_genuine (hbaseline : config.motionDetect = true →
    BaselineOf service decoded.getLast?) {picture : Picture} {malloc : Bool}
    (hmemory : picture.inMemory = true) {frame : LcdFrame}
    (h : lcdFrame config service picture malloc = some frame) :
    frame.picture = picture ∧ frame.Genuine config (decoded ++
      [⟨picture, (motionBlock config service picture malloc).result.isSome⟩]) := by
  rw [lcdFrame] at h
  split at h
  · rename_i hdetect
    have hresult := (@motionBlock_baseline config _ _ (hbaseline hdetect) picture malloc).1
    cases hblock : motionBlock config service picture malloc with
    | unallocated _ =>
        rw [hblock] at h
        cases h
    | processed _ result _ =>
        rw [hblock] at h hresult
        cases h
        rw [MotionStep.result, eq_comm, Option.ite_none_left_eq_some] at hresult
        refine ⟨rfl, hmemory, decoded, _, List.prefix_rfl, ?_⟩
        rw [if_pos hdetect]
        exact hresult.2.symm
  · rename_i hoff
    cases h
    exact ⟨rfl, hmemory, decoded, _, List.prefix_rfl, (if_neg hoff).symm⟩

end Baseline

section Runs
variable {g g' : Gateway} {lcd lcd' : Lcd} {decoded decoded' : List DecodedFrame}

theorem drawStep_show {service : HttpService} {dequeued : Frame} {decoded : Option Picture}
    {malloc : Bool} {frame : Frame} {pixels : List UInt16} {motionEvent : Bool}
    (hshow : (drawStep config service dequeued decoded malloc).next =
      .show frame pixels motionEvent) :
    ∃ picture shown, decoded = some picture ∧
      lcdFrame config service picture malloc = some shown ∧
      pixels = (shown.arguments config).pixels := by
  revert hshow
  fun_cases drawStep config service dequeued decoded malloc
  case case4 picture hdetect service' result event hblock =>
      intro hshow
      cases hshow
      refine ⟨picture, ⟨picture, some result⟩, rfl, ?_, rfl⟩
      rw [lcdFrame, if_pos hdetect, hblock]
  case case5 picture hdetect =>
      intro hshow
      cases hshow
      exact ⟨picture, ⟨picture, none⟩, rfl, if_neg hdetect, rfl⟩
  all_goals
    intro hshow
    cases hshow

theorem captureStep_show {service : HttpService} {state : CaptureState} {event : CaptureEvent}
    {step : CaptureStep} (h : captureStep config service state event = some step) {frame : Frame}
    {pixels : List UInt16} {motionEvent : Bool}
    (hshow : step.next = .show frame pixels motionEvent) :
    ∃ picture malloc shown, event = .decoded (some picture) malloc ∧
      lcdFrame config service picture malloc = some shown ∧
      pixels = (shown.arguments config).pixels := by
  revert h
  fun_cases captureStep config service state event
  case case1 =>
      intro h
      split at h <;> cases h <;> cases hshow
  case case10 dequeued decoded malloc =>
      intro h
      cases h
      obtain ⟨picture, shown, rfl, hshown, hpixels⟩ := drawStep_show hshow
      exact ⟨picture, malloc, shown, rfl, hshown, hpixels⟩
  case case18 ok =>
      intro h
      cases ok <;> cases h <;> cases hshow
  all_goals
    intro h
    cases h <;> cases hshow

structure LcdSound (config : CameraConfig) (fb : FramebufferDisplay) (start : List UInt8)
    (g : Gateway) (lcd : Lcd) (decoded : List DecodedFrame) : Prop where
  genuine : ∀ frame, lcd.pending = some frame → frame.Genuine config decoded ∧
    decoded.getLast?.map DecodedFrame.picture = some frame.picture
  shownGenuine : ∀ frame, lcd.shown = some frame → frame.Genuine config decoded
  drawing : ∀ frame pixels motionEvent, g.capture = .show frame pixels motionEvent →
    ∃ shown, lcd.pending = some shown ∧ pixels = (shown.arguments config).pixels
  current : lcd.Current fb start (fun frame => frame.picture.width)
    (fun frame => frame.picture.height) LcdFrame.pixel

/-- A step that leaves the thread, its picture and the screen alone. -/
theorem LcdSound.same (h : LcdSound config fb start g lcd decoded)
    (hcapture : ∀ frame pixels motionEvent, g'.capture = .show frame pixels motionEvent →
      g.capture = .show frame pixels motionEvent) : LcdSound config fb start g' lcd decoded :=
  ⟨h.genuine, h.shownGenuine, fun frame pixels motionEvent hshow =>
    h.drawing frame pixels motionEvent (hcapture frame pixels motionEvent hshow), h.current⟩

theorem lcdSound_draw (hordinary : Ordinary fb) (hstart : start.length = fb.memSize)
    (hpreview : config.fbPreview = true) (h : LcdSound config fb start g lcd decoded)
    {frame : LcdFrame} (hpending : lcd.pending = some frame) :
    (lcd.toScreen.draw fb frame (frame.arguments config)).Current fb start
      (fun frame => frame.picture.width) (fun frame => frame.picture.height) LcdFrame.pixel := by
  have hgenuine := (h.genuine frame hpending).1
  have hlength := @arguments_length config frame
  have hfits := of_decide_eq_true hgenuine.inMemory
  rw [frame.picture.size_eq, ← hlength] at hfits
  exact (h.current.draw hordinary hstart
    { width := frame.picture.width, height := frame.picture.height
      pixels := (frame.arguments config).pixels, width_pos := frame.picture.width_pos
      height_pos := frame.picture.height_pos, size_eq := hlength, fits := hfits }
    rfl frame.picture.width_le frame.picture.height_le
    ⟨rfl, rfl, fun x hx y hy => (arguments_pixel hpreview hgenuine hx hy).symm⟩).2

theorem lcdSound_capture (hordinary : Ordinary fb) (hstart : start.length = fb.memSize)
    {event : CaptureEvent} {step : CaptureStep} (h : LcdSound config fb start g lcd decoded)
    (hbaseline : config.motionDetect = true → BaselineOf g.service decoded.getLast?)
    (hanswers : lcdAnswers config fb (g, lcd) (.capture event) = true)
    (hs : captureStep config g.service g.capture event = some step) :
    LcdSound config fb start (g.applyCapture step) (watchLcd config fb g (.capture event) lcd)
      (watchDecoded config g (.capture event) decoded) := by
  have hcapture : (g.applyCapture step).capture = step.next := rfl
  have quiet : (∀ picture malloc, event ≠ .decoded (some picture) malloc) →
      ∀ frame pixels motionEvent,
        (g.applyCapture step).capture ≠ .show frame pixels motionEvent := by
    intro hother frame pixels motionEvent hshow
    obtain ⟨picture, malloc, _, hevent, _⟩ := captureStep_show hs (hcapture ▸ hshow)
    exact hother picture malloc hevent
  cases event with
  | decoded picture malloc =>
      cases picture with
      | none => exact h.same fun frame pixels motionEvent hshow =>
          absurd hshow (quiet (by simp) frame pixels motionEvent)
      | some picture =>
          refine ⟨fun frame hframe => ?_, fun frame hframe => (h.shownGenuine frame hframe).mono
            (watchDecoded_extends ..), ?_, h.current⟩
          · obtain ⟨hsame, hgenuine⟩ := lcdFrame_genuine hbaseline hanswers hframe
            refine ⟨hgenuine, ?_⟩
            rw [watchDecoded, List.getLast?_concat, Option.map_some, hsame]
          intro frame pixels motionEvent hshow
          obtain ⟨_, _, shown, hevent, hshown, hpixels⟩ := captureStep_show hs (hcapture ▸ hshow)
          cases hevent
          exact ⟨shown, hshown, hpixels⟩
  | drawn ok =>
      have hquiet := quiet (by simp)
      rw [watchLcd]
      cases hpending : lcd.pending with
      | none => exact h.same fun frame pixels motionEvent hshow =>
          absurd hshow (hquiet frame pixels motionEvent)
      | some shown =>
          dsimp only
          split
          · rename_i hpreview
            refine ⟨fun frame hframe => h.genuine frame (hpending.trans hframe), ?_,
              fun frame pixels motionEvent hshow => absurd hshow (hquiet frame pixels motionEvent),
              lcdSound_draw hordinary hstart hpreview h hpending⟩
            intro frame hframe
            rw [Screen.draw] at hframe
            split at hframe
            · exact (h.genuine frame (hpending.trans hframe)).1
            · exact h.shownGenuine frame hframe
          · exact h.same fun frame pixels motionEvent hshow =>
              absurd hshow (hquiet frame pixels motionEvent)
  | _ => exact h.same fun frame pixels motionEvent hshow =>
      absurd hshow (quiet (by simp) frame pixels motionEvent)

theorem lcdSound_step (hordinary : Ordinary fb) (hstart : start.length = fb.memSize)
    {s t : Gateway × Lcd} {action : Action} (h : LcdSound config fb start s.1 s.2 decoded)
    (hreach : TransitionSystem.Reachable (gateway config) s.1)
    (hkeeps : config.motionDetect = true → KeepsLast s.1 decoded)
    (hs : (gatewayOnScreen config fb start).step s action = some t) :
    LcdSound config fb start t.1 t.2 (watchDecoded config s.1 action decoded) := by
  obtain ⟨g, lcd⟩ := s
  obtain ⟨g', lcd'⟩ := t
  obtain ⟨hanswers, hobserved⟩ := TransitionSystem.restrict_step.mp hs
  obtain ⟨hstep, hwatch⟩ := TransitionSystem.observe_step.mp hobserved
  change g.step config action = some g' at hstep
  change lcd' = watchLcd config fb g action lcd at hwatch
  subst hwatch
  cases action with
  | capture event =>
      obtain ⟨step, hcapture, rfl⟩ := Option.map_eq_some_iff.mp hstep
      have halive := captureStep_alive hreach hcapture
      exact lcdSound_capture hordinary hstart h (fun hdetect => (hkeeps hdetect).baseline halive)
        hanswers hcapture
  | main ok =>
      refine h.same fun frame pixels motionEvent hshow => ?_
      cases mainStep_capture hstep with
      | inl hsame => exact hsame ▸ hshow
      | inr hstarted =>
          rw [hstarted.2] at hshow
          cases hshow
  | client i event =>
      refine h.same fun frame pixels motionEvent hshow => ?_
      exact (stepClient_frame hstep).capture ▸ hshow
  | peer event =>
      obtain ⟨peers, backlog, rfl⟩ := stepPeer_frame hstep
      exact h.same fun frame pixels motionEvent hshow => hshow

def decodedOnScreen (config : CameraConfig) (fb : FramebufferDisplay) (start : List UInt8) :
    TransitionSystem.System ((Gateway × Lcd) × List DecodedFrame) Action :=
  (gatewayOnScreen config fb start).observe [] fun s => watchDecoded config s.1

theorem reachable_lcdSound (hordinary : Ordinary fb) (hstart : start.length = fb.memSize)
    (h : TransitionSystem.Reachable (decodedOnScreen config fb start) ((g, lcd), decoded)) :
    LcdSound config fb start g lcd decoded ∧
      (config.motionDetect = true → KeepsLast g decoded) := by
  refine TransitionSystem.Reachable.observed_invariant
    (I := fun (s : Gateway × Lcd) decoded => LcdSound config fb start s.1 s.2 decoded ∧
      (config.motionDetect = true → KeepsLast s.1 decoded)) ?_ ?_ h
  · refine ⟨⟨fun frame hframe => ?_, fun frame hframe => ?_,
      fun frame pixels motionEvent hshow => ?_, fun _ => rfl, fun frame hframe => ?_⟩,
      fun _ => ⟨fun _ => rfl, fun halive => ?_⟩⟩
    · cases hframe
    · cases hframe
    · cases hshow
    · cases hframe
    · cases halive
  · intro s t decoded action hreach hi hs
    obtain ⟨hsound, hkeeps⟩ := hi
    have hgateway := hreach.unrestricted.unobserved
    refine ⟨lcdSound_step hordinary hstart hsound hgateway hkeeps hs, fun hdetect => ?_⟩
    obtain ⟨-, hobserved⟩ := TransitionSystem.restrict_step.mp hs
    obtain ⟨hstep, -⟩ := TransitionSystem.observe_step.mp hobserved
    exact keepsLast_step hdetect (reachable_setup hgateway) (hkeeps hdetect) hstep

/-- The display shows the newest picture with its marks. In every run of the service, whatever
main, the clients and the peers do in between and whatever fails, the thread hands the display
the masked pixels of the picture it has decoded last; the screen is untouched before the first
draw, and from then on every visible pixel is that of the last picture drawn, tinted exactly
where it lies in a block in which this picture differs from the one decoded before it. -/
theorem lcd_shows_newest (hordinary : Ordinary fb) (hstart : start.length = fb.memSize)
    {g : Gateway} {lcd : Lcd} {decoded : List DecodedFrame}
    (h : TransitionSystem.Reachable (decodedOnScreen config fb start) ((g, lcd), decoded)) :
    TransitionSystem.Reachable (gateway config) g ∧
      (∀ frame pixels motionEvent, g.capture = .show frame pixels motionEvent →
        ∃ shown, shown.Genuine config decoded ∧
          decoded.getLast?.map DecodedFrame.picture = some shown.picture ∧
          lcd.pending = some shown ∧ pixels = (shown.arguments config).pixels) ∧
      (lcd.shown = none → lcd.mem = start) ∧
      ∀ shown, lcd.shown = some shown → shown.Genuine config decoded ∧
        Shows fb start lcd.mem shown.picture.width shown.picture.height shown.pixel := by
  obtain ⟨hsound, -⟩ := reachable_lcdSound hordinary hstart h
  refine ⟨h.unobserved.unrestricted.unobserved, ?_, hsound.current.blank, fun shown hshown =>
    ⟨hsound.shownGenuine shown hshown, hsound.current.shows shown hshown⟩⟩
  intro frame pixels motionEvent hshow
  obtain ⟨shown, hpending, hpixels⟩ := hsound.drawing frame pixels motionEvent hshow
  obtain ⟨hgenuine, hlast⟩ := hsound.genuine shown hpending
  exact ⟨shown, hgenuine, hlast, hpending, hpixels⟩

/-- A white pixel fills the visible part of the display. -/
theorem lcd_shows_newest_whitePixel :
    ∃ g lcd decoded, TransitionSystem.Reachable
        (decodedOnScreen motionConfig smallScreen (List.replicate 20 7)) ((g, lcd), decoded) ∧
      readPixel smallScreen lcd.mem 0 0 = 0xffff ∧ readPixel smallScreen lcd.mem 1 0 = 0xffff ∧
      lcd.mem[0]? = some 7 := by
  have hrun : (TransitionSystem.exec
      (decodedOnScreen motionConfig smallScreen (List.replicate 20 7))
      ((Gateway.init, { mem := List.replicate 20 7, shown := none, pending := none }), [])
      (startup ++ processPixel 7 0xffff ++ [.capture (.drawn true)])).any
      (fun s => s.1.2.shown.any fun shown => shown.picture.width == 1 &&
        shown.picture.height == 1 && shown.pixel 0 0 == 0xffff) = true := by
    decide +kernel
  obtain ⟨s, hexec, hshown⟩ := TransitionSystem.exists_exec_of_any hrun
  have hreach := (TransitionSystem.Reachable.init
    (decodedOnScreen motionConfig smallScreen (List.replicate 20 7))).exec hexec
  have hordinary : Ordinary smallScreen :=
    { columns := by decide, rows := by decide, line := by decide, memory := by decide
      format := Or.inl rfl, fewColumns := by decide, fewRows := by decide }
  obtain ⟨-, -, -, hshows⟩ := lcd_shows_newest hordinary rfl hreach
  obtain ⟨shown, hsome, hpixel⟩ := (Option.any_eq_true _ _).mp hshown
  simp only [Bool.and_eq_true, beq_iff_eq] at hpixel
  obtain ⟨⟨hwidth, hheight⟩, hcolor⟩ := hpixel
  obtain ⟨-, hscreen⟩ := hshows shown hsome
  rw [hwidth, hheight] at hscreen
  refine ⟨s.1.1, s.1.2, s.2, hreach, ?_, ?_, ?_⟩
  · rw [hscreen.pixel 0 0 (by decide), show 0 * 1 / smallScreen.var.xres.toNat = 0 from rfl,
      show 0 * 1 / smallScreen.var.yres.toNat = 0 from rfl, hcolor]
    decide +kernel
  · rw [hscreen.pixel 1 0 (by decide), show 1 * 1 / smallScreen.var.xres.toNat = 0 from rfl,
      show 0 * 1 / smallScreen.var.yres.toNat = 0 from rfl, hcolor]
    decide +kernel
  · rw [hscreen.outside 0 fun hvisible => absurd hvisible.top (by decide)]
    rfl

end Runs

end CameraGateway
