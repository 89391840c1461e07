import CameraGateway.Core.Screen
import CameraGateway.Metatheory.FramebufferDrawing
import CameraGateway.Metatheory.YuyvConversion

/-!
The screen under `camera_capture_to_framebuffer`. A draw stores every visible pixel and nothing
else, so what the screen shows is the frame that was drawn last, from its first pixel to its
last, whatever has been there before and whatever the other passes have come to.
-/
namespace CameraGateway
variable {fb : FramebufferDisplay} {start mem : List UInt8}

section Draws

/-- A screen on which nothing but visible pixels has changed since `start`. -/
structure Framed (fb : FramebufferDisplay) (start mem : List UInt8) : Prop where
  length : mem.length = fb.memSize
  outside : ∀ i, ¬ Visible fb i → mem[i]? = start[i]?

theorem Framed.refl (hstart : start.length = fb.memSize) : Framed fb start start :=
  ⟨hstart, fun _ _ => rfl⟩

/-- The screen shows an image, scaled to the nearest place below. -/
structure Shows (fb : FramebufferDisplay) (start mem : List UInt8) (width height : Nat)
    (image : Nat → Nat → UInt16) : Prop extends Framed fb start mem where
  pixel : ∀ x y, InScreen fb x y → readPixel fb mem x y =
    screenColor fb.var (image (x * width / fb.var.xres.toNat) (y * height / fb.var.yres.toNat)) %
      2 ^ fb.var.bitsPerPixel.toNat

/-- The screen has no more than 2^16 columns and rows. -/
structure Ordinary (fb : FramebufferDisplay) : Prop extends Geometry fb where
  format : Supported fb
  fewColumns : fb.var.xres.toNat ≤ 2 ^ 16
  fewRows : fb.var.yres.toNat ≤ 2 ^ 16

theorem product_lt {count size : Nat} (hcount : count ≤ 2 ^ 16) (hsize : size ≤ 65500) :
    count * size < 2 ^ 32 :=
  calc count * size ≤ 2 ^ 16 * 65500 := Nat.mul_le_mul hcount hsize
    _ < 2 ^ 32 := by decide

/-- Whatever the screen held, a draw leaves the image on it. -/
theorem draw_shows (h : Ordinary fb) (hmem : Framed fb start mem) (image : SourceImage)
    (hwidth : image.width ≤ 65500) (hheight : image.height ≤ 65500) :
    (framebufferDisplayDrawRgb565 fb mem image.pixels image.width image.height).1 = 0 ∧
      Shows fb start (framebufferDisplayDrawRgb565 fb mem image.pixels image.width image.height).2
        image.width image.height image.pixel := by
  rw [draw_eq h.format mem image.pixels image.width_pos image.height_pos]
  refine ⟨rfl, ⟨?_, ?_⟩, ?_⟩
  · rw [Updates.length_apply]
    exact hmem.length
  · intro i hi
    exact (drawn_frame h.format h.toGeometry mem image.pixels image.width image.height hi).trans
      (hmem.outside i hi)
  · intro x y hpoint
    rw [readPixel_drawn h.format h.toGeometry hmem.length image.pixels image.width image.height
      hpoint, sourcePixel_eq fb image hpoint.1 hpoint.2 (product_lt h.fewColumns hwidth)
      (product_lt h.fewRows hheight)]

/-- The screen holds what was drawn last. -/
structure Screen.Current {α : Type} (fb : FramebufferDisplay) (start : List UInt8)
    (screen : Screen α) (width height : α → Nat) (image : α → Nat → Nat → UInt16) : Prop where
  blank : screen.shown = none → screen.mem = start
  shows : ∀ frame, screen.shown = some frame →
    Shows fb start screen.mem (width frame) (height frame) (image frame)

section Current
variable {α : Type} {screen : Screen α} {width height : α → Nat} {image : α → Nat → Nat → UInt16}

theorem Screen.Current.framed (hstart : start.length = fb.memSize)
    (h : screen.Current fb start width height image) : Framed fb start screen.mem := by
  cases hshown : screen.shown with
  | none =>
      rw [h.blank hshown]
      exact Framed.refl hstart
  | some frame => exact (h.shows frame hshown).toFramed

theorem Screen.Current.draw (hordinary : Ordinary fb) (hstart : start.length = fb.memSize)
    (h : screen.Current fb start width height image) {frame : α} {arguments : DrawArguments}
    (source : SourceImage) (harguments : arguments = ⟨source.pixels, source.width, source.height⟩)
    (hwidth : source.width ≤ 65500) (hheight : source.height ≤ 65500)
    (hframe : width frame = source.width ∧ height frame = source.height ∧
      ∀ x < source.width, ∀ y < source.height, image frame x y = source.pixel x y) :
    (arguments.draw fb screen.mem).1 = 0 ∧
      (screen.draw fb frame arguments).Current fb start width height image := by
  subst harguments
  obtain ⟨hret, hshows⟩ := draw_shows hordinary (h.framed hstart) source hwidth hheight
  have hdrawn : (screen.draw fb frame ⟨source.pixels, source.width, source.height⟩).shown =
      some frame := if_pos hret
  refine ⟨hret, ?_, ?_⟩
  · intro hnone
    rw [hdrawn] at hnone
    cases hnone
  · intro other hother
    obtain rfl : frame = other := Option.some.inj (hdrawn.symm.trans hother)
    obtain ⟨hwide, hhigh, himage⟩ := hframe
    refine ⟨hshows.toFramed, fun x y hpoint => ?_⟩
    rw [hwide, hhigh, himage]
    · exact hshows.pixel x y hpoint
    · exact Nat.div_lt_of_lt_mul (Nat.mul_lt_mul_of_pos_right hpoint.1 source.width_pos)
    · exact Nat.div_lt_of_lt_mul (Nat.mul_lt_mul_of_pos_right hpoint.2 source.height_pos)

end Current

def Picture.source (picture : Picture) (hmemory : picture.inMemory = true) : SourceImage :=
  { width := picture.width, height := picture.height, pixels := picture.pixels
    width_pos := picture.width_pos, height_pos := picture.height_pos, size_eq := picture.size_eq
    fits := of_decide_eq_true hmemory }

end Draws

section Preview
variable {config : CameraConfig} {capture next : FramebufferCapture} {pass : FramebufferPass}

/-- The sizes for which a YUYV frame is converted completely. -/
structure PreviewSize (config : CameraConfig) : Prop where
  even : 2 ∣ config.width.toNat
  width_pos : 0 < config.width
  height_pos : 0 < config.height
  width_le : config.width ≤ 65500
  height_le : config.height ≤ 65500
  fits : 2 * (config.width.toNat * config.height.toNat) < 2 ^ 32

theorem PreviewSize.allocation (h : PreviewSize config) :
    FramebufferCapture.yuyvAllocation config = 2 * (config.width.toNat * config.height.toNat) := by
  have hwidth := h.width_pos
  have hheight := h.height_pos
  have hwide := h.width_le
  have hhigh := h.height_le
  have hfits := h.fits
  rw [FramebufferCapture.yuyvAllocation, Int.emod_eq_of_lt (by omega) (by omega),
    Int.emod_eq_of_lt (by omega) (by omega), u32, u32, Nat.mod_mul_mod, Nat.mod_eq_of_lt (by omega),
    Nat.mul_comm]

def PreviewFrame.width (config : CameraConfig) : PreviewFrame → Nat
  | .yuyv _ => config.width.toNat
  | .decoded picture => picture.width

def PreviewFrame.height (config : CameraConfig) : PreviewFrame → Nat
  | .yuyv _ => config.height.toNat
  | .decoded picture => picture.height

def PreviewFrame.pixel (config : CameraConfig) : PreviewFrame → Nat → Nat → UInt16
  | .yuyv memory => convertedPixel memory config.width.toNat
  | .decoded picture => fun x y => picture.pixels.getD (Raster.address picture.width x y) 0

theorem requeue_buffer (capture : FramebufferCapture) (index : Nat) (requeued : Bool) :
    (capture.requeue index requeued).yuyvRgb565 = capture.yuyvRgb565 := by
  rw [FramebufferCapture.requeue]
  cases requeued with
  | true => rfl
  | false => rfl

theorem display_buffer {pixels : List UInt16} {index : Nat}
    (h : capture.display pixels index pass = some next) :
    next.yuyvRgb565 = capture.yuyvRgb565 := by
  rw [FramebufferCapture.display] at h
  split at h
  · cases h
    rfl
  · split at h
    · cases h
    · cases h
      exact requeue_buffer _ index pass.requeued

/-- Only a YUYV frame changes the buffer of the converted pixels. -/
theorem pass_buffer (h : capture.pass config pass = some next) :
    next.yuyvRgb565 =
      match previewFrame config pass with
      | some (.yuyv memory) => some (yuyvToRgb565 memory (capture.yuyvRgb565.getD [])
          config.width.toNat config.height.toNat)
      | _ => capture.yuyvRgb565 := by
  rw [FramebufferCapture.pass] at h
  rw [previewFrame]
  cases hdriver : pass.driver with
  | dequeued index memory bytesused =>
      simp only [hdriver] at h ⊢
      split at h
      · rename_i hshort
        cases h
        rw [if_pos hshort]
        exact requeue_buffer _ index pass.requeued
      · rename_i hlong
        rw [if_neg hlong]
        split at h
        · rename_i hyuyv
          rw [if_pos hyuyv]
          exact display_buffer h
        · rename_i hjpeg
          rw [if_neg hjpeg]
          cases hdecoded : pass.decoded with
          | none =>
              simp only [hdecoded] at h
              cases h
              rfl
          | some picture =>
              simp only [hdecoded] at h
              rw [display_buffer h]
              rfl
  | _ =>
      simp only [hdriver] at h
      cases h
      rfl

/-- The buffer has its size, and the screen holds the last frame. -/
structure PreviewSound (config : CameraConfig) (fb : FramebufferDisplay) (start : List UInt8)
    (capture : FramebufferCapture) (screen : Screen PreviewFrame) : Prop where
  buffer : config.pixelFormat = v4l2PixFmtYuyv → capture.phase = .loop →
    (capture.yuyvRgb565.getD []).length = config.width.toNat * config.height.toNat
  current : screen.Current fb start (PreviewFrame.width config) (PreviewFrame.height config)
    (PreviewFrame.pixel config)

theorem previewFrame_yuyv {memory : List UInt8}
    (h : previewFrame config pass = some (.yuyv memory)) :
    config.pixelFormat = v4l2PixFmtYuyv := by
  rw [previewFrame] at h
  split at h
  · split at h
    · cases h
    · split at h
      · assumption
      · obtain ⟨_, _, hframe⟩ := Option.map_eq_some_iff.mp h
        cases hframe
  · cases h

theorem previewFrame_decoded {picture : Picture}
    (h : previewFrame config pass = some (.decoded picture)) : pass.decoded = some picture := by
  rw [previewFrame] at h
  split at h
  · split at h
    · cases h
    · split at h
      · cases h
      · obtain ⟨_, hdecoded, hframe⟩ := Option.map_eq_some_iff.mp h
        cases hframe
        exact hdecoded
  · cases h

def convertedSource (hsize : PreviewSize config) (memory : List UInt8) {buffer : List UInt16}
    (hbuffer : buffer.length = config.width.toNat * config.height.toNat) : SourceImage :=
  have hlength : (yuyvToRgb565 memory buffer config.width.toNat config.height.toNat).length =
      config.width.toNat * config.height.toNat := by
    rw [yuyvToRgb565_eq memory buffer hsize.even, Updates.length_apply, hbuffer]
  { width := config.width.toNat, height := config.height.toNat
    pixels := yuyvToRgb565 memory buffer config.width.toNat config.height.toNat
    width_pos := Int.lt_toNat.mpr hsize.width_pos
    height_pos := Int.lt_toNat.mpr hsize.height_pos
    size_eq := hlength
    fits := by
      rw [hlength]
      exact hsize.fits }

theorem convertedSource_pixel (hsize : PreviewSize config) (memory : List UInt8)
    {buffer : List UInt16} (hbuffer : buffer.length = config.width.toNat * config.height.toNat)
    {x y : Nat} (hx : x < config.width.toNat) (hy : y < config.height.toNat) :
    (convertedSource hsize memory hbuffer).pixel x y =
      convertedPixel memory config.width.toNat x y := by
  have hpixel := converted_pixel memory hbuffer hx hy
  rw [← yuyvToRgb565_eq memory buffer hsize.even] at hpixel
  rw [SourceImage.pixel, List.getD_eq_getElem?_getD]
  exact congrArg (fun found => found.getD 0) hpixel

/-- What a pass draws is a picture in memory, and the screen shows it then. -/
theorem previewSound_frame (hordinary : Ordinary fb) (hstart : start.length = fb.memSize)
    (hsize : config.pixelFormat = v4l2PixFmtYuyv → PreviewSize config)
    {screen : Screen PreviewFrame} (h : PreviewSound config fb start capture screen)
    (hloop : capture.phase = .loop) {frame : PreviewFrame}
    (hframe : previewFrame config pass = some frame)
    (hmemory : pass.decoded.all Picture.inMemory = true) :
    (screen.draw fb frame (frame.arguments config (capture.yuyvRgb565.getD []))).Current fb start
      (PreviewFrame.width config) (PreviewFrame.height config) (PreviewFrame.pixel config) := by
  cases frame with
  | yuyv memory =>
      have hyuyv := previewFrame_yuyv hframe
      have hlarge := hsize hyuyv
      have hwide := hlarge.width_le
      have hhigh := hlarge.height_le
      refine (h.current.draw hordinary hstart
        (convertedSource hlarge memory (h.buffer hyuyv hloop)) rfl ?_ ?_ ⟨rfl, rfl, ?_⟩).2
      · exact Int.toNat_le.mpr hwide
      · exact Int.toNat_le.mpr hhigh
      · intro x hx y hy
        exact (convertedSource_pixel hlarge memory (h.buffer hyuyv hloop) hx hy).symm
  | decoded picture =>
      rw [previewFrame_decoded hframe, Option.all_some] at hmemory
      exact (h.current.draw hordinary hstart (picture.source hmemory) rfl picture.width_le
        picture.height_le ⟨rfl, rfl, fun _ _ _ _ => rfl⟩).2

theorem opened_buffer {malloc : Option (List UInt16)} {display : Bool}
    (h : capture.step config (.opened malloc display) = some next)
    (hyuyv : config.pixelFormat = v4l2PixFmtYuyv) (hloop : next.phase = .loop) :
    ∃ buffer, malloc = some buffer ∧ next.yuyvRgb565 = some buffer := by
  rw [FramebufferCapture.step] at h
  split at h
  · cases h
  · split at h
    · rename_i hother
      exact absurd hyuyv hother.1
    · split at h
      · cases h
        cases hloop
      · rename_i hopened
        cases h
        obtain ⟨buffer, hbuffer⟩ := Option.ne_none_iff_exists'.mp (not_or.mp hopened).1
        exact ⟨buffer, hbuffer, hbuffer⟩

theorem pass_loop (h : capture.step config (.pass pass) = some next) :
    capture.phase = .loop ∧ capture.pass config pass = some next := by
  rw [FramebufferCapture.step] at h
  split at h
  · rename_i hloop
    exact ⟨hloop.1, h⟩
  · cases h

theorem previewSound_step (hordinary : Ordinary fb) (hstart : start.length = fb.memSize)
    (hsize : config.pixelFormat = v4l2PixFmtYuyv → PreviewSize config)
    {s t : FramebufferCapture × Screen PreviewFrame} {action : FramebufferAction}
    (h : PreviewSound config fb start s.1 s.2)
    (hs : (previewOnScreen config fb start).step s action = some t) :
    PreviewSound config fb start t.1 t.2 := by
  obtain ⟨next, screen⟩ := t
  obtain ⟨hanswers, hobserved⟩ := TransitionSystem.restrict_step.mp hs
  obtain ⟨hstep, hwatch⟩ := TransitionSystem.observe_step.mp hobserved
  change FramebufferCapture.step config s.1 action = some next at hstep
  change screen = watchPreview config fb s.1 action s.2 at hwatch
  cases action with
  | opened malloc display =>
      refine ⟨fun hyuyv hloop => ?_, hwatch ▸ h.current⟩
      obtain ⟨buffer, rfl, hbuffer⟩ := opened_buffer hstep hyuyv hloop
      have hlength := eq_of_beq hanswers
      rw [(hsize hyuyv).allocation] at hlength
      rw [hbuffer]
      exact Nat.eq_of_mul_eq_mul_left (by decide) hlength
  | finish =>
      refine ⟨fun _ hloop => ?_, hwatch ▸ h.current⟩
      rw [FramebufferCapture.step] at hstep
      split at hstep
      · cases hstep
        cases hloop
      · cases hstep
  | pass pass =>
      obtain ⟨hloop, hpass⟩ := pass_loop hstep
      obtain ⟨hmemory, -⟩ := Bool.and_eq_true_iff.mp hanswers
      have hbuffer := pass_buffer hpass
      rw [watchPreview] at hwatch
      cases hframe : previewFrame config pass with
      | none =>
          rw [hframe] at hbuffer hwatch
          refine ⟨fun hyuyv _ => ?_, hwatch ▸ h.current⟩
          rw [hbuffer]
          exact h.buffer hyuyv hloop
      | some frame =>
          rw [hframe] at hbuffer hwatch
          refine ⟨fun hyuyv _ => ?_, hwatch ▸ previewSound_frame hordinary hstart hsize h hloop
            hframe hmemory⟩
          rw [hbuffer]
          cases frame with
          | yuyv memory =>
              show (yuyvToRgb565 memory _ _ _).length = _
              rw [yuyvToRgb565_eq memory _ (hsize hyuyv).even, Updates.length_apply]
              exact h.buffer hyuyv hloop
          | decoded picture => exact h.buffer hyuyv hloop

/-- The preview shows the newest frame, on a consistent screen and for YUYV in a size that is
converted completely. In every run, whatever the driver, the decoder and the allocator answer,
the screen is untouched before the first draw, and from then on each visible pixel is that of
the last frame that came to the display, at the nearest place below: for YUYV the conversion of
the bytes of the buffer. -/
theorem preview_shows_newest (hordinary : Ordinary fb) (hstart : start.length = fb.memSize)
    (hsize : config.pixelFormat = v4l2PixFmtYuyv → PreviewSize config)
    {screen : Screen PreviewFrame}
    (h : TransitionSystem.Reachable (previewOnScreen config fb start) (capture, screen)) :
    TransitionSystem.Reachable (cameraCaptureToFramebuffer config) capture ∧
      (screen.shown = none → screen.mem = start) ∧
      ∀ frame, screen.shown = some frame →
        Shows fb start screen.mem (frame.width config) (frame.height config)
          (frame.pixel config) := by
  have hsound : PreviewSound config fb start capture screen := by
    refine TransitionSystem.Reachable.invariant
      (I := fun s : FramebufferCapture × Screen PreviewFrame =>
        PreviewSound config fb start s.1 s.2) ?_ ?_ h
    · refine ⟨fun _ hloop => ?_, fun _ => rfl, fun frame hframe => ?_⟩
      · cases hloop
      · cases hframe
    · intro s t action _ hi hs
      exact previewSound_step hordinary hstart hsize hi hs
  exact ⟨h.unrestricted.unobserved, hsound.current.blank, hsound.current.shows⟩

def pairPreview : CameraConfig :=
  { device := [], width := 2, height := 1, fps := 30, frameCount := 0, fbPreview := true
    motionDetect := false, motionThreshold := 20, motionSave := false, motionDir := []
    pixelFormat := v4l2PixFmtYuyv }

def greyPass (luma : UInt8) : FramebufferPass :=
  { driver := .dequeued 0 [luma, 128, luma, 128] 4, decoded := none, draw := true
    requeued := true }

def PreviewFrame.holds (bytes : List UInt8) : PreviewFrame → Bool
  | .yuyv memory => memory == bytes
  | .decoded _ => false

theorem eq_of_holds {bytes : List UInt8} {frame : PreviewFrame}
    (h : frame.holds bytes = true) : frame = .yuyv bytes := by
  cases frame with
  | yuyv memory => exact congrArg _ (eq_of_beq h)
  | decoded picture => cases h

/-- White after black, an empty frame and a timeout. -/
theorem preview_shows_newest_whiteAfterBlack :
    ∃ capture screen,
      TransitionSystem.Reachable (previewOnScreen pairPreview smallScreen (List.replicate 20 7))
        (capture, screen) ∧
      readPixel smallScreen screen.mem 0 0 = 0xffff ∧
      readPixel smallScreen screen.mem 1 0 = 0xffff ∧ screen.mem[0]? = some 7 := by
  have hrun : (TransitionSystem.exec
      (previewOnScreen pairPreview smallScreen (List.replicate 20 7))
      (FramebufferCapture.init, { mem := List.replicate 20 7, shown := none })
      [.opened (some [7, 7]) true, .pass (greyPass 16), .pass (greyPass 235),
        .pass { greyPass 16 with driver := .timeout },
        .pass { greyPass 16 with driver := .dequeued 0 [] 0 }]).any
      (fun s => s.2.shown.any (PreviewFrame.holds [235, 128, 235, 128])) = true := by
    decide +kernel
  obtain ⟨s, hexec, hshown⟩ := TransitionSystem.exists_exec_of_any hrun
  have hreach := (TransitionSystem.Reachable.init
    (previewOnScreen pairPreview smallScreen (List.replicate 20 7))).exec hexec
  have hordinary : Ordinary smallScreen :=
    { columns := by decide, rows := by decide, line := by decide, memory := by decide
      format := Or.inl rfl, fewColumns := by decide, fewRows := by decide }
  have hsize : PreviewSize pairPreview := by
    constructor <;> decide
  obtain ⟨-, -, hshows⟩ := preview_shows_newest hordinary rfl (fun _ => hsize) hreach
  obtain ⟨frame, hframe, hholds⟩ := (Option.any_eq_true _ _).mp hshown
  have hscreen := hshows frame hframe
  rw [eq_of_holds hholds] at hscreen
  refine ⟨s.1, s.2, hreach, ?_, ?_, ?_⟩
  · rw [hscreen.pixel 0 0 (by decide)]
    decide +kernel
  · rw [hscreen.pixel 1 0 (by decide)]
    decide +kernel
  · rw [hscreen.outside 0 fun hvisible => absurd hvisible.top (by decide)]
    rfl

end Preview

end CameraGateway
