import CameraGateway.Metatheory.MotionGeometry
import CameraGateway.Metatheory.MotionIndependence

/-!
What the motion detector compares a picture with. The width, the height, the pointer and the
flag of the baseline change at different moments of a call, and a failed allocation leaves
in between. Over every run the four say together what became of the last decoded picture.
-/
namespace CameraGateway
variable {config : CameraConfig}

/-- A decoded picture of a run, and whether the detector has processed it. -/
structure DecodedFrame where
  picture : Picture
  processed : Bool

/-- What a call decodes, if anything. The picture is processed unless the baseline could
not be allocated. -/
def decodedFrame (config : CameraConfig) (service : HttpService) (call : DrawCall) :
    Option DecodedFrame :=
  call.picture.map fun picture => ⟨picture, (detection config service call).isSome⟩

def decodedFrames (config : CameraConfig) (service : HttpService) :
    List DrawCall → List DecodedFrame
  | [] => []
  | call :: calls =>
      (decodedFrame config service call).toList ++
        decodedFrames config (httpServiceDrawLcdFrame config service call).service calls

theorem decodedFrames_snoc (config : CameraConfig) (service : HttpService)
    (calls : List DrawCall) (call : DrawCall) :
    decodedFrames config service (calls ++ [call]) = decodedFrames config service calls ++
      (decodedFrame config (drawFrames config service calls) call).toList := by
  induction calls generalizing service with
  | nil => simp [decodedFrames, drawFrames]
  | cons first rest ih =>
      simp only [List.cons_append, decodedFrames, ih, drawFrames_cons, List.append_assoc]

/-- The baseline of a service, by the last decoded picture. -/
inductive BaselineOf (service : HttpService) : Option DecodedFrame → Prop where
  | empty (width : service.motionPreviousWidth = 0) (unset : service.motionHasPrevious = false) :
      BaselineOf service none
  | kept {picture : Picture} (width : service.motionPreviousWidth = picture.width)
      (height : service.motionPreviousHeight = picture.height)
      (previous : service.motionPrevious = some picture.pixels)
      (set : service.motionHasPrevious = true) : BaselineOf service (some ⟨picture, true⟩)
  | lost {picture : Picture} (width : service.motionPreviousWidth = picture.width)
      (height : service.motionPreviousHeight = picture.height)
      (previous : service.motionPrevious = none)
      (unset : service.motionHasPrevious = false) : BaselineOf service (some ⟨picture, false⟩)

/-- The pixels a picture is to be compared with: those of the last decoded picture, if it
has the same size and was processed. -/
def comparand (last : Option DecodedFrame) (picture : Picture) : Option (List UInt16) :=
  match last with
  | none => none
  | some last =>
      if last.processed ∧ last.picture.width = picture.width ∧
          last.picture.height = picture.height then some last.picture.pixels
      else none

section Step
variable {service service' : HttpService} {last : Option DecodedFrame}

theorem BaselineOf.congr (h : BaselineOf service last)
    (hmotion : service'.motion = service.motion) :
    BaselineOf service' last := by
  have hwidth := congrArg HttpService.motionPreviousWidth hmotion
  have hheight := congrArg HttpService.motionPreviousHeight hmotion
  have hprevious := congrArg HttpService.motionPrevious hmotion
  have hset := congrArg HttpService.motionHasPrevious hmotion
  cases h with
  | empty width unset => exact .empty (hwidth.trans width) (hset.trans unset)
  | kept width height previous set =>
      exact .kept (hwidth.trans width) (hheight.trans height) (hprevious.trans previous)
        (hset.trans set)
  | lost width height previous unset =>
      exact .lost (hwidth.trans width) (hheight.trans height) (hprevious.trans previous)
        (hset.trans unset)

/-- After `resizeBaseline` the baseline has the picture's size, and it is there exactly when
the flag is set. -/
structure ReadyFor (service : HttpService) (picture : Picture) (compared : Option (List UInt16)) :
    Prop where
  width : service.motionPreviousWidth = picture.width
  height : service.motionPreviousHeight = picture.height
  previous : service.motionPrevious = compared
  flag : service.motionHasPrevious = compared.isSome

theorem ReadyFor.baseline {picture : Picture} {compared : Option (List UInt16)}
    (h : ReadyFor service picture compared) : baseline service = compared := by
  rw [CameraGateway.baseline, h.flag, h.previous]
  cases compared with
  | none => rfl
  | some pixels => rfl

theorem resize_changed {picture : Picture}
    (h : service.motionPreviousWidth ≠ picture.width ∨
      service.motionPreviousHeight ≠ picture.height) :
    ReadyFor (resizeBaseline service picture) picture none := by
  rw [resizeBaseline, if_pos h]
  exact ⟨rfl, rfl, rfl, rfl⟩

/-- What is compared is the last decoded picture, if it can be. -/
theorem BaselineOf.resize (h : BaselineOf service last) (picture : Picture) :
    ReadyFor (resizeBaseline service picture) picture (comparand last picture) := by
  have hsame : ∀ {before : Picture}, service.motionPreviousWidth = before.width →
      service.motionPreviousHeight = before.height →
      before.width = picture.width ∧ before.height = picture.height →
      resizeBaseline service picture = service := by
    intro before hwidth hheight hsize
    rw [resizeBaseline, if_neg]
    rw [hwidth, hheight, hsize.1, hsize.2]
    simp
  cases h with
  | empty width unset =>
      apply resize_changed
      rw [width]
      exact Or.inl (Nat.ne_of_lt picture.width_pos)
  | @kept before width height previous set =>
      by_cases hsize : before.width = picture.width ∧ before.height = picture.height
      · rw [hsame width height hsize, comparand, if_pos ⟨rfl, hsize⟩]
        exact ⟨width.trans hsize.1, height.trans hsize.2, previous, set⟩
      · rw [comparand, if_neg fun hall => hsize hall.2]
        apply resize_changed
        rw [width, height]
        exact Classical.not_and_iff_not_or_not.mp hsize
  | @lost before width height previous unset =>
      rw [comparand, if_neg fun hall => Bool.false_ne_true hall.1]
      by_cases hsize : before.width = picture.width ∧ before.height = picture.height
      · rw [hsame width height hsize]
        exact ⟨width.trans hsize.1, height.trans hsize.2, previous, unset⟩
      · apply resize_changed
        rw [width, height]
        exact Classical.not_and_iff_not_or_not.mp hsize

/-- The motion block processes the picture, compared with the last decoded one, unless
there is nothing to compare it with and the baseline cannot be allocated. -/
theorem motionBlock_baseline (h : BaselineOf service last) (picture : Picture) (malloc : Bool) :
    (motionBlock config service picture malloc).result =
        (if comparand last picture = none ∧ malloc = false then none
          else some (detectMotion picture (comparand last picture) config.threshold)) ∧
      BaselineOf (motionBlock config service picture malloc).service
        (some ⟨picture, (motionBlock config service picture malloc).result.isSome⟩) := by
  have hready := h.resize picture
  simp only [motionBlock, hready.previous, hready.baseline]
  split
  · rename_i hfailed
    refine ⟨rfl, ?_⟩
    have hunset := hready.flag
    rw [hfailed.1] at hunset
    exact .lost hready.width hready.height (hready.previous.trans hfailed.1) hunset
  · exact ⟨rfl, .kept hready.width hready.height rfl rfl⟩

variable (hdetect : config.motionDetect = true)
include hdetect

/-- A call compares its picture with the last decoded one, and its picture is the last
decoded one from then on. -/
theorem draw_baseline (h : BaselineOf service last) (call : DrawCall) :
    (∀ picture, call.picture = some picture → detection config service call =
      if comparand last picture = none ∧ call.malloc = false then none
      else some (detectMotion picture (comparand last picture) config.threshold)) ∧
    BaselineOf (httpServiceDrawLcdFrame config service call).service
      ((decodedFrame config service call).or last) := by
  have hmotion := httpServiceDrawLcdFrame_motion config service call hdetect
  rw [decodedFrame]
  simp only [detection]
  cases hpicture : call.picture with
  | none =>
      rw [hpicture] at hmotion
      exact ⟨nofun, h.congr hmotion⟩
  | some picture =>
      rw [hpicture] at hmotion
      obtain ⟨hresult, hbaseline⟩ := @motionBlock_baseline config service last h picture call.malloc
      simp only [hdetect, if_true]
      refine ⟨?_, hbaseline.congr hmotion⟩
      intro other hother
      rw [← Option.some.inj hother]
      exact hresult

theorem drawFrames_baseline (calls : List DrawCall) :
    BaselineOf (drawFrames config HttpService.zero calls)
      (decodedFrames config HttpService.zero calls).getLast? := by
  induction calls using List.reverseRecOn with
  | nil => exact .empty rfl rfl
  | append_singleton calls call ih =>
      rw [drawFrames_snoc, decodedFrames_snoc, List.getLast?_append]
      have hlast : ∀ frame : Option DecodedFrame, frame.toList.getLast? = frame := by
        intro frame
        cases frame <;> rfl
      rw [hlast]
      exact (draw_baseline hdetect ih call).2

end Step

/-- The baseline that a service holds: the last processed picture, of the recorded size. -/
structure HoldsLast (service : HttpService) (frames : List DecodedFrame) : Prop where
  size : ∀ pixels, service.motionPrevious = some pixels →
    pixels.length = service.motionPreviousWidth * service.motionPreviousHeight
  last : ∃ frame, (frames.filter DecodedFrame.processed).getLast? = some frame ∧
    service.motionPrevious = some frame.picture.pixels ∧
    service.motionPreviousWidth = frame.picture.width ∧
    service.motionPreviousHeight = frame.picture.height

/-- What a call does with a picture that it has decoded, after the last decoded one.
`compared` is the baseline that the sampling loop reads. -/
structure ComparesLast (config : CameraConfig) (service : HttpService)
    (last : Option DecodedFrame) (call : DrawCall) (picture : Picture)
    (compared : Option (List UInt16)) : Prop where
  compares : compared.isSome = true ↔ ∃ frame, last = some frame ∧
    frame.picture.width = picture.width ∧ frame.picture.height = picture.height ∧
    frame.processed = true
  against : ∀ pixels, compared = some pixels → ∃ frame, last = some frame ∧
    pixels = frame.picture.pixels
  inRange : ∀ pixels, compared = some pixels →
    ∀ point ∈ samplePoints picture.width picture.height,
      pixelIndex picture.width point.1 point.2 < pixels.length
  detects : detection config service call =
    if compared = none ∧ call.malloc = false then none
    else some (detectMotion picture compared config.threshold)
  publishes : ∀ result, detection config service call = some result →
    let next := (httpServiceDrawLcdFrame config service call).service
    next.motionDelta = result.delta ∧ next.motionBoxValid = result.boxValid ∧
      next.motionDetected = result.detected ∧ next.box = result.box
  first : compared = none → ∀ result, detection config service call = some result →
    result.delta = 0 ∧ result.boxValid = false ∧ result.detected = false ∧
      result.box = ⟨0, 0, 0, 0⟩

section Parts
variable {service : HttpService} {last : Option DecodedFrame} {call : DrawCall} {picture : Picture}

theorem getLast_filter {frames : List DecodedFrame} {frame : DecodedFrame}
    (h : frames.getLast? = some frame) (hprocessed : frame.processed = true) :
    (frames.filter DecodedFrame.processed).getLast? = some frame := by
  obtain ⟨before, rfl⟩ := List.getLast?_eq_some_iff.mp h
  rw [List.filter_append, List.filter_singleton, hprocessed]
  exact List.getLast?_concat

theorem BaselineOf.holdsLast {frames : List DecodedFrame} (h : BaselineOf service frames.getLast?)
    (hset : service.motionHasPrevious = true) : HoldsLast service frames := by
  generalize hlast : frames.getLast? = last at h
  cases h with
  | empty _ unset =>
      rw [hset] at unset
      cases unset
  | @kept before width height previous set =>
      refine ⟨?_, ⟨before, true⟩, getLast_filter hlast rfl, previous, width, height⟩
      intro pixels hpixels
      rw [width, height, ← before.size_eq]
      exact congrArg List.length (Option.some.inj (hpixels.symm.trans previous))
  | lost _ _ _ unset =>
      rw [hset] at unset
      cases unset

theorem comparand_eq_some {pixels : List UInt16} :
    comparand last picture = some pixels ↔ ∃ frame, last = some frame ∧
      frame.picture.width = picture.width ∧ frame.picture.height = picture.height ∧
      frame.processed = true ∧ pixels = frame.picture.pixels := by
  cases last with
  | none => simp [comparand]
  | some frame =>
      rw [comparand]
      constructor
      · intro h
        rw [Option.ite_none_right_eq_some, Option.some.injEq] at h
        exact ⟨frame, rfl, h.1.2.1, h.1.2.2, h.1.1, h.2.symm⟩
      · intro h
        obtain ⟨before, hbefore, hwidth, hheight, hprocessed, hpixels⟩ := h
        cases hbefore
        rw [if_pos ⟨hprocessed, hwidth, hheight⟩, hpixels]

theorem draw_publishes (hdetect : config.motionDetect = true) {result : MotionResult}
    (h : detection config service call = some result) :
    let next := (httpServiceDrawLcdFrame config service call).service
    next.motionDelta = result.delta ∧ next.motionBoxValid = result.boxValid ∧
      next.motionDetected = result.detected ∧ next.box = result.box := by
  have hmotion := httpServiceDrawLcdFrame_motion config service call hdetect
  rw [detection] at h
  cases hpicture : call.picture with
  | none =>
      rw [hpicture] at h
      cases h
  | some picture =>
      rw [hpicture] at h hmotion
      simp only [hdetect, if_true, motionBlock] at h hmotion
      split at h
      · cases h
      · rename_i hmemory
        cases h
        rw [if_neg hmemory] at hmotion
        exact ⟨congrArg HttpService.motionDelta hmotion,
          congrArg HttpService.motionBoxValid hmotion,
          congrArg HttpService.motionDetected hmotion, congrArg HttpService.box hmotion⟩

theorem detectMotion_none (picture : Picture) (threshold : Nat) :
    (detectMotion picture none threshold).delta = 0 ∧
      (detectMotion picture none threshold).boxValid = false ∧
      (detectMotion picture none threshold).detected = false ∧
      (detectMotion picture none threshold).box = ⟨0, 0, 0, 0⟩ := by
  refine ⟨?_, rfl, rfl, rfl⟩
  simp [detectMotion]

theorem BaselineOf.comparesLast (hdetect : config.motionDetect = true)
    (h : BaselineOf service last) (hpicture : call.picture = some picture) :
    ComparesLast config service last call picture (baseline (resizeBaseline service picture)) := by
  have hdetects := (draw_baseline hdetect h call).1 picture hpicture
  rw [(h.resize picture).baseline]
  refine ⟨?_, ?_, ?_, hdetects, fun result => draw_publishes hdetect, ?_⟩
  · rw [Option.isSome_iff_exists]
    constructor
    · intro hcompared
      obtain ⟨pixels, hpixels⟩ := hcompared
      obtain ⟨frame, hlast, hwidth, hheight, hprocessed, -⟩ := comparand_eq_some.mp hpixels
      exact ⟨frame, hlast, hwidth, hheight, hprocessed⟩
    · intro hframe
      obtain ⟨frame, hlast, hwidth, hheight, hprocessed⟩ := hframe
      exact ⟨_, comparand_eq_some.mpr ⟨frame, hlast, hwidth, hheight, hprocessed, rfl⟩⟩
  · intro pixels hpixels
    obtain ⟨frame, hlast, -, -, -, heq⟩ := comparand_eq_some.mp hpixels
    exact ⟨frame, hlast, heq⟩
  · intro pixels hpixels point hpoint
    obtain ⟨frame, -, hwidth, hheight, -, heq⟩ := comparand_eq_some.mp hpixels
    obtain ⟨hx, hy⟩ := samplePoints_lt hpoint
    rw [heq, frame.picture.size_eq, hwidth, hheight,
      pixelIndex_eq picture.width_le picture.height_le hx hy]
    exact Raster.address_lt hx hy
  · intro hnone result hresult
    rw [hnone] at hdetects
    rw [hdetects, Option.ite_none_left_eq_some] at hresult
    rw [← Option.some.inj hresult.2]
    exact detectMotion_none picture config.threshold

end Parts

/-- Over every run of decoded pictures of any sizes, with decodings and allocations that
fail, the baseline is the last processed picture, and a picture is compared with the one
decoded just before it, if that one has the same size and was processed, and with nothing
otherwise. -/
theorem baseline_is_last_processed (hdetect : config.motionDetect = true)
    (calls : List DrawCall) :
    let service := drawFrames config HttpService.zero calls
    let frames := decodedFrames config HttpService.zero calls
    (service.motionHasPrevious = true → HoldsLast service frames) ∧
      ∀ call picture, call.picture = some picture →
        ComparesLast config service frames.getLast? call picture
          (baseline (resizeBaseline service picture)) := by
  dsimp only
  have hbaseline := drawFrames_baseline hdetect calls
  constructor
  · intro hset
    exact hbaseline.holdsLast hset
  · intro call picture hpicture
    exact hbaseline.comparesLast hdetect hpicture

/-- After a black picture, one that cannot be decoded and one more of the same size, the last
one has been compared with the first. -/
theorem baseline_is_last_processed_undecoded :
    let broken : DrawCall := { pixelCall 0 true with picture := none }
    let service := drawFrames motionConfig HttpService.zero [pixelCall 0 true, broken]
    (baseline (resizeBaseline service (onePixel 0xffff))).isSome = true ∧
      ComparesLast motionConfig service (decodedFrames motionConfig HttpService.zero
          [pixelCall 0 true, broken]).getLast? (pixelCall 0xffff true) (onePixel 0xffff)
        (baseline (resizeBaseline service (onePixel 0xffff))) := by
  have hdetect : motionConfig.motionDetect = true := rfl
  exact ⟨by decide +kernel, (baseline_is_last_processed hdetect _).2 _ _ rfl⟩

end CameraGateway
