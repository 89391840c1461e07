import CameraGateway.Metatheory.MotionExactness
import CameraGateway.Metatheory.MotionIndependence

/-!
The detector at two thresholds. On the same pictures a larger threshold finds
fewer blocks active, a smaller box and fewer pictures with motion; what does not
depend on the threshold is equal. The counter of pictures with motion is an
`unsigned int`, so its comparison holds for the numbers it counts.
-/
namespace CameraGateway

section Scan
variable {sums : MotionSums} {threshold threshold' : Nat}

/-- Two scans of the same blocks, the first one at the larger threshold. -/
structure Narrower (strict loose : BlockScan) : Prop where
  peakDelta : strict.peakDelta = loose.peakDelta
  active : ∀ row col, strict.active row col = true → loose.active row col = true
  minX : loose.minX ≤ strict.minX
  minY : loose.minY ≤ strict.minY
  maxX : strict.maxX ≤ loose.maxX
  maxY : strict.maxY ≤ loose.maxY

theorem Narrower.refl (scan : BlockScan) : Narrower scan scan :=
  ⟨rfl, fun _ _ h => h, Nat.le_refl _, Nat.le_refl _, Nat.le_refl _, Nat.le_refl _⟩

theorem Narrower.visit {strict loose : BlockScan} (h : Narrower strict loose)
    (hle : threshold ≤ threshold') (block : Nat × Nat) :
    Narrower (visitBlock sums threshold' strict block) (visitBlock sums threshold loose block) := by
  have hpeak : (visitBlock sums threshold' strict block).peakDelta =
      (visitBlock sums threshold loose block).peakDelta := by
    rw [visitBlock_peakDelta, visitBlock_peakDelta, h.peakDelta]
  by_cases hloose : blockDelta sums block.1 block.2 ≥ threshold
  · by_cases hstrict : blockDelta sums block.1 block.2 ≥ threshold'
    · refine ⟨hpeak, ?_, ?_, ?_, ?_, ?_⟩ <;>
        simp only [visitBlock, hloose, hstrict, if_true]
      · intro row col
        split
        · exact fun _ => rfl
        · exact h.active row col
      · have := h.minX
        split <;> split <;> omega
      · have := h.minY
        split <;> split <;> omega
      · have := h.maxX
        split <;> split <;> omega
      · have := h.maxY
        split <;> split <;> omega
    · refine ⟨hpeak, ?_, ?_, ?_, ?_, ?_⟩ <;>
        simp only [visitBlock, hloose, hstrict, if_true, if_false]
      · intro row col hactive
        split
        · rfl
        · exact h.active row col hactive
      · have := h.minX
        split <;> omega
      · have := h.minY
        split <;> omega
      · have := h.maxX
        split <;> omega
      · have := h.maxY
        split <;> omega
  · have hstrict : ¬ blockDelta sums block.1 block.2 ≥ threshold' := by omega
    refine ⟨hpeak, ?_, ?_, ?_, ?_, ?_⟩ <;>
      simp only [visitBlock, hloose, hstrict, if_false]
    · exact h.active
    · exact h.minX
    · exact h.minY
    · exact h.maxX
    · exact h.maxY

theorem scanBlocks_narrower (sums : MotionSums) (hle : threshold ≤ threshold') :
    Narrower (scanBlocks sums threshold') (scanBlocks sums threshold) := by
  have hfold : ∀ (blocks : List (Nat × Nat)) {strict loose : BlockScan}, Narrower strict loose →
      Narrower (blocks.foldl (visitBlock sums threshold') strict)
        (blocks.foldl (visitBlock sums threshold) loose) := by
    intro blocks
    induction blocks with
    | nil => exact fun h => h
    | cons block blocks ih => exact fun h => ih (h.visit hle block)
  exact hfold gridBlocks (Narrower.refl BlockScan.start)

end Scan

section Picture
variable {threshold threshold' : Nat}

/-- The values of one picture at two thresholds, the first one the larger. -/
structure LessSensitive (strict loose : MotionResult) : Prop where
  active : ∀ row col, strict.activeBlocks row col = true → loose.activeBlocks row col = true
  detected : strict.detected = true → loose.detected = true
  box : strict.boxValid = true → loose.boxValid = true → strict.box.Inside loose.box
  brightness : strict.brightness = loose.brightness
  delta : strict.delta = loose.delta
  peakDelta : strict.boxPeakDelta = loose.boxPeakDelta

theorem detectMotion_first (picture : Picture) :
    detectMotion picture none threshold' = detectMotion picture none threshold := by
  simp only [detectMotion, Option.isSome_none, Bool.false_eq_true, if_false]

theorem detectMotion_lessSensitive (picture : Picture) (previous : Option (List UInt16))
    (hle : threshold ≤ threshold') :
    LessSensitive (detectMotion picture previous threshold')
      (detectMotion picture previous threshold) := by
  cases previous with
  | none =>
      rw [@detectMotion_first threshold threshold']
      refine ⟨fun _ _ h => h, fun h => h, fun _ _ => ?_, rfl, rfl, rfl⟩
      exact ⟨Nat.le_refl _, Nat.le_refl _, Nat.le_refl _, Nat.le_refl _⟩
  | some baseline =>
      have hnarrow := scanBlocks_narrower (sampleSums picture (some baseline)) hle
      obtain ⟨hmaxX, hmaxY⟩ := scanBlocks_inGrid (sampleSums picture (some baseline)) threshold
      have hinGrid := scanBlocks_inGrid (sampleSums picture (some baseline)) threshold'
      obtain ⟨hactive, hpeak⟩ := @detectMotion_compared picture baseline threshold
      obtain ⟨hactive', hpeak'⟩ := @detectMotion_compared picture baseline threshold'
      refine ⟨?_, ?_, ?_, ?_, ?_, ?_⟩
      · rw [hactive, hactive']
        exact hnarrow.active
      · simp only [detectMotion, Option.isSome_some, Bool.true_and, if_true,
          BlockScan.boxValid_iff]
        rintro ⟨hx, hy⟩
        have hminX := hnarrow.minX
        have hminY := hnarrow.minY
        have hmaxX := hnarrow.maxX
        have hmaxY := hnarrow.maxY
        omega
      · intro hstrict hloose
        obtain ⟨-, hvalid', hbox'⟩ := detectMotion_scan picture baseline threshold'
        obtain ⟨-, hvalid, hbox⟩ := detectMotion_scan picture baseline threshold
        rw [hbox' hstrict, hbox hloose]
        have horder' := hvalid'.mp hstrict
        have horder := hvalid.mp hloose
        have hwidth := picture.width_le
        have hheight := picture.height_le
        have hcols : motionGridCols = 64 := rfl
        have hrows : motionGridRows = 48 := rfl
        constructor <;> simp only [scanBox]
        · exact blockEdge_mono hwidth hnarrow.minX (by omega)
        · exact blockEdge_mono hheight hnarrow.minY (by omega)
        · rw [box_far_edge hwidth horder'.1 (by omega),
            box_far_edge hwidth horder.1 (by omega)]
          exact blockEdge_mono hwidth (Nat.succ_le_succ hnarrow.maxX) (by omega)
        · rw [box_far_edge hheight horder'.2 (by omega),
            box_far_edge hheight horder.2 (by omega)]
          exact blockEdge_mono hheight (Nat.succ_le_succ hnarrow.maxY) (by omega)
      · simp only [detectMotion]
      · simp only [detectMotion]
      · rw [hpeak, hpeak']
        exact hnarrow.peakDelta

end Picture

section Runs
variable {config config' : CameraConfig} {strict loose : HttpService}

structure Tuned (strict loose : HttpService) : Prop where
  previous : strict.motionPrevious = loose.motionPrevious
  width : strict.motionPreviousWidth = loose.motionPreviousWidth
  height : strict.motionPreviousHeight = loose.motionPreviousHeight
  hasPrevious : strict.motionHasPrevious = loose.motionHasPrevious
  brightness : strict.brightness = loose.brightness
  delta : strict.motionDelta = loose.motionDelta
  maxDelta : strict.motionMaxDelta = loose.motionMaxDelta
  peakDelta : strict.motionBoxPeakDelta = loose.motionBoxPeakDelta
  detected : strict.motionDetected = true → loose.motionDetected = true
  box : strict.motionBoxValid = true → loose.motionBoxValid = true → strict.box.Inside loose.box

theorem tuned_zero : Tuned HttpService.zero HttpService.zero :=
  ⟨rfl, rfl, rfl, rfl, rfl, rfl, rfl, rfl, nofun, nofun⟩

theorem Tuned.congr {strict' loose' : HttpService} (h : Tuned strict loose)
    (hstrict : strict'.motion = strict.motion) (hloose : loose'.motion = loose.motion) :
    Tuned strict' loose' := by
  have hmotion : Tuned strict'.motion loose'.motion := by
    rw [hstrict, hloose]
    exact ⟨h.previous, h.width, h.height, h.hasPrevious, h.brightness, h.delta, h.maxDelta,
      h.peakDelta, h.detected, h.box⟩
  exact ⟨hmotion.previous, hmotion.width, hmotion.height, hmotion.hasPrevious, hmotion.brightness,
    hmotion.delta, hmotion.maxDelta, hmotion.peakDelta, hmotion.detected, hmotion.box⟩

theorem Tuned.resize (h : Tuned strict loose) (picture : Picture) :
    Tuned (resizeBaseline strict picture) (resizeBaseline loose picture) := by
  rw [resizeBaseline, resizeBaseline, h.width, h.height]
  split
  · exact ⟨rfl, rfl, rfl, rfl, h.brightness, h.delta, h.maxDelta, h.peakDelta, h.detected, h.box⟩
  · exact h

theorem Tuned.commit (h : Tuned strict loose) (picture : Picture) {result result' : MotionResult}
    (hresult : LessSensitive result' result) :
    Tuned (commitMotion (saveBaseline strict picture) result')
      (commitMotion (saveBaseline loose picture) result) := by
  refine ⟨rfl, h.width, h.height, rfl, hresult.brightness, hresult.delta, ?_, hresult.peakDelta,
    hresult.detected, hresult.box⟩
  show (if _ > strict.motionMaxDelta then _ else _) = if _ > loose.motionMaxDelta then _ else _
  rw [hresult.delta]
  show (if _ > strict.motionMaxDelta then _ else strict.motionMaxDelta) =
    if _ > loose.motionMaxDelta then _ else loose.motionMaxDelta
  rw [h.maxDelta]

theorem motionBlock_tuned (h : Tuned strict loose) (hle : config.threshold ≤ config'.threshold)
    (picture : Picture) (malloc : Bool) :
    Tuned (motionBlock config' strict picture malloc).service
        (motionBlock config loose picture malloc).service ∧
      Option.Rel LessSensitive (motionBlock config' strict picture malloc).result
        (motionBlock config loose picture malloc).result := by
  have hresize := h.resize picture
  simp only [motionBlock]
  generalize resizeBaseline strict picture = strict at hresize
  generalize resizeBaseline loose picture = loose at hresize
  have hbaseline : baseline strict = baseline loose := by
    rw [baseline, baseline, hresize.hasPrevious, hresize.previous]
  rw [hresize.previous, hbaseline]
  split
  · refine ⟨?_, .none⟩
    exact ⟨hresize.previous, hresize.width, hresize.height, hresize.hasPrevious,
      hresize.brightness, hresize.delta, hresize.maxDelta, hresize.peakDelta, hresize.detected,
      hresize.box⟩
  · have hresult := detectMotion_lessSensitive picture (baseline loose) hle
    exact ⟨hresize.commit picture hresult, .some hresult⟩

variable (hdetect : config.motionDetect = true) (hdetect' : config'.motionDetect = true)
include hdetect hdetect'

theorem draw_tuned (hle : config.threshold ≤ config'.threshold) {call call' : DrawCall}
    (h : Tuned strict loose) (hinput : SameInput call call') :
    Tuned (httpServiceDrawLcdFrame config' strict call').service
        (httpServiceDrawLcdFrame config loose call).service ∧
      Option.Rel LessSensitive (detection config' strict call') (detection config loose call) := by
  have hstrict := httpServiceDrawLcdFrame_motion config' strict call' hdetect'
  have hloose := httpServiceDrawLcdFrame_motion config loose call hdetect
  rw [detection, detection]
  rw [hinput.picture, hinput.malloc] at *
  cases hpicture : call'.picture with
  | none =>
      rw [hpicture] at hstrict hloose
      exact ⟨h.congr hstrict hloose, .none⟩
  | some picture =>
      rw [hpicture] at hstrict hloose
      obtain ⟨htuned, hrel⟩ := motionBlock_tuned h hle picture call'.malloc
      simp only [hdetect, hdetect', if_true]
      exact ⟨htuned.congr hstrict hloose, hrel⟩

omit hdetect' in
/-- A call counts its picture when the detector has found motion in it. -/
theorem draw_activeFrames (service : HttpService) (call : DrawCall) :
    (httpServiceDrawLcdFrame config service call).service.motionActiveFrames =
      if (detection config service call).any MotionResult.detected then
        u32 (service.motionActiveFrames + 1)
      else service.motionActiveFrames := by
  have hmotion := congrArg HttpService.motionActiveFrames
    (httpServiceDrawLcdFrame_motion config service call hdetect)
  rw [detection]
  cases hpicture : call.picture with
  | none =>
      rw [hpicture] at hmotion
      exact hmotion
  | some picture =>
      rw [hpicture] at hmotion
      simp only [hdetect, if_true]
      refine Eq.trans hmotion ?_
      show (motionBlock config service picture call.malloc).service.motionActiveFrames = _
      have hresize : (resizeBaseline service picture).motionActiveFrames =
          service.motionActiveFrames := by
        rw [resizeBaseline]
        split <;> rfl
      simp only [motionBlock]
      split
      · exact hresize
      · rw [← hresize]
        rfl

end Runs

/-- The pictures of a run in which the detector has found motion. -/
def detectedFrames (config : CameraConfig) (service : HttpService) : List DrawCall → Nat
  | [] => 0
  | call :: calls =>
      ((detection config service call).any MotionResult.detected).toNat +
        detectedFrames config (httpServiceDrawLcdFrame config service call).service calls

section Counts
variable {config config' : CameraConfig} (hdetect : config.motionDetect = true)
include hdetect

theorem drawFrames_activeFrames {service : HttpService}
    (hbound : service.motionActiveFrames < 2 ^ 32) (calls : List DrawCall) :
    (drawFrames config service calls).motionActiveFrames =
      u32 (service.motionActiveFrames + detectedFrames config service calls) := by
  induction calls generalizing service with
  | nil => exact (Nat.mod_eq_of_lt hbound).symm
  | cons call calls ih =>
      have hcall := draw_activeFrames hdetect service call
      rw [drawFrames_cons, detectedFrames]
      cases hfound : (detection config service call).any MotionResult.detected with
      | false =>
          rw [hfound] at hcall
          rw [ih (hcall ▸ hbound), hcall]
          simp
      | true =>
          rw [hfound] at hcall
          rw [ih (hcall ▸ Nat.mod_lt _ (by decide)), hcall]
          simp only [if_true, u32, Bool.toNat_true, Nat.mod_add_mod, Nat.add_assoc]

theorem detectedFrames_anti {strict loose : HttpService} (hdetect' : config'.motionDetect = true)
    (hle : config.threshold ≤ config'.threshold) {calls calls' : List DrawCall}
    (h : Tuned strict loose) (hinputs : List.Forall₂ SameInput calls calls') :
    detectedFrames config' strict calls' ≤ detectedFrames config loose calls := by
  induction hinputs generalizing strict loose with
  | nil => exact Nat.le_refl 0
  | cons hinput _ ih =>
      obtain ⟨htuned, hrel⟩ := draw_tuned hdetect hdetect' hle h hinput
      have hrest := ih htuned
      rw [detectedFrames, detectedFrames]
      refine Nat.add_le_add ?_ hrest
      generalize detection config' strict _ = result' at hrel
      generalize detection config loose _ = result at hrel
      cases hrel with
      | none => exact Nat.le_refl 0
      | @some result' result hresult =>
          have hdetected := hresult.detected
          revert hdetected
          show (result'.detected = true → result.detected = true) →
            result'.detected.toNat ≤ result.detected.toNat
          cases result'.detected <;> cases result.detected <;> simp

/-- Sensitivity is monotone in the threshold. At every frame of two runs on the same
pictures the larger threshold finds fewer blocks, the box lies inside and the other
values agree; the pictures with motion are fewer, and `motion_active_frames` is their
number as an `unsigned int`. -/
theorem sensitivity_monotone (hdetect' : config'.motionDetect = true)
    (hle : config.threshold ≤ config'.threshold) {calls calls' : List DrawCall}
    (hinputs : List.Forall₂ SameInput calls calls') :
    (∀ n, Tuned (drawFrames config' HttpService.zero (calls'.take n))
      (drawFrames config HttpService.zero (calls.take n))) ∧
    (∀ n call call', calls[n]? = some call → calls'[n]? = some call' →
      Option.Rel LessSensitive
        (detection config' (drawFrames config' HttpService.zero (calls'.take n)) call')
        (detection config (drawFrames config HttpService.zero (calls.take n)) call)) ∧
    detectedFrames config' HttpService.zero calls' ≤ detectedFrames config HttpService.zero calls ∧
    (drawFrames config HttpService.zero calls).motionActiveFrames =
      u32 (detectedFrames config HttpService.zero calls) ∧
    (drawFrames config' HttpService.zero calls').motionActiveFrames =
      u32 (detectedFrames config' HttpService.zero calls') ∧
    (detectedFrames config HttpService.zero calls < 2 ^ 32 →
      (drawFrames config' HttpService.zero calls').motionActiveFrames ≤
        (drawFrames config HttpService.zero calls).motionActiveFrames) := by
  have htuned : ∀ {calls calls' : List DrawCall} {strict loose : HttpService},
      Tuned strict loose → List.Forall₂ SameInput calls calls' →
      Tuned (drawFrames config' strict calls') (drawFrames config loose calls) := by
    intro calls calls' strict loose h hinputs
    induction hinputs generalizing strict loose with
    | nil => exact h
    | cons hinput _ ih => exact ih (draw_tuned hdetect hdetect' hle h hinput).1
  have hfewer := detectedFrames_anti hdetect hdetect' hle tuned_zero hinputs
  have hcount : ∀ {config : CameraConfig}, config.motionDetect = true → ∀ calls : List DrawCall,
      (drawFrames config HttpService.zero calls).motionActiveFrames =
        u32 (detectedFrames config HttpService.zero calls) := by
    intro config hdetect calls
    rw [drawFrames_activeFrames hdetect (by decide)]
    exact congrArg u32 (Nat.zero_add _)
  refine ⟨fun n => htuned tuned_zero (List.forall₂_take n hinputs), ?_, hfewer,
    hcount hdetect calls, hcount hdetect' calls', ?_⟩
  · intro n call call' hcall hcall'
    have hinput : SameInput call call' := by
      obtain ⟨hn, rfl⟩ := List.getElem?_eq_some_iff.mp hcall
      obtain ⟨hn', rfl⟩ := List.getElem?_eq_some_iff.mp hcall'
      exact List.Forall₂.get hinputs hn hn'
    exact (draw_tuned hdetect hdetect' hle
      (htuned tuned_zero (List.forall₂_take n hinputs)) hinput).2
  · intro hbound
    rw [hcount hdetect, hcount hdetect', u32, u32, Nat.mod_eq_of_lt hbound]
    exact Nat.le_trans (Nat.mod_le _ _) hfewer

end Counts

section Wrap

def strictConfig : CameraConfig := { motionConfig with motionThreshold := 200 }

def grey : UInt16 := 0x630c

/-- A picture of one pixel has motion when its luma has changed by the threshold. -/
theorem onePixel_detected {threshold : Nat} (hpos : 0 < threshold) (pixel last : UInt16) :
    (detectMotion (onePixel pixel) (some [last]) threshold).detected = true ↔
      threshold ≤ sampleDelta (rgb565Luma pixel) (rgb565Luma last) := by
  have hfirst : blockSet 1 1 (0, 0) = {(0, 0)} := by decide
  have hmean : Binning.meanOver (blockSet 1 1 (0, 0)) (exactDelta 1 [pixel] [last]) =
      sampleDelta (rgb565Luma pixel) (rgb565Luma last) := by
    rw [hfirst, Binning.meanOver, Finset.sum_singleton, Finset.card_singleton, Nat.div_one,
      sampleDelta_natAbs]
    rfl
  have hactive := fun row col => @active_exact (onePixel pixel) [last] threshold hpos row col
  rw [(detectMotion_values (onePixel pixel) (some [last]) hpos).detected,
    (detectMotion_hull (onePixel pixel) (some [last]) threshold).1]
  constructor
  · intro h
    obtain ⟨row, col, hblock⟩ := h
    obtain ⟨⟨point, hpoint⟩, hle⟩ := (hactive row col).mp hblock
    obtain ⟨hsample, hplace⟩ := Finset.mem_filter.mp hpoint
    have honly : sampleSet 1 1 = {(0, 0)} := by decide
    rw [show point = (0, 0) from Finset.mem_singleton.mp (honly ▸ hsample)] at hplace
    have hcorner : (row, col) = (0, 0) := by
      rw [← hplace]
      simp
    rw [hcorner] at hle
    exact Nat.le_trans hle (Nat.le_of_eq hmean)
  · intro hle
    refine ⟨0, 0, (hactive 0 0).mpr ⟨?_, Nat.le_trans hle (Nat.le_of_eq hmean.symm)⟩⟩
    exact ⟨(0, 0), hfirst ▸ Finset.mem_singleton_self _⟩

structure PixelBaseline (service : HttpService) (pixel : UInt16) : Prop where
  previous : service.motionPrevious = some [pixel]
  width : service.motionPreviousWidth = 1
  height : service.motionPreviousHeight = 1
  hasPrevious : service.motionHasPrevious = true

/-- A picture of one pixel is compared with the pixel before and replaces it. -/
theorem draw_pixel {config : CameraConfig} (hdetect : config.motionDetect = true)
    {service : HttpService} {last : UInt16} (h : PixelBaseline service last) (pixel : UInt16) :
    PixelBaseline (httpServiceDrawLcdFrame config service (pixelCall pixel true)).service pixel ∧
      detection config service (pixelCall pixel true) =
        some (detectMotion (onePixel pixel) (some [last]) config.threshold) := by
  have hkept : resizeBaseline service (onePixel pixel) = service := by
    rw [resizeBaseline, if_neg]
    simp [h.width, h.height, onePixel]
  have hbaseline : baseline service = some [last] := by
    rw [baseline, h.hasPrevious, if_pos rfl, h.previous]
  have hblock : motionBlock config service (onePixel pixel) true = .processed
      (commitMotion (saveBaseline service (onePixel pixel))
        (detectMotion (onePixel pixel) (some [last]) config.threshold))
      (detectMotion (onePixel pixel) (some [last]) config.threshold)
      ((detectMotion (onePixel pixel) (some [last]) config.threshold).detected &&
        !service.motionWasDetected) := by
    simp only [motionBlock, hkept, hbaseline, Bool.true_eq_false, and_false, if_false]
  have hmotion := httpServiceDrawLcdFrame_motion config service (pixelCall pixel true) hdetect
  constructor
  · have hleft : PixelBaseline (httpServiceDrawLcdFrame config service
        (pixelCall pixel true)).service.motion pixel := by
      rw [hmotion]
      show PixelBaseline (motionBlock config service (onePixel pixel) true).service.motion pixel
      rw [hblock]
      exact ⟨rfl, h.width, h.height, rfl⟩
    exact ⟨hleft.previous, hleft.width, hleft.height, hleft.hasPrevious⟩
  · show (if config.motionDetect then (motionBlock config service (onePixel pixel) true).result
      else none) = _
    rw [hdetect, if_pos rfl, hblock]
    rfl

/-- Grey and black in turn: two pictures with motion, or none, in every round. -/
theorem detectedFrames_flicker {config : CameraConfig} (hdetect : config.motionDetect = true)
    {found : Bool}
    (hup : (detectMotion (onePixel grey) (some [0]) config.threshold).detected = found)
    (hdown : (detectMotion (onePixel 0) (some [grey]) config.threshold).detected = found)
    (hwhite : (detectMotion (onePixel 0xffff) (some [0]) config.threshold).detected = true)
    (hblack : (detectMotion (onePixel 0) (some [0xffff]) config.threshold).detected = true)
    {service : HttpService} (h : PixelBaseline service 0) (n : Nat) :
    detectedFrames config service
        ((List.replicate n [pixelCall grey true, pixelCall 0 true]).flatten ++
          [pixelCall 0xffff true, pixelCall 0 true]) = 2 * n * found.toNat + 2 := by
  induction n generalizing service with
  | zero =>
      obtain ⟨hwhite', hfirst⟩ := draw_pixel hdetect h 0xffff
      obtain ⟨-, hsecond⟩ := draw_pixel hdetect hwhite' 0
      simp [detectedFrames, hfirst, hsecond, hwhite, hblack]
  | succ n ih =>
      obtain ⟨hgrey, hfirst⟩ := draw_pixel hdetect h grey
      obtain ⟨hagain, hsecond⟩ := draw_pixel hdetect hgrey 0
      rw [List.replicate_succ, List.flatten_cons, List.append_assoc]
      simp only [List.cons_append, List.nil_append, detectedFrames, hfirst, hsecond, ih hagain,
        Option.any_some, hup, hdown]
      rw [Nat.mul_succ, Nat.add_mul]
      omega

end Wrap

/-- Two frames of one pixel with a difference between the thresholds. -/
theorem sensitivity_monotone_greyFrame :
    let calls := [pixelCall 0 true, pixelCall grey true]
    (detectedFrames motionConfig HttpService.zero calls = 1 ∧
      detectedFrames strictConfig HttpService.zero calls = 0) ∧
    (∀ n, Tuned (drawFrames strictConfig HttpService.zero (calls.take n))
      (drawFrames motionConfig HttpService.zero (calls.take n))) := by
  have hinputs : List.Forall₂ SameInput [pixelCall 0 true, pixelCall grey true]
      [pixelCall 0 true, pixelCall grey true] := .cons ⟨rfl, rfl⟩ (.cons ⟨rfl, rfl⟩ .nil)
  have hloose : motionConfig.motionDetect = true := rfl
  have hstrict : strictConfig.motionDetect = true := rfl
  exact ⟨by decide +kernel, (sensitivity_monotone hloose hstrict (by decide) hinputs).1⟩

/-- After 2^32 pictures with motion the counter of the smaller threshold is 0 again. -/
theorem motion_active_frames_wraps :
    ¬ ∀ (config config' : CameraConfig) (calls : List DrawCall),
      config.motionDetect = true →
      config' = { config with motionThreshold := config'.motionThreshold } →
      0 < config.motionThreshold → config.motionThreshold ≤ config'.motionThreshold →
      (drawFrames config' HttpService.zero calls).motionActiveFrames ≤
        (drawFrames config HttpService.zero calls).motionActiveFrames := by
  intro claim
  have hloose : motionConfig.motionDetect = true := rfl
  have hstrict : strictConfig.motionDetect = true := rfl
  have hcompare := claim motionConfig strictConfig
    (pixelCall 0 true ::
      ((List.replicate (2 ^ 31 - 1) [pixelCall grey true, pixelCall 0 true]).flatten ++
        [pixelCall 0xffff true, pixelCall 0 true])) rfl rfl (by decide) (by decide)
  have hfirst : ∀ config : CameraConfig, config = motionConfig ∨ config = strictConfig →
      PixelBaseline (httpServiceDrawLcdFrame config HttpService.zero (pixelCall 0 true)).service 0 ∧
        (httpServiceDrawLcdFrame config HttpService.zero
          (pixelCall 0 true)).service.motionActiveFrames = 0 := by
    have hstart : ∀ config ∈ [motionConfig, strictConfig],
        let service := (httpServiceDrawLcdFrame config HttpService.zero (pixelCall 0 true)).service
        service.motionPrevious = some [0] ∧ service.motionPreviousWidth = 1 ∧
          service.motionPreviousHeight = 1 ∧ service.motionHasPrevious = true ∧
          service.motionActiveFrames = 0 := by
      decide +kernel
    intro config hconfig
    obtain ⟨hprevious, hwidth, hheight, hhas, hactive⟩ := hstart config (by simpa using hconfig)
    exact ⟨⟨hprevious, hwidth, hheight, hhas⟩, hactive⟩
  obtain ⟨hbase, hzero⟩ := hfirst motionConfig (Or.inl rfl)
  obtain ⟨hbase', hzero'⟩ := hfirst strictConfig (Or.inr rfl)
  have found : ∀ {config : CameraConfig} {pixel last : UInt16}, 0 < config.threshold →
      config.threshold ≤ sampleDelta (rgb565Luma pixel) (rgb565Luma last) →
      (detectMotion (onePixel pixel) (some [last]) config.threshold).detected = true :=
    fun hpos => (onePixel_detected hpos _ _).mpr
  have missed : ∀ {config : CameraConfig} {pixel last : UInt16}, 0 < config.threshold →
      ¬ config.threshold ≤ sampleDelta (rgb565Luma pixel) (rgb565Luma last) →
      (detectMotion (onePixel pixel) (some [last]) config.threshold).detected = false :=
    fun hpos hbelow => Bool.eq_false_iff.mpr fun h => hbelow ((onePixel_detected hpos _ _).mp h)
  have hpos : 0 < motionConfig.threshold ∧ 0 < strictConfig.threshold := by decide
  have hmany := @detectedFrames_flicker motionConfig hloose true (found hpos.1 (by decide))
    (found hpos.1 (by decide)) (found hpos.1 (by decide)) (found hpos.1 (by decide)) _ hbase
    (2 ^ 31 - 1)
  have hfew := @detectedFrames_flicker strictConfig hstrict false (missed hpos.2 (by decide))
    (missed hpos.2 (by decide)) (found hpos.2 (by decide)) (found hpos.2 (by decide)) _ hbase'
    (2 ^ 31 - 1)
  rw [drawFrames_cons, drawFrames_cons, drawFrames_activeFrames hloose (by rw [hzero]; decide),
    drawFrames_activeFrames hstrict (by rw [hzero']; decide), hzero, hzero', hmany, hfew]
    at hcompare
  exact absurd hcompare (by decide)

end CameraGateway
