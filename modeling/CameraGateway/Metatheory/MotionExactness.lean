import CameraGateway.Metatheory.MetricsCoherence
import CameraGateway.Metatheory.MotionBox
import CameraGateway.Metatheory.MotionCoverage

/-!
The detector over unbounded integers. At every step of its loops each computation of the
source stays in its type, so what is published is the rounded mean of the sampled pixels,
of those of each block, and the maximum over the blocks, as sums over sets of pixels.
-/
namespace CameraGateway
open Binning

section Specification

def sampleSet (width height : Nat) : Finset (Nat × Nat) :=
  (Finset.range width ×ˢ Finset.range height).filter fun point => 4 ∣ point.1 ∧ 4 ∣ point.2

def blockSet (width height : Nat) (block : Nat × Nat) : Finset (Nat × Nat) :=
  (sampleSet width height).filter fun point =>
    (point.2 * 48 / height, point.1 * 64 / width) = block

def exactLuma (width : Nat) (pixels : List UInt16) (point : Nat × Nat) : Nat :=
  rgb565Luma (pixels.getD (point.2 * width + point.1) 0)

def exactDelta (width : Nat) (pixels baseline : List UInt16) (point : Nat × Nat) : Nat :=
  ((exactLuma width pixels point : Int) - exactLuma width baseline point).natAbs

/-- The comparison of a picture with its baseline, over unbounded integers. -/
structure ExactComparison (picture : Picture) (baseline : List UInt16) (threshold : Int)
    (result : MotionResult) : Prop where
  delta : result.delta = meanOver (sampleSet picture.width picture.height)
    (exactDelta picture.width picture.pixels baseline)
  active : ∀ row col, result.activeBlocks row col = true ↔
    (blockSet picture.width picture.height (row, col)).Nonempty ∧
      threshold ≤ meanOver (blockSet picture.width picture.height (row, col))
        (exactDelta picture.width picture.pixels baseline)
  peak : IsGreatest
    {mean | ∃ block, (blockSet picture.width picture.height block).Nonempty ∧
      mean = meanOver (blockSet picture.width picture.height block)
        (exactDelta picture.width picture.pixels baseline)}
    result.boxPeakDelta

end Specification

section Ranges

/-- Nothing that the body of the sampling loop computes leaves its type, no value is clamped
and no divisor is 0. -/
structure SampleInRange (picture : Picture) (previous : Option (List UInt16)) (sums : MotionSums)
    (point : Nat × Nat) : Prop where
  divisors : 0 < picture.width ∧ 0 < picture.height
  next : point.1 + motionSampleStep < 2 ^ 32 ∧ point.2 + motionSampleStep < 2 ^ 32
  index : point.2 * picture.width + point.1 < 2 ^ 32
  products : point.1 * motionGridCols < 2 ^ 32 ∧ point.2 * motionGridRows < 2 ^ 32
  unclamped : point.1 * motionGridCols / picture.width < motionGridCols ∧
    point.2 * motionGridRows / picture.height < motionGridRows
  brightness : sums.brightnessSum + lumaAt picture.width picture.pixels point < 2 ^ 64
  delta : sums.deltaSum + deltaAt picture previous point < 2 ^ 64
  blockDelta : sums.blockDeltaSum (picture.block point).1 (picture.block point).2 +
    deltaAt picture previous point < 2 ^ 32
  blockSamples : sums.blockSamples (picture.block point).1 (picture.block point).2 + 1 < 2 ^ 32
  count : sums.sampleCount + 1 < 2 ^ 32

/-- The same of the whole detector. -/
structure DetectorInRange (picture : Picture) (previous : Option (List UInt16))
    (threshold : Nat) : Prop where
  luma : ∀ pixel, redOf pixel * 77 + greenOf pixel * 150 + blueOf pixel * 29 < 2 ^ 32
  samples : ∀ visited point rest,
    samplePoints picture.width picture.height = visited ++ point :: rest →
    SampleInRange picture previous (visited.foldl (addSample picture previous) MotionSums.zero)
      point
  divisor : 0 < (sampleSums picture previous).sampleCount
  means : (sampleSums picture previous).brightnessSum /
      (sampleSums picture previous).sampleCount < 2 ^ 32 ∧
    (sampleSums picture previous).deltaSum / (sampleSums picture previous).sampleCount < 2 ^ 32
  edges : ∀ row col, row < motionGridRows → col < motionGridCols →
    (row + 1) * picture.height < 2 ^ 32 ∧ (col + 1) * picture.width < 2 ^ 32
  activeCount : ∀ visited block rest, gridBlocks = visited ++ block :: rest →
    (visited.foldl (visitBlock (sampleSums picture previous) threshold)
      BlockScan.start).activeCount + 1 < 2 ^ 32
  box : let scan := scanBlocks (sampleSums picture previous) threshold
    scan.minX ≤ scan.maxX → scan.minY ≤ scan.maxY →
    blockEdge picture.width motionGridCols scan.minX ≤
        blockEdge picture.width motionGridCols (scan.maxX + 1) ∧
      blockEdge picture.height motionGridRows scan.minY ≤
        blockEdge picture.height motionGridRows (scan.maxY + 1)

variable {picture : Picture} {previous : Option (List UInt16)} {threshold : Nat}

/-- Amounts of a byte of the samples up to one add up to less than a word. -/
theorem prefix_sum_lt {visited rest : List (Nat × Nat)} {point : Nat × Nat}
    (h : samplePoints picture.width picture.height = visited ++ point :: rest)
    {amount : Nat × Nat → Nat} (hamount : ∀ point, amount point ≤ 255) :
    u64 (visited.map amount).sum + amount point < 2 ^ 64 := by
  have hlength := points_length_le picture
  rw [h, List.length_append, List.length_cons] at hlength
  have hsum := sum_map_le visited hamount
  have hpoint := hamount point
  have hmod : u64 (visited.map amount).sum ≤ (visited.map amount).sum := Nat.mod_le _ _
  omega

/-- The same of one block, whose sums are 32 bits wide. -/
theorem prefix_total_lt {visited rest : List (Nat × Nat)} {point : Nat × Nat}
    (h : samplePoints picture.width picture.height = visited ++ point :: rest)
    {amount : Nat × Nat → Nat} (hamount : ∀ point, amount point ≤ 255) :
    total visited picture.block amount (picture.block point) + amount point < 2 ^ 32 := by
  have hsplit := total_split_le visited rest point picture.block amount
  rw [← h] at hsplit
  have hle := total_le (samplePoints picture.width picture.height) picture.block
    (picture.block point) fun point _ => hamount point
  have hsamples := block_samples_le picture (picture.block point)
  omega

theorem comparedAt_le (point : Nat × Nat) : comparedAt previous point ≤ 1 := by
  rw [comparedAt]
  split <;> omega

theorem sample_inRange {visited rest : List (Nat × Nat)} {point : Nat × Nat}
    (h : samplePoints picture.width picture.height = visited ++ point :: rest) :
    SampleInRange picture previous (visited.foldl (addSample picture previous) MotionSums.zero)
      point := by
  have hmem : point ∈ samplePoints picture.width picture.height := by
    rw [h]
    exact List.mem_append_right _ (List.mem_cons_self ..)
  obtain ⟨hx, hy⟩ := samplePoints_lt hmem
  have hwidth := picture.width_le
  have hheight := picture.height_le
  have hlength := points_length_le picture
  rw [h, List.length_append, List.length_cons] at hlength
  have haddress := Raster.address_lt hx hy
  rw [Raster.address] at haddress
  have hsize : picture.width * picture.height ≤ 65500 * 65500 := Nat.mul_le_mul hwidth hheight
  have hdelta := prefix_total_lt h (@deltaAt_le picture previous)
  have hone := @prefix_total_lt picture visited rest point h (fun _ => 1) fun _ => by omega
  have hcompared := total_le visited picture.block (picture.block point)
    fun point _ => @comparedAt_le previous point
  rw [foldl_addSample]
  refine ⟨⟨picture.width_pos, picture.height_pos⟩, ?_, by omega, ?_,
    ⟨Bands.place_lt hx (by decide), Bands.place_lt hy (by decide)⟩,
    prefix_sum_lt h (lumaAt_le _ _), prefix_sum_lt h deltaAt_le, ?_, ?_, ?_⟩
  · rw [motionSampleStep]
    omega
  · rw [motionGridCols, motionGridRows]
    omega
  · exact Nat.lt_of_le_of_lt (Nat.add_le_add_right (Nat.mod_le _ _) _) hdelta
  · show u32 (total visited picture.block (comparedAt previous) (picture.block point)) + 1 < 2 ^ 32
    have hmod : u32 (total visited picture.block (comparedAt previous) (picture.block point)) ≤
        total visited picture.block (comparedAt previous) (picture.block point) := Nat.mod_le _ _
    omega
  · show u32 visited.length + 1 < 2 ^ 32
    have hmod : u32 visited.length ≤ visited.length := Nat.mod_le _ _
    omega

theorem luma_inRange (pixel : UInt16) :
    redOf pixel * 77 + greenOf pixel * 150 + blueOf pixel * 29 < 2 ^ 32 := by
  have h := rgb565Luma_le pixel
  rw [rgb565Luma, Nat.shiftRight_eq_div_pow] at h
  omega

theorem activeCount_inRange {sums : MotionSums} {visited rest : List (Nat × Nat)}
    {block : Nat × Nat} (h : gridBlocks = visited ++ block :: rest) :
    (visited.foldl (visitBlock sums threshold) BlockScan.start).activeCount + 1 < 2 ^ 32 := by
  have hlength := gridBlocks_length
  rw [h, List.length_append, List.length_cons] at hlength
  have hcount := (@scanned_start sums threshold).foldl visited |>.count
  have hle := @List.countP_le_length _ (fun block => decide (Active sums threshold block)) visited
  rw [List.nil_append] at hcount
  rw [hcount, u32]
  omega

theorem samplePoints_pos (picture : Picture) :
    0 < (samplePoints picture.width picture.height).length := by
  have hwidth := picture.width_pos
  have hheight := picture.height_pos
  rw [samplePoints_length]
  exact Nat.mul_pos (by omega) (by omega)

/-- A mean of bytes is a byte. -/
theorem means_inRange (picture : Picture) {amount : Nat × Nat → Nat}
    (h : ∀ point, amount point ≤ 255) :
    ((samplePoints picture.width picture.height).map amount).sum /
      (samplePoints picture.width picture.height).length < 2 ^ 32 := by
  have hmean := mean_le (sum_map_le (samplePoints picture.width picture.height) h)
  rw [mean_eq_div] at hmean
  omega

theorem detector_inRange (picture : Picture) (previous : Option (List UInt16)) (threshold : Nat) :
    DetectorInRange picture previous threshold := by
  have hwidth := picture.width_le
  have hheight := picture.height_le
  have hcols : motionGridCols = 64 := rfl
  have hrows : motionGridRows = 48 := rfl
  refine ⟨luma_inRange, fun _ _ _ => sample_inRange, ?_, ?_, ?_, fun _ _ _ => activeCount_inRange,
    ?_⟩
  · rw [sampleSums_exact]
    exact samplePoints_pos picture
  · rw [sampleSums_exact]
    exact ⟨means_inRange picture (lumaAt_le _ _), means_inRange picture deltaAt_le⟩
  · intro row col hrow hcol
    have hbelow : (row + 1) * picture.height ≤ 48 * 65500 := Nat.mul_le_mul (by omega) hheight
    have hright : (col + 1) * picture.width ≤ 64 * 65500 := Nat.mul_le_mul (by omega) hwidth
    omega
  · dsimp only
    intro hx hy
    obtain ⟨hmaxX, hmaxY⟩ := scanBlocks_inGrid (sampleSums picture previous) threshold
    exact ⟨blockEdge_mono hwidth (by omega) (by omega),
      blockEdge_mono hheight (by omega) (by omega)⟩

end Ranges

section Means
variable {picture : Picture}

theorem samplePoints_toFinset (width height : Nat) :
    (samplePoints width height).toFinset = sampleSet width height := by
  ext point
  have hline : ∀ limit i, i ∈ strided limit ↔ i < limit ∧ 4 ∣ i := by
    intro limit i
    rw [mem_strided]
    constructor
    · intro h
      obtain ⟨k, hk, rfl⟩ := h
      exact ⟨hk, Dvd.intro_left k rfl⟩
    · intro h
      obtain ⟨hlt, k, rfl⟩ := h
      exact ⟨k, by omega, by omega⟩
  simp only [List.mem_toFinset, mem_samplePoints, hline, sampleSet, Finset.mem_filter,
    Finset.mem_product, Finset.mem_range]
  tauto

theorem mem_sampleSet {width height : Nat} {point : Nat × Nat} :
    point ∈ sampleSet width height ↔ point ∈ samplePoints width height := by
  rw [← samplePoints_toFinset, List.mem_toFinset]

theorem lumaAt_exact (pixels : List UInt16) {point : Nat × Nat}
    (h : point ∈ samplePoints picture.width picture.height) :
    lumaAt picture.width pixels point = exactLuma picture.width pixels point := by
  obtain ⟨hx, hy⟩ := samplePoints_lt h
  rw [lumaAt, pixelIndex_eq picture.width_le picture.height_le hx hy]
  rfl

theorem sampleDelta_natAbs (luma prevLuma : Nat) :
    sampleDelta luma prevLuma = ((luma : Int) - prevLuma).natAbs := by
  rw [sampleDelta]
  split <;> omega

theorem deltaAt_exact (baseline : List UInt16) {point : Nat × Nat}
    (h : point ∈ samplePoints picture.width picture.height) :
    deltaAt picture (some baseline) point =
      exactDelta picture.width picture.pixels baseline point := by
  rw [exactDelta, ← lumaAt_exact _ h, ← lumaAt_exact _ h, ← sampleDelta_natAbs]
  rfl

theorem mean_samples {amount exact : Nat × Nat → Nat}
    (h : ∀ point ∈ samplePoints picture.width picture.height, amount point = exact point) :
    ((samplePoints picture.width picture.height).map amount).sum /
        (samplePoints picture.width picture.height).length =
      meanOver (sampleSet picture.width picture.height) exact := by
  have hnodup := samplePoints_nodup picture.width picture.height
  rw [meanOver, ← samplePoints_toFinset, List.toFinset_card_of_nodup hnodup,
    List.sum_toFinset _ hnodup, List.map_congr_left h]

theorem filter_block (picture : Picture) (block : Nat × Nat) :
    ((samplePoints picture.width picture.height).toFinset.filter
      fun point => picture.block point = block) = blockSet picture.width picture.height block := by
  rw [samplePoints_toFinset, blockSet]
  apply Finset.filter_congr
  intro point hpoint
  obtain ⟨hx, hy⟩ := samplePoints_lt (mem_sampleSet.mp hpoint)
  rw [Picture.block, blockOf_eq hx picture.width_le hy picture.height_le]

theorem blockDelta_meanOver (picture : Picture) (baseline : List UInt16) (block : Nat × Nat) :
    blockDelta (exactSums picture (some baseline)) block.1 block.2 =
      meanOver (blockSet picture.width picture.height block)
        (exactDelta picture.width picture.pixels baseline) := by
  rw [blockDelta_exact, comparedAt_some,
    mean_total_eq (samplePoints_nodup picture.width picture.height), filter_block, meanOver,
    meanOver]
  congr 1
  apply Finset.sum_congr rfl
  intro point hpoint
  exact deltaAt_exact baseline (mem_sampleSet.mp (Finset.mem_of_mem_filter point hpoint))

theorem blockSet_inGrid {block : Nat × Nat}
    (h : (blockSet picture.width picture.height block).Nonempty) : block ∈ gridBlocks := by
  obtain ⟨point, hpoint⟩ := h
  obtain ⟨hsample, hplace⟩ := Finset.mem_filter.mp hpoint
  obtain ⟨hx, hy⟩ := samplePoints_lt (mem_sampleSet.mp hsample)
  rw [mem_gridBlocks, ← hplace]
  exact place_mem hx hy

/-- A mean over nothing does not reach a threshold. -/
theorem nonempty_of_mean_pos {items : Finset (Nat × Nat)} {amount : Nat × Nat → Nat}
    (h : 0 < meanOver items amount) : items.Nonempty := by
  rw [Finset.nonempty_iff_ne_empty]
  intro hempty
  rw [hempty, meanOver, Finset.card_empty, Nat.div_zero] at h
  exact Nat.lt_irrefl 0 h

end Means

section Result
variable {picture : Picture} {baseline : List UInt16} {threshold : Nat}

theorem brightness_exact (picture : Picture) (previous : Option (List UInt16)) (threshold : Nat) :
    (detectMotion picture previous threshold).brightness =
      meanOver (sampleSet picture.width picture.height)
        (exactLuma picture.width picture.pixels) := by
  have hrange := (detector_inRange picture previous threshold).means.1
  have hpos := (detector_inRange picture previous threshold).divisor
  rw [← mean_samples fun point => lumaAt_exact picture.pixels]
  simp only [detectMotion, hpos, if_true]
  rw [u32, Nat.mod_eq_of_lt hrange, sampleSums_exact]
  rfl

theorem delta_exact :
    (detectMotion picture (some baseline) threshold).delta =
      meanOver (sampleSet picture.width picture.height)
        (exactDelta picture.width picture.pixels baseline) := by
  have hrange := (detector_inRange picture (some baseline) threshold).means.2
  have hpos := (detector_inRange picture (some baseline) threshold).divisor
  rw [← mean_samples fun point => deltaAt_exact baseline]
  simp only [detectMotion, hpos, Option.isSome_some, and_self, if_true]
  rw [u32, Nat.mod_eq_of_lt hrange, sampleSums_exact]
  rfl

/-- A positive threshold is reached in blocks with samples alone. -/
theorem active_exact (hpos : 0 < threshold) (row col : Nat) :
    (detectMotion picture (some baseline) threshold).activeBlocks row col = true ↔
      (blockSet picture.width picture.height (row, col)).Nonempty ∧
        threshold ≤ meanOver (blockSet picture.width picture.height (row, col))
          (exactDelta picture.width picture.pixels baseline) := by
  rw [(@detectMotion_compared picture baseline threshold).1, sampleSums_exact,
    (scanned _ threshold).active, Active, blockDelta_meanOver]
  constructor
  · intro h
    exact ⟨nonempty_of_mean_pos (Nat.lt_of_lt_of_le hpos h.2), h.2⟩
  · intro h
    exact ⟨blockSet_inGrid h.1, h.2⟩

theorem peak_exact :
    IsGreatest
      {mean | ∃ block, (blockSet picture.width picture.height block).Nonempty ∧
        mean = meanOver (blockSet picture.width picture.height block)
          (exactDelta picture.width picture.pixels baseline)}
      (detectMotion picture (some baseline) threshold).boxPeakDelta := by
  have hscanned := scanned (exactSums picture (some baseline)) threshold
  rw [(@detectMotion_compared picture baseline threshold).2, sampleSums_exact]
  have hbelow : ∀ block, (blockSet picture.width picture.height block).Nonempty →
      meanOver (blockSet picture.width picture.height block)
          (exactDelta picture.width picture.pixels baseline) ≤
        (scanBlocks (exactSums picture (some baseline)) threshold).peakDelta := by
    intro block hblock
    rw [← blockDelta_meanOver]
    exact hscanned.below block (blockSet_inGrid hblock)
  constructor
  · cases Nat.eq_zero_or_pos
        (scanBlocks (exactSums picture (some baseline)) threshold).peakDelta with
    | inl hzero =>
        -- nothing differs, so the block of the first sample attains 0
        have hfirst : (0, 0) ∈ blockSet picture.width picture.height (0, 0) := by
          simp [blockSet, sampleSet, picture.width_pos, picture.height_pos]
        have hle := hbelow (0, 0) ⟨(0, 0), hfirst⟩
        exact ⟨(0, 0), ⟨(0, 0), hfirst⟩, by omega⟩
    | inr hpeak =>
        cases hscanned.attained with
        | inl hzero => omega
        | inr hsome =>
            obtain ⟨block, -, heq⟩ := hsome
            rw [blockDelta_meanOver] at heq
            exact ⟨block, nonempty_of_mean_pos (heq ▸ hpeak), heq.symm⟩
  · intro mean hmean
    obtain ⟨block, hblock, rfl⟩ := hmean
    exact hbelow block hblock

end Result

/-- The detector is exact in its 32 and 64 bits. For every picture, baseline and positive
threshold nothing wraps, no value is clamped and no divisor is 0; brightness, difference,
active blocks and peak are those over unbounded integers. -/
theorem detection_exact (picture : Picture) (config : CameraConfig)
    (hlow : 1 ≤ config.motionThreshold) (hhigh : config.motionThreshold ≤ 2 ^ 31 - 1) :
    (∀ previous, DetectorInRange picture previous config.threshold ∧
      (detectMotion picture previous config.threshold).brightness =
        meanOver (sampleSet picture.width picture.height)
          (exactLuma picture.width picture.pixels)) ∧
    ∀ baseline, ExactComparison picture baseline config.motionThreshold
      (detectMotion picture (some baseline) config.threshold) := by
  have hthreshold : (config.threshold : Int) = config.motionThreshold := by
    rw [CameraConfig.threshold]
    omega
  constructor
  · intro previous
    exact ⟨detector_inRange picture previous _, brightness_exact picture previous _⟩
  · intro baseline
    refine ⟨delta_exact, ?_, peak_exact⟩
    intro row col
    rw [active_exact (by omega), ← hthreshold, Nat.cast_le]

/-- Eight by eight pixels, of which two that are sampled are not black. -/
def twoSpots : Picture :=
  { width := 8, height := 8
    pixels := [0xffff] ++ List.replicate 35 0 ++ [0x8410] ++ List.replicate 27 0
    width_pos := by decide, width_le := by decide, height_pos := by decide
    height_le := by decide, size_eq := rfl }

/-- Four samples in four blocks: brightness and difference are means of all, and each block has
its own. -/
theorem detection_exact_twoSpots :
    let result := detectMotion twoSpots (some (List.replicate 64 0)) motionConfig.threshold
    (result.brightness = 96 ∧ result.delta = 96) ∧
      (result.activeBlocks 0 0 = true ∧ result.activeBlocks 24 32 = true ∧
        ¬ result.activeBlocks 0 32 = true) ∧
      255 ≤ result.boxPeakDelta := by
  have hexact := detection_exact twoSpots motionConfig (by decide) (by decide)
  have hcompared := hexact.2 (List.replicate 64 0)
  refine ⟨⟨?_, ?_⟩, ⟨?_, ?_, ?_⟩, hcompared.peak.2 ⟨(0, 0), ?_, ?_⟩⟩
  · rw [(hexact.1 _).2]
    decide +kernel
  · rw [hcompared.delta]
    decide +kernel
  · rw [hcompared.active]
    decide +kernel
  · rw [hcompared.active]
    decide +kernel
  · rw [hcompared.active]
    decide +kernel
  · decide +kernel
  · decide +kernel

end CameraGateway
