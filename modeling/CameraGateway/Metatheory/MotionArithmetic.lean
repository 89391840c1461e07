import CameraGateway.Core.MotionDetect
import CameraGateway.Library.Bands
import CameraGateway.Library.Binning
import Mathlib.Data.List.Induction

/-!
The arithmetic of the motion detector. Within the dimensions that libjpeg supports
no sum of the sampling loop leaves its type, so the published averages are those
over the integers, and what the loop over the blocks keeps is the maximum and the
active set.
-/
namespace CameraGateway
open Binning

section Luma

theorem redOf_le (pixel : UInt16) : redOf pixel ≤ 255 := by
  have h : (pixel.toNat >>> 11) &&& 0x1f ≤ 31 := Nat.and_le_right
  rw [redOf]
  omega

theorem greenOf_le (pixel : UInt16) : greenOf pixel ≤ 255 := by
  have h : (pixel.toNat >>> 5) &&& 0x3f ≤ 63 := Nat.and_le_right
  rw [greenOf]
  omega

theorem blueOf_le (pixel : UInt16) : blueOf pixel ≤ 255 := by
  have h : pixel.toNat &&& 0x1f ≤ 31 := Nat.and_le_right
  rw [blueOf]
  omega

theorem rgb565Luma_le (pixel : UInt16) : rgb565Luma pixel ≤ 255 := by
  have hred := redOf_le pixel
  have hgreen := greenOf_le pixel
  have hblue := blueOf_le pixel
  rw [rgb565Luma, Nat.shiftRight_eq_div_pow]
  omega

theorem lumaAt_le (width : Nat) (pixels : List UInt16) (point : Nat × Nat) :
    lumaAt width pixels point ≤ 255 := rgb565Luma_le _

theorem sampleDelta_le {luma prevLuma bound : Nat} (h : luma ≤ bound) (h' : prevLuma ≤ bound) :
    sampleDelta luma prevLuma ≤ bound := by
  rw [sampleDelta]
  split <;> omega

end Luma

section Points

theorem strided_lt {limit i : Nat} (h : i ∈ strided limit) : i < limit := by
  simp only [strided, motionSampleStep, List.mem_map, List.mem_range] at h
  obtain ⟨k, hk, rfl⟩ := h
  omega

theorem strided_length (limit : Nat) : (strided limit).length = (limit + 3) / 4 := by
  simp [strided, motionSampleStep]

theorem samplePoints_length (width height : Nat) :
    (samplePoints width height).length = (height + 3) / 4 * ((width + 3) / 4) := by
  simp [samplePoints, List.length_flatMap, strided_length]

theorem samplePoints_lt {width height : Nat} {point : Nat × Nat}
    (h : point ∈ samplePoints width height) : point.1 < width ∧ point.2 < height := by
  simp only [samplePoints, List.mem_flatMap, List.mem_map] at h
  obtain ⟨y, hy, x, hx, rfl⟩ := h
  exact ⟨strided_lt hx, strided_lt hy⟩

def Picture.block (picture : Picture) (point : Nat × Nat) : Nat × Nat :=
  blockOf picture.width picture.height point.1 point.2

def gridSet : Finset (Nat × Nat) := Finset.range motionGridRows ×ˢ Finset.range motionGridCols

theorem mem_gridBlocks {block : Nat × Nat} : block ∈ gridBlocks ↔ block ∈ gridSet := by
  obtain ⟨row, col⟩ := block
  simp [gridBlocks, gridSet]

theorem mem_gridBlocks_iff {block : Nat × Nat} :
    block ∈ gridBlocks ↔ block.1 < 48 ∧ block.2 < 64 := by
  rw [mem_gridBlocks, gridSet, Finset.mem_product, Finset.mem_range, Finset.mem_range,
    motionGridRows, motionGridCols]

/-- Neither the products nor the clamps matter. -/
theorem blockOf_place {width height x y : Nat} (hx : x < width) (hwidth : width * 64 < 2 ^ 32)
    (hy : y < height) (hheight : height * 48 < 2 ^ 32) :
    blockOf width height x y = (Bands.place height 48 y, Bands.place width 64 x) := by
  have hcol : u32 (x * motionGridCols) = x * 64 := Nat.mod_eq_of_lt (by
    rw [motionGridCols]
    omega)
  have hrow : u32 (y * motionGridRows) = y * 48 := Nat.mod_eq_of_lt (by
    rw [motionGridRows]
    omega)
  have hcolLt : x * 64 / width < motionGridCols := Bands.place_lt hx (by decide)
  have hrowLt : y * 48 / height < motionGridRows := Bands.place_lt hy (by decide)
  rw [blockOf, hcol, hrow]
  simp only [Nat.not_le.mpr hcolLt, Nat.not_le.mpr hrowLt, if_false, Bands.place]

theorem blockOf_eq {width height x y : Nat} (hx : x < width) (hwidth : width ≤ 65500)
    (hy : y < height) (hheight : height ≤ 65500) :
    blockOf width height x y = (y * 48 / height, x * 64 / width) :=
  blockOf_place hx (by omega) hy (by omega)

theorem place_mem {width height x y : Nat} (hx : x < width) (hy : y < height) :
    (Bands.place height 48 y, Bands.place width 64 x) ∈ gridSet := by
  rw [gridSet, Finset.mem_product, Finset.mem_range, Finset.mem_range]
  exact ⟨Bands.place_lt hy (by decide), Bands.place_lt hx (by decide)⟩

theorem block_mem {picture : Picture} {point : Nat × Nat}
    (h : point ∈ samplePoints picture.width picture.height) : picture.block point ∈ gridSet := by
  obtain ⟨hx, hy⟩ := samplePoints_lt h
  rw [Picture.block, blockOf_eq hx picture.width_le hy picture.height_le]
  exact place_mem hx hy

/-- A column of blocks is hit by at most 257 of the sampled positions of a line. -/
theorem column_length {width : Nat} (hpos : 0 < width) (hle : width ≤ 65500) (col : Nat) :
    ((strided width).filter fun x => decide (x * 64 / width = col)).length ≤ 257 := by
  rw [strided, List.filter_map, List.length_map]
  have hsub : ((List.range ((width + (motionSampleStep - 1)) / motionSampleStep)).filter
      ((fun x => decide (x * 64 / width = col)) ∘ (· * motionSampleStep))) ⊆
      List.range' (col * width / 256) 257 := by
    intro k hk
    simp only [motionSampleStep, List.mem_filter, List.mem_range, Function.comp_apply,
      decide_eq_true_eq] at hk
    have hlow : col * width ≤ k * 4 * 64 := by
      rw [← hk.2]
      exact Nat.div_mul_le_self _ _
    have hhigh : k * 4 * 64 < (col + 1) * width := by
      rw [← hk.2]
      exact Nat.lt_mul_of_div_lt (Nat.lt_succ_self _) hpos
    rw [Nat.add_mul, Nat.one_mul] at hhigh
    rw [List.mem_range'_1]
    omega
  have hnodup := (@List.nodup_range ((width + (motionSampleStep - 1)) / motionSampleStep)).filter
    ((fun x => decide (x * 64 / width = col)) ∘ (· * motionSampleStep))
  simpa using (List.subperm_of_subset hnodup hsub).length_le

/-- The samples of one block: at most 257 on each sampled line. -/
theorem block_samples_le (picture : Picture) (block : Nat × Nat) :
    total (samplePoints picture.width picture.height) picture.block (fun _ => 1) block ≤
      16375 * 257 := by
  rw [total_one, samplePoints, List.filter_flatMap, List.length_flatMap]
  have hrow : ∀ n ∈ (strided picture.height).map fun y =>
      (((strided picture.width).map fun x => (x, y)).filter
        fun point => decide (picture.block point = block)).length, n ≤ 257 := by
    intro n hn
    obtain ⟨y, hy, rfl⟩ := List.mem_map.mp hn
    rw [List.filter_map, List.length_map]
    apply Nat.le_trans _ (column_length picture.width_pos picture.width_le block.2)
    have hcolumn : ∀ x ∈ strided picture.width, picture.block (x, y) = block →
        x * 64 / picture.width = block.2 := by
      intro x hx hblock
      rw [← hblock, Picture.block,
        blockOf_eq (strided_lt hx) picture.width_le (strided_lt hy) picture.height_le]
    rw [← List.countP_eq_length_filter, ← List.countP_eq_length_filter]
    apply List.countP_mono_left
    intro x hx
    simpa using hcolumn x hx
  have hsum := List.sum_le_card_nsmul _ _ hrow
  rw [List.length_map, strided_length, nsmul_eq_mul, Nat.cast_id] at hsum
  apply Nat.le_trans hsum
  apply Nat.mul_le_mul_right
  have := picture.height_le
  omega

end Points

section Sums
variable {picture : Picture} {previous : Option (List UInt16)}

/-- The luma difference that a point contributes, over the integers. -/
def deltaAt (picture : Picture) (previous : Option (List UInt16)) (point : Nat × Nat) : Nat :=
  match previous with
  | none => 0
  | some baseline =>
      sampleDelta (lumaAt picture.width picture.pixels point) (lumaAt picture.width baseline point)

/-- A point is counted in its block when there is a baseline. -/
def comparedAt (previous : Option (List UInt16)) (_ : Nat × Nat) : Nat :=
  if previous.isSome then 1 else 0

theorem deltaAt_le (point : Nat × Nat) : deltaAt picture previous point ≤ 255 := by
  cases previous with
  | none => exact Nat.zero_le _
  | some baseline => exact sampleDelta_le (lumaAt_le _ _ _) (lumaAt_le _ _ _)

def sumsOf (picture : Picture) (previous : Option (List UInt16)) (points : List (Nat × Nat)) :
    MotionSums :=
  { brightnessSum := u64 (points.map (lumaAt picture.width picture.pixels)).sum
    deltaSum := u64 (points.map (deltaAt picture previous)).sum
    blockDeltaSum := fun row col =>
      u32 (total points picture.block (deltaAt picture previous) (row, col))
    blockSamples := fun row col => u32 (total points picture.block (comparedAt previous) (row, col))
    sampleCount := u32 points.length }

theorem addAt_total (picture : Picture) (points : List (Nat × Nat)) (point : Nat × Nat)
    (amount : Nat × Nat → Nat) :
    addAt (fun row col => u32 (total points picture.block amount (row, col)))
        (picture.block point).1 (picture.block point).2 (amount point) =
      fun row col => u32 (total (points ++ [point]) picture.block amount (row, col)) := by
  funext row col
  rw [addAt, total_concat]
  by_cases hblock : picture.block point = (row, col)
  · rw [hblock, if_pos ⟨rfl, rfl⟩, if_pos rfl]
    exact Nat.mod_add_mod _ _ _
  · have hother : ¬ (row = (picture.block point).1 ∧ col = (picture.block point).2) :=
      fun h => hblock (Prod.ext h.1.symm h.2.symm)
    rw [if_neg hother, if_neg hblock, Nat.add_zero]

theorem addSample_sumsOf (points : List (Nat × Nat)) (point : Nat × Nat) :
    addSample picture previous (sumsOf picture previous points) point =
      sumsOf picture previous (points ++ [point]) := by
  have hbrightness : u64 (u64 (points.map (lumaAt picture.width picture.pixels)).sum +
      lumaAt picture.width picture.pixels point) =
      u64 ((points ++ [point]).map (lumaAt picture.width picture.pixels)).sum := by
    simp [u64]
  have hcount : u32 (u32 points.length + 1) = u32 (points ++ [point]).length := by
    simp [u32]
  cases previous with
  | none =>
      have hdelta : deltaAt picture none = fun _ => 0 := by
        funext point
        rfl
      have hcompared : comparedAt none = fun _ => 0 := by
        funext point
        rfl
      simp [addSample, sumsOf, hbrightness, hcount, hdelta, hcompared, total]
  | some baseline =>
      have hdelta : u64 (u64 (points.map (deltaAt picture (some baseline))).sum +
          deltaAt picture (some baseline) point) =
          u64 ((points ++ [point]).map (deltaAt picture (some baseline))).sum := by
        simp [u64]
      have hblockDelta := addAt_total picture points point
        (deltaAt picture (some baseline))
      have hblockSamples := addAt_total picture points point
        (comparedAt (some baseline))
      rw [addSample, sumsOf, sumsOf, ← hbrightness, ← hcount, ← hdelta, ← hblockDelta,
        ← hblockSamples]
      rfl

theorem foldl_addSample (points : List (Nat × Nat)) :
    points.foldl (addSample picture previous) MotionSums.zero = sumsOf picture previous points := by
  induction points using List.reverseRecOn with
  | nil => rfl
  | append_singleton points point ih =>
      rw [List.foldl_concat, ih]
      exact addSample_sumsOf points point

def exactSums (picture : Picture) (previous : Option (List UInt16)) : MotionSums :=
  let points := samplePoints picture.width picture.height
  { brightnessSum := (points.map (lumaAt picture.width picture.pixels)).sum
    deltaSum := (points.map (deltaAt picture previous)).sum
    blockDeltaSum := fun row col => total points picture.block (deltaAt picture previous) (row, col)
    blockSamples := fun row col => total points picture.block (comparedAt previous) (row, col)
    sampleCount := points.length }

theorem points_length_le (picture : Picture) :
    (samplePoints picture.width picture.height).length ≤ 16375 * 16375 := by
  have hwidth := picture.width_le
  have hheight := picture.height_le
  rw [samplePoints_length]
  exact Nat.mul_le_mul (by omega) (by omega)

theorem sum_map_le (points : List (Nat × Nat)) {amount : Nat × Nat → Nat}
    (h : ∀ point, amount point ≤ 255) : (points.map amount).sum ≤ 255 * points.length := by
  have hsum := List.sum_le_card_nsmul (points.map amount) 255 (by
    intro n hn
    obtain ⟨point, -, rfl⟩ := List.mem_map.mp hn
    exact h point)
  rwa [List.length_map, nsmul_eq_mul, Nat.cast_id, Nat.mul_comm] at hsum

/-- No sum of the loop leaves its type. -/
theorem sampleSums_exact (picture : Picture) (previous : Option (List UInt16)) :
    sampleSums picture previous = exactSums picture previous := by
  have hlength := points_length_le picture
  have hsum : ∀ amount : Nat × Nat → Nat, (∀ point, amount point ≤ 255) →
      u64 ((samplePoints picture.width picture.height).map amount).sum =
        ((samplePoints picture.width picture.height).map amount).sum := by
    intro amount hamount
    have hle := sum_map_le (samplePoints picture.width picture.height) hamount
    exact Nat.mod_eq_of_lt (by omega)
  have hblock : ∀ (amount : Nat × Nat → Nat) row col, (∀ point, amount point ≤ 255) →
      u32 (total (samplePoints picture.width picture.height) picture.block amount (row, col)) =
        total (samplePoints picture.width picture.height) picture.block amount (row, col) := by
    intro amount row col hamount
    have hle := total_le (samplePoints picture.width picture.height) picture.block (row, col)
      fun point _ => hamount point
    have hsamples := block_samples_le picture (row, col)
    exact Nat.mod_eq_of_lt (by omega)
  have hcompared : ∀ point, comparedAt previous point ≤ 255 := by
    intro point
    rw [comparedAt]
    split <;> omega
  have hcount : u32 (samplePoints picture.width picture.height).length =
      (samplePoints picture.width picture.height).length := Nat.mod_eq_of_lt (by omega)
  rw [sampleSums, foldl_addSample, sumsOf, exactSums, hsum _ (lumaAt_le _ _), hsum _ deltaAt_le,
    hcount]
  simp only [hblock _ _ _ deltaAt_le, hblock _ _ _ hcompared]

end Sums

section Scan
variable {sums : MotionSums} {threshold : Nat}

/-- A block is active when its mean difference reaches the threshold. -/
def Active (sums : MotionSums) (threshold : Nat) (block : Nat × Nat) : Prop :=
  threshold ≤ blockDelta sums block.1 block.2

instance (sums : MotionSums) (threshold : Nat) : DecidablePred (Active sums threshold) :=
  fun block => inferInstanceAs (Decidable (threshold ≤ blockDelta sums block.1 block.2))

structure Scanned (sums : MotionSums) (threshold : Nat) (blocks : List (Nat × Nat))
    (scan : BlockScan) : Prop where
  below : ∀ block ∈ blocks, blockDelta sums block.1 block.2 ≤ scan.peakDelta
  attained : scan.peakDelta = 0 ∨ ∃ block ∈ blocks, blockDelta sums block.1 block.2 = scan.peakDelta
  active : ∀ row col, scan.active row col = true ↔
    (row, col) ∈ blocks ∧ Active sums threshold (row, col)
  count : scan.activeCount = u32 (blocks.countP fun block => decide (Active sums threshold block))
  box : scan.minX ≤ scan.maxX ∧ scan.minY ≤ scan.maxY ↔
    ∃ block ∈ blocks, Active sums threshold block

theorem scanned_start : Scanned sums threshold [] BlockScan.start := by
  refine ⟨by simp, Or.inl rfl, by simp [BlockScan.start], rfl, ?_⟩
  simp [BlockScan.start, motionGridCols, motionGridRows]

theorem visitBlock_peakDelta (scan : BlockScan) (block : Nat × Nat) :
    (visitBlock sums threshold scan block).peakDelta =
      max scan.peakDelta (blockDelta sums block.1 block.2) := by
  rw [visitBlock]
  split <;> dsimp only <;> split <;> omega

/-- A block below the threshold leaves everything but the peak. -/
theorem visitBlock_inactive {scan : BlockScan} {block : Nat × Nat}
    (h : ¬ Active sums threshold block) :
    visitBlock sums threshold scan block =
      { scan with peakDelta := (visitBlock sums threshold scan block).peakDelta } := by
  simp only [visitBlock, show ¬ blockDelta sums block.1 block.2 ≥ threshold from h, if_false]

theorem Scanned.peak {blocks : List (Nat × Nat)} {scan : BlockScan}
    (h : Scanned sums threshold blocks scan) (block : Nat × Nat) :
    let peak := (visitBlock sums threshold scan block).peakDelta
    (∀ other ∈ blocks ++ [block], blockDelta sums other.1 other.2 ≤ peak) ∧
      (peak = 0 ∨ ∃ other ∈ blocks ++ [block], blockDelta sums other.1 other.2 = peak) := by
  dsimp only
  rw [visitBlock_peakDelta]
  constructor
  · intro other hother
    cases List.mem_append.mp hother with
    | inl hold => exact Nat.le_trans (h.below other hold) (Nat.le_max_left _ _)
    | inr hnew =>
        rw [List.mem_singleton.mp hnew]
        exact Nat.le_max_right _ _
  · by_cases hle : blockDelta sums block.1 block.2 ≤ scan.peakDelta
    · rw [Nat.max_eq_left hle]
      cases h.attained with
      | inl hzero => exact Or.inl hzero
      | inr hsome =>
          obtain ⟨other, hother, heq⟩ := hsome
          exact Or.inr ⟨other, List.mem_append_left _ hother, heq⟩
    · rw [Nat.max_eq_right (Nat.le_of_not_le hle)]
      exact Or.inr ⟨block, by simp, rfl⟩

theorem Scanned.visitActive {blocks : List (Nat × Nat)} {scan : BlockScan} {block : Nat × Nat}
    (h : Scanned sums threshold blocks scan) (hactive : Active sums threshold block) :
    Scanned sums threshold (blocks ++ [block]) (visitBlock sums threshold scan block) := by
  obtain ⟨hbelow, hattained⟩ := h.peak block
  have hreached : blockDelta sums block.1 block.2 ≥ threshold := hactive
  refine ⟨hbelow, hattained, ?_, ?_, ?_⟩
  · intro row col
    have hblock : (row = block.1 ∧ col = block.2) ↔ (row, col) = block := by
      rw [Prod.ext_iff]
    simp only [visitBlock, hreached, if_true, hblock, List.mem_append, List.mem_singleton]
    split
    · rename_i heq
      simp [heq, hactive]
    · rename_i hne
      simp [h.active, hne]
  · simp only [visitBlock, hreached, if_true, h.count, List.countP_append, List.countP_singleton,
      hactive, decide_true]
    exact Nat.mod_add_mod _ _ _
  · simp only [visitBlock, hreached, if_true]
    constructor
    · exact fun _ => ⟨block, by simp, hactive⟩
    · intro _
      constructor <;> split <;> split <;> omega

theorem Scanned.visitInactive {blocks : List (Nat × Nat)} {scan : BlockScan} {block : Nat × Nat}
    (h : Scanned sums threshold blocks scan) (hactive : ¬ Active sums threshold block) :
    Scanned sums threshold (blocks ++ [block]) (visitBlock sums threshold scan block) := by
  obtain ⟨hbelow, hattained⟩ := h.peak block
  rw [visitBlock_inactive hactive]
  refine ⟨hbelow, hattained, ?_, ?_, ?_⟩
  · intro row col
    rw [h.active, List.mem_append, List.mem_singleton]
    constructor
    · exact fun hold => ⟨Or.inl hold.1, hold.2⟩
    · rintro ⟨hold | rfl, hthis⟩
      · exact ⟨hold, hthis⟩
      · exact absurd hthis hactive
  · simp [h.count, hactive]
  · rw [h.box]
    simp [hactive]

theorem Scanned.foldl {visited : List (Nat × Nat)} {scan : BlockScan}
    (h : Scanned sums threshold visited scan) (blocks : List (Nat × Nat)) :
    Scanned sums threshold (visited ++ blocks) (blocks.foldl (visitBlock sums threshold) scan) := by
  induction blocks generalizing visited scan with
  | nil => simpa using h
  | cons block blocks ih =>
      by_cases hactive : Active sums threshold block
      · simpa using ih (h.visitActive hactive)
      · simpa using ih (h.visitInactive hactive)

theorem scanned (sums : MotionSums) (threshold : Nat) :
    Scanned sums threshold gridBlocks (scanBlocks sums threshold) :=
  scanned_start.foldl gridBlocks

end Scan

section Result
variable {threshold : Nat}

/-- The published values fit together. -/
structure MotionValues (threshold brightness delta peakDelta activeCount : Nat)
    (boxValid detected : Bool) : Prop where
  detected : detected = boxValid
  blocks : boxValid = true ↔ 0 < activeCount
  peak : boxValid = true ↔ threshold ≤ peakDelta
  delta_le : delta ≤ peakDelta
  peak_le : peakDelta ≤ 255
  brightness_le : brightness ≤ 255

theorem blockDelta_exact (picture : Picture) (previous : Option (List UInt16)) (block : Nat × Nat) :
    blockDelta (exactSums picture previous) block.1 block.2 =
      mean (total (samplePoints picture.width picture.height) picture.block
          (deltaAt picture previous) block)
        (total (samplePoints picture.width picture.height) picture.block
          (comparedAt previous) block) := rfl

theorem comparedAt_some (baseline : List UInt16) : comparedAt (some baseline) = fun _ => 1 := by
  funext point
  rfl

theorem blockDelta_le (picture : Picture) (baseline : List UInt16) (block : Nat × Nat) :
    blockDelta (exactSums picture (some baseline)) block.1 block.2 ≤ 255 := by
  rw [blockDelta_exact, comparedAt_some]
  exact mean_le (total_le _ _ block fun point _ => deltaAt_le point)

theorem delta_le_peak (picture : Picture) (baseline : List UInt16) :
    mean (exactSums picture (some baseline)).deltaSum
        (exactSums picture (some baseline)).sampleCount ≤
      (scanBlocks (exactSums picture (some baseline)) threshold).peakDelta := by
  have hbins : ∀ point ∈ samplePoints picture.width picture.height,
      picture.block point ∈ gridSet := fun point h => block_mem h
  have hdelta : (exactSums picture (some baseline)).deltaSum =
      ∑ block ∈ gridSet, total (samplePoints picture.width picture.height) picture.block
        (deltaAt picture (some baseline)) block :=
    (sum_total _ picture.block (deltaAt picture (some baseline)) hbins).symm
  have hcount : (exactSums picture (some baseline)).sampleCount =
      ∑ block ∈ gridSet, total (samplePoints picture.width picture.height) picture.block
        (comparedAt (some baseline)) block := by
    rw [sum_total _ picture.block _ hbins, comparedAt_some]
    simp [exactSums]
  rw [hdelta, hcount]
  apply mean_sum_le
  · intro block _ hempty
    rw [comparedAt_some] at hempty
    have hle := total_le (samplePoints picture.width picture.height) picture.block block
      fun point _ => @deltaAt_le picture (some baseline) point
    rw [hempty] at hle
    exact Nat.le_zero.mp hle
  · intro block hblock
    rw [← blockDelta_exact]
    have hscanned := scanned (exactSums picture (some baseline)) threshold
    exact hscanned.below block (mem_gridBlocks.mpr hblock)

theorem gridBlocks_length : gridBlocks.length = 3072 := by
  simp [gridBlocks, List.length_flatMap, motionGridRows, motionGridCols]

/-- The box, the count of active blocks and the peak say the same. -/
theorem scan_agrees (sums : MotionSums) (hpos : 0 < threshold) :
    ((scanBlocks sums threshold).minX ≤ (scanBlocks sums threshold).maxX ∧
        (scanBlocks sums threshold).minY ≤ (scanBlocks sums threshold).maxY ↔
      0 < (scanBlocks sums threshold).activeCount) ∧
    ((scanBlocks sums threshold).minX ≤ (scanBlocks sums threshold).maxX ∧
        (scanBlocks sums threshold).minY ≤ (scanBlocks sums threshold).maxY ↔
      threshold ≤ (scanBlocks sums threshold).peakDelta) := by
  have h := scanned sums threshold
  rw [h.box, h.count]
  constructor
  · have hle : gridBlocks.countP (fun block => decide (Active sums threshold block)) ≤ 3072 :=
      gridBlocks_length ▸ List.countP_le_length
    rw [u32, Nat.mod_eq_of_lt (by omega), List.countP_pos_iff]
    simp
  · constructor
    · rintro ⟨block, hblock, hactive⟩
      exact Nat.le_trans hactive (h.below block hblock)
    · intro hpeak
      cases h.attained with
      | inl hzero => omega
      | inr hsome =>
          obtain ⟨block, hblock, heq⟩ := hsome
          rw [← heq] at hpeak
          exact ⟨block, hblock, hpeak⟩

theorem detectMotion_values (picture : Picture) (previous : Option (List UInt16))
    (hpos : 0 < threshold) :
    let result := detectMotion picture previous threshold
    MotionValues threshold result.brightness result.delta result.boxPeakDelta
      result.activeBlockCount result.boxValid result.detected := by
  dsimp only
  have hbrightness : (detectMotion picture previous threshold).brightness ≤ 255 := by
    have hmean : mean (exactSums picture previous).brightnessSum
        (exactSums picture previous).sampleCount ≤ 255 :=
      mean_le (sum_map_le _ fun point => lumaAt_le _ _ point)
    simp only [detectMotion, sampleSums_exact]
    rw [mean] at hmean
    split
    · rename_i hcount
      rw [if_pos hcount] at hmean
      exact Nat.le_trans (Nat.mod_le _ _) hmean
    · exact Nat.zero_le _
  cases previous with
  | none =>
      refine ⟨rfl, ?_, ?_, ?_, ?_, hbrightness⟩ <;>
        simp [detectMotion, BlockScan.start, Nat.ne_of_gt hpos]
  | some baseline =>
      have hdelta := @delta_le_peak threshold picture baseline
      obtain ⟨hblocks, hpeak⟩ := scan_agrees (exactSums picture (some baseline)) hpos
      refine ⟨?_, ?_, ?_, ?_, ?_, hbrightness⟩
      · simp [detectMotion]
      · simpa [detectMotion, sampleSums_exact, BlockScan.boxValid_iff] using hblocks
      · simpa [detectMotion, sampleSums_exact, BlockScan.boxValid_iff] using hpeak
      · simp only [detectMotion, sampleSums_exact, Option.isSome_some, and_true, if_true]
        rw [mean] at hdelta
        split
        · rename_i hcount
          rw [if_pos hcount] at hdelta
          exact Nat.le_trans (Nat.mod_le _ _) hdelta
        · exact Nat.zero_le _
      · have h := (scanned (exactSums picture (some baseline)) threshold).attained
        simp only [detectMotion, sampleSums_exact, Option.isSome_some, if_true]
        cases h with
        | inl hzero => omega
        | inr hsome =>
            obtain ⟨block, -, heq⟩ := hsome
            rw [← heq]
            exact blockDelta_le picture baseline block

end Result
end CameraGateway
