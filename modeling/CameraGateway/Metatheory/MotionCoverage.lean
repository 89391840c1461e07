import CameraGateway.Metatheory.MotionGeometry
import Mathlib.Data.List.GetD

/-!
Which blocks of the grid get a sample. The sampling loop visits every fourth column and row,
so every block is hit exactly when a line has 64 samples and a column 48. Motion in a block
that is hit can be detected, and nowhere else can it be taken for motion in that block.
-/
namespace CameraGateway
variable {width height : Nat}

section Samples

theorem mem_strided {limit i : Nat} : i ∈ strided limit ↔ ∃ k, k * 4 < limit ∧ k * 4 = i := by
  simp only [strided, motionSampleStep, List.mem_map, List.mem_range]
  constructor
  · rintro ⟨k, hk, rfl⟩
    exact ⟨k, by omega, rfl⟩
  · rintro ⟨k, hk, rfl⟩
    exact ⟨k, by omega, rfl⟩

theorem strided_nodup (limit : Nat) : (strided limit).Nodup :=
  List.nodup_range.map fun _ _ h => Nat.eq_of_mul_eq_mul_right (by decide) h

theorem mem_samplePoints {point : Nat × Nat} :
    point ∈ samplePoints width height ↔ point.1 ∈ strided width ∧ point.2 ∈ strided height := by
  obtain ⟨x, y⟩ := point
  simp only [samplePoints, List.mem_flatMap, List.mem_map, Prod.mk.injEq]
  constructor
  · rintro ⟨y', hy, x', hx, rfl, rfl⟩
    exact ⟨hx, hy⟩
  · rintro ⟨hx, hy⟩
    exact ⟨y, hy, x, hx, rfl, rfl⟩

/-- The loops visit a pixel at most once. -/
theorem samplePoints_nodup (width height : Nat) : (samplePoints width height).Nodup :=
  Raster.nodup_loops (strided_nodup height) (strided_nodup width) fun _ _ _ _ h =>
    ⟨congrArg Prod.snd h, congrArg Prod.fst h⟩

def Sampled (width height : Nat) (block : Nat × Nat) : Prop :=
  ∃ point ∈ samplePoints width height, blockOf width height point.1 point.2 = block

variable (hwidth : width * 64 < 2 ^ 32) (hheight : height * 48 < 2 ^ 32)
include hwidth hheight

theorem sampled_iff {row col : Nat} :
    Sampled width height (row, col) ↔
      Bands.Hit width 64 4 col ∧ Bands.Hit height 48 4 row := by
  constructor
  · rintro ⟨⟨x, y⟩, hpoint, hblock⟩
    obtain ⟨hx, hy⟩ := samplePoints_lt hpoint
    rw [blockOf_place hx hwidth hy hheight, Prod.mk.injEq] at hblock
    rw [mem_samplePoints, mem_strided, mem_strided] at hpoint
    obtain ⟨⟨k, hk, rfl⟩, l, hl, rfl⟩ := hpoint
    exact ⟨⟨k, hk, hblock.2⟩, l, hl, hblock.1⟩
  · rintro ⟨⟨k, hk, hcol⟩, l, hl, hrow⟩
    refine ⟨(k * 4, l * 4), ?_, ?_⟩
    · rw [mem_samplePoints, mem_strided, mem_strided]
      exact ⟨⟨k, hk, rfl⟩, l, hl, rfl⟩
    · rw [blockOf_place hk hwidth hl hheight, hcol, hrow]

theorem all_sampled_iff :
    (∀ block ∈ gridBlocks, Sampled width height block) ↔ 253 ≤ width ∧ 189 ≤ height := by
  have hcols := @Bands.hit_all_iff width 64 4 (by decide) (by decide)
  have hrows := @Bands.hit_all_iff height 48 4 (by decide) (by decide)
  constructor
  · intro h
    have hhit : ∀ row col, row < 48 → col < 64 →
        Bands.Hit width 64 4 col ∧ Bands.Hit height 48 4 row := by
      intro row col hrow hcol
      exact (sampled_iff hwidth hheight).mp (h _ (mem_gridBlocks_iff.mpr ⟨hrow, hcol⟩))
    have hcolumns := hcols.mp fun col hcol => (hhit 0 col (by decide) hcol).1
    have hlines := hrows.mp fun row hrow => (hhit row 0 hrow (by decide)).2
    omega
  · rintro ⟨hwide, hhigh⟩ ⟨row, col⟩ hblock
    obtain ⟨hrow, hcol⟩ := mem_gridBlocks_iff.mp hblock
    exact (sampled_iff hwidth hheight).mpr
      ⟨hcols.mpr (by omega) col hcol, hrows.mpr (by omega) row hrow⟩

theorem samples_partition :
    ∑ block ∈ gridSet, ((samplePoints width height).filter fun point =>
        decide (blockOf width height point.1 point.2 = block)).length =
      (samplePoints width height).length := by
  have hbins : ∀ point ∈ samplePoints width height,
      blockOf width height point.1 point.2 ∈ gridSet := by
    intro point hpoint
    obtain ⟨hx, hy⟩ := samplePoints_lt hpoint
    rw [blockOf_place hx hwidth hy hheight]
    exact place_mem hx hy
  have hsum := Binning.sum_total (samplePoints width height)
    (fun point => blockOf width height point.1 point.2) (fun _ => 1) hbins
  simp only [Binning.total_one] at hsum
  rw [hsum]
  simp

end Samples

section Detection

/-- White in one block and black elsewhere. -/
def blockPattern (width height : Nat) (block : Nat × Nat) : List UInt16 :=
  (List.range (width * height)).map fun i =>
    if blockOf width height (i % width) (i / width) = block then 0xffff else 0

def blackPattern (width height : Nat) : List UInt16 := List.replicate (width * height) 0

/-- Two pictures of the size show motion in this block, and in no other one, at every
threshold that a difference of lumas can reach. -/
def Detectable (width height : Nat) (block : Nat × Nat) : Prop :=
  ∃ (picture : Picture) (baseline : List UInt16),
    picture.width = width ∧ picture.height = height ∧ baseline.length = width * height ∧
    ∀ threshold row col, 1 ≤ threshold → threshold ≤ 255 →
      ((detectMotion picture (some baseline) threshold).activeBlocks row col = true ↔
        (row, col) = block)

variable (hwidth : 0 < width ∧ width ≤ 65500) (hheight : 0 < height ∧ height ≤ 65500)

def blockPicture (width height : Nat) (hwidth : 0 < width ∧ width ≤ 65500)
    (hheight : 0 < height ∧ height ≤ 65500) (block : Nat × Nat) : Picture :=
  { width := width, height := height, pixels := blockPattern width height block
    width_pos := hwidth.1, width_le := hwidth.2, height_pos := hheight.1, height_le := hheight.2
    size_eq := by rw [blockPattern, List.length_map, List.length_range] }

theorem lumaAt_pattern {block point : Nat × Nat} (hx : point.1 < width) (hy : point.2 < height)
    (hwidth : width ≤ 65500) (hheight : height ≤ 65500) :
    lumaAt width (blockPattern width height block) point =
      if blockOf width height point.1 point.2 = block then 255 else 0 := by
  have hindex := Raster.address_lt hx hy
  rw [lumaAt, pixelIndex_eq hwidth hheight hx hy, blockPattern,
    List.getD_eq_getElem _ _ (by rwa [List.length_map, List.length_range]), List.getElem_map,
    List.getElem_range, Raster.address_mod hx, Raster.address_div hx]
  split <;> decide

theorem lumaAt_black (width height : Nat) (point : Nat × Nat) :
    lumaAt width (blackPattern width height) point = 0 := by
  rw [lumaAt, blackPattern, List.getD_eq_getElem?_getD, List.getElem?_replicate]
  split <;> decide

/-- The samples of the block differ by the full range and all others not at all. -/
theorem deltaAt_pattern (block : Nat × Nat) {point : Nat × Nat}
    (hpoint : point ∈ samplePoints width height) :
    deltaAt (blockPicture width height hwidth hheight block) (some (blackPattern width height))
        point =
      if (blockPicture width height hwidth hheight block).block point = block then 255 else 0 := by
  obtain ⟨hx, hy⟩ := samplePoints_lt hpoint
  have hluma := @lumaAt_pattern width height block point hx hy hwidth.2 hheight.2
  show sampleDelta (lumaAt width (blockPattern width height block) point)
    (lumaAt width (blackPattern width height) point) = _
  rw [hluma, lumaAt_black]
  show sampleDelta (if blockOf width height point.1 point.2 = block then 255 else 0) 0 =
    if blockOf width height point.1 point.2 = block then 255 else 0
  by_cases hblock : blockOf width height point.1 point.2 = block
  · rw [if_pos hblock]
    rfl
  · rw [if_neg hblock]
    rfl

include hwidth hheight

theorem pattern_active {block : Nat × Nat} (hblock : block ∈ gridBlocks)
    (h : Sampled width height block) {threshold row col : Nat} (hlow : 1 ≤ threshold)
    (hhigh : threshold ≤ 255) :
    (detectMotion (blockPicture width height hwidth hheight block)
        (some (blackPattern width height)) threshold).activeBlocks row col = true ↔
      (row, col) = block := by
  obtain ⟨point, hpoint, hmember⟩ := h
  have hdelta : ∀ other, blockDelta (exactSums (blockPicture width height hwidth hheight block)
      (some (blackPattern width height))) other.1 other.2 =
        Binning.mean ((if other = block then 255 else 0) *
            Binning.total (samplePoints width height)
              (blockPicture width height hwidth hheight block).block (fun _ => 1) other)
          (Binning.total (samplePoints width height)
            (blockPicture width height hwidth hheight block).block (fun _ => 1) other) := by
    intro other
    rw [blockDelta_exact, comparedAt_some]
    have htotal := Binning.total_indicator
      (fun point hpoint => deltaAt_pattern hwidth hheight block hpoint) other
    exact congrArg₂ Binning.mean htotal rfl
  have hpositive : 0 < Binning.total (samplePoints width height)
      (blockPicture width height hwidth hheight block).block (fun _ => 1) block := by
    rw [Binning.total_one]
    apply List.length_pos_of_mem (a := point)
    simpa using ⟨hpoint, hmember⟩
  simp only [detectMotion, Option.isSome_some, if_true, sampleSums_exact]
  rw [(scanned _ threshold).active, Active, hdelta]
  constructor
  · rintro ⟨-, hactive⟩
    apply Classical.byContradiction
    intro hother
    rw [if_neg hother, Nat.zero_mul] at hactive
    have hzero := Binning.mean_le (show 0 ≤ 0 * Binning.total (samplePoints width height)
      (blockPicture width height hwidth hheight block).block (fun _ => 1) (row, col) by omega)
    omega
  · rintro rfl
    rw [if_pos rfl, Binning.mean_mul hpositive]
    exact ⟨hblock, hhigh⟩

theorem detectable_of_sampled {block : Nat × Nat} (hblock : block ∈ gridBlocks)
    (h : Sampled width height block) : Detectable width height block := by
  refine ⟨blockPicture width height hwidth hheight block, blackPattern width height, rfl, rfl,
    List.length_replicate, ?_⟩
  intro threshold row col hlow hhigh
  exact pattern_active hwidth hheight hblock h hlow hhigh

omit hwidth hheight in
/-- A block without a sample is blind: no pictures show motion in it. -/
theorem sampled_of_active {picture : Picture} {baseline : List UInt16} {threshold : Nat}
    (hpos : 1 ≤ threshold) {block : Nat × Nat}
    (h : (detectMotion picture (some baseline) threshold).activeBlocks block.1 block.2 = true) :
    Sampled picture.width picture.height block := by
  simp only [detectMotion, Option.isSome_some, if_true, sampleSums_exact] at h
  have hactive := (((scanned _ threshold).active block.1 block.2).mp h).2
  rw [Active, blockDelta_exact, comparedAt_some, Binning.total_one, Binning.mean] at hactive
  split at hactive
  · rename_i hcount
    obtain ⟨point, hpoint⟩ := List.exists_mem_of_length_pos hcount
    obtain ⟨hsample, hblock⟩ := List.mem_filter.mp hpoint
    exact ⟨point, hsample, of_decide_eq_true hblock⟩
  · omega

theorem detectable_iff {block : Nat × Nat} (hblock : block ∈ gridBlocks) :
    Detectable width height block ↔ Sampled width height block := by
  constructor
  · intro h
    obtain ⟨picture, baseline, rfl, rfl, -, hdetected⟩ := h
    exact sampled_of_active (Nat.le_refl 1)
      ((hdetected 1 block.1 block.2 (Nat.le_refl 1) (by decide)).mpr rfl)
  · exact detectable_of_sampled hwidth hheight hblock

end Detection

/-- Every block gets a sample exactly from 253 columns and 189 rows on. A block of a picture
can be detected exactly when it gets one; the loops visit no pixel twice, and every sample is
counted in one block. -/
theorem every_block_sampled_iff (hwidth : width * 64 < 2 ^ 32) (hheight : height * 48 < 2 ^ 32) :
    ((∀ block ∈ gridBlocks, Sampled width height block) ↔ 253 ≤ width ∧ 189 ≤ height) ∧
    (0 < width ∧ width ≤ 65500 → 0 < height ∧ height ≤ 65500 → ∀ block ∈ gridBlocks,
      (Detectable width height block ↔ Sampled width height block)) ∧
    (samplePoints width height).Nodup ∧
    ∑ block ∈ gridSet, ((samplePoints width height).filter fun point =>
        decide (blockOf width height point.1 point.2 = block)).length =
      (samplePoints width height).length := by
  refine ⟨all_sampled_iff hwidth hheight, ?_, samplePoints_nodup width height,
    samples_partition hwidth hheight⟩
  intro hwide hhigh block hblock
  exact detectable_iff hwide hhigh hblock

/-- At 253 columns and 189 rows motion in the last block is seen. -/
theorem every_block_sampled_iff_smallest : Detectable 253 189 (47, 63) := by
  have hcoverage := every_block_sampled_iff (show 253 * 64 < 2 ^ 32 by decide)
    (show 189 * 48 < 2 ^ 32 by decide)
  have hblock : (47, 63) ∈ gridBlocks := mem_gridBlocks_iff.mpr (by decide)
  exact (hcoverage.2.1 (by decide) (by decide) (47, 63) hblock).mpr
    (hcoverage.1.mpr (by decide) (47, 63) hblock)

end CameraGateway
