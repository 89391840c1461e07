import CameraGateway.Metatheory.MotionBox
import CameraGateway.Metatheory.MotionCoverage

/-!
Whether the samples that made a block active are marked. The detector scales the position of
a sample down to its block and rounds, the mask scales the block up to pixels and rounds; the
two agree unless the sample straddles the fractional far edge of its block. Then the sample
is painted with the next block, if that one is active, and may lie outside the box.
-/
namespace CameraGateway

/-- The sample lies before the far edges of its block: scaled by the grid it is at least one
grid step away from the next multiple of the size. -/
structure ClearOfEdges (width height : Nat) (point : Nat × Nat) : Prop where
  col : point.1 * 64 % width + 64 ≤ width
  row : point.2 * 48 % height + 48 ≤ height

instance (width height : Nat) (point : Nat × Nat) : Decidable (ClearOfEdges width height point) :=
  decidable_of_iff (point.1 * 64 % width + 64 ≤ width ∧ point.2 * 48 % height + 48 ≤ height)
    ⟨fun h => ⟨h.1, h.2⟩, fun h => ⟨h.col, h.row⟩⟩

section Geometry
variable {width height : Nat} {point : Nat × Nat}

/-- In a frame that the grid divides evenly no sample straddles an edge. -/
theorem clearOfEdges_of_dvd (hx : point.1 < width) (hy : point.2 < height) (hcols : 64 ∣ width)
    (hrows : 48 ∣ height) : ClearOfEdges width height point := by
  have hwithin := @Bands.within_place_of_dvd width 64 point.1 (Nat.zero_lt_of_lt hx) hcols
  have hwithin' := @Bands.within_place_of_dvd height 48 point.2 (Nat.zero_lt_of_lt hy) hrows
  exact ⟨(Bands.within_place_iff (by decide)).mp hwithin,
    (Bands.within_place_iff (by decide)).mp hwithin'⟩

/-- A sample is painted with its block exactly when it lies before the far edges. -/
theorem painted_iff (hwidth : width ≤ 65500) (hheight : height ≤ 65500) (hx : point.1 < width)
    (hy : point.2 < height) :
    point ∈ blockPixels width height (blockOf width height point.1 point.2) ↔
      ClearOfEdges width height point := by
  have hblock : blockOf width height point.1 point.2 ∈ gridBlocks := by
    rw [mem_gridBlocks, blockOf_place hx (by omega) hy (by omega)]
    exact place_mem hx hy
  rw [mem_blockPixels, contains_iff hwidth hheight hblock,
    blockOf_place hx (by omega) hy (by omega), Bands.within_place_iff (by decide),
    Bands.within_place_iff (by decide)]
  exact ⟨fun h => ⟨h.1, h.2⟩, fun h => ⟨h.col, h.row⟩⟩

end Geometry

/-- Of the samples in an active block exactly those before its far edges lie in the rectangle
that is painted for the block and in the box. -/
theorem active_sample_marked_iff (picture : Picture) (previous : Option (List UInt16))
    (threshold : Nat) {point : Nat × Nat}
    (hpoint : point ∈ samplePoints picture.width picture.height)
    (hactive : (detectMotion picture previous threshold).activeBlocks (picture.block point).1
      (picture.block point).2 = true) :
    (point ∈ blockPixels picture.width picture.height (picture.block point) ∧
        (detectMotion picture previous threshold).box.Contains point) ↔
      ClearOfEdges picture.width picture.height point := by
  obtain ⟨hx, hy⟩ := samplePoints_lt hpoint
  have hpainted := painted_iff picture.width_le picture.height_le hx hy
  constructor
  · intro h
    exact hpainted.mp h.1
  · intro h
    have hin := hpainted.mpr h
    obtain ⟨hvalid, hhull⟩ := detectMotion_hull picture previous threshold
    have hcovers := (hhull (hvalid.mpr ⟨_, _, hactive⟩)).covers _ _ hactive
    exact ⟨hin, hcovers.contains (mem_blockPixels.mp hin)⟩

def cornerPicture : Picture :=
  blockPicture 800 600 ⟨by decide, by decide⟩ ⟨by decide, by decide⟩ (0, 0)

theorem cornerPicture_active {x : Nat} (h : blockOf 800 600 x 0 = (0, 0)) :
    (detectMotion cornerPicture (some (blackPattern 800 600)) 15).activeBlocks
      (cornerPicture.block (x, 0)).1 (cornerPicture.block (x, 0)).2 = true := by
  have hcorner : (0, 0) ∈ gridBlocks := mem_gridBlocks_iff.mpr (by decide)
  have hsampled : Sampled 800 600 (0, 0) :=
    (all_sampled_iff (by decide) (by decide)).mpr (by decide) (0, 0) hcorner
  have hblock : cornerPicture.block (x, 0) = (0, 0) := h
  rw [hblock, cornerPicture, pattern_active _ _ hcorner hsampled (by decide) (by decide)]

theorem cornerPicture_sample {k : Nat} (h : k * 4 < 800) :
    (k * 4, 0) ∈ samplePoints cornerPicture.width cornerPicture.height := by
  rw [mem_samplePoints, mem_strided, mem_strided]
  exact ⟨⟨k, h, rfl⟩, 0, Nat.zero_lt_of_lt cornerPicture.height_pos, rfl⟩

/-- The first pixel of this block is marked. -/
theorem active_sample_marked_iff_corner :
    (0, 0) ∈ blockPixels 800 600 (cornerPicture.block (0, 0)) ∧
      (detectMotion cornerPicture (some (blackPattern 800 600)) 15).box.Contains (0, 0) := by
  have hpoint : (0, 0) ∈ samplePoints cornerPicture.width cornerPicture.height :=
    cornerPicture_sample (show 0 * 4 < 800 by decide)
  have hactive := cornerPicture_active (show blockOf 800 600 0 0 = (0, 0) by decide)
  exact (active_sample_marked_iff cornerPicture _ 15 hpoint hactive).mpr ⟨by decide, by decide⟩

/-- Column 12 is sampled for the first block, whose band of 12.5 columns is painted up to
column 11: the white pixel is not painted with its block. -/
theorem active_sample_left_unmarked :
    ¬ ∀ (picture : Picture) (baseline : List UInt16) (threshold : Nat) (point : Nat × Nat),
      baseline.length = picture.width * picture.height →
      point ∈ samplePoints picture.width picture.height →
      (detectMotion picture (some baseline) threshold).activeBlocks (picture.block point).1
        (picture.block point).2 = true →
      point ∈ blockPixels picture.width picture.height (picture.block point) ∧
        (detectMotion picture (some baseline) threshold).box.Contains point := by
  intro claim
  have hpoint := cornerPicture_sample (show 3 * 4 < 800 by decide)
  have hactive := cornerPicture_active (show blockOf 800 600 (3 * 4) 0 = (0, 0) by decide)
  have hmarked := claim cornerPicture (blackPattern 800 600) 15 (3 * 4, 0) List.length_replicate
    hpoint hactive
  obtain ⟨hx, hy⟩ := samplePoints_lt hpoint
  have hclear := (painted_iff cornerPicture.width_le cornerPicture.height_le hx hy).mp hmarked.1
  exact absurd hclear.col (by decide)

end CameraGateway
