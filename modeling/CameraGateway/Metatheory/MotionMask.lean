import CameraGateway.Library.Updates
import CameraGateway.Metatheory.MotionGeometry

/-!
The motion mask as one map over the pixels. The four nested loops of
`draw_rgb565_motion_mask` are a list of updates of pixels; the rectangles of the blocks
tile the frame, so that no pixel is tinted twice.
-/
namespace CameraGateway
variable {width height : Nat}

def maskUpdates (width height : Nat) (activeBlocks : Nat → Nat → Bool) :
    List (Updates.Update UInt16) :=
  gridBlocks.flatMap fun block =>
    if activeBlocks block.1 block.2 then
      (blockPixels width height block).map fun point =>
        ⟨pixelIndex width point.1 point.2, redTintRgb565⟩
    else []

theorem drawRgb565MotionMask_eq (pixels : List UInt16) (width height : Nat)
    (activeBlocks : Nat → Nat → Bool) :
    drawRgb565MotionMask pixels width height activeBlocks =
      Updates.apply pixels (maskUpdates width height activeBlocks) := by
  have hblock : ∀ (pixels : List UInt16) (block : Nat × Nat),
      (if activeBlocks block.1 block.2 then
        (between (blockEdge height motionGridRows block.1)
            (blockEdge height motionGridRows (block.1 + 1))).foldl (fun pixels y =>
          (between (blockEdge width motionGridCols block.2)
              (blockEdge width motionGridCols (block.2 + 1))).foldl (fun pixels x =>
            pixels.modify (pixelIndex width x y) redTintRgb565) pixels) pixels
      else pixels) = Updates.apply pixels (if activeBlocks block.1 block.2 then
        (blockPixels width height block).map fun point =>
          ⟨pixelIndex width point.1 point.2, redTintRgb565⟩
      else []) := by
    intro pixels block
    split
    · rw [Updates.apply, List.foldl_map, blockPixels, List.foldl_flatMap]
      simp only [List.foldl_map]
    · rfl
  rw [drawRgb565MotionMask, maskUpdates, ← Updates.foldl_apply]
  simp only [hblock]

theorem gridBlocks_nodup : gridBlocks.Nodup :=
  Raster.nodup_loops List.nodup_range List.nodup_range fun _ _ _ _ h =>
    ⟨congrArg Prod.fst h, congrArg Prod.snd h⟩

def tintedPixels (width height : Nat) (activeBlocks : Nat → Nat → Bool) : List (Nat × Nat) :=
  gridBlocks.flatMap fun block =>
    if activeBlocks block.1 block.2 then blockPixels width height block else []

theorem maskUpdates_eq (width height : Nat) (activeBlocks : Nat → Nat → Bool) :
    maskUpdates width height activeBlocks =
      (tintedPixels width height activeBlocks).map fun point =>
        ⟨pixelIndex width point.1 point.2, redTintRgb565⟩ := by
  rw [maskUpdates, tintedPixels, List.map_flatMap]
  apply List.flatMap_congr
  intro block _
  split
  · rfl
  · rfl

theorem mem_tintedPixels {activeBlocks : Nat → Nat → Bool} {point : Nat × Nat} :
    point ∈ tintedPixels width height activeBlocks ↔
      ∃ block ∈ gridBlocks, activeBlocks block.1 block.2 = true ∧
        (blockBox width height block).Contains point := by
  simp only [tintedPixels, List.mem_flatMap, List.mem_ite_nil_right, mem_blockPixels]

section Frame
variable (hwidth : width ≤ 65500) (hheight : height ≤ 65500)
include hwidth hheight

theorem tintedPixels_inFrame {activeBlocks : Nat → Nat → Bool} {point : Nat × Nat}
    (h : point ∈ tintedPixels width height activeBlocks) :
    point.1 < width ∧ point.2 < height := by
  obtain ⟨block, hblock, -, hcontains⟩ := mem_tintedPixels.mp h
  exact contains_inFrame hwidth hheight hblock hcontains

theorem mem_maskUpdates {activeBlocks : Nat → Nat → Bool} {update : Updates.Update UInt16} :
    update ∈ maskUpdates width height activeBlocks ↔
      ∃ point ∈ tintedPixels width height activeBlocks,
        update = ⟨Raster.address width point.1 point.2, redTintRgb565⟩ := by
  rw [maskUpdates_eq, List.mem_map]
  constructor
  · intro h
    obtain ⟨point, hpoint, rfl⟩ := h
    obtain ⟨hx, hy⟩ := tintedPixels_inFrame hwidth hheight hpoint
    exact ⟨point, hpoint, by rw [pixelIndex_eq hwidth hheight hx hy]⟩
  · intro h
    obtain ⟨point, hpoint, rfl⟩ := h
    obtain ⟨hx, hy⟩ := tintedPixels_inFrame hwidth hheight hpoint
    exact ⟨point, hpoint, by rw [pixelIndex_eq hwidth hheight hx hy]⟩

theorem tintedPixels_nodup (activeBlocks : Nat → Nat → Bool) :
    (tintedPixels width height activeBlocks).Nodup := by
  rw [tintedPixels, List.nodup_flatMap]
  constructor
  · intro block _
    split
    · exact blockPixels_nodup width height block
    · exact List.nodup_nil
  · apply gridBlocks_nodup.imp_of_mem
    intro block block' hblock hblock' hne point hpoint hpoint'
    have hcontains := mem_blockPixels.mp (List.mem_ite_nil_right.mp hpoint).2
    have hcontains' := mem_blockPixels.mp (List.mem_ite_nil_right.mp hpoint').2
    obtain ⟨hx, hy⟩ := contains_inFrame hwidth hheight hblock hcontains
    have hunique := existsUnique_block hwidth hheight hx hy
    exact hne (hunique.unique ⟨hblock, hcontains⟩ ⟨hblock', hcontains'⟩)

/-- No pixel is updated twice, since a pixel has one index. -/
theorem maskUpdates_nodup (activeBlocks : Nat → Nat → Bool) :
    ((maskUpdates width height activeBlocks).map Updates.Update.cell).Nodup := by
  rw [maskUpdates_eq, List.map_map]
  apply (tintedPixels_nodup hwidth hheight activeBlocks).map_on
  intro point hpoint point' hpoint' heq
  obtain ⟨hx, hy⟩ := tintedPixels_inFrame hwidth hheight hpoint
  obtain ⟨hx', hy'⟩ := tintedPixels_inFrame hwidth hheight hpoint'
  change pixelIndex width point.1 point.2 = pixelIndex width point'.1 point'.2 at heq
  rw [pixelIndex_eq hwidth hheight hx hy, pixelIndex_eq hwidth hheight hx' hy'] at heq
  obtain ⟨hcol, hrow⟩ := Raster.address_injective hx hx' heq
  exact Prod.ext hcol hrow

/-- The mask is one map over the pixels: the rectangles of the blocks tile the frame, every
index lies in it, and a pixel is tinted once if its block is active and kept otherwise. -/
theorem mask_tints_active_pixels {pixels : List UInt16} (hsize : pixels.length = width * height)
    (activeBlocks : Nat → Nat → Bool) :
    (∀ point : Nat × Nat, point.1 < width → point.2 < height →
      ∃! block, block ∈ gridBlocks ∧ point ∈ blockPixels width height block) ∧
    (∀ block ∈ gridBlocks, ∀ point ∈ blockPixels width height block,
      pixelIndex width point.1 point.2 = point.2 * width + point.1 ∧
        point.2 * width + point.1 < width * height) ∧
    (drawRgb565MotionMask pixels width height activeBlocks).length = width * height ∧
    ∀ block ∈ gridBlocks, ∀ point ∈ blockPixels width height block,
      (drawRgb565MotionMask pixels width height activeBlocks)[point.2 * width + point.1]? =
        pixels[point.2 * width + point.1]?.map
          (if activeBlocks block.1 block.2 then redTintRgb565 else id) := by
  have hnodup := maskUpdates_nodup hwidth hheight activeBlocks
  refine ⟨?_, ?_, ?_, ?_⟩
  · intro point hx hy
    simpa only [mem_blockPixels] using existsUnique_block hwidth hheight hx hy
  · intro block hblock point hpoint
    obtain ⟨hx, hy⟩ := contains_inFrame hwidth hheight hblock (mem_blockPixels.mp hpoint)
    exact ⟨pixelIndex_eq hwidth hheight hx hy, Raster.address_lt hx hy⟩
  · rw [drawRgb565MotionMask_eq, Updates.length_apply, hsize]
  · intro block hblock point hpoint
    have hcontains := mem_blockPixels.mp hpoint
    obtain ⟨hx, hy⟩ := contains_inFrame hwidth hheight hblock hcontains
    rw [drawRgb565MotionMask_eq]
    by_cases hactive : activeBlocks block.1 block.2 = true
    · rw [if_pos hactive]
      have hupdate := (mem_maskUpdates hwidth hheight).mpr
        ⟨point, mem_tintedPixels.mpr ⟨block, hblock, hactive, hcontains⟩, rfl⟩
      exact Updates.apply_once hnodup hupdate pixels
    · rw [if_neg hactive, Option.map_id, id]
      apply Updates.apply_untouched
      intro update hupdate heq
      obtain ⟨point', hpoint', rfl⟩ := (mem_maskUpdates hwidth hheight).mp hupdate
      obtain ⟨hx', -⟩ := tintedPixels_inFrame hwidth hheight hpoint'
      obtain ⟨hcol, hrow⟩ := Raster.address_injective hx' hx heq
      have hsame : point' = point := Prod.ext hcol hrow
      subst hsame
      obtain ⟨other, hother, hon, hcontains'⟩ := mem_tintedPixels.mp hpoint'
      have hunique := existsUnique_block hwidth hheight hx hy
      rw [hunique.unique ⟨hblock, hcontains⟩ ⟨hother, hcontains'⟩] at hactive
      exact hactive hon

end Frame

/-- A frame that is smaller than the grid: of its two pixels the second is tinted. -/
theorem mask_tints_active_pixels_twoPixels :
    drawRgb565MotionMask [0xffff, 0xffff] 2 1 (fun row col => row == 47 && col == 63) =
        [0xffff, redTintRgb565 0xffff] ∧
      ∀ block ∈ gridBlocks, ∀ point ∈ blockPixels 2 1 block,
        pixelIndex 2 point.1 point.2 = point.2 * 2 + point.1 ∧ point.2 * 2 + point.1 < 2 * 1 := by
  have hmask := mask_tints_active_pixels (show 2 ≤ 65500 by decide) (show 1 ≤ 65500 by decide)
    (show [(0xffff : UInt16), 0xffff].length = 2 * 1 from rfl) fun row col => row == 47 && col == 63
  exact ⟨by decide +kernel, hmask.2.1⟩

end CameraGateway
