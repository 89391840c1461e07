import CameraGateway.Core.HttpService
import CameraGateway.Library.Bands
import CameraGateway.Library.Raster
import CameraGateway.Metatheory.MotionArithmetic

/-!
Where the blocks of the motion grid lie. Within the dimensions that libjpeg supports the
products of the source do not wrap, so the edges of the blocks are the bands of the width
and of the height, the block of a sample is its scaled place, and the index of a pixel is
its address in a picture of rows.
-/
namespace CameraGateway

section Edges

theorem blockEdge_eq {size count i : Nat} (hsize : size ≤ 65500) (hi : i ≤ 64) :
    blockEdge size count i = Bands.edge size count i := by
  have hbound : i * size ≤ 64 * 65500 := Nat.mul_le_mul hi hsize
  rw [blockEdge, u32, Nat.mod_eq_of_lt (by omega), Bands.edge]

theorem blockEdge_mono {size count i j : Nat} (hsize : size ≤ 65500) (hij : i ≤ j) (hj : j ≤ 64) :
    blockEdge size count i ≤ blockEdge size count j := by
  rw [blockEdge_eq hsize (Nat.le_trans hij hj), blockEdge_eq hsize hj]
  exact Bands.edge_mono hij

theorem box_far_edge {size count lo hi : Nat} (hsize : size ≤ 65500)
    (hle : lo ≤ hi) (hhi : hi < 64) :
    blockEdge size count lo +
        u32 (blockEdge size count (hi + 1) + 2 ^ 32 - blockEdge size count lo) =
      blockEdge size count (hi + 1) := by
  have hmono := @blockEdge_mono size count lo (hi + 1) hsize (show lo ≤ hi + 1 by omega) hhi
  have hbound : blockEdge size count (hi + 1) ≤ 64 * 65500 := by
    rw [blockEdge_eq hsize hhi]
    exact Nat.le_trans (Nat.div_le_self _ _) (Nat.mul_le_mul hhi hsize)
  have hwrap : blockEdge size count (hi + 1) + 2 ^ 32 - blockEdge size count lo =
      blockEdge size count (hi + 1) - blockEdge size count lo + 2 ^ 32 := by
    omega
  rw [u32, hwrap, Nat.add_mod_right, Nat.mod_eq_of_lt (by omega)]
  omega

end Edges

section Boxes

structure Box.Inside (inner outer : Box) : Prop where
  left : outer.x ≤ inner.x
  top : outer.y ≤ inner.y
  right : inner.x + inner.w ≤ outer.x + outer.w
  bottom : inner.y + inner.h ≤ outer.y + outer.h

def MotionResult.box (result : MotionResult) : Box :=
  ⟨result.boxX, result.boxY, result.boxW, result.boxH⟩

def HttpService.box (service : HttpService) : Box :=
  ⟨service.motionBoxX, service.motionBoxY, service.motionBoxW, service.motionBoxH⟩

structure Box.Contains (box : Box) (point : Nat × Nat) : Prop where
  left : box.x ≤ point.1
  right : point.1 < box.x + box.w
  top : box.y ≤ point.2
  bottom : point.2 < box.y + box.h

theorem Box.Inside.contains {inner outer : Box} (h : inner.Inside outer) {point : Nat × Nat}
    (hpoint : inner.Contains point) : outer.Contains point :=
  ⟨Nat.le_trans h.left hpoint.left, Nat.lt_of_lt_of_le hpoint.right h.right,
    Nat.le_trans h.top hpoint.top, Nat.lt_of_lt_of_le hpoint.bottom h.bottom⟩

/-- The rectangle of pixels that the mask paints for the block `(row, col)`. -/
def blockBox (width height : Nat) (block : Nat × Nat) : Box :=
  { x := blockEdge width motionGridCols block.2
    y := blockEdge height motionGridRows block.1
    w := blockEdge width motionGridCols (block.2 + 1) - blockEdge width motionGridCols block.2
    h := blockEdge height motionGridRows (block.1 + 1) - blockEdge height motionGridRows block.1 }

def blockPixels (width height : Nat) (block : Nat × Nat) : List (Nat × Nat) :=
  (between (blockEdge height motionGridRows block.1)
      (blockEdge height motionGridRows (block.1 + 1))).flatMap fun y =>
    (between (blockEdge width motionGridCols block.2)
      (blockEdge width motionGridCols (block.2 + 1))).map fun x => (x, y)

theorem mem_between {lo hi x : Nat} : x ∈ between lo hi ↔ lo ≤ x ∧ x < hi := by
  simp only [between, List.mem_map, List.mem_range]
  constructor
  · rintro ⟨i, hi, rfl⟩
    omega
  · intro h
    exact ⟨x - lo, by omega, by omega⟩

theorem between_nodup (lo hi : Nat) : (between lo hi).Nodup :=
  List.nodup_range.map fun _ _ h => Nat.add_left_cancel h

theorem mem_blockPixels {width height : Nat} {block point : Nat × Nat} :
    point ∈ blockPixels width height block ↔ (blockBox width height block).Contains point := by
  obtain ⟨x, y⟩ := point
  simp only [blockPixels, List.mem_flatMap, List.mem_map, mem_between, Prod.mk.injEq]
  constructor
  · rintro ⟨y', hy, x', hx, rfl, rfl⟩
    constructor <;> simp only [blockBox] <;> omega
  · rintro ⟨hleft, hright, htop, hbottom⟩
    simp only [blockBox] at hleft hright htop hbottom
    exact ⟨y, by omega, x, by omega, rfl, rfl⟩

theorem blockPixels_nodup (width height : Nat) (block : Nat × Nat) :
    (blockPixels width height block).Nodup := by
  apply Raster.nodup_loops (between_nodup _ _) (between_nodup _ _)
  intro y y' x x' h
  exact ⟨congrArg Prod.snd h, congrArg Prod.fst h⟩

end Boxes

/-- The index of a pixel of an array that fits into 32 bits is its address. -/
theorem pixelIndex_address {width height x y : Nat} (hx : x < width) (hy : y < height)
    (hfits : width * height < 2 ^ 32) : pixelIndex width x y = Raster.address width x y := by
  have haddress := Raster.address_lt hx hy
  rw [Raster.address] at haddress ⊢
  rw [pixelIndex, u32, u32, Nat.mod_eq_of_lt (show y * width < 2 ^ 32 by omega),
    Nat.mod_eq_of_lt (by omega)]

section Frame
variable {width height : Nat} (hwidth : width ≤ 65500) (hheight : height ≤ 65500)
include hwidth hheight

theorem contains_iff {block point : Nat × Nat} (hblock : block ∈ gridBlocks) :
    (blockBox width height block).Contains point ↔
      Bands.Within width 64 block.2 point.1 ∧ Bands.Within height 48 block.1 point.2 := by
  obtain ⟨hrow, hcol⟩ := mem_gridBlocks_iff.mp hblock
  have hleft : blockEdge width motionGridCols block.2 = Bands.edge width 64 block.2 :=
    blockEdge_eq hwidth (by omega)
  have hright : blockEdge width motionGridCols (block.2 + 1) =
      Bands.edge width 64 (block.2 + 1) := blockEdge_eq hwidth (by omega)
  have htop : blockEdge height motionGridRows block.1 = Bands.edge height 48 block.1 :=
    blockEdge_eq hheight (by omega)
  have hbottom : blockEdge height motionGridRows (block.1 + 1) =
      Bands.edge height 48 (block.1 + 1) := blockEdge_eq hheight (by omega)
  constructor
  · rintro ⟨h1, h2, h3, h4⟩
    simp only [blockBox, hleft, hright, htop, hbottom] at h1 h2 h3 h4
    exact ⟨⟨h1, by omega⟩, h3, by omega⟩
  · rintro ⟨⟨h1, h2⟩, h3, h4⟩
    constructor <;> simp only [blockBox, hleft, hright, htop, hbottom] <;> omega

/-- Every pixel of the frame is in exactly one block. -/
theorem existsUnique_block {point : Nat × Nat} (hx : point.1 < width) (hy : point.2 < height) :
    ∃! block, block ∈ gridBlocks ∧ (blockBox width height block).Contains point := by
  obtain ⟨col, ⟨hcol, hwithin⟩, -⟩ := Bands.existsUnique_within (show 0 < 64 by decide) hx
  obtain ⟨row, ⟨hrow, hwithin'⟩, -⟩ := Bands.existsUnique_within (show 0 < 48 by decide) hy
  have hblock : (row, col) ∈ gridBlocks := mem_gridBlocks_iff.mpr ⟨hrow, hcol⟩
  refine ⟨(row, col), ⟨hblock, (contains_iff hwidth hheight hblock).mpr ⟨hwithin, hwithin'⟩⟩, ?_⟩
  rintro ⟨row', col'⟩ ⟨hblock', hcontains⟩
  obtain ⟨hx', hy'⟩ := (contains_iff hwidth hheight hblock').mp hcontains
  rw [Bands.within_unique hwithin hx', Bands.within_unique hwithin' hy']

theorem contains_inFrame {block point : Nat × Nat} (hblock : block ∈ gridBlocks)
    (h : (blockBox width height block).Contains point) : point.1 < width ∧ point.2 < height := by
  obtain ⟨hrow, hcol⟩ := mem_gridBlocks_iff.mp hblock
  obtain ⟨hx, hy⟩ := (contains_iff hwidth hheight hblock).mp h
  exact ⟨Bands.within_lt_size (by decide) hcol hx, Bands.within_lt_size (by decide) hrow hy⟩

theorem pixelIndex_eq {x y : Nat} (hx : x < width) (hy : y < height) :
    pixelIndex width x y = Raster.address width x y := by
  have hsize : width * height ≤ 65500 * 65500 := Nat.mul_le_mul hwidth hheight
  exact pixelIndex_address hx hy (by omega)

end Frame

end CameraGateway
