import CameraGateway.Library.Extent
import CameraGateway.Metatheory.MotionMask

/-!
The published box. The loop over the blocks keeps the least and the greatest column and row
of an active block; the box that is made of them is the hull of the rectangles that the mask
paints, for any set of active blocks and any size of the frame.
-/
namespace CameraGateway

section Scan
variable {sums : MotionSums} {threshold : Nat}

def activeAmong (sums : MotionSums) (threshold : Nat) (blocks : List (Nat × Nat)) :
    List (Nat × Nat) :=
  blocks.filter fun block => decide (Active sums threshold block)

/-- What the loop keeps of the active blocks it has visited. -/
structure Spanned (sums : MotionSums) (threshold : Nat) (blocks : List (Nat × Nat))
    (scan : BlockScan) : Prop where
  cols : Extent.Bounds motionGridCols ((activeAmong sums threshold blocks).map Prod.snd)
    scan.minX scan.maxX
  rows : Extent.Bounds motionGridRows ((activeAmong sums threshold blocks).map Prod.fst)
    scan.minY scan.maxY

theorem Spanned.visit {blocks : List (Nat × Nat)} {scan : BlockScan} {block : Nat × Nat}
    (h : Spanned sums threshold blocks scan) (hblock : block ∈ gridSet) :
    Spanned sums threshold (blocks ++ [block]) (visitBlock sums threshold scan block) := by
  obtain ⟨hrow, hcol⟩ : block.1 < motionGridRows ∧ block.2 < motionGridCols := by
    simpa [gridSet] using hblock
  by_cases hactive : Active sums threshold block
  · have hreached : blockDelta sums block.1 block.2 ≥ threshold := hactive
    have hmore : activeAmong sums threshold (blocks ++ [block]) =
        activeAmong sums threshold blocks ++ [block] := by
      simp [activeAmong, hactive]
    constructor <;>
      simp only [hmore, List.map_append, List.map_singleton, visitBlock, hreached, if_true]
    · exact h.cols.snoc hcol
    · exact h.rows.snoc hrow
  · have hsame : activeAmong sums threshold (blocks ++ [block]) =
        activeAmong sums threshold blocks := by
      simp [activeAmong, hactive]
    rw [visitBlock_inactive hactive]
    constructor <;> rw [hsame]
    · exact h.cols
    · exact h.rows

theorem Spanned.foldl {visited : List (Nat × Nat)} {scan : BlockScan}
    (h : Spanned sums threshold visited scan) {blocks : List (Nat × Nat)}
    (hblocks : ∀ block ∈ blocks, block ∈ gridSet) :
    Spanned sums threshold (visited ++ blocks) (blocks.foldl (visitBlock sums threshold) scan) := by
  induction blocks generalizing visited scan with
  | nil => simpa using h
  | cons block blocks ih =>
      have hnext := h.visit (hblocks block (List.mem_cons_self ..))
      simpa using ih hnext fun other hother => hblocks other (List.mem_cons_of_mem _ hother)

theorem spanned_start : Spanned sums threshold [] BlockScan.start :=
  ⟨Extent.Bounds.nil _, Extent.Bounds.nil _⟩

theorem spanned (sums : MotionSums) (threshold : Nat) :
    Spanned sums threshold gridBlocks (scanBlocks sums threshold) :=
  spanned_start.foldl fun _ h => mem_gridBlocks.mp h

theorem mem_activeAmong {row col : Nat} :
    (row, col) ∈ activeAmong sums threshold gridBlocks ↔
      (scanBlocks sums threshold).active row col = true := by
  rw [(scanned sums threshold).active]
  simp [activeAmong]

/-- The bounds are in order when a block is active. -/
theorem scan_inOrder_iff (sums : MotionSums) (threshold : Nat) :
    ((scanBlocks sums threshold).minX ≤ (scanBlocks sums threshold).maxX ∧
        (scanBlocks sums threshold).minY ≤ (scanBlocks sums threshold).maxY) ↔
      ∃ row col, (scanBlocks sums threshold).active row col = true := by
  have hcols := (spanned sums threshold).cols.le_iff (by decide)
  have hrows := (spanned sums threshold).rows.le_iff (by decide)
  rw [ne_eq, List.map_eq_nil_iff] at hcols hrows
  rw [hcols, hrows, and_self]
  constructor
  · intro hne
    obtain ⟨⟨row, col⟩, hblock⟩ := List.exists_mem_of_ne_nil _ hne
    exact ⟨row, col, mem_activeAmong.mp hblock⟩
  · rintro ⟨row, col, hactive⟩ hempty
    have hmem := mem_activeAmong.mpr hactive
    rw [hempty] at hmem
    cases hmem

theorem active_inGrid {row col : Nat} (h : (scanBlocks sums threshold).active row col = true) :
    row < 48 ∧ col < 64 := by
  have hblock := (((scanned sums threshold).active row col).mp h).1
  exact mem_gridBlocks_iff.mp hblock

/-- The box of a scan lies in the grid. -/
theorem scanBlocks_inGrid (sums : MotionSums) (threshold : Nat) :
    (scanBlocks sums threshold).maxX < motionGridCols ∧
      (scanBlocks sums threshold).maxY < motionGridRows := by
  constructor
  · apply (spanned sums threshold).cols.greatest_lt (by decide)
    intro col hcol
    obtain ⟨⟨row, col⟩, hmem, rfl⟩ := List.mem_map.mp hcol
    exact (active_inGrid (mem_activeAmong.mp hmem)).2
  · apply (spanned sums threshold).rows.greatest_lt (by decide)
    intro row hrow
    obtain ⟨⟨row, col⟩, hmem, rfl⟩ := List.mem_map.mp hrow
    exact (active_inGrid (mem_activeAmong.mp hmem)).1

theorem exists_active (marks : Nat → Nat → Bool) :
    ∃ sums, ∀ row col, row < motionGridRows → col < motionGridCols →
      (scanBlocks sums 1).active row col = marks row col := by
  refine ⟨{ MotionSums.zero with
    blockDeltaSum := fun row col => (marks row col).toNat, blockSamples := fun _ _ => 1 }, ?_⟩
  intro row col hrow hcol
  have hblock : (row, col) ∈ gridBlocks := mem_gridBlocks_iff.mpr ⟨hrow, hcol⟩
  rw [Bool.eq_iff_iff, (scanned _ _).active]
  simp only [hblock, true_and, Active, blockDelta, Nat.zero_lt_one, if_true, Nat.div_one]
  cases marks row col <;> decide

end Scan

section Hull
variable {width height : Nat}

/-- The box is the hull of the rectangles of the active blocks and lies in the frame. -/
structure TightHull (width height : Nat) (active : Nat → Nat → Bool) (box : Box) : Prop where
  inWidth : box.x + box.w ≤ width
  inHeight : box.y + box.h ≤ height
  covers : ∀ row col, active row col = true → (blockBox width height (row, col)).Inside box
  left : ∃ row col, active row col = true ∧ (blockBox width height (row, col)).x = box.x
  top : ∃ row col, active row col = true ∧ (blockBox width height (row, col)).y = box.y
  right : ∃ row col, active row col = true ∧
    (blockBox width height (row, col)).x + (blockBox width height (row, col)).w = box.x + box.w
  bottom : ∃ row col, active row col = true ∧
    (blockBox width height (row, col)).y + (blockBox width height (row, col)).h = box.y + box.h
  nonempty : 64 ≤ width → 48 ≤ height → 0 < box.w ∧ 0 < box.h

theorem add_blockEdge {size count i : Nat} (hsize : size ≤ 65500) (hi : i < 64) :
    blockEdge size count i + (blockEdge size count (i + 1) - blockEdge size count i) =
      blockEdge size count (i + 1) :=
  Nat.add_sub_of_le (blockEdge_mono hsize (Nat.le_succ i) hi)

theorem box_side_pos {size count lo hi : Nat} (hsize : size ≤ 65500) (hcount : 0 < count)
    (hmany : count ≤ size) (hle : lo ≤ hi) (hhi : hi < 64) :
    0 < u32 (blockEdge size count (hi + 1) + 2 ^ 32 - blockEdge size count lo) := by
  have hfar := @box_far_edge size count lo hi hsize hle hhi
  have hnear := @blockEdge_mono size count lo hi hsize hle (Nat.le_of_lt hhi)
  have hlast := @Bands.edge_lt_succ size count hi hcount hmany
  rw [← blockEdge_eq hsize (Nat.le_of_lt hhi),
    ← @blockEdge_eq size count (hi + 1) hsize hhi] at hlast
  omega

theorem scanBox_hull (hwidth : width ≤ 65500) (hheight : height ≤ 65500) {sums : MotionSums}
    {threshold : Nat} (h : ∃ row col, (scanBlocks sums threshold).active row col = true) :
    TightHull width height (scanBlocks sums threshold).active
      (scanBox width height (scanBlocks sums threshold)) := by
  have hcols := (spanned sums threshold).cols
  have hrows := (spanned sums threshold).rows
  obtain ⟨hx, hy⟩ := (scan_inOrder_iff sums threshold).mpr h
  have hne : activeAmong sums threshold gridBlocks ≠ [] := by
    have hmapped := (hcols.le_iff (by decide)).mp hx
    rwa [ne_eq, List.map_eq_nil_iff] at hmapped
  have hmapped : ∀ f : Nat × Nat → Nat, (activeAmong sums threshold gridBlocks).map f ≠ [] := by
    intro f
    rwa [ne_eq, List.map_eq_nil_iff]
  obtain ⟨hminX, hmaxX⟩ := hcols.attained (hmapped Prod.snd)
  obtain ⟨hminY, hmaxY⟩ := hrows.attained (hmapped Prod.fst)
  obtain ⟨⟨leftRow, leftCol⟩, hleft, hleftX⟩ := List.mem_map.mp hminX
  obtain ⟨⟨rightRow, rightCol⟩, hright, hrightX⟩ := List.mem_map.mp hmaxX
  obtain ⟨⟨topRow, topCol⟩, htop, htopY⟩ := List.mem_map.mp hminY
  obtain ⟨⟨bottomRow, bottomCol⟩, hbottom, hbottomY⟩ := List.mem_map.mp hmaxY
  rw [mem_activeAmong] at hleft hright htop hbottom
  dsimp only at hleftX hrightX htopY hbottomY
  have hlastX : (scanBlocks sums threshold).maxX < 64 := hrightX ▸ (active_inGrid hright).2
  have hlastY : (scanBlocks sums threshold).maxY < 48 := hbottomY ▸ (active_inGrid hbottom).1
  have hfarX := @box_far_edge width motionGridCols _ _ hwidth hx hlastX
  have hfarY := @box_far_edge height motionGridRows _ _ hheight hy (by omega)
  refine ⟨?_, ?_, ?_, ⟨leftRow, leftCol, hleft, ?_⟩, ⟨topRow, topCol, htop, ?_⟩,
    ⟨rightRow, rightCol, hright, ?_⟩, ⟨bottomRow, bottomCol, hbottom, ?_⟩, ?_⟩
  · show blockEdge width motionGridCols _ + u32 _ ≤ width
    rw [hfarX, blockEdge_eq hwidth hlastX]
    exact Bands.edge_le_size hlastX (by decide)
  · show blockEdge height motionGridRows _ + u32 _ ≤ height
    rw [hfarY, blockEdge_eq hheight (by omega)]
    exact Bands.edge_le_size hlastY (by decide)
  · intro row col hactive
    obtain ⟨hrow, hcol⟩ := active_inGrid hactive
    have hmem := mem_activeAmong.mpr hactive
    have hlowX := hcols.lower col (List.mem_map_of_mem hmem)
    have hhighX := hcols.upper col (List.mem_map_of_mem hmem)
    have hlowY := hrows.lower row (List.mem_map_of_mem hmem)
    have hhighY := hrows.upper row (List.mem_map_of_mem hmem)
    constructor
    · exact blockEdge_mono hwidth hlowX (by omega)
    · exact blockEdge_mono hheight hlowY (by omega)
    · show blockEdge width motionGridCols col + _ ≤ blockEdge width motionGridCols _ + u32 _
      rw [hfarX]
      exact (add_blockEdge hwidth hcol).le.trans (blockEdge_mono hwidth (by omega) hlastX)
    · show blockEdge height motionGridRows row + _ ≤ blockEdge height motionGridRows _ + u32 _
      rw [hfarY]
      exact (add_blockEdge hheight (by omega)).le.trans
        (blockEdge_mono hheight (by omega) (by omega))
  · show blockEdge width motionGridCols leftCol = blockEdge width motionGridCols _
    rw [hleftX]
  · show blockEdge height motionGridRows topRow = blockEdge height motionGridRows _
    rw [htopY]
  · show blockEdge width motionGridCols rightCol + _ = blockEdge width motionGridCols _ + u32 _
    rw [hfarX, ← hrightX]
    exact add_blockEdge hwidth (active_inGrid hright).2
  · show blockEdge height motionGridRows bottomRow + _ = blockEdge height motionGridRows _ + u32 _
    rw [hfarY, ← hbottomY]
    exact add_blockEdge hheight (by have := (active_inGrid hbottom).1; omega)
  · intro hwide hhigh
    exact ⟨box_side_pos hwidth (by decide) hwide hx hlastX,
      box_side_pos hheight (by decide) hhigh hy (by omega)⟩

theorem detectMotion_compared (picture : Picture) (baseline : List UInt16) {threshold : Nat} :
    (detectMotion picture (some baseline) threshold).activeBlocks =
        (scanBlocks (sampleSums picture (some baseline)) threshold).active ∧
      (detectMotion picture (some baseline) threshold).boxPeakDelta =
        (scanBlocks (sampleSums picture (some baseline)) threshold).peakDelta := by
  simp only [detectMotion, Option.isSome_some, if_true, and_self]

/-- What is published for a picture is the box of its scan. -/
theorem detectMotion_scan (picture : Picture) (baseline : List UInt16) (threshold : Nat) :
    let result := detectMotion picture (some baseline) threshold
    let scan := scanBlocks (sampleSums picture (some baseline)) threshold
    result.activeBlocks = scan.active ∧
      (result.boxValid = true ↔ scan.minX ≤ scan.maxX ∧ scan.minY ≤ scan.maxY) ∧
      (result.boxValid = true → result.box = scanBox picture.width picture.height scan) := by
  dsimp only
  have hvalid : (detectMotion picture (some baseline) threshold).boxValid = true ↔
      (scanBlocks (sampleSums picture (some baseline)) threshold).minX ≤
          (scanBlocks (sampleSums picture (some baseline)) threshold).maxX ∧
        (scanBlocks (sampleSums picture (some baseline)) threshold).minY ≤
          (scanBlocks (sampleSums picture (some baseline)) threshold).maxY := by
    simp only [detectMotion, Option.isSome_some, Bool.true_and, if_true, BlockScan.boxValid_iff]
  refine ⟨(detectMotion_compared picture baseline).1, hvalid, ?_⟩
  intro hbox
  have hscan : (scanBlocks (sampleSums picture (some baseline)) threshold).boxValid = true :=
    (BlockScan.boxValid_iff _).mpr (hvalid.mp hbox)
  simp only [MotionResult.box, detectMotion, Option.isSome_some, if_true, hscan, Bool.and_self]

theorem detectMotion_hull (picture : Picture) (previous : Option (List UInt16))
    (threshold : Nat) :
    let result := detectMotion picture previous threshold
    (result.boxValid = true ↔ ∃ row col, result.activeBlocks row col = true) ∧
      (result.boxValid = true →
        TightHull picture.width picture.height result.activeBlocks result.box) := by
  dsimp only
  cases previous with
  | none => simp [detectMotion, BlockScan.start]
  | some baseline =>
      obtain ⟨hactive, hvalid, hbox⟩ := detectMotion_scan picture baseline threshold
      have hiff := hvalid.trans (scan_inOrder_iff (sampleSums picture (some baseline)) threshold)
      rw [hactive]
      refine ⟨hiff, fun hshown => ?_⟩
      rw [hbox hshown]
      exact scanBox_hull picture.width_le picture.height_le (hiff.mp hshown)

end Hull

/-- The box of any set of active blocks in a frame of any size is there when the set is not
empty, and it is then the hull of the painted rectangles, without an underflow. Every set
of blocks is one that the scan can find; what is published for a picture that is compared
are the blocks and the box of the scan of its samples. -/
theorem motion_box_is_hull {width height : Nat} (hwidth : width ≤ 65500)
    (hheight : height ≤ 65500) :
    (∀ (sums : MotionSums) (threshold : Nat),
      let scan := scanBlocks sums threshold
      (scan.boxValid = true ↔ ∃ row col, scan.active row col = true) ∧
      ((∃ row col, scan.active row col = true) →
        blockEdge width motionGridCols scan.minX ≤
            blockEdge width motionGridCols (scan.maxX + 1) ∧
          blockEdge height motionGridRows scan.minY ≤
            blockEdge height motionGridRows (scan.maxY + 1) ∧
          TightHull width height scan.active (scanBox width height scan))) ∧
    (∀ marks : Nat → Nat → Bool, ∃ sums, ∀ row col, row < motionGridRows → col < motionGridCols →
      (scanBlocks sums 1).active row col = marks row col) ∧
    (∀ (picture : Picture) (baseline : List UInt16) (threshold : Nat),
      picture.width = width → picture.height = height →
      let result := detectMotion picture (some baseline) threshold
      let scan := scanBlocks (sampleSums picture (some baseline)) threshold
      result.activeBlocks = scan.active ∧ result.boxValid = scan.boxValid ∧
        result.detected = scan.boxValid ∧
        (scan.boxValid = true → result.box = scanBox width height scan)) ∧
    ∀ (picture : Picture) (previous : Option (List UInt16)) (threshold : Nat),
      picture.width = width → picture.height = height →
      let result := detectMotion picture previous threshold
      (result.boxValid = true ↔ ∃ row col, result.activeBlocks row col = true) ∧
      (result.boxValid = true → TightHull width height result.activeBlocks result.box) := by
  refine ⟨?_, exists_active, ?_, ?_⟩
  · intro sums threshold
    dsimp only
    refine ⟨(BlockScan.boxValid_iff _).trans (scan_inOrder_iff sums threshold), fun hactive => ?_⟩
    obtain ⟨hx, hy⟩ := (scan_inOrder_iff sums threshold).mpr hactive
    obtain ⟨hlastX, hlastY⟩ := scanBlocks_inGrid sums threshold
    rw [motionGridCols] at hlastX
    rw [motionGridRows] at hlastY
    refine ⟨blockEdge_mono hwidth ?_ ?_, blockEdge_mono hheight ?_ ?_,
      scanBox_hull hwidth hheight hactive⟩ <;> omega
  · rintro picture baseline threshold rfl rfl
    obtain ⟨hactive, -, hbox⟩ := detectMotion_scan picture baseline threshold
    have hvalid : (detectMotion picture (some baseline) threshold).boxValid =
        (scanBlocks (sampleSums picture (some baseline)) threshold).boxValid := by
      simp only [detectMotion, Option.isSome_some, Bool.true_and, if_true]
    refine ⟨hactive, hvalid, ?_, fun hscan => hbox (hvalid.trans hscan)⟩
    simp only [detectMotion, Option.isSome_some, Bool.true_and, if_true]
  · rintro picture previous threshold rfl rfl
    exact detectMotion_hull picture previous threshold

/-- Two blocks on a diagonal of the grid. -/
def diagonalSums : MotionSums :=
  { MotionSums.zero with
    blockDeltaSum := fun row col => if (row, col) = (2, 1) ∨ (row, col) = (46, 62) then 1 else 0
    blockSamples := fun _ _ => 1 }

/-- The box of these blocks in a frame of 100 x 50 pixels. -/
theorem motion_box_is_hull_diagonal :
    ((scanBox 100 50 (scanBlocks diagonalSums 1)).x = 1 ∧
        (scanBox 100 50 (scanBlocks diagonalSums 1)).w = 97 ∧
        (scanBox 100 50 (scanBlocks diagonalSums 1)).y = 2 ∧
        (scanBox 100 50 (scanBlocks diagonalSums 1)).h = 46) ∧
      TightHull 100 50 (scanBlocks diagonalSums 1).active
        (scanBox 100 50 (scanBlocks diagonalSums 1)) := by
  have hactive : (scanBlocks diagonalSums 1).active 2 1 = true := by decide +kernel
  have hhull := motion_box_is_hull (show 100 ≤ 65500 by decide) (show 50 ≤ 65500 by decide)
  exact ⟨by decide +kernel, ((hhull.1 diagonalSums 1).2 ⟨2, 1, hactive⟩).2.2⟩

end CameraGateway
