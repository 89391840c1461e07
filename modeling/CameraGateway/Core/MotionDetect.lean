import Mathlib.Algebra.Group.Int.Defs
import Mathlib.Algebra.Group.Nat.Defs

/-!
The motion detector inside `http_service_draw_lcd_frame`, as a function of the
decoded picture, the stored baseline and the threshold, and the mask it paints.

`unsigned int` and `size_t` are 32 bits wide on the target and `unsigned long
long` 64; every computation of the source that could leave its type is reduced
here. Two-dimensional arrays are functions of the row and the column.
-/
namespace CameraGateway

/-- `unsigned int`, and `size_t` on the target. -/
def u32 (n : Nat) : Nat := n % 2 ^ 32

/-- `unsigned long long`. -/
def u64 (n : Nat) : Nat := n % 2 ^ 64

structure Picture where
  width : Nat
  height : Nat
  pixels : List UInt16
  width_pos : 0 < width
  width_le : width ≤ 65500
  height_pos : 0 < height
  height_le : height ≤ 65500
  size_eq : pixels.length = width * height

def motionGridCols : Nat := 64
def motionGridRows : Nat := 48
def motionSampleStep : Nat := 4

section Pixels

def redOf (pixel : UInt16) : Nat := ((pixel.toNat >>> 11) &&& 0x1f) * 255 / 31
def greenOf (pixel : UInt16) : Nat := ((pixel.toNat >>> 5) &&& 0x3f) * 255 / 63
def blueOf (pixel : UInt16) : Nat := (pixel.toNat &&& 0x1f) * 255 / 31

def rgb565Luma (pixel : UInt16) : Nat :=
  (redOf pixel * 77 + greenOf pixel * 150 + blueOf pixel * 29) >>> 8

def redTintRgb565 (pixel : UInt16) : UInt16 :=
  let r := (redOf pixel + 255) / 2
  let g := greenOf pixel / 3
  let b := blueOf pixel / 3
  UInt16.ofNat (((r * 31 / 255) <<< 11) ||| ((g * 63 / 255) <<< 5) ||| (b * 31 / 255))

end Pixels

section Sampling

/-- `for (i = 0; i < limit; i += MOTION_SAMPLE_STEP)`. -/
def strided (limit : Nat) : List Nat :=
  (List.range ((limit + (motionSampleStep - 1)) / motionSampleStep)).map (· * motionSampleStep)

def samplePoints (width height : Nat) : List (Nat × Nat) :=
  (strided height).flatMap fun y => (strided width).map fun x => (x, y)

structure MotionSums where
  brightnessSum : Nat
  deltaSum : Nat
  blockDeltaSum : Nat → Nat → Nat
  blockSamples : Nat → Nat → Nat
  sampleCount : Nat

def MotionSums.zero : MotionSums :=
  { brightnessSum := 0, deltaSum := 0, blockDeltaSum := fun _ _ => 0
    blockSamples := fun _ _ => 0, sampleCount := 0 }

/-- `array[row][col] += amount` on `unsigned int` cells. -/
def addAt (array : Nat → Nat → Nat) (row col amount : Nat) : Nat → Nat → Nat :=
  fun r c => if r = row ∧ c = col then u32 (array r c + amount) else array r c

def blockOf (width height x y : Nat) : Nat × Nat :=
  let blockX := u32 (x * motionGridCols) / width
  let blockY := u32 (y * motionGridRows) / height
  (if motionGridRows ≤ blockY then motionGridRows - 1 else blockY,
    if motionGridCols ≤ blockX then motionGridCols - 1 else blockX)

def pixelIndex (width x y : Nat) : Nat := u32 (u32 (y * width) + x)

def sampleDelta (luma prevLuma : Nat) : Nat :=
  if luma > prevLuma then luma - prevLuma else prevLuma - luma

def lumaAt (width : Nat) (pixels : List UInt16) (point : Nat × Nat) : Nat :=
  rgb565Luma (pixels.getD (pixelIndex width point.1 point.2) 0)

def addSample (picture : Picture) (previous : Option (List UInt16)) (sums : MotionSums)
    (point : Nat × Nat) : MotionSums :=
  let luma := lumaAt picture.width picture.pixels point
  let sums := { sums with brightnessSum := u64 (sums.brightnessSum + luma) }
  let sums :=
    match previous with
    | none => sums
    | some baseline =>
        let delta := sampleDelta luma (lumaAt picture.width baseline point)
        let block := blockOf picture.width picture.height point.1 point.2
        { sums with
          deltaSum := u64 (sums.deltaSum + delta)
          blockDeltaSum := addAt sums.blockDeltaSum block.1 block.2 delta
          blockSamples := addAt sums.blockSamples block.1 block.2 1 }
  { sums with sampleCount := u32 (sums.sampleCount + 1) }

def sampleSums (picture : Picture) (previous : Option (List UInt16)) : MotionSums :=
  (samplePoints picture.width picture.height).foldl (addSample picture previous) MotionSums.zero

end Sampling

section Blocks

structure BlockScan where
  peakDelta : Nat
  active : Nat → Nat → Bool
  activeCount : Nat
  minX : Nat
  minY : Nat
  maxX : Nat
  maxY : Nat

def BlockScan.start : BlockScan :=
  { peakDelta := 0, active := fun _ _ => false, activeCount := 0
    minX := motionGridCols, minY := motionGridRows, maxX := 0, maxY := 0 }

def blockDelta (sums : MotionSums) (row col : Nat) : Nat :=
  if sums.blockSamples row col > 0 then sums.blockDeltaSum row col / sums.blockSamples row col
  else 0

def gridBlocks : List (Nat × Nat) :=
  (List.range motionGridRows).flatMap fun row =>
    (List.range motionGridCols).map fun col => (row, col)

def visitBlock (sums : MotionSums) (threshold : Nat) (scan : BlockScan)
    (block : Nat × Nat) : BlockScan :=
  let delta := blockDelta sums block.1 block.2
  let scan := { scan with
    peakDelta := if delta > scan.peakDelta then delta else scan.peakDelta }
  if delta ≥ threshold then
    { scan with
      active := fun r c => if r = block.1 ∧ c = block.2 then true else scan.active r c
      activeCount := u32 (scan.activeCount + 1)
      minX := if block.2 < scan.minX then block.2 else scan.minX
      minY := if block.1 < scan.minY then block.1 else scan.minY
      maxX := if block.2 > scan.maxX then block.2 else scan.maxX
      maxY := if block.1 > scan.maxY then block.1 else scan.maxY }
  else scan

def scanBlocks (sums : MotionSums) (threshold : Nat) : BlockScan :=
  gridBlocks.foldl (visitBlock sums threshold) BlockScan.start

end Blocks

structure MotionResult where
  brightness : Nat
  delta : Nat
  detected : Bool
  boxValid : Bool
  boxX : Nat
  boxY : Nat
  boxW : Nat
  boxH : Nat
  boxPeakDelta : Nat
  activeBlockCount : Nat
  activeBlocks : Nat → Nat → Bool

/-- The pixel at which the block in a column starts, `i * size / count`. -/
def blockEdge (size count i : Nat) : Nat := u32 (i * size) / count

structure Box where
  x : Nat
  y : Nat
  w : Nat
  h : Nat
deriving DecidableEq, Repr

def BlockScan.boxValid (scan : BlockScan) : Bool :=
  decide (scan.minX ≤ scan.maxX) && decide (scan.minY ≤ scan.maxY)

theorem BlockScan.boxValid_iff (scan : BlockScan) :
    scan.boxValid = true ↔ scan.minX ≤ scan.maxX ∧ scan.minY ≤ scan.maxY := by
  rw [BlockScan.boxValid, Bool.and_eq_true, decide_eq_true_eq, decide_eq_true_eq]

def scanBox (width height : Nat) (scan : BlockScan) : Box :=
  let x := blockEdge width motionGridCols scan.minX
  let y := blockEdge height motionGridRows scan.minY
  { x := x
    y := y
    w := u32 (blockEdge width motionGridCols (scan.maxX + 1) + 2 ^ 32 - x)
    h := u32 (blockEdge height motionGridRows (scan.maxY + 1) + 2 ^ 32 - y) }

def detectMotion (picture : Picture) (previous : Option (List UInt16)) (threshold : Nat) :
    MotionResult :=
  let sums := sampleSums picture previous
  let scan := if previous.isSome then scanBlocks sums threshold else BlockScan.start
  let boxValid := previous.isSome && scan.boxValid
  let box := scanBox picture.width picture.height scan
  { brightness := if sums.sampleCount > 0 then u32 (sums.brightnessSum / sums.sampleCount) else 0
    delta :=
      if sums.sampleCount > 0 ∧ previous.isSome then u32 (sums.deltaSum / sums.sampleCount) else 0
    detected := previous.isSome && boxValid
    boxValid := boxValid
    boxX := if boxValid then box.x else 0
    boxY := if boxValid then box.y else 0
    boxW := if boxValid then box.w else 0
    boxH := if boxValid then box.h else 0
    boxPeakDelta := scan.peakDelta
    activeBlockCount := scan.activeCount
    activeBlocks := scan.active }

/-- `for (i = lo; i < hi; ++i)`. -/
def between (lo hi : Nat) : List Nat := (List.range (hi - lo)).map (lo + ·)

def drawRgb565MotionMask (pixels : List UInt16) (width height : Nat)
    (activeBlocks : Nat → Nat → Bool) : List UInt16 :=
  gridBlocks.foldl (fun pixels block =>
    if activeBlocks block.1 block.2 then
      (between (blockEdge height motionGridRows block.1)
          (blockEdge height motionGridRows (block.1 + 1))).foldl (fun pixels y =>
        (between (blockEdge width motionGridCols block.2)
            (blockEdge width motionGridCols (block.2 + 1))).foldl (fun pixels x =>
          pixels.modify (pixelIndex width x y) redTintRgb565) pixels) pixels
    else pixels) pixels

end CameraGateway
