import CameraGateway.Core.MotionDetect

/-!
`yuyv_to_rgb565` of src/v4l2_capture.c: the conversion of packed YUYV bytes into a
buffer of RGB565 pixels, which it writes in place.
-/
namespace CameraGateway

def clampU8 (value : Int) : Nat := if value < 0 then 0 else if value > 255 then 255 else value.toNat

def rgbToRgb565 (r g b : Nat) : UInt16 :=
  UInt16.ofNat (((r &&& 0xf8) <<< 8) ||| ((g &&& 0xfc) <<< 3) ||| ((b &&& 0xf8) >>> 3))

def yuvPixel (luma u v : UInt8) : UInt16 :=
  let y : Int := luma.toNat - 16
  let u : Int := u.toNat - 128
  let v : Int := v.toNat - 128
  let c : Int := if y < 0 then 0 else 298 * y
  rgbToRgb565 (clampU8 ((c + 409 * v + 128) >>> (8 : Nat)))
    (clampU8 ((c - 100 * u - 208 * v + 128) >>> (8 : Nat)))
    (clampU8 ((c + 516 * u + 128) >>> (8 : Nat)))

/-- The pairs of pixels of a row, `for (x = 0; x + 1 < width; x += 2)`. -/
def pixelPairs (width : Nat) : List Nat := (List.range (width / 2)).map (2 * ·)

/-- The pair at column `x` of row `y`. -/
def convertPair (yuyv : List UInt8) (width : Nat) (rgb565 : List UInt16) (y x : Nat) :
    List UInt16 :=
  let src := y * width * 2 + 2 * x
  let dst := y * width + x
  let y0 := yuyv.getD src 0
  let u := yuyv.getD (src + 1) 0
  let y1 := yuyv.getD (src + 2) 0
  let v := yuyv.getD (src + 3) 0
  (rgb565.set dst (yuvPixel y0 u v)).set (dst + 1) (yuvPixel y1 u v)

def yuyvToRgb565 (yuyv : List UInt8) (rgb565 : List UInt16) (width height : Nat) : List UInt16 :=
  (List.range height).foldl (fun rgb565 y =>
    (pixelPairs width).foldl (fun rgb565 x => convertPair yuyv width rgb565 y x) rgb565) rgb565

section Pointers

/-- The body of the inner loop on its pointers: `src`, which moves on by a group of four bytes,
and `dst`, the start of the row. -/
def stepPair (yuyv : List UInt8) (dst : Nat) (state : Nat × List UInt16) (x : Nat) :
    Nat × List UInt16 :=
  let src := state.1
  let y0 := yuyv.getD src 0
  let u := yuyv.getD (src + 1) 0
  let y1 := yuyv.getD (src + 2) 0
  let v := yuyv.getD (src + 3) 0
  (src + 4, (state.2.set (dst + x) (yuvPixel y0 u v)).set (dst + (x + 1)) (yuvPixel y1 u v))

/-- `yuyv_to_rgb565` with the pointers of the source and its `size_t` offsets. -/
def yuyvToRgb565Stepped (yuyv : List UInt8) (rgb565 : List UInt16) (width height : Nat) :
    List UInt16 :=
  (List.range height).foldl (fun rgb565 y =>
    ((pixelPairs width).foldl (stepPair yuyv (u32 (y * width)))
      (u32 (u32 (y * width) * 2), rgb565)).2) rgb565

end Pointers

section Accesses

/-- What the loops touch, in their order: the bytes they load, as indices from `yuyv`, and the
pixels they store, as indices from `rgb565`. -/
structure Accesses where
  loads : List Nat
  stores : List Nat
deriving DecidableEq, Repr

def touchPair (dst : Nat) (state : Nat × Accesses) (x : Nat) : Nat × Accesses :=
  let src := state.1
  (src + 4,
    { loads := state.2.loads ++ [src, src + 1, src + 2, src + 3]
      stores := state.2.stores ++ [dst + x, dst + (x + 1)] })

def yuyvAccesses (width height : Nat) : Accesses :=
  (List.range height).foldl (fun accesses y =>
    ((pixelPairs width).foldl (touchPair (u32 (y * width)))
      (u32 (u32 (y * width) * 2), accesses)).2) { loads := [], stores := [] }

end Accesses
end CameraGateway
