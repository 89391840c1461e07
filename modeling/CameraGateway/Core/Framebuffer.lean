import CameraGateway.Core.MotionDetect
import CameraGateway.Library.LittleEndian

/-!
Drawing into the framebuffer: `scale_color`, `pack_color`, `put_pixel` and
`framebuffer_display_draw_rgb565` of src/framebuffer_display.c. The mapping is a list of
`mem_size` bytes and offsets into it are `size_t` values. A shift by 32 or more, which C
leaves undefined, shifts everything out here.
-/
namespace CameraGateway

structure FbBitfield where
  offset : UInt32
  length : UInt32
deriving DecidableEq, Repr

/-- The fields of `struct fb_var_screeninfo` that the drawing reads. -/
structure FbVarScreeninfo where
  xres : UInt32
  yres : UInt32
  xresVirtual : UInt32
  yresVirtual : UInt32
  xoffset : UInt32
  yoffset : UInt32
  bitsPerPixel : UInt32
  red : FbBitfield
  green : FbBitfield
  blue : FbBitfield
  transp : FbBitfield
deriving DecidableEq, Repr

/-- The fields of `struct fb_fix_screeninfo` that are used. -/
structure FbFixScreeninfo where
  smemLen : UInt32
  lineLength : UInt32
deriving DecidableEq, Repr

/-- An opened display, which maps the whole memory of the screen. -/
structure FramebufferDisplay where
  memSize : Nat
  fix : FbFixScreeninfo
  var : FbVarScreeninfo
  mapped : memSize = fix.smemLen.toNat

section Colours

def scaleColor (value length : Nat) : Nat :=
  if length = 0 then 0
  else if length ≥ 8 then u32 (value <<< (length - 8))
  else value >>> (8 - length)

/-- `scale_color(value, field.length) << field.offset`. -/
def placeColor (field : FbBitfield) (value : Nat) : Nat :=
  u32 (scaleColor value field.length.toNat <<< field.offset.toNat)

def packColor (var : FbVarScreeninfo) (r g b : Nat) : Nat :=
  let pixel := 0
  let pixel := pixel ||| placeColor var.red r
  let pixel := pixel ||| placeColor var.green g
  let pixel := pixel ||| placeColor var.blue b
  if var.transp.length > 0 then pixel ||| placeColor var.transp 255 else pixel

def screenColor (var : FbVarScreeninfo) (rgb565 : UInt16) : Nat :=
  packColor var (redOf rgb565) (greenOf rgb565) (blueOf rgb565)

end Colours

section Pixels

def memcpy (mem : List UInt8) (offset : Nat) : List UInt8 → List UInt8
  | [] => mem
  | byte :: bytes => memcpy (mem.set offset byte) (offset + 1) bytes

def bytesPerPixel (fb : FramebufferDisplay) : Nat := fb.var.bitsPerPixel.toNat / 8

def pixelOffset (fb : FramebufferDisplay) (x y : Nat) : Nat :=
  u32 (u32 (u32 (y + fb.var.yoffset.toNat) * fb.fix.lineLength.toNat) +
    u32 (u32 (x + fb.var.xoffset.toNat) * bytesPerPixel fb))

def putPixel (fb : FramebufferDisplay) (mem : List UInt8) (x y color : Nat) : List UInt8 :=
  if bytesPerPixel fb = 2 then
    memcpy mem (pixelOffset fb x y) (LittleEndian.encode 2 (color % 2 ^ 16))
  else if bytesPerPixel fb = 4 then memcpy mem (pixelOffset fb x y) (LittleEndian.encode 4 color)
  else mem

end Pixels

section Drawing

/-- `i * size / count`, the source column or row for one of the screen. -/
def sourcePlace (i size count : Nat) : Nat := u32 (i * size) / count

def sourcePixel (fb : FramebufferDisplay) (pixels : List UInt16) (width height x y : Nat) :
    UInt16 :=
  let srcY := sourcePlace y height fb.var.yres.toNat
  let srcX := sourcePlace x width fb.var.xres.toNat
  pixels.getD (pixelIndex width srcX srcY) 0

def framebufferDisplayDrawRgb565 (fb : FramebufferDisplay) (mem : List UInt8)
    (pixels : List UInt16) (width height : Nat) : Int × List UInt8 :=
  if width = 0 ∨ height = 0 then (-1, mem)
  else if fb.var.bitsPerPixel ≠ 16 ∧ fb.var.bitsPerPixel ≠ 32 then (-1, mem)
  else
    (0, (List.range fb.var.yres.toNat).foldl (fun mem y =>
      (List.range fb.var.xres.toNat).foldl (fun mem x =>
        putPixel fb mem x y (screenColor fb.var (sourcePixel fb pixels width height x y))) mem) mem)

end Drawing
end CameraGateway
