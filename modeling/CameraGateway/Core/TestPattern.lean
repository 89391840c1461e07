import CameraGateway.Core.Framebuffer
import CameraGateway.Core.Lifetime

/-!
`draw_color_bars` and `framebuffer_test_pattern` of src/framebuffer_display.c. The screen
memory is the list of bytes that the mapping shows; the printed lines are left out.
-/
namespace CameraGateway

section Bars

def barColors : List (Nat × Nat × Nat) :=
  [(255, 0, 0), (0, 255, 0), (0, 0, 255), (255, 255, 0), (255, 0, 255), (0, 255, 255),
    (255, 255, 255), (0, 0, 0)]

def barPixel (var : FbVarScreeninfo) (bar : Nat) : Nat :=
  let color := barColors.getD bar (0, 0, 0)
  packColor var color.1 color.2.1 color.2.2

def drawColorBars (fb : FramebufferDisplay) (mem : List UInt8) : List UInt8 :=
  (List.range fb.var.yres.toNat).foldl (fun mem y =>
    (List.range fb.var.xres.toNat).foldl (fun mem x =>
      let bar := sourcePlace x barColors.length fb.var.xres.toNat
      putPixel fb mem x y (barPixel fb.var bar)) mem) mem

end Bars

section Pattern

/-- What the calls of `framebuffer_display_open` answer, with the information about the
screen. -/
structure ScreenOutcomes where
  calloc : Bool
  openDevice : Option Nat
  fixInfo : Option FbFixScreeninfo
  varInfo : Option FbVarScreeninfo
  mmap : Option Nat

def ScreenOutcomes.display (outcomes : ScreenOutcomes) : DisplayOutcomes :=
  { calloc := outcomes.calloc, openDevice := outcomes.openDevice
    fixInfo := outcomes.fixInfo.map fun fix => fix.smemLen.toNat
    varInfo := outcomes.varInfo.isSome, mmap := outcomes.mmap }

def ScreenOutcomes.screen (outcomes : ScreenOutcomes) : Option FramebufferDisplay :=
  match outcomes.fixInfo, outcomes.varInfo with
  | some fix, some var => some { memSize := fix.smemLen.toNat, fix := fix, var := var, mapped := rfl }
  | _, _ => none

structure TestCall extends Call where
  mem : List UInt8

def framebufferTestPattern (outcomes : ScreenOutcomes) (mem : List UInt8) : TestCall :=
  let opened := framebufferDisplayOpen outcomes.display
  match opened.out, outcomes.screen with
  | some display, some fb =>
      let ops := opened.ops ++ framebufferDisplayClose (some display)
      -- `memset`
      let mem := List.replicate fb.memSize 0
      if fb.var.bitsPerPixel = 16 ∨ fb.var.bitsPerPixel = 32 then
        { ret := 0, ops := ops, mem := drawColorBars fb mem }
      else { ret := -1, ops := ops, mem := mem }
  | _, _ => { ret := -1, ops := opened.ops, mem := mem }

end Pattern

end CameraGateway
