import CameraGateway.Core.CaptureLoops
import CameraGateway.Core.Framebuffer
import CameraGateway.Core.Gateway

/-!
The screen under the two loops that draw: `camera_capture_to_framebuffer`, and the capture
thread of the HTTP service with its `http_service_draw_lcd_frame`. In their own models a draw
is an outcome in the label. Here the memory of the screen is part of the state, a draw is
`framebuffer_display_draw_rgb565` on it, and a run goes on only with the outcome that this call
has; the blocks of memory that the labels bring have the sizes of their allocations.
-/
namespace CameraGateway

section Screens

structure DrawArguments where
  pixels : List UInt16
  width : Nat
  height : Nat

def DrawArguments.draw (arguments : DrawArguments) (fb : FramebufferDisplay) (mem : List UInt8) :
    Int × List UInt8 :=
  framebufferDisplayDrawRgb565 fb mem arguments.pixels arguments.width arguments.height

structure Screen (α : Type) where
  mem : List UInt8
  shown : Option α

def Screen.draw {α : Type} (screen : Screen α) (fb : FramebufferDisplay) (frame : α)
    (arguments : DrawArguments) : Screen α :=
  { mem := (arguments.draw fb screen.mem).2
    shown := if (arguments.draw fb screen.mem).1 = 0 then some frame else screen.shown }

end Screens

section Preview

/-- What a pass of `camera_capture_to_framebuffer` draws: the bytes of a YUYV frame, or a
decoded picture. -/
inductive PreviewFrame where
  | yuyv (memory : List UInt8)
  | decoded (picture : Picture)

def previewFrame (config : CameraConfig) (pass : FramebufferPass) : Option PreviewFrame :=
  match pass.driver with
  | .dequeued _ memory bytesused =>
      if bytesused = 0 ∨ config.pixelFormat = v4l2PixFmtYuyv ∧
          bytesused.toNat < FramebufferCapture.yuyvSize config then none
      else if config.pixelFormat = v4l2PixFmtYuyv then some (.yuyv memory)
      else pass.decoded.map fun picture => .decoded picture
  | _ => none

/-- `buffer` is `yuyv_rgb565` before the pass. -/
def PreviewFrame.arguments (config : CameraConfig) (buffer : List UInt16) :
    PreviewFrame → DrawArguments
  | .yuyv memory =>
      { pixels := yuyvToRgb565 memory buffer config.width.toNat config.height.toNat
        width := config.width.toNat, height := config.height.toNat }
  | .decoded picture =>
      { pixels := picture.pixels, width := picture.width, height := picture.height }

def Picture.inMemory (picture : Picture) : Bool := decide (2 * picture.pixels.length < 2 ^ 32)

def watchPreview (config : CameraConfig) (fb : FramebufferDisplay) (capture : FramebufferCapture) :
    FramebufferAction → Screen PreviewFrame → Screen PreviewFrame
  | .pass pass, screen =>
      match previewFrame config pass with
      | none => screen
      | some frame =>
          screen.draw fb frame (frame.arguments config (capture.yuyvRgb565.getD []))
  | _, screen => screen

/-- The label agrees with the memory. -/
def previewAnswers (config : CameraConfig) (fb : FramebufferDisplay)
    (s : FramebufferCapture × Screen PreviewFrame) : FramebufferAction → Bool
  | .opened (some buffer) _ => 2 * buffer.length == FramebufferCapture.yuyvAllocation config
  | .pass pass =>
      pass.decoded.all Picture.inMemory &&
        match previewFrame config pass with
        | none => true
        | some frame =>
            pass.draw ==
              (((frame.arguments config (s.1.yuyvRgb565.getD [])).draw fb s.2.mem).1 == 0)
  | _ => true

def previewOnScreen (config : CameraConfig) (fb : FramebufferDisplay) (mem : List UInt8) :
    TransitionSystem.System (FramebufferCapture × Screen PreviewFrame) FramebufferAction :=
  ((cameraCaptureToFramebuffer config).observe { mem := mem, shown := none }
    (watchPreview config fb)).restrict (previewAnswers config fb)

end Preview

section Lcd

/-- A decoded picture, with what the detector has found in it, if it is on. -/
structure LcdFrame where
  picture : Picture
  result : Option MotionResult

def LcdFrame.arguments (config : CameraConfig) (frame : LcdFrame) : DrawArguments :=
  { pixels :=
      match frame.result with
      | none => frame.picture.pixels
      | some result => maskedPixels config frame.picture result
    width := frame.picture.width, height := frame.picture.height }

def lcdFrame (config : CameraConfig) (service : HttpService) (picture : Picture) (malloc : Bool) :
    Option LcdFrame :=
  if config.motionDetect then
    match motionBlock config service picture malloc with
    | .unallocated _ => none
    | .processed _ result _ => some { picture := picture, result := some result }
  else some { picture := picture, result := none }

structure Lcd extends Screen LcdFrame where
  pending : Option LcdFrame

def watchLcd (config : CameraConfig) (fb : FramebufferDisplay) (g : Gateway) : Action → Lcd → Lcd
  | .capture (.decoded (some picture) malloc), lcd =>
      { lcd with pending := lcdFrame config g.service picture malloc }
  | .capture (.drawn _), lcd =>
      match lcd.pending with
      | none => lcd
      | some frame =>
          if config.fbPreview then
            { lcd with toScreen := lcd.toScreen.draw fb frame (frame.arguments config) }
          else lcd
  | _, lcd => lcd

def lcdAnswers (config : CameraConfig) (fb : FramebufferDisplay) (s : Gateway × Lcd) :
    Action → Bool
  | .capture (.decoded picture _) => picture.all Picture.inMemory
  | .capture (.drawn ok) =>
      match s.2.pending with
      | none => true
      | some frame => !config.fbPreview || ok == (((frame.arguments config).draw fb s.2.mem).1 == 0)
  | _ => true

def gatewayOnScreen (config : CameraConfig) (fb : FramebufferDisplay) (mem : List UInt8) :
    TransitionSystem.System (Gateway × Lcd) Action :=
  ((gateway config).observe { mem := mem, shown := none, pending := none }
    (watchLcd config fb)).restrict (lcdAnswers config fb)

end Lcd

end CameraGateway
