import CameraGateway.Core.CaptureLoops

/-!
`parse_args` and `parse_port` of src/main.c, with `camera_config_init` and
`camera_parse_pixel_format` of src/v4l2_capture.c. The options of a command line are those that
`getopt_long` delivers, in their order; texts are those of C strings, without the final zero.
-/
namespace CameraGateway

section Atoi

/-- Whether a text begins with a minus sign, and what follows its sign. -/
def splitSign (text : List UInt8) : Bool × List UInt8 :=
  if text.head? = some 45 then (true, text.tail)
  else if text.head? = some 43 then (false, text.tail)
  else (false, text)

def digitsValue (digits : List UInt8) : Nat :=
  digits.foldl (fun value digit => 10 * value + (digit.toNat - 48)) 0

def signedValue (negative : Bool) (digits : List UInt8) : Int :=
  if negative then -digitsValue digits else digitsValue digits

/-- `(int)strtol(text, NULL, 10)`. A `long` has 32 bits on the target, and `strtol` stops at its
limits. -/
def atoi (text : List UInt8) : Int :=
  let signed := splitSign (text.dropWhile isSpace)
  max (-2 ^ 31) (min (2 ^ 31 - 1) (signedValue signed.1 (signed.2.takeWhile digitByte)))

end Atoi

section Values

/-- The text after the last `:`, or all of it. -/
def portText (value : List UInt8) : List UInt8 :=
  (value.reverse.takeWhile fun byte => byte != 58).reverse

def parsePort (value : List UInt8) : Int :=
  let port := atoi (portText value)
  if port ≤ 0 ∨ port > 65535 then -1 else port

def cameraParsePixelFormat (name : List UInt8) : Option UInt32 :=
  if name = ascii "YUYV" then some v4l2PixFmtYuyv
  else if name = ascii "NV12" then some 0x3231564e
  else if name = ascii "RGBP" then some 0x50424752
  else if name = ascii "MJPG" ∨ name = ascii "MJPEG" then some v4l2PixFmtMjpeg
  else none

/-- What `strncpy` leaves of a text in an array of `size` bytes that is then terminated. -/
def strncpy (text : List UInt8) (size : Nat) : List UInt8 := text.take (size - 1)

end Values

section Options

/-- An option with its `optarg`. `unknown` is what `getopt_long` reports as `?`. -/
inductive CommandOption where
  | device (optarg : List UInt8)
  | width (optarg : List UInt8)
  | height (optarg : List UInt8)
  | format (optarg : List UInt8)
  | fps (optarg : List UInt8)
  | frameCount (optarg : List UInt8)
  | output (optarg : List UInt8)
  | listFormats
  | noSave
  | saveFrames (optarg : List UInt8)
  | httpMjpeg (optarg : List UInt8)
  | fbTest (optarg : List UInt8)
  | fbPreview (optarg : List UInt8)
  | motionDetect
  | motionThreshold (optarg : List UInt8)
  | motionDir (optarg : List UInt8)
  | help
  | unknown
deriving DecidableEq, Repr

structure CommandConfig extends CaptureConfig where
  httpPort : Int
  fbDevice : List UInt8
deriving DecidableEq, Repr

structure CommandLine where
  config : CommandConfig
  listFormats : Bool
  fbTestDevice : List UInt8
deriving DecidableEq, Repr

def cameraConfigInit : CommandConfig :=
  { device := ascii "/dev/video1", width := 1024, height := 600, fps := 30, frameCount := 10
    fbPreview := false, motionDetect := false, motionThreshold := 20, motionSave := false
    motionDir := ascii "/tmp/motion", pixelFormat := v4l2PixFmtYuyv, output := ascii "output.yuv"
    frameDir := [], noSave := false, saveFrames := false, httpMjpeg := false, httpPort := 8080
    fbDevice := ascii "/dev/fb0" }

def parseOption (line : CommandLine) : CommandOption → Except Int CommandLine
  | .device optarg => .ok { line with config := { line.config with device := strncpy optarg 128 } }
  | .width optarg => .ok { line with config := { line.config with width := atoi optarg } }
  | .height optarg => .ok { line with config := { line.config with height := atoi optarg } }
  | .format optarg =>
      match cameraParsePixelFormat optarg with
      | none => .error (-1)
      | some format => .ok { line with config := { line.config with pixelFormat := format } }
  | .fps optarg => .ok { line with config := { line.config with fps := atoi optarg } }
  | .frameCount optarg => .ok { line with config := { line.config with frameCount := atoi optarg } }
  | .output optarg => .ok { line with config := { line.config with output := strncpy optarg 256 } }
  | .listFormats => .ok { line with listFormats := true }
  | .noSave => .ok { line with config := { line.config with noSave := true } }
  | .saveFrames optarg =>
      .ok { line with
        config := { line.config with saveFrames := true, frameDir := strncpy optarg 256 } }
  | .httpMjpeg optarg =>
      if parsePort optarg < 0 then .error (-1)
      else
        .ok { line with
          config := { line.config with httpPort := parsePort optarg, httpMjpeg := true } }
  | .fbTest optarg => .ok { line with fbTestDevice := strncpy optarg 128 }
  | .fbPreview optarg =>
      .ok { line with
        config := { line.config with fbPreview := true, fbDevice := strncpy optarg 128 } }
  | .motionDetect => .ok { line with config := { line.config with motionDetect := true } }
  | .motionThreshold optarg =>
      .ok { line with config := { line.config with motionThreshold := atoi optarg } }
  | .motionDir optarg =>
      .ok { line with
        config := { line.config with
          motionDetect := true, motionSave := true, motionDir := strncpy optarg 256 } }
  | .help => .error 1
  | .unknown => .error (-1)

def acceptsConfig (config : CommandConfig) : Bool :=
  if config.width ≤ 0 ∨ config.height ≤ 0 ∨ config.fps ≤ 0 ∨ config.frameCount < 0 then false
  else if config.noSave ∧ config.saveFrames then false
  else if config.httpMjpeg ∧ (config.noSave ∨ config.saveFrames) then false
  else if config.fbPreview ∧ (config.noSave ∨ config.saveFrames) then false
  else if config.motionThreshold ≤ 0 then false
  else if config.motionDetect ∧ config.pixelFormat ≠ v4l2PixFmtMjpeg then false
  else if config.motionDetect ∧ !config.httpMjpeg then false
  else true

def initialLine : CommandLine :=
  { config := cameraConfigInit, listFormats := false, fbTestDevice := [] }

/-- `parse_args` for `main`: a value other than 0 that it returns, or what it has filled in. -/
def parseArgs (options : List CommandOption) : Except Int CommandLine :=
  match options.foldlM parseOption initialLine with
  | .error ret => .error ret
  | .ok line => if acceptsConfig line.config then .ok line else .error (-1)

end Options

end CameraGateway
