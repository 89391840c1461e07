import CameraGateway.Core.Lifetime
import CameraGateway.Library.Enumeration
import CameraGateway.Library.LittleEndian

/-!
`camera_list_formats` of src/camera_device.c with the functions it calls. The answer of an
enumeration is a function of what is asked: the kernel keeps no state between such calls. A
line of the listing is the values that are printed in it; the frames for each second, which
the source computes in floating point, are left out of it.

The three loops of the source end only when the driver refuses an index. An index is a
`__u32` and comes round after 2^32 answers; `rounds` bounds each loop.
-/
namespace CameraGateway

section Driver

/-- `struct v4l2_fract`. -/
structure V4l2Fract where
  numerator : UInt32
  denominator : UInt32
deriving DecidableEq, Repr

/-- `struct v4l2_frmivalenum` by its `type`. -/
inductive FrameInterval where
  | discrete (interval : V4l2Fract)
  | continuous (min max step : V4l2Fract)
  | stepwise (min max step : V4l2Fract)
  | other
deriving DecidableEq, Repr

/-- `struct v4l2_frmsize_stepwise`. -/
structure V4l2SizeRange where
  minWidth : UInt32
  maxWidth : UInt32
  stepWidth : UInt32
  minHeight : UInt32
  maxHeight : UInt32
  stepHeight : UInt32
deriving DecidableEq, Repr

/-- `struct v4l2_frmsizeenum` by its `type`. -/
inductive FrameSize where
  | discrete (width height : UInt32)
  | continuous (range : V4l2SizeRange)
  | stepwise (range : V4l2SizeRange)
  | other
deriving DecidableEq, Repr

structure FormatDesc where
  pixelFormat : UInt32
  description : List UInt8
deriving DecidableEq, Repr

structure Capability where
  driver : List UInt8
  card : List UInt8
  busInfo : List UInt8
  capabilities : UInt32
deriving DecidableEq, Repr

/-- The answers of the driver, after the repetitions of `xioctl`; `none` is a failure. -/
structure ListingDriver where
  stat : Option Bool
  openDevice : Option Nat
  queryCap : Option Capability
  enumFmt : UInt32 → Option FormatDesc
  enumFrameSizes : UInt32 → UInt32 → Option FrameSize
  enumFrameIntervals : UInt32 → UInt32 → UInt32 → UInt32 → Option FrameInterval

end Driver

section Listing

def fourccToString (fourcc : UInt32) : List UInt8 :=
  (LittleEndian.encode 4 fourcc.toNat).takeWhile fun byte => byte != 0

inductive ListingLine where
  | device (name : List UInt8)
  | driver (name : List UInt8)
  | card (name : List UInt8)
  | bus (info : List UInt8)
  | caps (capabilities : UInt32)
  | supportedFormats
  | format (index : UInt32) (fourcc description : List UInt8)
  | size (width height : UInt32)
  | sizeRange (range : V4l2SizeRange)
  | interval (interval : V4l2Fract)
  | intervalRange (min max step : V4l2Fract)
deriving DecidableEq, Repr

def printInterval : FrameInterval → List ListingLine
  | .discrete interval => if interval.numerator ≠ 0 then [.interval interval] else []
  | .stepwise min max step | .continuous min max step => [.intervalRange min max step]
  | .other => []

def FrameInterval.isDiscrete : FrameInterval → Bool
  | .discrete _ => true
  | _ => false

def listFrameIntervals (rounds : Nat) (driver : ListingDriver)
    (pixelFormat width height : UInt32) : Option (List ListingLine) :=
  (Enumeration.collect
    (fun index => driver.enumFrameIntervals pixelFormat width height (UInt32.ofNat index))
    (fun interval => !interval.isDiscrete) (fun _ interval => some (printInterval interval))
    rounds 0).map Prod.fst

def FrameSize.isRange : FrameSize → Bool
  | .continuous _ | .stepwise _ => true
  | _ => false

/-- The body of the loop in `list_frame_sizes`. -/
def listFrameSize (rounds : Nat) (driver : ListingDriver) (pixelFormat : UInt32) :
    FrameSize → Option (List ListingLine)
  | .discrete width height =>
      (listFrameIntervals rounds driver pixelFormat width height).map (.size width height :: ·)
  | .stepwise range | .continuous range => some [.sizeRange range]
  | .other => some []

def listFrameSizes (rounds : Nat) (driver : ListingDriver) (pixelFormat : UInt32) :
    Option (List ListingLine) :=
  (Enumeration.collect (fun index => driver.enumFrameSizes pixelFormat (UInt32.ofNat index))
    FrameSize.isRange (fun _ size => listFrameSize rounds driver pixelFormat size)
    rounds 0).map Prod.fst

def listFormat (rounds : Nat) (driver : ListingDriver) (index : Nat) (format : FormatDesc) :
    Option (List ListingLine) :=
  (listFrameSizes rounds driver format.pixelFormat).map
    (.format (UInt32.ofNat index) (fourccToString format.pixelFormat) format.description :: ·)

structure ListingCall extends Call where
  lines : List ListingLine

def capabilityLines (device : List UInt8) (cap : Capability) : List ListingLine :=
  [.device device, .driver cap.driver, .card cap.card, .bus cap.busInfo, .caps cap.capabilities]

/-- `none` when a loop has not ended after `rounds` rounds. -/
def cameraListFormats (rounds : Nat) (device : List UInt8) (driver : ListingDriver) :
    Option ListingCall :=
  if driver.stat ≠ some true then some { ret := -1, ops := [], lines := [] }
  else
    match driver.openDevice with
    | none => some { ret := -1, ops := [], lines := [] }
    | some fd =>
        let ops : List (Ledger.Op Resource) :=
          [.acquire (.cameraFd fd), .release (.cameraFd fd)]
        match driver.queryCap with
        | none => some { ret := -1, ops := ops, lines := [] }
        | some cap =>
            let lines := capabilityLines device cap
            if cap.capabilities &&& v4l2CapVideoCapture = 0 then
              some { ret := -1, ops := ops, lines := lines }
            else
              (Enumeration.collect (fun index => driver.enumFmt (UInt32.ofNat index))
                (fun _ => false) (listFormat rounds driver) rounds 0).map fun listed =>
                { ret := if UInt32.ofNat listed.2 = 0 then -1 else 0
                  ops := ops, lines := lines ++ [.supportedFormats] ++ listed.1 }

end Listing

end CameraGateway
