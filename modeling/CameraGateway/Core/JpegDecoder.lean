import CameraGateway.Core.Yuyv
import CameraGateway.Library.TransitionSystem

/-!
src/jpeg_decoder.c: the source manager through which libjpeg reads a block of memory, and the
loop that stores the scanlines as RGB565 pixels. libjpeg itself is not modelled: what it asks
of the source manager and what its calls come to is chosen by the environment.
-/
namespace CameraGateway

section Source

def eoiBuffer : List UInt8 := [0xff, 0xd9]

/-- What `next_input_byte` points into. -/
inductive SourceBlock where
  | data
  | eoiBuffer
deriving DecidableEq, Repr

/-- `memory_source_t`: the input, and the range that the public fields describe. -/
structure MemorySource where
  data : List UInt8
  block : SourceBlock
  nextInputByte : Nat
  bytesInBuffer : Nat
deriving DecidableEq, Repr

def jpegMemorySource (data : List UInt8) : MemorySource :=
  { data := data, block := .data, nextInputByte := 0, bytesInBuffer := data.length }

def memoryFillInputBuffer (source : MemorySource) : MemorySource :=
  { source with
    block := .eoiBuffer
    nextInputByte := 0
    bytesInBuffer := CameraGateway.eoiBuffer.length }

/-- A positive `long` keeps its value in the conversion to `size_t`. -/
def memorySkipInputData (source : MemorySource) (numBytes : Int) : MemorySource :=
  if numBytes ≤ 0 then source
  else if numBytes.toNat > source.bytesInBuffer then memoryFillInputBuffer source
  else
    { source with
      nextInputByte := source.nextInputByte + numBytes.toNat
      bytesInBuffer := source.bytesInBuffer - numBytes.toNat }

def MemorySource.contents (source : MemorySource) : List UInt8 :=
  match source.block with
  | .data => source.data
  | .eoiBuffer => eoiBuffer

/-- The bytes that libjpeg may read now. -/
def MemorySource.window (source : MemorySource) : List UInt8 :=
  (source.contents.drop source.nextInputByte).take source.bytesInBuffer

inductive SourceAction where
  | consume (count : Nat)
  | fillInputBuffer
  | skipInputData (numBytes : Int)

/-- `fill_input_buffer` is called for an empty buffer, and no more bytes are taken than there
are. -/
def MemorySource.step (source : MemorySource) : SourceAction → Option MemorySource
  | .consume count =>
      if count ≤ source.bytesInBuffer then
        some { source with
          nextInputByte := source.nextInputByte + count
          bytesInBuffer := source.bytesInBuffer - count }
      else none
  | .fillInputBuffer =>
      if source.bytesInBuffer = 0 then some (memoryFillInputBuffer source) else none
  | .skipInputData numBytes => some (memorySkipInputData source numBytes)

def memorySource (data : List UInt8) : TransitionSystem.System MemorySource SourceAction where
  init := jpegMemorySource data
  step := MemorySource.step

end Source

section Decoding

structure JpegDimensions where
  width : Nat
  height : Nat
  width_pos : 0 < width
  width_le : width ≤ 65500
  height_pos : 0 < height
  height_le : height ≤ 65500

/-- What the calls of one decoding come to. `none` and `false` are failures; those of libjpeg
jump to the error handler. -/
structure DecodeOutcomes where
  /-- `jpeg_read_header` and `jpeg_start_decompress`. -/
  start : Option JpegDimensions
  malloc : Option (List UInt16)
  allocSarray : Bool
  readScanlines : Nat → Option (List UInt8)
  finish : Bool

/-- The status, the size of the block if it was allocated, the stores of the loop, and the
picture that is handed out. -/
structure Decoding where
  ret : Int
  allocated : Option Nat
  stores : List (Nat × UInt16)
  pixels : Option (List UInt16)

def rgb888ToRgb565 (r g b : Nat) : UInt16 := rgbToRgb565 r g b

/-- The size in bytes of the block for the pixels, a product of three factors in `size_t`. -/
def decodedSize (width height : Nat) : Nat := u32 (u32 (width * height) * 2)

def scanlineStores (width y : Nat) (rgb : List UInt8) : List (Nat × UInt16) :=
  (List.range width).map fun x =>
    (pixelIndex width x y,
      rgb888ToRgb565 (rgb.getD (x * 3) 0).toNat (rgb.getD (x * 3 + 1) 0).toNat
        (rgb.getD (x * 3 + 2) 0).toNat)

/-- The passes from row `y` on, and whether no read has failed. -/
def decodeRows (readScanlines : Nat → Option (List UInt8)) (width y : Nat) :
    Nat → Bool × List (Nat × UInt16)
  | 0 => (true, [])
  | rows + 1 =>
      match readScanlines y with
      | none => (false, [])
      | some rgb =>
          let rest := decodeRows readScanlines width (y + 1) rows
          (rest.1, scanlineStores width y rgb ++ rest.2)

def storePixels (pixels : List UInt16) (stores : List (Nat × UInt16)) : List UInt16 :=
  stores.foldl (fun pixels store => pixels.set store.1 store.2) pixels

def jpegDecodeToRgb565 (jpegData : List UInt8) (outcomes : DecodeOutcomes) : Decoding :=
  if jpegData = [] then { ret := -1, allocated := none, stores := [], pixels := none }
  else
    match outcomes.start with
    | none => { ret := -1, allocated := none, stores := [], pixels := none }
    | some size =>
        match outcomes.malloc with
        | none => { ret := -1, allocated := none, stores := [], pixels := none }
        | some pixels =>
            let allocated := some (decodedSize size.width size.height)
            if !outcomes.allocSarray then
              { ret := -1, allocated := allocated, stores := [], pixels := none }
            else
              let rows := decodeRows outcomes.readScanlines size.width 0 size.height
              -- the error handler frees the pixels
              if !rows.1 || !outcomes.finish then
                { ret := -1, allocated := allocated, stores := rows.2, pixels := none }
              else
                { ret := 0, allocated := allocated, stores := rows.2
                  pixels := some (storePixels pixels rows.2) }

end Decoding

end CameraGateway
