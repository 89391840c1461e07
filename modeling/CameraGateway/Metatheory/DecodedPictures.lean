import CameraGateway.Core.JpegDecoder
import CameraGateway.Core.LcdFrame
import CameraGateway.Library.Updates
import CameraGateway.Metatheory.MotionGeometry
import CameraGateway.Metatheory.MotionIndependence

/-!
The memory of decoded pictures on a machine with a `size_t` of 32 bits. The index of a pixel
never wraps within the dimensions that libjpeg supports, but its offset in bytes is twice as
large: a picture of 2 ^ 31 pixels or more is allocated with a size that has wrapped. A picture
that fits is decoded completely, and so is the baseline that the detector keeps of it.
-/
namespace CameraGateway

section Sizes
variable (size : JpegDimensions)

theorem pixels_lt : size.width * size.height < 2 ^ 32 :=
  Nat.lt_of_le_of_lt (Nat.mul_le_mul size.width_le size.height_le) (by decide)

theorem decodedSize_eq :
    decodedSize size.width size.height = 2 * (size.width * size.height) % 2 ^ 32 := by
  rw [decodedSize, u32, u32, Nat.mod_mul_mod, Nat.mul_comm 2]

theorem decodedSize_covers_iff :
    2 * (size.width * size.height) ≤ decodedSize size.width size.height ↔
      size.width * size.height < 2 ^ 31 := by
  rw [decodedSize_eq]
  omega

end Sizes

section Stores
variable {readScanlines : Nat → Option (List UInt8)} {width : Nat}

def decodedPixel (readScanlines : Nat → Option (List UInt8)) (x y : Nat) : UInt16 :=
  let rgb := (readScanlines y).getD []
  rgb888ToRgb565 (rgb.getD (x * 3) 0).toNat (rgb.getD (x * 3 + 1) 0).toNat
    (rgb.getD (x * 3 + 2) 0).toNat

theorem scanlineStores_eq {y : Nat} {rgb : List UInt8} (h : readScanlines y = some rgb) :
    scanlineStores width y rgb =
      (List.range width).map fun x => (pixelIndex width x y, decodedPixel readScanlines x y) := by
  simp only [scanlineStores, decodedPixel, h, Option.getD_some]

theorem decodeRows_cell {y rows : Nat} {store : Nat × UInt16}
    (h : store ∈ (decodeRows readScanlines width y rows).2) :
    ∃ x < width, ∃ y' < y + rows, store.1 = pixelIndex width x y' := by
  induction rows generalizing y with
  | zero => cases h
  | succ rows ih =>
      rw [decodeRows] at h
      cases hread : readScanlines y with
      | none =>
          rw [hread] at h
          cases h
      | some rgb =>
          rw [hread] at h
          rcases List.mem_append.mp h with hrow | hrest
          · rw [scanlineStores_eq hread] at hrow
            obtain ⟨x, hx, rfl⟩ := List.mem_map.mp hrow
            exact ⟨x, List.mem_range.mp hx, y, by omega, rfl⟩
          · obtain ⟨x, hx, y', hy', heq⟩ := ih hrest
            exact ⟨x, hx, y', by omega, heq⟩

theorem decodeRows_complete {y rows : Nat}
    (h : (decodeRows readScanlines width y rows).1 = true) :
    (decodeRows readScanlines width y rows).2 =
      (List.range rows).flatMap fun i => (List.range width).map fun x =>
        (pixelIndex width x (y + i), decodedPixel readScanlines x (y + i)) := by
  induction rows generalizing y with
  | zero => rfl
  | succ rows ih =>
      rw [decodeRows] at h ⊢
      cases hread : readScanlines y with
      | none =>
          rw [hread] at h
          cases h
      | some rgb =>
          rw [hread] at h
          simp only [scanlineStores_eq hread, ih h, List.range_succ_eq_map, List.flatMap_cons,
            List.flatMap_map, Nat.add_zero, Nat.succ_eq_add_one, Nat.add_assoc, Nat.add_comm 1]

theorem storePixels_eq (pixels : List UInt16) (stores : List (Nat × UInt16)) :
    storePixels pixels stores =
      Updates.apply pixels (stores.map fun store => .write store.1 store.2) := by
  induction stores generalizing pixels with
  | nil => rfl
  | cons store stores ih =>
      rw [List.map_cons, Updates.apply_cons, ← ih]
      exact congrArg (storePixels · stores) (Updates.set_eq_apply pixels store.1 store.2)

theorem storePixels_get (size : JpegDimensions) {block : List UInt16}
    (hblock : block.length = size.width * size.height) {x y : Nat} (hx : x < size.width)
    (hy : y < size.height) :
    (storePixels block ((List.range size.height).flatMap fun y => (List.range size.width).map
      fun x => (pixelIndex size.width x y, decodedPixel readScanlines x y)))[
        Raster.address size.width x y]? = some (decodedPixel readScanlines x y) := by
  have hcells : ((List.range size.height).flatMap fun y => (List.range size.width).map
      fun x => pixelIndex size.width x y) = List.range (size.width * size.height) := by
    rw [← Raster.addresses_eq_range]
    apply List.flatMap_congr
    intro y hy
    apply List.map_congr_left
    intro x hx
    exact pixelIndex_address (List.mem_range.mp hx) (List.mem_range.mp hy) (pixels_lt size)
  rw [storePixels_eq, ← pixelIndex_address hx hy (pixels_lt size)]
  apply Updates.apply_write
  · rw [List.map_flatMap, List.map_flatMap]
    simp only [List.map_map]
    show ((List.range size.height).flatMap fun y => (List.range size.width).map
      fun x => pixelIndex size.width x y).Nodup
    rw [hcells]
    exact List.nodup_range
  · apply List.mem_map.mpr
    refine ⟨(pixelIndex size.width x y, decodedPixel readScanlines x y), ?_, rfl⟩
    rw [List.mem_flatMap]
    exact ⟨y, List.mem_range.mpr hy, List.mem_map.mpr ⟨x, List.mem_range.mpr hx, rfl⟩⟩
  · rw [pixelIndex_address hx hy (pixels_lt size), hblock]
    exact Raster.address_lt hx hy

end Stores

section Decoded
variable {jpegData : List UInt8} {outcomes : DecodeOutcomes} {size : JpegDimensions}

/-- How a call on a picture of some size ends: before its block is allocated, before the loop,
or after the loop, and then with the picture only if nothing has failed. -/
theorem decode_cases (hstart : outcomes.start = some size) :
    ((jpegDecodeToRgb565 jpegData outcomes).allocated = none ∧
      (jpegDecodeToRgb565 jpegData outcomes).stores = [] ∧
      (jpegDecodeToRgb565 jpegData outcomes).pixels = none) ∨
    ∃ block, outcomes.malloc = some block ∧
      (jpegDecodeToRgb565 jpegData outcomes).allocated =
        some (decodedSize size.width size.height) ∧
      ((jpegDecodeToRgb565 jpegData outcomes).stores = [] ∧
          (jpegDecodeToRgb565 jpegData outcomes).pixels = none ∨
        (jpegDecodeToRgb565 jpegData outcomes).stores =
            (decodeRows outcomes.readScanlines size.width 0 size.height).2 ∧
          ((jpegDecodeToRgb565 jpegData outcomes).pixels = none ∨
            (decodeRows outcomes.readScanlines size.width 0 size.height).1 = true ∧
              (jpegDecodeToRgb565 jpegData outcomes).pixels = some (storePixels block
                (decodeRows outcomes.readScanlines size.width 0 size.height).2))) := by
  simp only [jpegDecodeToRgb565, hstart]
  split
  · exact .inl ⟨rfl, rfl, rfl⟩
  · cases hmalloc : outcomes.malloc with
    | none => exact .inl ⟨rfl, rfl, rfl⟩
    | some block =>
        simp only
        refine .inr ⟨block, rfl, ?_⟩
        split
        · exact ⟨rfl, .inl ⟨rfl, rfl⟩⟩
        · split
          · exact ⟨rfl, .inr ⟨rfl, .inl rfl⟩⟩
          · rename_i hok
            simp only [Bool.or_eq_true, Bool.not_eq_true', not_or, Bool.not_eq_false] at hok
            exact ⟨rfl, .inr ⟨rfl, .inr ⟨hok.1, rfl⟩⟩⟩

theorem decode_cell (hstart : outcomes.start = some size) {store : Nat × UInt16}
    (h : store ∈ (jpegDecodeToRgb565 jpegData outcomes).stores) :
    ∃ x < size.width, ∃ y < size.height, store.1 = Raster.address size.width x y := by
  have hrows : store ∈ (decodeRows outcomes.readScanlines size.width 0 size.height).2 := by
    obtain ⟨-, hstores, -⟩ | ⟨-, -, -, ⟨hstores, -⟩ | ⟨hstores, -⟩⟩ :=
      @decode_cases jpegData outcomes size hstart
    · rw [hstores] at h
      cases h
    · rw [hstores] at h
      cases h
    · rwa [hstores] at h
  obtain ⟨x, hx, y, hy, heq⟩ := decodeRows_cell hrows
  rw [Nat.zero_add] at hy
  exact ⟨x, hx, y, hy, heq.trans (pixelIndex_address hx hy (pixels_lt size))⟩

theorem decode_allocated (hstart : outcomes.start = some size) {bytes : Nat}
    (h : (jpegDecodeToRgb565 jpegData outcomes).allocated = some bytes) :
    bytes = decodedSize size.width size.height := by
  obtain ⟨hnone, -, -⟩ | ⟨-, -, hsome, -⟩ := @decode_cases jpegData outcomes size hstart
  · rw [hnone] at h
    cases h
  · rw [hsome] at h
    exact (Option.some.inj h).symm

/-- In a block of the right size a successful call leaves the picture that was read, whatever
the block held before. -/
theorem decoded_picture (hstart : outcomes.start = some size) {block pixels : List UInt16}
    (hmalloc : outcomes.malloc = some block) (hblock : block.length = size.width * size.height)
    (hpixels : (jpegDecodeToRgb565 jpegData outcomes).pixels = some pixels) :
    pixels.length = size.width * size.height ∧
      ∀ x < size.width, ∀ y < size.height,
        pixels[Raster.address size.width x y]? =
          some (decodedPixel outcomes.readScanlines x y) := by
  obtain ⟨-, -, hnone⟩ | ⟨block', hmalloc', -, ⟨-, hnone⟩ | ⟨-, hnone | ⟨hdone, hsome⟩⟩⟩ :=
    @decode_cases jpegData outcomes size hstart
  · rw [hnone] at hpixels
    cases hpixels
  · rw [hnone] at hpixels
    cases hpixels
  · rw [hnone] at hpixels
    cases hpixels
  rw [hmalloc, Option.some.injEq] at hmalloc'
  subst hmalloc'
  rw [hsome, Option.some.injEq, decodeRows_complete hdone] at hpixels
  subst hpixels
  simp only [Nat.zero_add]
  constructor
  · rw [storePixels_eq, Updates.length_apply, hblock]
  · intro x hx y hy
    exact storePixels_get size hblock hx hy

end Decoded

section Baseline
variable {config : CameraConfig} {service : HttpService} {block : Option Nat}

/-- The block of the baseline has the size for the dimensions that are kept with it. -/
structure BlockOf (service : HttpService) (block : Option Nat) : Prop where
  present : service.motionPrevious = none ↔ block = none
  size : ∀ bytes, block = some bytes →
    bytes = motionPreviousSize service.motionPreviousWidth service.motionPreviousHeight

theorem BlockOf.congr {service' : HttpService} (h : BlockOf service block)
    (hmotion : service'.motion = service.motion) : BlockOf service' block := by
  have hwidth : service'.motionPreviousWidth = service.motionPreviousWidth :=
    (congrArg HttpService.motionPreviousWidth hmotion :)
  have hheight : service'.motionPreviousHeight = service.motionPreviousHeight :=
    (congrArg HttpService.motionPreviousHeight hmotion :)
  have hprevious : service'.motionPrevious = service.motionPrevious :=
    (congrArg HttpService.motionPrevious hmotion :)
  constructor
  · rw [hprevious]
    exact h.present
  · rw [hwidth, hheight]
    exact h.size

theorem motionBlock_dimensions (picture : Picture) (malloc : Bool) :
    (motionBlock config service picture malloc).service.motionPreviousWidth = picture.width ∧
      (motionBlock config service picture malloc).service.motionPreviousHeight =
        picture.height := by
  have hresized : (resizeBaseline service picture).motionPreviousWidth = picture.width ∧
      (resizeBaseline service picture).motionPreviousHeight = picture.height := by
    rw [resizeBaseline]
    split
    · exact ⟨rfl, rfl⟩
    · rename_i hsame
      rw [not_or, not_ne_iff, not_ne_iff] at hsame
      exact hsame
  rw [motionBlock]
  split
  · exact hresized
  · exact hresized

/-- There is a baseline after the motion block exactly when there was one of the right size, or
the allocation has succeeded. -/
theorem motionBlock_previous (picture : Picture) (malloc : Bool) :
    (motionBlock config service picture malloc).service.motionPrevious = none ↔
      ((service.motionPreviousWidth ≠ picture.width ∨
          service.motionPreviousHeight ≠ picture.height) ∨ service.motionPrevious = none) ∧
        malloc = false := by
  have hresized : (resizeBaseline service picture).motionPrevious = none ↔
      (service.motionPreviousWidth ≠ picture.width ∨
        service.motionPreviousHeight ≠ picture.height) ∨ service.motionPrevious = none := by
    rw [resizeBaseline]
    split
    · rename_i hchanged
      exact ⟨fun _ => .inl hchanged, fun _ => rfl⟩
    · rename_i hsame
      exact ⟨.inr, fun h => h.resolve_left hsame⟩
  rw [← hresized, motionBlock]
  split
  · rename_i hfailed
    exact ⟨fun _ => hfailed, fun _ => hfailed.1⟩
  · rename_i hok
    constructor
    · intro h
      cases h
    · intro h
      exact absurd h hok

variable (hdetect : config.motionDetect = true)
include hdetect

theorem BlockOf.draw (h : BlockOf service block) (call : DrawCall) :
    BlockOf (httpServiceDrawLcdFrame config service call).service
      (motionPreviousBlock config service block call) := by
  have hmotion := httpServiceDrawLcdFrame_motion config service call hdetect
  rw [motionPreviousBlock]
  cases hpicture : call.picture with
  | none =>
      rw [hpicture] at hmotion
      exact h.congr hmotion
  | some picture =>
      rw [hpicture] at hmotion
      simp only [hdetect, if_true]
      refine BlockOf.congr ?_ hmotion
      obtain ⟨hwidth, hheight⟩ := @motionBlock_dimensions config service picture call.malloc
      have hprevious := @motionBlock_previous config service picture call.malloc
      by_cases hfreed : service.motionPreviousWidth ≠ picture.width ∨
          service.motionPreviousHeight ≠ picture.height
      · simp only [hfreed, if_true, true_or, true_and] at hprevious ⊢
        refine ⟨?_, ?_⟩
        · rw [hprevious]
          cases call.malloc <;> simp
        · rw [hwidth, hheight]
          cases call.malloc <;> simp
      · simp only [hfreed, if_false, false_or] at hprevious ⊢
        rw [not_or, not_ne_iff, not_ne_iff] at hfreed
        cases block with
        | none =>
            simp only [h.present.mpr rfl, true_and] at hprevious
            refine ⟨?_, ?_⟩
            · rw [hprevious]
              cases call.malloc <;> simp
            · rw [hwidth, hheight]
              cases call.malloc <;> simp
        | some bytes =>
            have hkept : service.motionPrevious ≠ none := by
              rw [Ne, h.present]
              simp
            refine ⟨?_, ?_⟩
            · simp [hprevious, hkept]
            · rw [hwidth, hheight, ← hfreed.1, ← hfreed.2]
              exact h.size

theorem drawWithBlock_blockOf (calls : List DrawCall) :
    BlockOf (drawWithBlock config (HttpService.zero, none) calls).1
      (drawWithBlock config (HttpService.zero, none) calls).2 := by
  induction calls using List.reverseRecOn with
  | nil => exact ⟨⟨fun _ => rfl, fun _ => rfl⟩, by simp [drawWithBlock]⟩
  | append_singleton calls call ih =>
      rw [drawWithBlock, List.foldl_append]
      exact ih.draw hdetect call

/-- The block that a picture is compared and copied in has the size for its dimensions. -/
theorem baseline_block_size {calls : List DrawCall} {call : DrawCall} {picture : Picture}
    (hpicture : call.picture = some picture) {bytes : Nat}
    (h : (drawWithBlock config (HttpService.zero, none) (calls ++ [call])).2 = some bytes) :
    bytes = motionPreviousSize picture.width picture.height := by
  have hsize := (drawWithBlock_blockOf hdetect (calls ++ [call])).size bytes h
  have hmotion := httpServiceDrawLcdFrame_motion config
    (drawWithBlock config (HttpService.zero, none) calls).1 call hdetect
  rw [hpicture] at hmotion
  obtain ⟨hwidth, hheight⟩ := @motionBlock_dimensions config
    (drawWithBlock config (HttpService.zero, none) calls).1 picture call.malloc
  have hservice : (drawWithBlock config (HttpService.zero, none) (calls ++ [call])).1 =
      (httpServiceDrawLcdFrame config
        (drawWithBlock config (HttpService.zero, none) calls).1 call).service := by
    rw [drawWithBlock, List.foldl_append]
    rfl
  rw [hservice] at hsize
  have hwidth' := (congrArg HttpService.motionPreviousWidth hmotion :)
  have hheight' := (congrArg HttpService.motionPreviousHeight hmotion :)
  rw [hsize]
  exact congr (congrArg motionPreviousSize (hwidth'.trans hwidth)) (hheight'.trans hheight)

end Baseline

section Fit

/-- The memory of a picture of some size: every store of a decoding lies in the block that was
allocated, the baseline and the copy that fills it hold all pixels, after every run of calls,
and no index wraps. -/
structure BuffersFit (size : JpegDimensions) : Prop where
  decoded : ∀ jpegData outcomes, outcomes.start = some size → ∀ bytes,
    (jpegDecodeToRgb565 jpegData outcomes).allocated = some bytes →
      ∀ store ∈ (jpegDecodeToRgb565 jpegData outcomes).stores, 2 * store.1 + 2 ≤ bytes
  baseline : ∀ config : CameraConfig, config.motionDetect = true →
    ∀ (calls : List DrawCall) (call : DrawCall) (picture : Picture),
      call.picture = some picture → picture.width = size.width →
      picture.height = size.height → ∀ bytes,
        (drawWithBlock config (HttpService.zero, none) (calls ++ [call])).2 = some bytes →
          2 * (size.width * size.height) ≤ bytes ∧
            2 * (size.width * size.height) ≤ motionPreviousSize size.width size.height ∧
            motionPreviousSize size.width size.height ≤ bytes
  index : ∀ x < size.width, ∀ y < size.height,
    u32 (y * size.width) = y * size.width ∧ pixelIndex size.width x y = y * size.width + x

def freshBlock (size : JpegDimensions) : List UInt16 :=
  List.replicate (decodedSize size.width size.height / 2) 0

def wholeDecoding (size : JpegDimensions) : DecodeOutcomes :=
  { start := some size, malloc := some (freshBlock size), allocSarray := true
    readScanlines := fun _ => some [], finish := true }

theorem wholeDecoding_rows (width y rows : Nat) :
    (decodeRows (fun _ => some []) width y rows).1 = true := by
  induction rows generalizing y with
  | zero => rfl
  | succ rows ih => exact ih (y + 1)

theorem wholeDecoding_last (size : JpegDimensions) :
    (jpegDecodeToRgb565 [0xff] (wholeDecoding size)).allocated =
        some (decodedSize size.width size.height) ∧
      ∃ store ∈ (jpegDecodeToRgb565 [0xff] (wholeDecoding size)).stores,
        store.1 = size.width * size.height - 1 := by
  have hrows := wholeDecoding_rows size.width 0 size.height
  have hrun : jpegDecodeToRgb565 [0xff] (wholeDecoding size) =
      { ret := 0, allocated := some (decodedSize size.width size.height)
        stores := (decodeRows (fun _ => some []) size.width 0 size.height).2
        pixels := some (storePixels (freshBlock size)
          (decodeRows (fun _ => some []) size.width 0 size.height).2) } := by
    simp [jpegDecodeToRgb565, wholeDecoding, hrows]
  have hwidth := size.width_pos
  have hheight := size.height_pos
  have hlast : (size.height - 1) * size.width + (size.width - 1) =
      size.width * size.height - 1 := by
    rw [Nat.sub_mul, Nat.one_mul, Nat.mul_comm size.height]
    have hle : size.width ≤ size.width * size.height := Nat.le_mul_of_pos_right _ hheight
    omega
  rw [hrun]
  refine ⟨rfl, ?_⟩
  rw [decodeRows_complete hrows]
  refine ⟨(pixelIndex size.width (size.width - 1) (0 + (size.height - 1)),
    decodedPixel (fun _ => some []) (size.width - 1) (0 + (size.height - 1))), ?_, ?_⟩
  · rw [List.mem_flatMap]
    exact ⟨size.height - 1, List.mem_range.mpr (by omega),
      List.mem_map.mpr ⟨size.width - 1, List.mem_range.mpr (by omega), rfl⟩⟩
  · rw [Nat.zero_add, pixelIndex_address (by omega) (show size.height - 1 < size.height by omega)
      (pixels_lt size)]
    exact hlast

theorem BuffersFit.pixels_lt {size : JpegDimensions} (h : BuffersFit size) :
    size.width * size.height < 2 ^ 31 := by
  obtain ⟨hallocated, store, hstore, hlast⟩ := wholeDecoding_last size
  have hbytes := h.decoded [0xff] (wholeDecoding size) rfl _ hallocated store hstore
  have hpos : 0 < size.width * size.height := Nat.mul_pos size.width_pos size.height_pos
  rw [← decodedSize_covers_iff]
  omega

theorem buffersFit_of_lt {size : JpegDimensions} (h : size.width * size.height < 2 ^ 31) :
    BuffersFit size := by
  have hcovers := (decodedSize_covers_iff size).mpr h
  refine ⟨?_, ?_, ?_⟩
  · intro jpegData outcomes hstart bytes hbytes store hstore
    obtain ⟨x, hx, y, hy, heq⟩ := decode_cell hstart hstore
    have haddress := Raster.address_lt hx hy
    rw [decode_allocated hstart hbytes, heq]
    omega
  · intro config hdetect calls call picture hpicture hwidth hheight bytes hbytes
    have hsize := baseline_block_size hdetect hpicture hbytes
    rw [hwidth, hheight] at hsize
    exact ⟨hsize ▸ hcovers, hcovers, Nat.le_of_eq hsize.symm⟩
  · intro x hx y hy
    have haddress := Raster.address_lt hx hy
    rw [Raster.address] at haddress
    have hpixels := pixels_lt size
    exact ⟨Nat.mod_eq_of_lt (by omega), pixelIndex_address hx hy hpixels⟩

/-- Pictures fit exactly below 2 ^ 31 pixels, and of a picture that fits a successful call leaves
every pixel as it was read. -/
theorem jpeg_buffers_fit_iff (size : JpegDimensions) :
    (BuffersFit size ↔ size.width * size.height < 2 ^ 31) ∧
    (size.width * size.height < 2 ^ 31 → ∀ jpegData outcomes block pixels,
      outcomes.start = some size → outcomes.malloc = some block →
      2 * block.length = decodedSize size.width size.height →
      (jpegDecodeToRgb565 jpegData outcomes).pixels = some pixels →
      pixels.length = size.width * size.height ∧
        ∀ x < size.width, ∀ y < size.height, pixels[Raster.address size.width x y]? =
          some (decodedPixel outcomes.readScanlines x y)) := by
  refine ⟨⟨BuffersFit.pixels_lt, buffersFit_of_lt⟩, ?_⟩
  intro h jpegData outcomes block pixels hstart hmalloc hblock hpixels
  rw [decodedSize_eq] at hblock
  exact decoded_picture hstart hmalloc (by omega) hpixels

/-- Four rows of a red, a green and a blue pixel. -/
def threeColumns : JpegDimensions :=
  { width := 3, height := 4, width_pos := by decide, width_le := by decide
    height_pos := by decide, height_le := by decide }

/-- Their picture fits, and its pixels are decoded over what was in the block. -/
theorem jpeg_buffers_fit_iff_threeColumns :
    BuffersFit threeColumns ∧ ∃ pixels,
      (jpegDecodeToRgb565 [0xff]
        { start := some threeColumns, malloc := some (List.replicate 12 7), allocSarray := true
          readScanlines := fun _ => some [255, 0, 0, 0, 255, 0, 0, 0, 255]
          finish := true }).pixels = some pixels ∧ pixels[10]? = some 0x07e0 := by
  obtain ⟨hfits, hdecoded⟩ := jpeg_buffers_fit_iff threeColumns
  let outcomes : DecodeOutcomes :=
    { start := some threeColumns, malloc := some (List.replicate 12 7), allocSarray := true
      readScanlines := fun _ => some [255, 0, 0, 0, 255, 0, 0, 0, 255], finish := true }
  have hpixels : (jpegDecodeToRgb565 [0xff] outcomes).pixels =
      some (List.replicate 4 [0xf800, 0x07e0, 0x001f]).flatten := by
    decide
  have hpicture := hdecoded (by decide) [0xff] outcomes _ _ rfl rfl (by decide) hpixels
  exact ⟨hfits.mpr (by decide), _, hpixels,
    (hpicture.2 1 (by decide) 3 (by decide)).trans (by decide)⟩

/-- The first height at which a picture of the greatest width does not fit. -/
def tallPicture : JpegDimensions :=
  { width := 65500, height := 32787, width_pos := by decide, width_le := by decide
    height_pos := by decide, height_le := by decide }

/-- 129704 bytes are allocated for more than two thousand million pixels. -/
theorem tall_picture_overflows :
    decodedSize tallPicture.width tallPicture.height = 129704 ∧ ¬ BuffersFit tallPicture := by
  constructor
  · decide
  · intro h
    exact absurd h.pixels_lt (by decide)

end Fit
end CameraGateway
