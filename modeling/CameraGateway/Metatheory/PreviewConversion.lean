import CameraGateway.Core.CaptureLoops
import CameraGateway.Metatheory.MotionGeometry
import CameraGateway.Metatheory.YuyvConversion
import Mathlib.Data.Nat.Prime.Basic

/-!
The YUYV frames that the preview draws, on a machine with a `size_t` of 32 bits. The guard of
the loop and the allocation agree for all dimensions, but the loops of the conversion touch
nothing outside of the frame and of the buffer, and reach every pixel, only for an even width
and a picture of less than 2 ^ 32 bytes.
-/
namespace CameraGateway

section Footprint

/-- The bytes loaded by the first `n` passes of a row. -/
def rowLoads (src n : Nat) : List Nat :=
  (List.range n).flatMap fun k => [src + 4 * k, src + 4 * k + 1, src + 4 * k + 2, src + 4 * k + 3]

def rowStores (dst n : Nat) : List Nat :=
  (List.range n).flatMap fun k => [dst + 2 * k, dst + (2 * k + 1)]

theorem touchPair_run (src dst n : Nat) (accesses : Accesses) :
    ((List.range n).map (2 * ·)).foldl (touchPair dst) (src, accesses) =
      (src + 4 * n,
        { loads := accesses.loads ++ rowLoads src n
          stores := accesses.stores ++ rowStores dst n }) := by
  induction n with
  | zero => simp [rowLoads, rowStores]
  | succ n ih =>
      rw [List.range_succ, List.map_append, List.foldl_append, ih]
      simp [touchPair, rowLoads, rowStores, List.range_succ]
      omega

theorem yuyvAccesses_eq (width height : Nat) :
    yuyvAccesses width height =
      { loads := (List.range height).flatMap fun y =>
          rowLoads (u32 (u32 (y * width) * 2)) (width / 2)
        stores := (List.range height).flatMap fun y =>
          rowStores (u32 (y * width)) (width / 2) } := by
  rw [yuyvAccesses]
  induction height with
  | zero => rfl
  | succ height ih =>
      rw [List.range_succ, List.foldl_append, ih]
      simp [pixelPairs, touchPair_run]

theorem mem_loads {width height i : Nat} :
    i ∈ (yuyvAccesses width height).loads ↔
      ∃ y < height, ∃ k < width / 2, ∃ j < 4, i = u32 (u32 (y * width) * 2) + 4 * k + j := by
  simp only [yuyvAccesses_eq, rowLoads, List.mem_flatMap, List.mem_range, List.mem_cons,
    List.not_mem_nil, or_false]
  constructor
  · intro h
    obtain ⟨y, hy, k, hk, hi⟩ := h
    exact ⟨y, hy, k, hk, i - (u32 (u32 (y * width) * 2) + 4 * k), by omega, by omega⟩
  · intro h
    obtain ⟨y, hy, k, hk, j, hj, rfl⟩ := h
    exact ⟨y, hy, k, hk, by omega⟩

theorem mem_stores {width height i : Nat} :
    i ∈ (yuyvAccesses width height).stores ↔
      ∃ y < height, ∃ x < 2 * (width / 2), i = u32 (y * width) + x := by
  simp only [yuyvAccesses_eq, rowStores, List.mem_flatMap, List.mem_range, List.mem_cons,
    List.not_mem_nil, or_false]
  constructor
  · intro h
    obtain ⟨y, hy, k, hk, hi⟩ := h
    exact ⟨y, hy, i - u32 (y * width), by omega, by omega⟩
  · intro h
    obtain ⟨y, hy, x, hx, rfl⟩ := h
    exact ⟨y, hy, x / 2, by omega, by omega⟩

end Footprint

section Values

/-- The stores of the first `n` passes of a row, with their values. -/
def rowUpdates (yuyv : List UInt8) (src dst n : Nat) : List (Updates.Update UInt16) :=
  (List.range n).flatMap fun k =>
    let y0 := yuyv.getD (src + 4 * k) 0
    let u := yuyv.getD (src + 4 * k + 1) 0
    let y1 := yuyv.getD (src + 4 * k + 2) 0
    let v := yuyv.getD (src + 4 * k + 3) 0
    [.write (dst + 2 * k) (yuvPixel y0 u v), .write (dst + (2 * k + 1)) (yuvPixel y1 u v)]

theorem stepPair_updates (yuyv : List UInt8) (src dst n : Nat) (rgb565 : List UInt16) :
    ((List.range n).map (2 * ·)).foldl (stepPair yuyv dst) (src, rgb565) =
      (src + 4 * n, Updates.apply rgb565 (rowUpdates yuyv src dst n)) := by
  induction n with
  | zero => simp [rowUpdates]
  | succ n ih =>
      rw [List.range_succ, List.map_append, List.foldl_append, ih]
      simp only [List.map_singleton, List.foldl_cons, List.foldl_nil, stepPair, rowUpdates,
        List.range_succ, List.flatMap_append, List.flatMap_singleton, Updates.apply_append,
        Updates.set_eq_apply, Nat.mul_succ, Nat.add_assoc]
      rfl

def steppedUpdates (yuyv : List UInt8) (width height : Nat) : List (Updates.Update UInt16) :=
  (List.range height).flatMap fun y =>
    rowUpdates yuyv (u32 (u32 (y * width) * 2)) (u32 (y * width)) (width / 2)

theorem yuyvToRgb565Stepped_updates (yuyv : List UInt8) (rgb565 : List UInt16)
    (width height : Nat) :
    yuyvToRgb565Stepped yuyv rgb565 width height =
      Updates.apply rgb565 (steppedUpdates yuyv width height) := by
  rw [yuyvToRgb565Stepped, steppedUpdates, ← Updates.foldl_apply]
  simp only [pixelPairs, stepPair_updates]

/-- The cells that the conversion writes are the stores of its loops. -/
theorem steppedUpdates_cells (yuyv : List UInt8) (width height : Nat) :
    (steppedUpdates yuyv width height).map Updates.Update.cell =
      (yuyvAccesses width height).stores := by
  rw [yuyvAccesses_eq, steppedUpdates, List.map_flatMap]
  simp only [rowUpdates, rowStores, List.map_flatMap]
  rfl

/-- A conversion depends on the bytes it loads only, and changes only the pixels it stores. -/
structure Footprint (accesses : Accesses)
    (convert : List UInt8 → List UInt16 → List UInt16) : Prop where
  unchanged : ∀ yuyv rgb565, ∀ i ∉ accesses.stores, (convert yuyv rgb565)[i]? = rgb565[i]?
  depends : ∀ yuyv yuyv' : List UInt8,
    (∀ i ∈ accesses.loads, yuyv.getD i 0 = yuyv'.getD i 0) →
      ∀ rgb565, convert yuyv rgb565 = convert yuyv' rgb565

theorem yuyvToRgb565Stepped_frame (yuyv : List UInt8) (rgb565 : List UInt16)
    {width height i : Nat} (h : i ∉ (yuyvAccesses width height).stores) :
    (yuyvToRgb565Stepped yuyv rgb565 width height)[i]? = rgb565[i]? := by
  rw [yuyvToRgb565Stepped_updates]
  apply Updates.apply_untouched
  intro update hupdate hcell
  rw [← steppedUpdates_cells yuyv] at h
  exact h (hcell ▸ List.mem_map_of_mem hupdate)

theorem yuyvToRgb565Stepped_congr {yuyv yuyv' : List UInt8} {width height : Nat}
    (h : ∀ i ∈ (yuyvAccesses width height).loads, yuyv.getD i 0 = yuyv'.getD i 0)
    (rgb565 : List UInt16) :
    yuyvToRgb565Stepped yuyv rgb565 width height =
      yuyvToRgb565Stepped yuyv' rgb565 width height := by
  rw [yuyvToRgb565Stepped_updates, yuyvToRgb565Stepped_updates, steppedUpdates, steppedUpdates]
  congr 1
  apply List.flatMap_congr
  intro y hy
  apply List.flatMap_congr
  intro k hk
  have hload : ∀ j < 4, yuyv.getD (u32 (u32 (y * width) * 2) + 4 * k + j) 0 =
      yuyv'.getD (u32 (u32 (y * width) * 2) + 4 * k + j) 0 := by
    intro j hj
    exact h _ (mem_loads.mpr ⟨y, List.mem_range.mp hy, k, List.mem_range.mp hk, j, hj, rfl⟩)
  have h0 := hload 0 (by decide)
  rw [Nat.add_zero] at h0
  rw [h0, hload 1 (by decide), hload 2 (by decide), hload 3 (by decide)]

/-- The accesses are those of the conversion. -/
theorem yuyvAccesses_footprint (width height : Nat) :
    Footprint (yuyvAccesses width height)
      (fun yuyv rgb565 => yuyvToRgb565Stepped yuyv rgb565 width height) :=
  ⟨fun yuyv rgb565 _ h => yuyvToRgb565Stepped_frame yuyv rgb565 h,
    fun _ _ h rgb565 => yuyvToRgb565Stepped_congr h rgb565⟩

end Values

section Pictures
variable {width height : Nat}

/-- In a picture of 2 ^ 31 pixels or more the loops reach the last pixel of the address space:
it is in no last column of an odd width, because such a width does not divide a power of two. -/
theorem last_address_stored (hheight : height < 2 ^ 31)
    (hlarge : 2 ^ 31 ≤ width * height) : 2 ^ 31 - 1 ∈ (yuyvAccesses width height).stores := by
  have hpos : 0 < width := Nat.pos_of_mul_pos_right (Nat.lt_of_lt_of_le (by decide) hlarge)
  have hdiv : width * ((2 ^ 31 - 1) / width) + (2 ^ 31 - 1) % width = 2 ^ 31 - 1 :=
    Nat.div_add_mod (2 ^ 31 - 1) width
  rw [Nat.mul_comm width] at hdiv
  have hmod : (2 ^ 31 - 1) % width < width := Nat.mod_lt _ hpos
  have hrow : (2 ^ 31 - 1) / width < height := Nat.div_lt_of_lt_mul (by omega)
  have hcolumn : (2 ^ 31 - 1) % width < 2 * (width / 2) := by
    apply Nat.lt_of_not_le
    intro hlast
    have hodd : width % 2 = 1 := by omega
    have hend : width * ((2 ^ 31 - 1) / width + 1) = 2 ^ 31 := by
      rw [Nat.mul_add, Nat.mul_comm width]
      omega
    have hcoprime : Nat.Coprime width (2 ^ 31) :=
      (Nat.coprime_two_right.mpr (Nat.odd_iff.mpr hodd)).pow_right 31
    have hone : width = 1 := Nat.Coprime.eq_one_of_dvd hcoprime (Dvd.intro _ hend)
    rw [hone] at hlarge
    omega
  refine mem_stores.mpr ⟨(2 ^ 31 - 1) / width, hrow, (2 ^ 31 - 1) % width, hcolumn, ?_⟩
  rw [u32, Nat.mod_eq_of_lt (by omega), hdiv]

section Fits
variable (hfits : 2 * (width * height) < 2 ^ 32)
include hfits

theorem row_start {y : Nat} (hy : y < height) :
    u32 (y * width) = y * width ∧ y * width + width ≤ width * height := by
  have hle : (y + 1) * width ≤ height * width := Nat.mul_le_mul_right width hy
  rw [Nat.add_mul, Nat.one_mul, Nat.mul_comm height] at hle
  exact ⟨Nat.mod_eq_of_lt (by omega), hle⟩

theorem load_lt {i : Nat} (h : i ∈ (yuyvAccesses width height).loads) :
    i < 2 * (width * height) := by
  obtain ⟨y, hy, k, hk, j, hj, rfl⟩ := mem_loads.mp h
  obtain ⟨hstart, hend⟩ := row_start hfits hy
  rw [hstart, u32, Nat.mod_eq_of_lt (by omega)]
  omega

theorem store_lt {i : Nat} (h : i ∈ (yuyvAccesses width height).stores) : i < width * height := by
  obtain ⟨y, hy, x, hx, rfl⟩ := mem_stores.mp h
  obtain ⟨hstart, hend⟩ := row_start hfits hy
  omega

/-- A pixel is stored unless it is the last of a row of odd length. -/
theorem pixel_stored_iff {x y : Nat} (hx : x < width) (hy : y < height) :
    pixelIndex width x y ∈ (yuyvAccesses width height).stores ↔ x < 2 * (width / 2) := by
  rw [pixelIndex_address hx hy (by omega), mem_stores]
  constructor
  · intro h
    obtain ⟨y', hy', x', hx', heq⟩ := h
    rw [(row_start hfits hy').1] at heq
    obtain ⟨rfl, -⟩ := Raster.address_injective hx (show x' < width by omega) heq
    exact hx'
  · intro h
    exact ⟨y, hy, x, h, by rw [(row_start hfits hy).1, Raster.address]⟩

end Fits
end Pictures

section Preview

/-- A frame of `bytesused` bytes is converted within the frame and the buffer, and every pixel
that is then drawn has been stored. -/
structure SoundConversion (config : CameraConfig) (bytesused : UInt32) : Prop where
  loads_within : ∀ i ∈ (yuyvAccesses config.width.toNat config.height.toNat).loads,
    i < bytesused.toNat
  stores_within : ∀ i ∈ (yuyvAccesses config.width.toNat config.height.toNat).stores,
    2 * i + 2 ≤ FramebufferCapture.yuyvAllocation config
  pixels_stored : ∀ x < config.width.toNat, ∀ y < config.height.toNat,
    pixelIndex config.width.toNat x y ∈
      (yuyvAccesses config.width.toNat config.height.toNat).stores

/-- The guard of the loop and the allocation come to one size, whatever the dimensions. -/
theorem yuyvSize_eq_allocation (config : CameraConfig) :
    FramebufferCapture.yuyvSize config = FramebufferCapture.yuyvAllocation config := by
  have hwidth : ((config.width % 2 ^ 32).toNat : Int) = config.width % 2 ^ 32 :=
    Int.toNat_of_nonneg (Int.emod_nonneg _ (by decide))
  have hheight : ((config.height % 2 ^ 32).toNat : Int) = config.height % 2 ^ 32 :=
    Int.toNat_of_nonneg (Int.emod_nonneg _ (by decide))
  apply Int.ofNat_inj.mp
  rw [FramebufferCapture.yuyvSize, FramebufferCapture.yuyvAllocation, u32, u32,
    Int.toNat_of_nonneg (Int.emod_nonneg _ (by decide))]
  simp only [Int.natCast_emod, Int.natCast_mul, hwidth, hheight]
  simp [Int.mul_emod]

theorem drawn_accepted {config : CameraConfig} (hformat : config.pixelFormat = v4l2PixFmtYuyv)
    {capture next : FramebufferCapture} {pass : FramebufferPass} {index : Nat}
    {memory : List UInt8} {bytesused : UInt32}
    (hdriver : pass.driver = .dequeued index memory bytesused)
    (hpass : capture.pass config pass = some next) (hdrawn : next.drawn ≠ capture.drawn) :
    FramebufferCapture.yuyvSize config ≤ bytesused.toNat := by
  apply Nat.le_of_not_lt
  intro hshort
  simp only [FramebufferCapture.pass, hdriver, hformat, hshort, and_self, or_true, if_true,
    FramebufferCapture.requeue, FramebufferCapture.op, FramebufferCapture.fail,
    Option.some.injEq] at hpass
  rw [← hpass] at hdrawn
  split at hdrawn <;> exact hdrawn rfl

theorem yuyvAllocation_eq {config : CameraConfig}
    (hwidth : 0 < config.width ∧ config.width < 2 ^ 31)
    (hheight : 0 < config.height ∧ config.height < 2 ^ 31) :
    FramebufferCapture.yuyvAllocation config =
      2 * (config.width.toNat * config.height.toNat) % 2 ^ 32 := by
  rw [FramebufferCapture.yuyvAllocation, Int.emod_eq_of_lt (by omega) (by omega),
    Int.emod_eq_of_lt (by omega) (by omega), u32, u32, Nat.mod_mul_mod, Nat.mul_comm 2]

theorem soundConversion_iff {config : CameraConfig}
    (hwidth : 0 < config.width ∧ config.width < 2 ^ 31)
    (hheight : 0 < config.height ∧ config.height < 2 ^ 31) {bytesused : UInt32}
    (haccepted : FramebufferCapture.yuyvAllocation config ≤ bytesused.toNat) :
    SoundConversion config bytesused ↔
      2 ∣ config.width.toNat ∧ 2 * (config.width.toNat * config.height.toNat) < 2 ^ 32 := by
  rw [yuyvAllocation_eq hwidth hheight] at haccepted
  constructor
  · intro h
    have hstores := h.stores_within
    rw [yuyvAllocation_eq hwidth hheight] at hstores
    have hfits : 2 * (config.width.toNat * config.height.toNat) < 2 ^ 32 := by
      apply Nat.lt_of_not_le
      intro hlarge
      have hlast := hstores _ (last_address_stored (by omega) (show 2 ^ 31 ≤ _ by omega))
      have hsize := Nat.mod_lt (2 * (config.width.toNat * config.height.toNat))
        (show 0 < 2 ^ 32 by decide)
      omega
    have hcorner := h.pixels_stored (config.width.toNat - 1) (by omega) 0 (by omega)
    rw [pixel_stored_iff hfits (by omega) (by omega)] at hcorner
    exact ⟨by omega, hfits⟩
  · intro h
    obtain ⟨heven, hfits⟩ := h
    rw [Nat.mod_eq_of_lt hfits] at haccepted
    refine ⟨?_, ?_, ?_⟩
    · intro i hi
      exact Nat.lt_of_lt_of_le (load_lt hfits hi) haccepted
    · intro i hi
      have hlt := store_lt hfits hi
      rw [yuyvAllocation_eq hwidth hheight, Nat.mod_eq_of_lt hfits]
      omega
    · intro x hx y hy
      rw [pixel_stored_iff hfits hx hy]
      omega

/-- The loops touch what is listed for them, and the frames that the preview draws are converted
soundly for exactly the even widths whose pictures take less than 2 ^ 32 bytes. -/
theorem yuyv_preview_sound_iff {config : CameraConfig}
    (hwidth : 0 < config.width ∧ config.width < 2 ^ 31)
    (hheight : 0 < config.height ∧ config.height < 2 ^ 31)
    (hformat : config.pixelFormat = v4l2PixFmtYuyv) {s t : FramebufferCapture}
    {pass : FramebufferPass} {index : Nat} {memory : List UInt8} {bytesused : UInt32}
    (hdriver : pass.driver = .dequeued index memory bytesused)
    (hstep : (cameraCaptureToFramebuffer config).step s (.pass pass) = some t)
    (hdrawn : t.drawn ≠ s.drawn) :
    Footprint (yuyvAccesses config.width.toNat config.height.toNat)
      (fun yuyv rgb565 =>
        yuyvToRgb565Stepped yuyv rgb565 config.width.toNat config.height.toNat) ∧
    (SoundConversion config bytesused ↔
      2 ∣ config.width ∧ 2 * (config.width * config.height) < 2 ^ 32) := by
  refine ⟨yuyvAccesses_footprint config.width.toNat config.height.toNat, ?_⟩
  have haccepted : FramebufferCapture.yuyvSize config ≤ bytesused.toNat := by
    simp only [cameraCaptureToFramebuffer, FramebufferCapture.step] at hstep
    split at hstep
    · exact drawn_accepted hformat hdriver hstep hdrawn
    · cases hstep
  rw [yuyvSize_eq_allocation] at haccepted
  rw [soundConversion_iff hwidth hheight haccepted]
  have hw : (config.width.toNat : Int) = config.width := Int.toNat_of_nonneg (by omega)
  have hh : (config.height.toNat : Int) = config.height := Int.toNat_of_nonneg (by omega)
  have hproduct : ((config.width.toNat * config.height.toNat : Nat) : Int) =
      config.width * config.height := by
    rw [Int.natCast_mul, hw, hh]
  omega

def rowPreview (width : Int) : CameraConfig :=
  { device := [], width := width, height := 1, fps := 30, frameCount := 1, fbPreview := true
    motionDetect := false, motionThreshold := 20, motionSave := false, motionDir := []
    pixelFormat := v4l2PixFmtYuyv }

def blackRow (width : Nat) : FramebufferPass :=
  { driver := .dequeued 0 (List.replicate width [16, 128]).flatten (UInt32.ofNat (2 * width))
    decoded := none, draw := true, requeued := true }

/-- Two pixels are converted soundly. -/
theorem yuyv_preview_sound_pair : SoundConversion (rowPreview 2) 4 := by
  have hstep : (cameraCaptureToFramebuffer (rowPreview 2)).step
      { FramebufferCapture.init with phase := .loop, yuyvRgb565 := some [7, 7] }
      (.pass (blackRow 2)) = some
        { FramebufferCapture.init with
          phase := .loop, yuyvRgb565 := some [0, 0], count := 1, drawn := [[0, 0]]
          ops := [.take 0, .use 0, .giveBack 0 true] } := rfl
  exact (yuyv_preview_sound_iff (by decide) (by decide) rfl rfl hstep (by decide)).2.mpr (by decide)

/-- Three pixels: the frame is accepted, and the third pixel on the screen is what `malloc` has
left in the buffer. -/
theorem odd_row_draws_stale_pixel :
    (∃ t, TransitionSystem.exec (cameraCaptureToFramebuffer (rowPreview 3)) FramebufferCapture.init
        [.opened (some [7, 7, 7]) true, .pass (blackRow 3)] = some t ∧ t.drawn = [[0, 0, 7]]) ∧
    ¬ SoundConversion (rowPreview 3) 6 := by
  constructor
  · exact ⟨_, rfl, by decide⟩
  · intro h
    have hstored := h.pixels_stored 2 (by decide) 0 (by decide)
    revert hstored
    decide

end Preview
end CameraGateway
