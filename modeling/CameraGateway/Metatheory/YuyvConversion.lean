import CameraGateway.Core.Yuyv
import CameraGateway.Library.BitFields
import CameraGateway.Library.Raster
import CameraGateway.Library.Updates

/-!
The YUYV conversion by pixels. The loops, which step through the groups of two pixels, write
every pixel of the picture once, with the value of an integer formula of its own luma and of
the chroma of its group.
-/
namespace CameraGateway

section Formula

/-- Five, six and five bits of three channels. -/
def packRgb565 (r g b : Nat) : UInt16 := UInt16.ofNat (r / 8 * 2048 + g / 4 * 32 + b / 8)

def clampByte (value : Int) : Nat := (max 0 (min 255 value)).toNat

/-- The pixel of one luma and two chroma bytes, with division rounded down. -/
def bt601 (luma u v : Nat) : UInt16 :=
  let c := 298 * max ((luma : Int) - 16) 0
  packRgb565 (clampByte ((c + 409 * ((v : Int) - 128) + 128) / 256))
    (clampByte ((c - 100 * ((u : Int) - 128) - 208 * ((v : Int) - 128) + 128) / 256))
    (clampByte ((c + 516 * ((u : Int) - 128) + 128) / 256))

theorem clampU8_eq (value : Int) : clampU8 value = clampByte value := by
  rw [clampU8, clampByte]
  split
  · omega
  · split <;> omega

theorem clampByte_le (value : Int) : clampByte value ≤ 255 := by
  rw [clampByte]
  omega

theorem and_f8 {n : Nat} (h : n ≤ 255) : n &&& 0xf8 = (n / 8) <<< 3 := by
  have hmask := @BitFields.and_mask ⟨3, 5⟩ n
  have hextract : BitFields.Field.extract ⟨3, 5⟩ n = n / 8 := by
    show (n >>> 3) % 2 ^ 5 = n / 8
    rw [Nat.shiftRight_eq_div_pow]
    omega
  rw [hextract] at hmask
  exact hmask

theorem and_fc {n : Nat} (h : n ≤ 255) : n &&& 0xfc = (n / 4) <<< 2 := by
  have hmask := @BitFields.and_mask ⟨2, 6⟩ n
  have hextract : BitFields.Field.extract ⟨2, 6⟩ n = n / 4 := by
    show (n >>> 2) % 2 ^ 6 = n / 4
    rw [Nat.shiftRight_eq_div_pow]
    omega
  rw [hextract] at hmask
  exact hmask

theorem rgbToRgb565_eq {r g b : Nat} (hr : r ≤ 255) (hg : g ≤ 255) (hb : b ≤ 255) :
    rgbToRgb565 r g b = packRgb565 r g b := by
  have hblue : (g / 4) <<< 5 + b / 8 = (g / 4) <<< 5 ||| b / 8 :=
    Nat.shiftLeft_add_eq_or_of_lt (show b / 8 < 2 ^ 5 by omega) _
  have hgreen : (r / 8) <<< 11 + ((g / 4) <<< 5 + b / 8) =
      (r / 8) <<< 11 ||| ((g / 4) <<< 5 + b / 8) := by
    apply Nat.shiftLeft_add_eq_or_of_lt
    rw [Nat.shiftLeft_eq]
    omega
  rw [rgbToRgb565, packRgb565, and_f8 hr, and_fc hg, and_f8 hb, ← Nat.shiftLeft_add,
    ← Nat.shiftLeft_add, Nat.shiftLeft_shiftRight, Nat.or_assoc, ← hblue, ← hgreen,
    Nat.shiftLeft_eq, Nat.shiftLeft_eq, Nat.add_assoc]

theorem yuvPixel_eq (luma u v : UInt8) : yuvPixel luma u v = bt601 luma.toNat u.toNat v.toNat := by
  have hc : (if (luma.toNat : Int) - 16 < 0 then 0 else 298 * ((luma.toNat : Int) - 16)) =
      298 * max ((luma.toNat : Int) - 16) 0 := by
    split <;> omega
  simp only [yuvPixel, bt601, hc, Int.shiftRight_eq_div_pow, clampU8_eq]
  exact rgbToRgb565_eq (clampByte_le _) (clampByte_le _) (clampByte_le _)

end Formula

section Loops

/-- The value of the pixel `(x, y)`, from its own luma and the chroma of its group. -/
def convertedPixel (yuyv : List UInt8) (width x y : Nat) : UInt16 :=
  let p := y * width + x
  bt601 (yuyv.getD (2 * p) 0).toNat (yuyv.getD (4 * (p / 2) + 1) 0).toNat
    (yuyv.getD (4 * (p / 2) + 3) 0).toNat

def pixelStore (yuyv : List UInt8) (width x y : Nat) : Updates.Update UInt16 :=
  .write (Raster.address width x y) (convertedPixel yuyv width x y)

def conversionStores (yuyv : List UInt8) (width height : Nat) : List (Updates.Update UInt16) :=
  (List.range height).flatMap fun y => (List.range width).map fun x => pixelStore yuyv width x y

theorem pixelPairs_columns (n : Nat) :
    (pixelPairs (2 * n)).flatMap (fun x => [x, x + 1]) = List.range (2 * n) := by
  rw [pixelPairs, Nat.mul_div_cancel_left n (by decide), List.flatMap_map]
  induction n with
  | zero => rfl
  | succ n ih =>
      rw [List.range_succ, List.flatMap_append, ih, Nat.mul_succ, List.range_succ, List.range_succ,
        List.append_assoc]
      rfl

theorem convertPair_eq (yuyv : List UInt8) (n k : Nat) (rgb565 : List UInt16) (y : Nat) :
    convertPair yuyv (2 * n) rgb565 y (2 * k) =
      Updates.apply rgb565 ([2 * k, 2 * k + 1].map fun x => pixelStore yuyv (2 * n) x y) := by
  have hrow : y * (2 * n) = 2 * (y * n) := Nat.mul_left_comm y 2 n
  have hfirst : convertedPixel yuyv (2 * n) (2 * k) y =
      yuvPixel (yuyv.getD (y * (2 * n) * 2 + 2 * (2 * k)) 0)
        (yuyv.getD (y * (2 * n) * 2 + 2 * (2 * k) + 1) 0)
        (yuyv.getD (y * (2 * n) * 2 + 2 * (2 * k) + 3) 0) := by
    have hluma : 2 * (y * (2 * n) + 2 * k) = y * (2 * n) * 2 + 2 * (2 * k) := by omega
    have hgroup : 4 * ((y * (2 * n) + 2 * k) / 2) = y * (2 * n) * 2 + 2 * (2 * k) := by omega
    simp only [convertedPixel, hluma, hgroup, yuvPixel_eq]
  have hsecond : convertedPixel yuyv (2 * n) (2 * k + 1) y =
      yuvPixel (yuyv.getD (y * (2 * n) * 2 + 2 * (2 * k) + 2) 0)
        (yuyv.getD (y * (2 * n) * 2 + 2 * (2 * k) + 1) 0)
        (yuyv.getD (y * (2 * n) * 2 + 2 * (2 * k) + 3) 0) := by
    have hluma : 2 * (y * (2 * n) + (2 * k + 1)) = y * (2 * n) * 2 + 2 * (2 * k) + 2 := by omega
    have hgroup : 4 * ((y * (2 * n) + (2 * k + 1)) / 2) = y * (2 * n) * 2 + 2 * (2 * k) := by omega
    simp only [convertedPixel, hluma, hgroup, yuvPixel_eq]
  rw [List.map_cons, List.map_singleton, pixelStore, pixelStore, hfirst, hsecond, convertPair,
    Updates.set_eq_apply, Updates.set_eq_apply, ← Updates.apply_append]
  rfl

theorem yuyvToRgb565_eq (yuyv : List UInt8) (rgb565 : List UInt16) {width : Nat}
    (heven : 2 ∣ width) (height : Nat) :
    yuyvToRgb565 yuyv rgb565 width height =
      Updates.apply rgb565 (conversionStores yuyv width height) := by
  obtain ⟨n, rfl⟩ := heven
  have hrow : ∀ (rgb565 : List UInt16) y,
      (pixelPairs (2 * n)).foldl (fun rgb565 x => convertPair yuyv (2 * n) rgb565 y x) rgb565 =
        Updates.apply rgb565 ((List.range (2 * n)).map fun x => pixelStore yuyv (2 * n) x y) := by
    intro rgb565 y
    rw [← pixelPairs_columns n, List.map_flatMap, ← Updates.foldl_apply, pixelPairs, List.foldl_map,
      List.foldl_map]
    simp only [convertPair_eq]
  rw [yuyvToRgb565, conversionStores, ← Updates.foldl_apply]
  simp only [hrow]

/-- Every pixel of the picture is written once, in the order of the rows. -/
theorem conversionStores_cells (yuyv : List UInt8) (width height : Nat) :
    (conversionStores yuyv width height).map Updates.Update.cell = List.range (width * height) := by
  rw [← Raster.addresses_eq_range, conversionStores, List.map_flatMap]
  simp only [List.map_map]
  rfl

theorem converted_pixel (yuyv : List UInt8) {rgb565 : List UInt16} {width height : Nat}
    (hlength : rgb565.length = width * height) {x y : Nat} (hx : x < width) (hy : y < height) :
    (Updates.apply rgb565 (conversionStores yuyv width height))[Raster.address width x y]? =
      some (convertedPixel yuyv width x y) := by
  have hnodup : ((conversionStores yuyv width height).map Updates.Update.cell).Nodup := by
    rw [conversionStores_cells]
    exact List.nodup_range
  have hstore : pixelStore yuyv width x y ∈ conversionStores yuyv width height := by
    rw [conversionStores, List.mem_flatMap]
    exact ⟨y, List.mem_range.mpr hy, List.mem_map.mpr ⟨x, List.mem_range.mpr hx, rfl⟩⟩
  exact Updates.apply_write hnodup hstore (hlength ▸ Raster.address_lt hx hy)

end Loops

section Reads

/-- The bytes that are read for the pair at `x` in row `y`. -/
def pairReads (width y x : Nat) : List Nat :=
  let src := y * width * 2 + 2 * x
  [src, src + 1, src + 2, src + 3]

def conversionReads (width height : Nat) : List Nat :=
  (List.range height).flatMap fun y => (pixelPairs width).flatMap (pairReads width y)

theorem conversionReads_lt {width height i : Nat} (h : i ∈ conversionReads width height) :
    i < 2 * (width * height) := by
  simp only [conversionReads, pixelPairs, pairReads, List.mem_flatMap, List.mem_map,
    List.mem_range] at h
  obtain ⟨y, hy, x, ⟨k, hk, rfl⟩, hi⟩ := h
  have hlast := @Raster.address_lt width (2 * k + 1) y height (by omega) hy
  rw [Raster.address] at hlast
  simp only [List.mem_cons, List.not_mem_nil, or_false] at hi
  omega

theorem yuyvToRgb565_congr {yuyv yuyv' : List UInt8} {width height : Nat}
    (h : ∀ i ∈ conversionReads width height, yuyv.getD i 0 = yuyv'.getD i 0)
    (rgb565 : List UInt16) :
    yuyvToRgb565 yuyv rgb565 width height = yuyvToRgb565 yuyv' rgb565 width height := by
  have hpair : ∀ y ∈ List.range height, ∀ x ∈ pixelPairs width, ∀ rgb565,
      convertPair yuyv width rgb565 y x = convertPair yuyv' width rgb565 y x := by
    intro y hy x hx rgb565
    have hread : ∀ i ∈ pairReads width y x, yuyv.getD i 0 = yuyv'.getD i 0 := by
      intro i hi
      exact h i (List.mem_flatMap.mpr ⟨y, hy, List.mem_flatMap.mpr ⟨x, hx, hi⟩⟩)
    simp only [pairReads, List.forall_mem_cons] at hread
    obtain ⟨hy0, hu, hy1, hv, -⟩ := hread
    rw [convertPair, convertPair, hy0, hu, hy1, hv]
  rw [yuyvToRgb565, yuyvToRgb565]
  apply List.foldl_ext
  intro rgb565 y hy
  apply List.foldl_ext
  intro rgb565 x hx
  exact hpair y hy x hx rgb565

end Reads

section Pointers

/-- The pointers of a row are where the indices have them. -/
theorem stepPair_run (yuyv : List UInt8) (width y : Nat) (rgb565 : List UInt16) (n : Nat) :
    ((List.range n).map (2 * ·)).foldl (stepPair yuyv (y * width)) (y * width * 2, rgb565) =
      (y * width * 2 + 4 * n, ((List.range n).map (2 * ·)).foldl
        (fun rgb565 x => convertPair yuyv width rgb565 y x) rgb565) := by
  induction n with
  | zero => rfl
  | succ n ih =>
      have hsrc : y * width * 2 + 4 * n = y * width * 2 + 2 * (2 * n) := by omega
      have hnext : y * width * 2 + 4 * (n + 1) = y * width * 2 + 4 * n + 4 := by omega
      rw [List.range_succ, List.map_append, List.foldl_append, List.foldl_append, ih, hnext]
      simp only [List.map_singleton, List.foldl_cons, List.foldl_nil, stepPair, convertPair, hsrc]
      rfl

/-- In buffers that fit into memory the loops on pointers are those on indices. -/
theorem yuyvToRgb565Stepped_eq (yuyv : List UInt8) (rgb565 : List UInt16) {width height : Nat}
    (hfits : 2 * (width * height) < 2 ^ 32) :
    yuyvToRgb565Stepped yuyv rgb565 width height = yuyvToRgb565 yuyv rgb565 width height := by
  rw [yuyvToRgb565Stepped, yuyvToRgb565]
  apply List.foldl_ext
  intro rgb565 y hy
  have hle : y * width ≤ height * width :=
    Nat.mul_le_mul_right width (Nat.le_of_lt (List.mem_range.mp hy))
  rw [Nat.mul_comm height width] at hle
  have hdst : u32 (y * width) = y * width := Nat.mod_eq_of_lt (by omega)
  have hsrc : u32 (y * width * 2) = y * width * 2 := Nat.mod_eq_of_lt (by omega)
  rw [hdst, hsrc, pixelPairs, stepPair_run]

end Pointers

section Ranges

def pixelIntermediates (luma u v : UInt8) : List Int :=
  let y : Int := luma.toNat - 16
  let u : Int := u.toNat - 128
  let v : Int := v.toNat - 128
  let c : Int := if y < 0 then 0 else 298 * y
  [y, u, v, c, 409 * v, c + 409 * v, c + 409 * v + 128, 100 * u, c - 100 * u, 208 * v,
    c - 100 * u - 208 * v, c - 100 * u - 208 * v + 128, 516 * u, c + 516 * u, c + 516 * u + 128]

def packIntermediates (r g b : Nat) : List Nat :=
  [(r &&& 0xf8) <<< 8, (g &&& 0xfc) <<< 3, ((r &&& 0xf8) <<< 8) ||| ((g &&& 0xfc) <<< 3),
    ((r &&& 0xf8) <<< 8) ||| ((g &&& 0xfc) <<< 3) ||| ((b &&& 0xf8) >>> 3)]

theorem pixelIntermediates_inRange (luma u v : UInt8) :
    ∀ i ∈ pixelIntermediates luma u v, -2 ^ 31 ≤ i ∧ i < 2 ^ 31 := by
  have hluma := luma.toNat_lt
  have hu := u.toNat_lt
  have hv := v.toNat_lt
  simp only [pixelIntermediates, List.forall_mem_cons, List.not_mem_nil, false_implies,
    implies_true, and_true]
  split <;> omega

theorem packIntermediates_lt {r g b : Nat} (hr : r ≤ 255) (hg : g ≤ 255) (hb : b ≤ 255) :
    ∀ i ∈ packIntermediates r g b, i < 2 ^ 16 := by
  have hred : (r &&& 0xf8) <<< 8 < 2 ^ 16 := by
    rw [and_f8 hr, Nat.shiftLeft_eq, Nat.shiftLeft_eq]
    omega
  have hgreen : (g &&& 0xfc) <<< 3 < 2 ^ 16 := by
    rw [and_fc hg, Nat.shiftLeft_eq, Nat.shiftLeft_eq]
    omega
  have hblue : (b &&& 0xf8) >>> 3 < 2 ^ 16 := by
    rw [and_f8 hb, Nat.shiftLeft_shiftRight]
    omega
  have hboth := Nat.or_lt_two_pow hred hgreen
  simp only [packIntermediates, List.forall_mem_cons, List.not_mem_nil, false_implies,
    implies_true, and_true]
  exact ⟨hred, hgreen, hboth, Nat.or_lt_two_pow hboth hblue⟩

end Ranges

/-- The conversion is the integer formula at every pixel. In a picture of even width every output
is written once, with the value of its own luma and the chroma of its group; all that is computed
fits into an `int`, only bytes of the picture are read, and the loops on pointers do the same. -/
theorem yuyv_conversion_exact {width : Nat} (heven : 2 ∣ width) (height : Nat)
    {yuyv : List UInt8} {rgb565 : List UInt16} (hyuyv : yuyv.length = 2 * (width * height))
    (hrgb565 : rgb565.length = width * height) :
    (yuyvToRgb565 yuyv rgb565 width height =
        Updates.apply rgb565 (conversionStores yuyv width height) ∧
      (conversionStores yuyv width height).map Updates.Update.cell = List.range (width * height)) ∧
    (∀ x y, x < width → y < height →
      (yuyvToRgb565 yuyv rgb565 width height)[y * width + x]? =
        some (convertedPixel yuyv width x y)) ∧
    (∀ luma u v, ∀ i ∈ pixelIntermediates luma u v, -2 ^ 31 ≤ i ∧ i < 2 ^ 31) ∧
    (∀ r g b, r ≤ 255 → g ≤ 255 → b ≤ 255 → ∀ i ∈ packIntermediates r g b, i < 2 ^ 16) ∧
    (∀ i ∈ conversionReads width height, i < 2 * (width * height)) ∧
    (∀ yuyv' : List UInt8, (∀ i ∈ conversionReads width height, yuyv'.getD i 0 = yuyv.getD i 0) →
      yuyvToRgb565 yuyv' rgb565 width height = yuyvToRgb565 yuyv rgb565 width height) ∧
    (yuyv.length < 2 ^ 32 → yuyvToRgb565Stepped yuyv rgb565 width height =
      yuyvToRgb565 yuyv rgb565 width height) := by
  refine ⟨⟨yuyvToRgb565_eq yuyv rgb565 heven height, conversionStores_cells yuyv width height⟩, ?_,
    pixelIntermediates_inRange, fun _ _ _ => packIntermediates_lt, fun _ => conversionReads_lt,
    fun _ hread => yuyvToRgb565_congr hread rgb565, ?_⟩
  · intro x y hx hy
    rw [yuyvToRgb565_eq yuyv rgb565 heven height]
    exact converted_pixel yuyv hrgb565 hx hy
  · intro hfits
    exact yuyvToRgb565Stepped_eq yuyv rgb565 (hyuyv ▸ hfits)

/-- White and black in one group. -/
theorem yuyv_conversion_exact_pair :
    (yuyvToRgb565 [235, 128, 16, 128] [0, 0] 2 1)[0]? = some 0xffff := by
  have hexact := @yuyv_conversion_exact 2 (Nat.dvd_refl 2) 1 [235, 128, 16, 128] [0, 0] rfl rfl
  have hwhite : convertedPixel [235, 128, 16, 128] 2 0 0 = 0xffff := by decide
  rw [← hwhite]
  exact hexact.2.1 0 0 (by decide) (by decide)

end CameraGateway
