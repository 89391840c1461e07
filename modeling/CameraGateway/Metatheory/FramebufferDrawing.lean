import CameraGateway.Core.Framebuffer
import CameraGateway.Library.Updates
import CameraGateway.Metatheory.MotionGeometry

/-!
Drawing as a list of byte stores. Whatever the driver reports, the source place of a screen
pixel lies in the picture. On a geometry that the kernel can have the stores go to distinct
bytes of the visible rectangle, so that afterwards every visible pixel holds its colour and
nothing else has changed.
-/
namespace CameraGateway

section Source

theorem sourcePlace_lt {i size count : Nat} (hi : i < count) (hsize : 1 ≤ size) :
    sourcePlace i size count < size := by
  rw [sourcePlace, Nat.div_lt_iff_lt_mul (Nat.zero_lt_of_lt hi)]
  calc u32 (i * size) ≤ i * size := Nat.mod_le _ _
    _ < count * size := Nat.mul_lt_mul_of_pos_right hi hsize
    _ = size * count := Nat.mul_comm _ _

theorem sourcePlace_eq {i size count : Nat} (hi : i < count) (h : count * size < 2 ^ 32) :
    sourcePlace i size count = i * size / count := by
  have hle : i * size ≤ count * size := Nat.mul_le_mul_right size (Nat.le_of_lt hi)
  rw [sourcePlace, u32, Nat.mod_eq_of_lt (by omega)]

/-- A picture in memory: rows of 16-bit pixels, at least one, in less than 4 GiB. -/
structure SourceImage where
  width : Nat
  height : Nat
  pixels : List UInt16
  width_pos : 1 ≤ width
  height_pos : 1 ≤ height
  size_eq : pixels.length = width * height
  fits : 2 * pixels.length < 2 ^ 32

def SourceImage.pixel (image : SourceImage) (x y : Nat) : UInt16 :=
  image.pixels.getD (Raster.address image.width x y) 0

theorem SourceImage.index_eq (image : SourceImage) {x y : Nat} (hx : x < image.width)
    (hy : y < image.height) :
    pixelIndex image.width x y = Raster.address image.width x y := by
  have hfits := image.fits
  rw [image.size_eq] at hfits
  exact pixelIndex_address hx hy (by omega)

theorem SourceImage.index_lt (image : SourceImage) {x y columns rows : Nat} (hx : x < columns)
    (hy : y < rows) :
    pixelIndex image.width (sourcePlace x image.width columns) (sourcePlace y image.height rows) <
      image.pixels.length := by
  have hsrcX := sourcePlace_lt hx image.width_pos
  have hsrcY := sourcePlace_lt hy image.height_pos
  rw [image.index_eq hsrcX hsrcY, image.size_eq]
  exact Raster.address_lt hsrcX hsrcY

/-- Without a wrap the source pixel is that of the nearest place below. -/
theorem sourcePixel_eq (fb : FramebufferDisplay) (image : SourceImage) {x y : Nat}
    (hx : x < fb.var.xres.toNat) (hy : y < fb.var.yres.toNat)
    (hwidth : fb.var.xres.toNat * image.width < 2 ^ 32)
    (hheight : fb.var.yres.toNat * image.height < 2 ^ 32) :
    sourcePixel fb image.pixels image.width image.height x y =
      image.pixel (x * image.width / fb.var.xres.toNat) (y * image.height / fb.var.yres.toNat) := by
  have hsrcX := @sourcePlace_lt x image.width fb.var.xres.toNat hx image.width_pos
  have hsrcY := @sourcePlace_lt y image.height fb.var.yres.toNat hy image.height_pos
  rw [sourcePixel, image.index_eq hsrcX hsrcY, sourcePlace_eq hx hwidth, sourcePlace_eq hy hheight]
  rfl

end Source

section Stores

def pixelStores (fb : FramebufferDisplay) (x y color : Nat) : List (Updates.Update UInt8) :=
  Updates.writes (pixelOffset fb x y) (LittleEndian.encode (bytesPerPixel fb) color)

def visiblePixels (fb : FramebufferDisplay) : List (Nat × Nat) :=
  (List.range fb.var.yres.toNat).flatMap fun y =>
    (List.range fb.var.xres.toNat).map fun x => (x, y)

def drawStores (fb : FramebufferDisplay) (pixels : List UInt16) (width height : Nat) :
    List (Updates.Update UInt8) :=
  (visiblePixels fb).flatMap fun point =>
    pixelStores fb point.1 point.2
      (screenColor fb.var (sourcePixel fb pixels width height point.1 point.2))

theorem memcpy_eq (mem : List UInt8) (offset : Nat) (bytes : List UInt8) :
    memcpy mem offset bytes = Updates.apply mem (Updates.writes offset bytes) := by
  induction bytes generalizing mem offset with
  | nil => rfl
  | cons byte bytes ih =>
      rw [memcpy, ih, Updates.set_eq_apply]
      rfl

def Supported (fb : FramebufferDisplay) : Prop :=
  fb.var.bitsPerPixel = 16 ∨ fb.var.bitsPerPixel = 32

theorem Supported.bytes {fb : FramebufferDisplay} (h : Supported fb) :
    (fb.var.bitsPerPixel.toNat = 16 ∧ bytesPerPixel fb = 2) ∨
      (fb.var.bitsPerPixel.toNat = 32 ∧ bytesPerPixel fb = 4) := by
  cases h with
  | inl h =>
      left
      rw [bytesPerPixel, h]
      exact ⟨rfl, rfl⟩
  | inr h =>
      right
      rw [bytesPerPixel, h]
      exact ⟨rfl, rfl⟩

theorem Supported.bytes_pos {fb : FramebufferDisplay} (h : Supported fb) :
    0 < bytesPerPixel fb := by
  cases h.bytes with
  | inl h => omega
  | inr h => omega

theorem Supported.pow_bytes {fb : FramebufferDisplay} (h : Supported fb) :
    256 ^ bytesPerPixel fb = 2 ^ fb.var.bitsPerPixel.toNat := by
  cases h.bytes with
  | inl h =>
      rw [h.1, h.2]
      decide
  | inr h =>
      rw [h.1, h.2]
      decide

theorem putPixel_eq {fb : FramebufferDisplay} (h : Supported fb) (mem : List UInt8)
    (x y color : Nat) :
    putPixel fb mem x y color = Updates.apply mem (pixelStores fb x y color) := by
  have htruncated : LittleEndian.encode 2 (color % 2 ^ 16) = LittleEndian.encode 2 color :=
    LittleEndian.encode_mod 2 color
  cases h.bytes with
  | inl h => rw [putPixel, if_pos h.2, memcpy_eq, htruncated, pixelStores, h.2]
  | inr h =>
      rw [putPixel, if_neg (by omega), if_pos h.2, memcpy_eq, pixelStores, h.2]

/-- A draw is the stores of its pixels. -/
theorem draw_eq {fb : FramebufferDisplay} (h : Supported fb) (mem : List UInt8)
    (pixels : List UInt16) {width height : Nat} (hwidth : 1 ≤ width) (hheight : 1 ≤ height) :
    framebufferDisplayDrawRgb565 fb mem pixels width height =
      (0, Updates.apply mem (drawStores fb pixels width height)) := by
  have hnonempty : ¬ (width = 0 ∨ height = 0) := by omega
  have hformat : ¬ (fb.var.bitsPerPixel ≠ 16 ∧ fb.var.bitsPerPixel ≠ 32) := by
    intro hother
    cases h with
    | inl h => exact hother.1 h
    | inr h => exact hother.2 h
  rw [framebufferDisplayDrawRgb565, if_neg hnonempty, if_neg hformat, drawStores, visiblePixels]
  simp only [putPixel_eq h, Updates.foldl_apply, List.flatMap_assoc, List.flatMap_map]

end Stores

section Geometry
variable {fb : FramebufferDisplay}

/-- What the kernel promises: the visible rectangle lies in the virtual screen, a line of which
fits into the line length, and all lines into the memory. -/
structure Geometry (fb : FramebufferDisplay) : Prop where
  columns : fb.var.xoffset.toNat + fb.var.xres.toNat ≤ fb.var.xresVirtual.toNat
  rows : fb.var.yoffset.toNat + fb.var.yres.toNat ≤ fb.var.yresVirtual.toNat
  line : fb.var.xresVirtual.toNat * fb.var.bitsPerPixel.toNat / 8 ≤ fb.fix.lineLength.toNat
  memory : fb.fix.lineLength.toNat * fb.var.yresVirtual.toNat ≤ fb.fix.smemLen.toNat

def InScreen (fb : FramebufferDisplay) (x y : Nat) : Prop :=
  x < fb.var.xres.toNat ∧ y < fb.var.yres.toNat

instance (fb : FramebufferDisplay) (x y : Nat) : Decidable (InScreen fb x y) :=
  inferInstanceAs (Decidable (_ ∧ _))

/-- The byte lies in the visible rectangle of the screen memory. -/
structure Visible (fb : FramebufferDisplay) (i : Nat) : Prop where
  top : fb.var.yoffset.toNat ≤ i / fb.fix.lineLength.toNat
  bottom : i / fb.fix.lineLength.toNat < fb.var.yoffset.toNat + fb.var.yres.toNat
  left : fb.var.xoffset.toNat * bytesPerPixel fb ≤ i % fb.fix.lineLength.toNat
  right : i % fb.fix.lineLength.toNat <
    (fb.var.xoffset.toNat + fb.var.xres.toNat) * bytesPerPixel fb

/-- The byte `k` of the pixel `(x, y)`: a place in the row of bytes of a line. -/
def screenByte (fb : FramebufferDisplay) (x y k : Nat) : Nat :=
  Raster.address fb.fix.lineLength.toNat
    (Raster.address (bytesPerPixel fb) k (x + fb.var.xoffset.toNat)) (y + fb.var.yoffset.toNat)

theorem mem_visiblePixels {point : Nat × Nat} :
    point ∈ visiblePixels fb ↔ InScreen fb point.1 point.2 := by
  obtain ⟨x, y⟩ := point
  simp [visiblePixels, InScreen, and_comm]

theorem visiblePixels_nodup (fb : FramebufferDisplay) : (visiblePixels fb).Nodup :=
  Raster.nodup_loops List.nodup_range List.nodup_range fun _ _ _ _ h =>
    ⟨congrArg Prod.snd h, congrArg Prod.fst h⟩

variable (hformat : Supported fb) (h : Geometry fb)
include hformat h

theorem byteColumn_lt {x y k : Nat} (hpoint : InScreen fb x y) (hk : k < bytesPerPixel fb) :
    Raster.address (bytesPerPixel fb) k (x + fb.var.xoffset.toNat) < fb.fix.lineLength.toNat := by
  have hline := h.line
  have hcolumns := h.columns
  have hcolumn : x + fb.var.xoffset.toNat < fb.var.xresVirtual.toNat := by
    have := hpoint.1
    omega
  have haddress := Raster.address_lt hk hcolumn
  cases hformat.bytes with
  | inl hbytes =>
      rw [hbytes.1] at hline
      rw [hbytes.2] at haddress ⊢
      omega
  | inr hbytes =>
      rw [hbytes.1] at hline
      rw [hbytes.2] at haddress ⊢
      omega

theorem screenByte_lt {x y k : Nat} (hpoint : InScreen fb x y) (hk : k < bytesPerPixel fb) :
    screenByte fb x y k < fb.memSize := by
  have hrow : y + fb.var.yoffset.toNat < fb.var.yresVirtual.toNat := by
    have hrows := h.rows
    have := hpoint.2
    omega
  rw [fb.mapped]
  exact Nat.lt_of_lt_of_le (Raster.address_lt (byteColumn_lt hformat h hpoint hk) hrow) h.memory

theorem pixelOffset_eq {x y : Nat} (hpoint : InScreen fb x y) {k : Nat}
    (hk : k < bytesPerPixel fb) : pixelOffset fb x y + k = screenByte fb x y k := by
  have hbyte := screenByte_lt hformat h hpoint hk
  have hmemory := fb.fix.smemLen.toNat_lt
  rw [fb.mapped, screenByte, Raster.address, Raster.address] at hbyte
  have hrow : u32 (y + fb.var.yoffset.toNat) = y + fb.var.yoffset.toNat := by
    have hrows := h.rows
    have hvirtual := fb.var.yresVirtual.toNat_lt
    have hy := hpoint.2
    exact Nat.mod_eq_of_lt (by omega)
  have hcolumn : u32 (x + fb.var.xoffset.toNat) = x + fb.var.xoffset.toNat := by
    have hcolumns := h.columns
    have hvirtual := fb.var.xresVirtual.toNat_lt
    have hx := hpoint.1
    exact Nat.mod_eq_of_lt (by omega)
  have hline : u32 ((y + fb.var.yoffset.toNat) * fb.fix.lineLength.toNat) =
      (y + fb.var.yoffset.toNat) * fb.fix.lineLength.toNat := Nat.mod_eq_of_lt (by omega)
  have hinLine : u32 ((x + fb.var.xoffset.toNat) * bytesPerPixel fb) =
      (x + fb.var.xoffset.toNat) * bytesPerPixel fb := Nat.mod_eq_of_lt (by omega)
  rw [pixelOffset, hrow, hcolumn, hline, hinLine, u32, Nat.mod_eq_of_lt (by omega), screenByte,
    Raster.address, Raster.address]
  omega

theorem screenByte_injective {x y k x' y' k' : Nat} (hpoint : InScreen fb x y)
    (hk : k < bytesPerPixel fb) (hpoint' : InScreen fb x' y') (hk' : k' < bytesPerPixel fb)
    (heq : screenByte fb x y k = screenByte fb x' y' k') : (x, y) = (x', y') ∧ k = k' := by
  have hcolumn := byteColumn_lt hformat h hpoint hk
  have hcolumn' := byteColumn_lt hformat h hpoint' hk'
  obtain ⟨hplace, hrow⟩ := Raster.address_injective hcolumn hcolumn' heq
  obtain ⟨hbyte, hpixel⟩ := Raster.address_injective hk hk' hplace
  exact ⟨by rw [Nat.add_right_cancel hpixel, Nat.add_right_cancel hrow], hbyte⟩

/-- The visible rectangle is made of the bytes of the visible pixels. -/
theorem visible_iff {i : Nat} :
    Visible fb i ↔
      ∃ x y, InScreen fb x y ∧ ∃ k, k < bytesPerPixel fb ∧ screenByte fb x y k = i := by
  constructor
  · intro hvisible
    obtain ⟨htop, hbottom, hleft, hright⟩ := hvisible
    have hbytes := hformat.bytes_pos
    have hcolumn := (Nat.le_div_iff_mul_le hbytes).mpr hleft
    have hcolumn' := (Nat.div_lt_iff_lt_mul hbytes).mpr hright
    refine ⟨i % fb.fix.lineLength.toNat / bytesPerPixel fb - fb.var.xoffset.toNat,
      i / fb.fix.lineLength.toNat - fb.var.yoffset.toNat, ⟨by omega, by omega⟩,
      i % fb.fix.lineLength.toNat % bytesPerPixel fb, Nat.mod_lt _ hbytes, ?_⟩
    rw [screenByte, Nat.sub_add_cancel htop, Nat.sub_add_cancel hcolumn, Raster.address_divMod,
      Raster.address_divMod]
  · intro hsome
    obtain ⟨x, y, hpoint, k, hk, rfl⟩ := hsome
    have hcolumn := byteColumn_lt hformat h hpoint hk
    have hright := @Raster.address_lt (bytesPerPixel fb) k (x + fb.var.xoffset.toNat)
      (fb.var.xoffset.toNat + fb.var.xres.toNat) hk (by have := hpoint.1; omega)
    have hleft : fb.var.xoffset.toNat * bytesPerPixel fb ≤
        (x + fb.var.xoffset.toNat) * bytesPerPixel fb := Nat.mul_le_mul_right _ (by omega)
    have hy := hpoint.2
    constructor <;> rw [screenByte]
    · rw [Raster.address_div hcolumn]
      omega
    · rw [Raster.address_div hcolumn]
      omega
    · rw [Raster.address_mod hcolumn, Raster.address]
      omega
    · rwa [Raster.address_mod hcolumn, Nat.mul_comm _ (bytesPerPixel fb)]

end Geometry

section Drawing
variable {fb : FramebufferDisplay} (hformat : Supported fb) (h : Geometry fb)

def pixelBytes (fb : FramebufferDisplay) (x y : Nat) : List Nat :=
  List.range' (pixelOffset fb x y) (bytesPerPixel fb)

theorem pixelStores_cells (fb : FramebufferDisplay) (x y color : Nat) :
    (pixelStores fb x y color).map Updates.Update.cell = pixelBytes fb x y := by
  rw [pixelStores, Updates.writes_cells, LittleEndian.length_encode, pixelBytes]

theorem drawStores_cells (pixels : List UInt16) (width height : Nat) :
    (drawStores fb pixels width height).map Updates.Update.cell =
      (visiblePixels fb).flatMap fun point => pixelBytes fb point.1 point.2 := by
  rw [drawStores, List.map_flatMap]
  simp only [pixelStores_cells]

include hformat h

theorem mem_pixelBytes {x y i : Nat} (hpoint : InScreen fb x y) :
    i ∈ pixelBytes fb x y ↔ ∃ k, k < bytesPerPixel fb ∧ screenByte fb x y k = i := by
  rw [pixelBytes, List.mem_range'_1]
  constructor
  · intro hi
    have hk : i - pixelOffset fb x y < bytesPerPixel fb := by omega
    refine ⟨i - pixelOffset fb x y, hk, ?_⟩
    rw [← pixelOffset_eq hformat h hpoint hk]
    omega
  · intro hi
    obtain ⟨k, hk, rfl⟩ := hi
    rw [← pixelOffset_eq hformat h hpoint hk]
    omega

/-- The bytes of different visible pixels do not overlap. -/
theorem pixelBytes_disjoint {x y x' y' : Nat} (hpoint : InScreen fb x y)
    (hpoint' : InScreen fb x' y') (hne : (x, y) ≠ (x', y')) :
    (pixelBytes fb x y).Disjoint (pixelBytes fb x' y') := by
  intro i hi hi'
  obtain ⟨k, hk, hbyte⟩ := (mem_pixelBytes hformat h hpoint).mp hi
  obtain ⟨k', hk', hbyte'⟩ := (mem_pixelBytes hformat h hpoint').mp hi'
  exact hne (screenByte_injective hformat h hpoint hk hpoint' hk' (hbyte.trans hbyte'.symm)).1

theorem drawStores_nodup (pixels : List UInt16) (width height : Nat) :
    ((drawStores fb pixels width height).map Updates.Update.cell).Nodup := by
  rw [drawStores_cells, List.nodup_flatMap]
  constructor
  · intro point _
    exact List.nodup_range'
  · refine (visiblePixels_nodup fb).imp_of_mem ?_
    intro point point' hpoint hpoint' hne
    exact pixelBytes_disjoint hformat h (mem_visiblePixels.mp hpoint)
      (mem_visiblePixels.mp hpoint') hne

theorem mem_drawStores {pixels : List UInt16} {width height : Nat}
    {store : Updates.Update UInt8} (hstore : store ∈ drawStores fb pixels width height) :
    Visible fb store.cell ∧ store.cell < fb.memSize := by
  have hcell := List.mem_map_of_mem (f := Updates.Update.cell) hstore
  rw [drawStores_cells, List.mem_flatMap] at hcell
  obtain ⟨point, hpoint, hbyte⟩ := hcell
  have hinScreen := mem_visiblePixels.mp hpoint
  obtain ⟨k, hk, heq⟩ := (mem_pixelBytes hformat h hinScreen).mp hbyte
  rw [← heq]
  exact ⟨(visible_iff hformat h).mpr ⟨point.1, point.2, hinScreen, k, hk, rfl⟩,
    screenByte_lt hformat h hinScreen hk⟩

end Drawing

/-- The number that the bytes of a pixel hold. -/
def readPixel (fb : FramebufferDisplay) (mem : List UInt8) (x y : Nat) : Nat :=
  LittleEndian.decode ((mem.drop (pixelOffset fb x y)).take (bytesPerPixel fb))

section Result
variable {fb : FramebufferDisplay} (hformat : Supported fb) (h : Geometry fb)
include hformat h

theorem readPixel_drawn {mem : List UInt8} (hmem : mem.length = fb.memSize) (pixels : List UInt16)
    (width height : Nat) {x y : Nat} (hpoint : InScreen fb x y) :
    readPixel fb (Updates.apply mem (drawStores fb pixels width height)) x y =
      screenColor fb.var (sourcePixel fb pixels width height x y) %
        2 ^ fb.var.bitsPerPixel.toNat := by
  have hstores : pixelStores fb x y (screenColor fb.var (sourcePixel fb pixels width height x y)) ⊆
      drawStores fb pixels width height := by
    intro store hstore
    exact List.mem_flatMap.mpr ⟨(x, y), mem_visiblePixels.mpr hpoint, hstore⟩
  have hbytes := hformat.bytes_pos
  have hlast := screenByte_lt hformat h hpoint (Nat.sub_one_lt_of_lt hbytes)
  rw [← pixelOffset_eq hformat h hpoint (Nat.sub_one_lt_of_lt hbytes)] at hlast
  have hlength : (LittleEndian.encode (bytesPerPixel fb)
      (screenColor fb.var (sourcePixel fb pixels width height x y))).length = bytesPerPixel fb :=
    LittleEndian.length_encode _ _
  have hwritten := Updates.apply_writes (drawStores_nodup hformat h pixels width height) hstores
    (show _ ≤ mem.length by omega)
  rw [hlength] at hwritten
  rw [readPixel, hwritten, LittleEndian.decode_encode, hformat.pow_bytes]

/-- Outside the visible rectangle nothing changes. -/
theorem drawn_frame (mem : List UInt8) (pixels : List UInt16) (width height : Nat) {i : Nat}
    (hi : ¬ Visible fb i) :
    (Updates.apply mem (drawStores fb pixels width height))[i]? = mem[i]? := by
  apply Updates.apply_untouched
  intro store hstore heq
  exact hi (heq ▸ (mem_drawStores hformat h hstore).1)

end Result

/-- Drawing is an in-bounds nearest-neighbour scale. The source place is in the picture for any
products, and so is the pixel that is read; on a geometry of the kernel the draw is a list of
stores to distinct bytes of the visible rectangle inside the mapping, and where the products do
not wrap every visible pixel holds the colour of its source pixel, to the width of a screen
pixel. -/
theorem draw_scales_in_bounds (fb : FramebufferDisplay) (hformat : Supported fb) :
    (∀ width height, 1 ≤ width → 1 ≤ height → ∀ x y, InScreen fb x y →
      sourcePlace x width fb.var.xres.toNat < width ∧
        sourcePlace y height fb.var.yres.toNat < height) ∧
    (∀ (image : SourceImage) x y, InScreen fb x y →
      pixelIndex image.width (sourcePlace x image.width fb.var.xres.toNat)
        (sourcePlace y image.height fb.var.yres.toNat) < image.pixels.length) ∧
    (Geometry fb → ∀ (image : SourceImage) (mem : List UInt8), mem.length = fb.memSize →
      let stores := drawStores fb image.pixels image.width image.height
      let drawn := (framebufferDisplayDrawRgb565 fb mem image.pixels image.width image.height).2
      drawn = Updates.apply mem stores ∧
      (∀ store ∈ stores, store.cell < fb.memSize) ∧
      (∀ x y x' y', InScreen fb x y → InScreen fb x' y' → (x, y) ≠ (x', y') →
        (pixelBytes fb x y).Disjoint (pixelBytes fb x' y')) ∧
      (∀ i, ¬ Visible fb i → drawn[i]? = mem[i]?) ∧
      (fb.var.xres.toNat * image.width < 2 ^ 32 → fb.var.yres.toNat * image.height < 2 ^ 32 →
        ∀ x y, InScreen fb x y →
          readPixel fb drawn x y =
            screenColor fb.var (image.pixel (x * image.width / fb.var.xres.toNat)
              (y * image.height / fb.var.yres.toNat)) % 2 ^ fb.var.bitsPerPixel.toNat)) := by
  refine ⟨?_, ?_, ?_⟩
  · intro width height hwidth hheight x y hpoint
    exact ⟨sourcePlace_lt hpoint.1 hwidth, sourcePlace_lt hpoint.2 hheight⟩
  · intro image x y hpoint
    exact image.index_lt hpoint.1 hpoint.2
  · intro h image mem hmem
    dsimp only
    rw [draw_eq hformat mem image.pixels image.width_pos image.height_pos]
    refine ⟨rfl, fun store hstore => (mem_drawStores hformat h hstore).2,
      fun x y x' y' => pixelBytes_disjoint hformat h,
      fun i => drawn_frame hformat h mem image.pixels image.width image.height, ?_⟩
    intro hwidth hheight x y hpoint
    rw [readPixel_drawn hformat h hmem image.pixels image.width image.height hpoint,
      sourcePixel_eq fb image hpoint.1 hpoint.2 hwidth hheight]

def smallScreen : FramebufferDisplay :=
  { memSize := 20
    fix := { smemLen := 20, lineLength := 10 }
    var :=
      { xres := 2, yres := 1, xresVirtual := 4, yresVirtual := 2, xoffset := 1, yoffset := 1
        bitsPerPixel := 16, red := ⟨11, 5⟩, green := ⟨5, 6⟩, blue := ⟨0, 5⟩, transp := ⟨0, 0⟩ }
    mapped := rfl }

def greenRed : SourceImage :=
  { width := 2, height := 1, pixels := [0x07e0, 0xf800], width_pos := by decide
    height_pos := by decide, size_eq := rfl, fits := by decide }

/-- The second pixel of the screen shows the second one of the picture. -/
theorem draw_scales_in_bounds_smallScreen :
    readPixel smallScreen (framebufferDisplayDrawRgb565 smallScreen (List.replicate 20 0)
      greenRed.pixels greenRed.width greenRed.height).2 1 0 = 0xf800 := by
  have hgeometry : Geometry smallScreen := by
    constructor <;> decide
  have hdrawn := (draw_scales_in_bounds smallScreen (Or.inl rfl)).2.2 hgeometry greenRed
    (List.replicate 20 0) rfl
  rw [hdrawn.2.2.2.2 (by decide) (by decide) 1 0 (by decide)]
  decide

end CameraGateway
