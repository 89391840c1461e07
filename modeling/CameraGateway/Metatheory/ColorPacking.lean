import CameraGateway.Library.BitFields
import CameraGateway.Metatheory.FramebufferDrawing

/-!
The colours on the screen. For every layout of disjoint bit fields inside a pixel the packed
colour keeps the channels apart, and a pixel of the screen holds all of it. On a screen in
5-6-5 the expansion to eight bits and the way back cancel, so that a picture of the size of
the screen is stored as it is.
-/
namespace CameraGateway

section Layout
variable {var : FbVarScreeninfo}

def FbBitfield.field (bitfield : FbBitfield) : BitFields.Field :=
  ⟨bitfield.offset.toNat, bitfield.length.toNat⟩

def FbVarScreeninfo.fields (var : FbVarScreeninfo) : List BitFields.Field :=
  [var.red.field, var.green.field, var.blue.field, var.transp.field]

/-- The fields are pairwise disjoint and lie in a pixel of 16 or 32 bits. -/
structure ColorLayout (var : FbVarScreeninfo) : Prop where
  format : var.bitsPerPixel = 16 ∨ var.bitsPerPixel = 32
  offset_lt : ∀ field ∈ var.fields, field.offset < var.bitsPerPixel.toNat
  inPixel : ∀ field ∈ var.fields, field.offset + field.length ≤ var.bitsPerPixel.toNat
  disjoint : var.fields.Pairwise BitFields.Field.Disjoint

theorem ColorLayout.bits_le (h : ColorLayout var) : var.bitsPerPixel.toNat ≤ 32 := by
  cases h.format with
  | inl h =>
      rw [h]
      decide
  | inr h =>
      rw [h]
      decide

theorem ColorLayout.shifts_lt (h : ColorLayout var) :
    ∀ field ∈ var.fields, field.offset < 32 ∧ field.length - 8 < 32 := by
  intro field hfield
  have hbits := h.bits_le
  have hoffset := h.offset_lt field hfield
  have hlength := h.inPixel field hfield
  omega

end Layout

section Packing
variable {var : FbVarScreeninfo}

theorem scaleColor_zero (value : Nat) : scaleColor value 0 = 0 := rfl

theorem scaleColor_lt {value length : Nat} (h : value < 256) :
    scaleColor value length < 2 ^ length := by
  rw [scaleColor]
  split
  · exact Nat.two_pow_pos _
  · split
    · rename_i hlength
      calc u32 (value <<< (length - 8)) ≤ value <<< (length - 8) := Nat.mod_le _ _
        _ = value * 2 ^ (length - 8) := Nat.shiftLeft_eq _ _
        _ < 2 ^ 8 * 2 ^ (length - 8) := Nat.mul_lt_mul_of_pos_right h (Nat.two_pow_pos _)
        _ = 2 ^ length := by rw [← Nat.pow_add, Nat.add_sub_of_le hlength]
    · rename_i hlength
      rw [Nat.shiftRight_eq_div_pow, Nat.div_lt_iff_lt_mul (Nat.two_pow_pos _), ← Nat.pow_add,
        Nat.add_sub_of_le (by omega)]
      exact h

/-- Placing a channel in a field of the word loses no bit. -/
theorem placeColor_eq {bitfield : FbBitfield} {value : Nat}
    (hfits : bitfield.field.offset + bitfield.field.length ≤ 32)
    (hvalue : scaleColor value bitfield.length.toNat < 2 ^ bitfield.field.length) :
    placeColor bitfield value = bitfield.field.place (scaleColor value bitfield.length.toNat) :=
  Nat.mod_eq_of_lt (BitFields.place_lt hvalue hfits)

/-- The scaled channels with their fields. -/
def channels (var : FbVarScreeninfo) (r g b : Nat) : List (BitFields.Field × Nat) :=
  [(var.red.field, scaleColor r var.red.length.toNat),
    (var.green.field, scaleColor g var.green.length.toNat),
    (var.blue.field, scaleColor b var.blue.length.toNat),
    (var.transp.field, scaleColor 255 var.transp.length.toNat)]

variable (h : ColorLayout var) {r g b : Nat} (hr : r < 256) (hg : g < 256) (hb : b < 256)

include hr hg hb in
theorem channels_fitting : BitFields.Fitting (channels var r g b) := by
  intro entry hentry
  simp only [channels, List.mem_cons, List.not_mem_nil, or_false] at hentry
  obtain rfl | rfl | rfl | rfl := hentry
  · exact scaleColor_lt hr
  · exact scaleColor_lt hg
  · exact scaleColor_lt hb
  · exact scaleColor_lt (by decide)

include h hr hg hb

theorem packColor_eq : packColor var r g b = BitFields.pack (channels var r g b) := by
  have hplace : ∀ (bitfield : FbBitfield) (value : Nat), bitfield.field ∈ var.fields →
      value < 256 → placeColor bitfield value =
        bitfield.field.place (scaleColor value bitfield.length.toNat) := by
    intro bitfield value hmem hvalue
    exact placeColor_eq (Nat.le_trans (h.inPixel _ hmem) h.bits_le) (scaleColor_lt hvalue)
  have hred := hplace var.red r (by simp [FbVarScreeninfo.fields]) hr
  have hgreen := hplace var.green g (by simp [FbVarScreeninfo.fields]) hg
  have hblue := hplace var.blue b (by simp [FbVarScreeninfo.fields]) hb
  have htransp := hplace var.transp 255 (by simp [FbVarScreeninfo.fields]) (by decide)
  simp only [packColor, channels, BitFields.pack, hred, hgreen, hblue, htransp, Nat.zero_or,
    Nat.or_zero]
  split
  · rw [Nat.or_assoc, Nat.or_assoc]
  · rename_i hnone
    have hzero : var.transp.length.toNat = 0 := by
      have := UInt32.lt_iff_toNat_lt.not.mp hnone
      simpa using this
    rw [hzero, scaleColor_zero, BitFields.place_zero, Nat.or_zero, Nat.or_assoc]

theorem packColor_lt : packColor var r g b < 2 ^ var.bitsPerPixel.toNat := by
  rw [packColor_eq h hr hg hb]
  apply BitFields.pack_lt (channels_fitting hr hg hb)
  intro entry hentry
  exact h.inPixel entry.1 (List.mem_map_of_mem hentry)

theorem extract_packColor {field : BitFields.Field} {value : Nat}
    (hmem : (field, value) ∈ channels var r g b) : field.extract (packColor var r g b) = value := by
  rw [packColor_eq h hr hg hb]
  exact BitFields.extract_pack (channels_fitting hr hg hb) (List.pairwise_map.mp h.disjoint) hmem

theorem testBit_packColor {i : Nat} (hi : ∀ field ∈ var.fields, ¬ field.Covers i) :
    (packColor var r g b).testBit i = false := by
  rw [packColor_eq h hr hg hb]
  apply BitFields.testBit_pack_outside (channels_fitting hr hg hb)
  intro entry hentry
  exact hi entry.1 (List.mem_map_of_mem hentry)

end Packing

section Stored
variable {fb : FramebufferDisplay}

theorem readPixel_putPixel (hformat : Supported fb) {mem : List UInt8} {x y : Nat}
    (hmem : pixelOffset fb x y + bytesPerPixel fb ≤ mem.length) (color : Nat) :
    readPixel fb (putPixel fb mem x y color) x y = color % 2 ^ fb.var.bitsPerPixel.toNat := by
  have hlength : (LittleEndian.encode (bytesPerPixel fb) color).length = bytesPerPixel fb :=
    LittleEndian.length_encode _ _
  have hnodup : ((pixelStores fb x y color).map Updates.Update.cell).Nodup := by
    rw [pixelStores_cells]
    exact List.nodup_range'
  have hwritten := Updates.apply_writes hnodup (List.Subset.refl _)
    (show _ ≤ mem.length by omega)
  rw [hlength] at hwritten
  rw [putPixel_eq hformat, readPixel, hwritten, LittleEndian.decode_encode, hformat.pow_bytes]

/-- The channels of a colour are where its layout has them. -/
structure Separated (var : FbVarScreeninfo) (r g b stored : Nat) : Prop where
  red : var.red.field.extract stored = scaleColor r var.red.length.toNat
  green : var.green.field.extract stored = scaleColor g var.green.length.toNat
  blue : var.blue.field.extract stored = scaleColor b var.blue.length.toNat
  transp : 0 < var.transp.length.toNat →
    var.transp.field.extract stored = scaleColor 255 var.transp.length.toNat
  outside : ∀ i, (∀ field ∈ var.fields, ¬ field.Covers i) → stored.testBit i = false

theorem packColor_separated {var : FbVarScreeninfo} (h : ColorLayout var) {r g b : Nat}
    (hr : r < 256) (hg : g < 256) (hb : b < 256) : Separated var r g b (packColor var r g b) :=
  ⟨extract_packColor h hr hg hb (by simp [channels]),
    extract_packColor h hr hg hb (by simp [channels]),
    extract_packColor h hr hg hb (by simp [channels]),
    fun _ => extract_packColor h hr hg hb (by simp [channels]),
    fun _ => testBit_packColor h hr hg hb⟩

end Stored

section Rgb565
variable {var : FbVarScreeninfo}

/-- The screen has the format of the picture, five bits of red, six of green and five of blue,
and no bit of transparency among them. -/
structure Rgb565 (var : FbVarScreeninfo) : Prop where
  bits : var.bitsPerPixel = 16
  red : var.red = ⟨11, 5⟩
  green : var.green = ⟨5, 6⟩
  blue : var.blue = ⟨0, 5⟩
  transp : ∀ i, i < 16 → ¬ var.transp.field.Covers i

def rgb565Fields : List BitFields.Field := [⟨11, 5⟩, ⟨5, 6⟩, ⟨0, 5⟩]

theorem rgb565Fields_cover {i : Nat} (hi : i < 16) : ∃ field ∈ rgb565Fields, field.Covers i := by
  revert i
  decide

/-- The floored expansion to eight bits and the truncation back cancel. -/
theorem scaleColor_expand_five {v : Nat} (h : v < 32) : scaleColor (v * 255 / 31) 5 = v := by
  show (v * 255 / 31) >>> 3 = v
  rw [Nat.shiftRight_eq_div_pow]
  omega

theorem scaleColor_expand_six {v : Nat} (h : v < 64) : scaleColor (v * 255 / 63) 6 = v := by
  show (v * 255 / 63) >>> 2 = v
  rw [Nat.shiftRight_eq_div_pow]
  omega

/-- A channel that was expanded from its field goes back into it. -/
theorem placeColor_expanded {bitfield : FbBitfield} {value : Nat} {rgb565 : UInt16}
    (hfits : bitfield.field.offset + bitfield.field.length ≤ 32)
    (h : scaleColor value bitfield.length.toNat = bitfield.field.extract rgb565.toNat) :
    placeColor bitfield value = bitfield.field.place (bitfield.field.extract rgb565.toNat) := by
  have hextract := BitFields.extract_lt bitfield.field rgb565.toNat
  rw [placeColor_eq hfits (h ▸ hextract), h]

theorem placeColor_redOf (rgb565 : UInt16) :
    placeColor ⟨11, 5⟩ (redOf rgb565) =
      BitFields.Field.place ⟨11, 5⟩ (BitFields.Field.extract ⟨11, 5⟩ rgb565.toNat) := by
  have hmask : (rgb565.toNat >>> 11) &&& 0x1f = BitFields.Field.extract ⟨11, 5⟩ rgb565.toNat :=
    Nat.and_two_pow_sub_one_eq_mod _ 5
  apply @placeColor_expanded ⟨11, 5⟩ _ rgb565 (by decide)
  rw [redOf, hmask]
  exact scaleColor_expand_five (BitFields.extract_lt ⟨11, 5⟩ _)

theorem placeColor_greenOf (rgb565 : UInt16) :
    placeColor ⟨5, 6⟩ (greenOf rgb565) =
      BitFields.Field.place ⟨5, 6⟩ (BitFields.Field.extract ⟨5, 6⟩ rgb565.toNat) := by
  have hmask : (rgb565.toNat >>> 5) &&& 0x3f = BitFields.Field.extract ⟨5, 6⟩ rgb565.toNat :=
    Nat.and_two_pow_sub_one_eq_mod _ 6
  apply @placeColor_expanded ⟨5, 6⟩ _ rgb565 (by decide)
  rw [greenOf, hmask]
  exact scaleColor_expand_six (BitFields.extract_lt ⟨5, 6⟩ _)

theorem placeColor_blueOf (rgb565 : UInt16) :
    placeColor ⟨0, 5⟩ (blueOf rgb565) =
      BitFields.Field.place ⟨0, 5⟩ (BitFields.Field.extract ⟨0, 5⟩ rgb565.toNat) := by
  have hmask : rgb565.toNat &&& 0x1f = BitFields.Field.extract ⟨0, 5⟩ rgb565.toNat :=
    Nat.and_two_pow_sub_one_eq_mod _ 5
  apply @placeColor_expanded ⟨0, 5⟩ _ rgb565 (by decide)
  rw [blueOf, hmask]
  exact scaleColor_expand_five (BitFields.extract_lt ⟨0, 5⟩ _)

theorem placeColor_above {bitfield : FbBitfield} (h : 16 ≤ bitfield.offset.toNat) (value : Nat) :
    placeColor bitfield value % 2 ^ 16 = 0 := by
  have hmod : ∀ n, u32 n % 2 ^ 16 = n % 2 ^ 16 := fun n => Nat.mod_mod_of_dvd n (by decide)
  obtain ⟨above, habove⟩ := Nat.exists_eq_add_of_le h
  rw [placeColor, hmod, Nat.shiftLeft_eq, habove, Nat.pow_add, Nat.mul_left_comm,
    Nat.mul_mod_right]

theorem screenColor_rgb565 (h : Rgb565 var) (rgb565 : UInt16) :
    screenColor var rgb565 % 2 ^ 16 = rgb565.toNat := by
  have hchannels : ((0 ||| placeColor var.red (redOf rgb565)) |||
      placeColor var.green (greenOf rgb565)) ||| placeColor var.blue (blueOf rgb565) =
      rgb565.toNat := by
    rw [h.red, h.green, h.blue, placeColor_redOf, placeColor_greenOf, placeColor_blueOf,
      Nat.zero_or, Nat.or_assoc]
    have hpacked := BitFields.pack_extract rgb565.toNat_lt fun i hi => rgb565Fields_cover hi
    simpa only [rgb565Fields, List.map_cons, List.map_nil, BitFields.pack, Nat.or_zero]
      using hpacked
  have hword : rgb565.toNat % 2 ^ 16 = rgb565.toNat := Nat.mod_eq_of_lt rgb565.toNat_lt
  simp only [screenColor, packColor, hchannels]
  split
  · rename_i hlength
    have hpos : 0 < var.transp.length.toNat := UInt32.lt_iff_toNat_lt.mp hlength
    have habove : 16 ≤ var.transp.offset.toNat := by
      apply Nat.le_of_not_lt
      intro hlow
      exact h.transp _ hlow ⟨Nat.le_refl _, Nat.lt_add_of_pos_right hpos⟩
    rw [Nat.or_mod_two_pow, placeColor_above habove, hword, Nat.or_zero]
  · exact hword

end Rgb565

section Picture
variable {fb : FramebufferDisplay} {image : SourceImage}

theorem pixelStores_congr (hformat : Supported fb) {color color' : Nat}
    (h : color % 2 ^ fb.var.bitsPerPixel.toNat = color' % 2 ^ fb.var.bitsPerPixel.toNat)
    (x y : Nat) :
    pixelStores fb x y color = pixelStores fb x y color' := by
  rw [pixelStores, pixelStores, ← LittleEndian.encode_mod, hformat.pow_bytes, h,
    ← hformat.pow_bytes, LittleEndian.encode_mod]

theorem sourcePixel_same (hwidth : image.width = fb.var.xres.toNat)
    (hheight : image.height = fb.var.yres.toNat)
    (hcolumns : fb.var.xres.toNat * image.width < 2 ^ 32)
    (hlines : fb.var.yres.toNat * image.height < 2 ^ 32) {x y : Nat} (hpoint : InScreen fb x y) :
    sourcePixel fb image.pixels image.width image.height x y = image.pixel x y := by
  have hxres := Nat.zero_lt_of_lt hpoint.1
  have hyres := Nat.zero_lt_of_lt hpoint.2
  rw [sourcePixel_eq fb image hpoint.1 hpoint.2 hcolumns hlines, hwidth, hheight,
    Nat.mul_div_cancel x hxres, Nat.mul_div_cancel y hyres]

end Picture

/-- Packing keeps the channels apart and loses nothing of a picture in 5-6-5. In a layout of
disjoint fields every shift is defined, each channel can be read back from the stored pixel, and
the other bits are 0; a picture of the size of a 5-6-5 screen is put there pixel by pixel as it
is. -/
theorem color_packing_lossless (fb : FramebufferDisplay) :
    (ColorLayout fb.var →
      (∀ field ∈ fb.var.fields, field.offset < 32 ∧ field.length - 8 < 32) ∧
      ∀ r g b, r < 256 → g < 256 → b < 256 →
      Separated fb.var r g b (packColor fb.var r g b) ∧
      (fb.var.bitsPerPixel = 16 → packColor fb.var r g b % 2 ^ 16 = packColor fb.var r g b) ∧
      ∀ (mem : List UInt8) x y, pixelOffset fb x y + bytesPerPixel fb ≤ mem.length →
        readPixel fb (putPixel fb mem x y (packColor fb.var r g b)) x y = packColor fb.var r g b) ∧
    (Rgb565 fb.var → ∀ (image : SourceImage) (mem : List UInt8),
      image.width = fb.var.xres.toNat → image.height = fb.var.yres.toNat →
      fb.var.xres.toNat * image.width < 2 ^ 32 → fb.var.yres.toNat * image.height < 2 ^ 32 →
      let drawn := (framebufferDisplayDrawRgb565 fb mem image.pixels image.width image.height).2
      drawn = (visiblePixels fb).foldl (fun mem point =>
        putPixel fb mem point.1 point.2 (image.pixel point.1 point.2).toNat) mem ∧
      (Geometry fb → mem.length = fb.memSize → ∀ x y, InScreen fb x y →
        readPixel fb drawn x y = (image.pixel x y).toNat)) := by
  constructor
  · intro h
    refine ⟨h.shifts_lt, ?_⟩
    intro r g b hr hg hb
    have hfits := packColor_lt h hr hg hb
    refine ⟨packColor_separated h hr hg hb, ?_, ?_⟩
    · intro hbits
      rw [hbits] at hfits
      exact Nat.mod_eq_of_lt hfits
    · intro mem x y hmem
      rw [readPixel_putPixel h.format hmem, Nat.mod_eq_of_lt hfits]
  · intro h image mem hwidth hheight hcolumns hlines
    have hformat : Supported fb := Or.inl h.bits
    have hbits : fb.var.bitsPerPixel.toNat = 16 := congrArg UInt32.toNat h.bits
    have hcolor : ∀ x y, InScreen fb x y →
        screenColor fb.var (sourcePixel fb image.pixels image.width image.height x y) % 2 ^ 16 =
          (image.pixel x y).toNat := by
      intro x y hpoint
      rw [screenColor_rgb565 h, sourcePixel_same hwidth hheight hcolumns hlines hpoint]
    dsimp only
    rw [draw_eq hformat mem image.pixels image.width_pos image.height_pos]
    constructor
    · have hstores : drawStores fb image.pixels image.width image.height =
          (visiblePixels fb).flatMap fun point =>
            pixelStores fb point.1 point.2 (image.pixel point.1 point.2).toNat := by
        apply List.flatMap_congr
        intro point hpoint
        apply pixelStores_congr hformat
        rw [hbits, hcolor _ _ (mem_visiblePixels.mp hpoint)]
        exact (Nat.mod_eq_of_lt (image.pixel point.1 point.2).toNat_lt).symm
      rw [hstores, ← Updates.foldl_apply]
      simp only [putPixel_eq hformat]
    · intro hgeometry hmem x y hpoint
      rw [readPixel_drawn hformat hgeometry hmem image.pixels image.width image.height hpoint,
        hbits, hcolor x y hpoint]

/-- On the small screen yellow comes apart again and the picture is shown as it is. -/
theorem color_packing_lossless_smallScreen :
    Separated smallScreen.var 255 255 0 (packColor smallScreen.var 255 255 0) ∧
      readPixel smallScreen (framebufferDisplayDrawRgb565 smallScreen (List.replicate 20 0)
        greenRed.pixels greenRed.width greenRed.height).2 0 0 = 0x07e0 := by
  have hlayout : ColorLayout smallScreen.var := by
    refine ⟨Or.inl rfl, by decide, by decide, ?_⟩
    show List.Pairwise BitFields.Field.Disjoint [⟨11, 5⟩, ⟨5, 6⟩, ⟨0, 5⟩, ⟨0, 0⟩]
    simp only [List.pairwise_cons, List.mem_cons, List.not_mem_nil, or_false, forall_eq_or_imp,
      forall_eq, BitFields.Field.Disjoint, BitFields.Field.Covers]
    refine ⟨⟨?_, ?_, ?_⟩, ⟨?_, ?_⟩, ?_, by simp⟩ <;> omega
  have hrgb565 : Rgb565 smallScreen.var := ⟨rfl, rfl, rfl, rfl, by decide⟩
  have hgeometry : Geometry smallScreen := by
    constructor <;> decide
  obtain ⟨hpacked, hdrawn⟩ := color_packing_lossless smallScreen
  refine ⟨((hpacked hlayout).2 255 255 0 (by decide) (by decide) (by decide)).1, ?_⟩
  exact (hdrawn hrgb565 greenRed (List.replicate 20 0) rfl rfl (by decide) (by decide)).2
    hgeometry rfl 0 0 (by decide)

end CameraGateway
