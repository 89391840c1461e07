import CameraGateway.Core.TestPattern
import CameraGateway.Metatheory.CaptureCleanup
import CameraGateway.Metatheory.ColorPacking

/-!
The framebuffer test. Drawing by a colour for each visible pixel is a list of stores to
distinct bytes, whatever the colours are; the eight bars are such a drawing on a cleared
screen, and in every layout that has bits for all three channels the bars can be told
apart. The display is closed again on every path.
-/
namespace CameraGateway
open Ledger (Balanced)

section Painting
variable {fb : FramebufferDisplay} {color : Nat → Nat → Nat}

/-- The stores of a drawing that gives each visible pixel its colour. -/
def paintStores (fb : FramebufferDisplay) (color : Nat → Nat → Nat) :
    List (Updates.Update UInt8) :=
  (visiblePixels fb).flatMap fun point => pixelStores fb point.1 point.2 (color point.1 point.2)

theorem paint_eq (hformat : Supported fb) (mem : List UInt8) (color : Nat → Nat → Nat) :
    (List.range fb.var.yres.toNat).foldl (fun mem y =>
      (List.range fb.var.xres.toNat).foldl (fun mem x => putPixel fb mem x y (color x y)) mem) mem =
      Updates.apply mem (paintStores fb color) := by
  rw [paintStores, visiblePixels]
  simp only [putPixel_eq hformat, Updates.foldl_apply, List.flatMap_assoc, List.flatMap_map]

/-- The colours do not decide which bytes are stored. -/
theorem paintStores_cells (fb : FramebufferDisplay) (color : Nat → Nat → Nat) :
    (paintStores fb color).map Updates.Update.cell =
      (visiblePixels fb).flatMap fun point => pixelBytes fb point.1 point.2 := by
  rw [paintStores, List.map_flatMap]
  simp only [pixelStores_cells]

variable (hformat : Supported fb) (h : Geometry fb)
include hformat h

theorem paintStores_nodup (color : Nat → Nat → Nat) :
    ((paintStores fb color).map Updates.Update.cell).Nodup := by
  have hcells := drawStores_nodup hformat h [] 0 0
  rwa [drawStores_cells, ← paintStores_cells fb color] at hcells

theorem mem_paintStores {store : Updates.Update UInt8} (hstore : store ∈ paintStores fb color) :
    Visible fb store.cell := by
  obtain ⟨point, hpoint, hpixel⟩ := List.mem_flatMap.mp hstore
  have hinScreen := mem_visiblePixels.mp hpoint
  have hcell := List.mem_map_of_mem (f := Updates.Update.cell) hpixel
  rw [pixelStores_cells] at hcell
  obtain ⟨k, hk, heq⟩ := (mem_pixelBytes hformat h hinScreen).mp hcell
  exact heq ▸ (visible_iff hformat h).mpr ⟨point.1, point.2, hinScreen, k, hk, rfl⟩

theorem readPixel_painted {mem : List UInt8} (hmem : mem.length = fb.memSize)
    (color : Nat → Nat → Nat) {x y : Nat} (hpoint : InScreen fb x y) :
    readPixel fb (Updates.apply mem (paintStores fb color)) x y =
      color x y % 2 ^ fb.var.bitsPerPixel.toNat := by
  have hstores : pixelStores fb x y (color x y) ⊆ paintStores fb color := by
    intro store hstore
    exact List.mem_flatMap.mpr ⟨(x, y), mem_visiblePixels.mpr hpoint, hstore⟩
  have hbytes := hformat.bytes_pos
  have hlast := screenByte_lt hformat h hpoint (Nat.sub_one_lt_of_lt hbytes)
  rw [← pixelOffset_eq hformat h hpoint (Nat.sub_one_lt_of_lt hbytes)] at hlast
  have hlength : (LittleEndian.encode (bytesPerPixel fb) (color x y)).length = bytesPerPixel fb :=
    LittleEndian.length_encode _ _
  have hwritten := Updates.apply_writes (paintStores_nodup hformat h color) hstores
    (show _ ≤ mem.length by omega)
  rw [hlength] at hwritten
  rw [readPixel, hwritten, LittleEndian.decode_encode, hformat.pow_bytes]

theorem painted_frame (mem : List UInt8) (color : Nat → Nat → Nat) {i : Nat}
    (hi : ¬ Visible fb i) :
    (Updates.apply mem (paintStores fb color))[i]? = mem[i]? := by
  apply Updates.apply_untouched
  intro store hstore heq
  exact hi (heq ▸ mem_paintStores hformat h hstore)

end Painting

section Bars
variable {fb : FramebufferDisplay} {var : FbVarScreeninfo}

theorem drawColorBars_eq (hformat : Supported fb) (mem : List UInt8) :
    drawColorBars fb mem = Updates.apply mem (paintStores fb fun x _ =>
      barPixel fb.var (sourcePlace x barColors.length fb.var.xres.toNat)) :=
  paint_eq hformat mem fun x _ =>
    barPixel fb.var (sourcePlace x barColors.length fb.var.xres.toNat)

/-- The bar that a column of the screen belongs to. -/
def barOf (fb : FramebufferDisplay) (x : Nat) : Nat :=
  Bands.place fb.var.xres.toNat barColors.length x

theorem barOf_lt {x y : Nat} (hpoint : InScreen fb x y) : barOf fb x < 8 :=
  Bands.place_lt hpoint.1 (by decide)

theorem barOf_mono {x x' : Nat} (h : x ≤ x') : barOf fb x ≤ barOf fb x' :=
  Nat.div_le_div_right (Nat.mul_le_mul_right _ h)

theorem exists_barOf (hwide : 8 ≤ fb.var.xres.toNat) {bar : Nat} (hbar : bar < 8) :
    ∃ x, x < fb.var.xres.toNat ∧ barOf fb x = bar := by
  have hroom : (barColors.length - 1) * 1 < fb.var.xres.toNat := by
    rw [show barColors.length = 8 from rfl]
    omega
  obtain ⟨k, hk, hplace⟩ := Bands.hit_of_lt (by decide) Nat.one_pos hroom hbar
  rw [Nat.mul_one] at hk hplace
  exact ⟨k, hk, hplace⟩

/-- The columns are counted without a wrap on a screen of at most this width. -/
theorem sourcePlace_bar (hwidth : fb.var.xres.toNat ≤ 2 ^ 29) {x y : Nat}
    (hpoint : InScreen fb x y) :
    sourcePlace x barColors.length fb.var.xres.toNat = barOf fb x := by
  have hx := hpoint.1
  have hwrap : x * barColors.length < 2 ^ 32 := by
    rw [show barColors.length = 8 from rfl]
    omega
  rw [sourcePlace, u32, Nat.mod_eq_of_lt hwrap]
  rfl

theorem scaleColor_none (length : Nat) : scaleColor 0 length = 0 := by
  rw [scaleColor, Nat.zero_shiftLeft, Nat.zero_shiftRight]
  split
  · rfl
  · split <;> rfl

theorem scaleColor_full {length : Nat} (hpos : 0 < length) (hle : length ≤ 32) :
    scaleColor 255 length ≠ 0 := by
  have hall : ∀ length < 33, 0 < length → scaleColor 255 length ≠ 0 := by decide
  exact hall length (by omega) hpos

/-- A layout that has bits for each of the three channels. -/
structure ThreeChannels (var : FbVarScreeninfo) : Prop extends ColorLayout var where
  red_pos : 0 < var.red.length.toNat
  green_pos : 0 < var.green.length.toNat
  blue_pos : 0 < var.blue.length.toNat

theorem barColors_extreme : ∀ color ∈ barColors, (color.1 = 0 ∨ color.1 = 255) ∧
    (color.2.1 = 0 ∨ color.2.1 = 255) ∧ (color.2.2 = 0 ∨ color.2.2 = 255) := by
  decide

theorem barColors_nodup : barColors.Nodup := by decide

/-- A channel that is off or full can be told from its field. -/
theorem channel_eq {length value value' : Nat} (hpos : 0 < length) (hle : length ≤ 32)
    (hvalue : value = 0 ∨ value = 255) (hvalue' : value' = 0 ∨ value' = 255)
    (h : scaleColor value length = scaleColor value' length) : value = value' := by
  have hfull := scaleColor_full hpos hle
  cases hvalue with
  | inl hoff =>
      cases hvalue' with
      | inl hoff' => rw [hoff, hoff']
      | inr hon =>
          rw [hoff, hon, scaleColor_none] at h
          exact absurd h.symm hfull
  | inr hon =>
      cases hvalue' with
      | inl hoff =>
          rw [hoff, hon, scaleColor_none] at h
          exact absurd h hfull
      | inr hon' => rw [hon, hon']

theorem barPixel_injective (h : ThreeChannels var) {bar bar' : Nat} (hbar : bar < 8)
    (hbar' : bar' < 8) (heq : barPixel var bar = barPixel var bar') : bar = bar' := by
  have hmem : barColors[bar] ∈ barColors := List.getElem_mem hbar
  have hmem' : barColors[bar'] ∈ barColors := List.getElem_mem hbar'
  obtain ⟨hred, hgreen, hblue⟩ := barColors_extreme _ hmem
  obtain ⟨hred', hgreen', hblue'⟩ := barColors_extreme _ hmem'
  have hsmall : ∀ {value : Nat}, value = 0 ∨ value = 255 → value < 256 := by omega
  have hparts := packColor_separated h.toColorLayout (hsmall hred) (hsmall hgreen) (hsmall hblue)
  have hparts' :=
    packColor_separated h.toColorLayout (hsmall hred') (hsmall hgreen') (hsmall hblue')
  have hbits : ∀ field ∈ var.fields, field.length ≤ 32 := by
    intro field hfield
    have hinside := h.inPixel field hfield
    have hle := h.bits_le
    omega
  have hpacked : packColor var barColors[bar].1 barColors[bar].2.1 barColors[bar].2.2 =
      packColor var barColors[bar'].1 barColors[bar'].2.1 barColors[bar'].2.2 := by
    have hget : ∀ {i : Nat} (hi : i < 8), barColors.getD i (0, 0, 0) = barColors[i] :=
      fun hi => List.getD_eq_getElem _ _ hi
    rw [barPixel, barPixel, hget hbar, hget hbar'] at heq
    exact heq
  rw [hpacked] at hparts
  have hcolor : barColors[bar] = barColors[bar'] := by
    refine Prod.ext ?_ (Prod.ext ?_ ?_)
    · exact channel_eq h.red_pos (hbits var.red.field (by simp [FbVarScreeninfo.fields]))
        hred hred' (hparts.red.symm.trans hparts'.red)
    · exact channel_eq h.green_pos (hbits var.green.field (by simp [FbVarScreeninfo.fields]))
        hgreen hgreen' (hparts.green.symm.trans hparts'.green)
    · exact channel_eq h.blue_pos (hbits var.blue.field (by simp [FbVarScreeninfo.fields]))
        hblue hblue' (hparts.blue.symm.trans hparts'.blue)
  exact (barColors_nodup.getElem_inj_iff).mp hcolor

end Bars

section Pattern
variable {outcomes : ScreenOutcomes} {mem : List UInt8} {fb : FramebufferDisplay}

/-- An open display has told what its screen is. -/
theorem screen_of_open {display : Display}
    (h : (framebufferDisplayOpen outcomes.display).out = some display) :
    ∃ fb, outcomes.screen = some fb := by
  revert h
  rw [framebufferDisplayOpen, ScreenOutcomes.screen, ScreenOutcomes.display]
  cases outcomes.fixInfo with
  | none => cases outcomes.openDevice <;> (split <;> exact fun h => by cases h)
  | some fix =>
      cases outcomes.varInfo with
      | none => cases outcomes.openDevice <;> (split <;> exact fun h => by cases h)
      | some var => exact fun _ => ⟨_, rfl⟩

theorem testPattern_cases (outcomes : ScreenOutcomes) (mem : List UInt8) :
    ((framebufferDisplayOpen outcomes.display).out = none ∧
      framebufferTestPattern outcomes mem =
        { ret := -1, ops := (framebufferDisplayOpen outcomes.display).ops, mem := mem }) ∨
    ∃ fb, outcomes.screen = some fb ∧ (framebufferDisplayOpen outcomes.display).out ≠ none ∧
      framebufferTestPattern outcomes mem =
        { ret := if fb.var.bitsPerPixel = 16 ∨ fb.var.bitsPerPixel = 32 then 0 else -1
          ops := (framebufferDisplayOpen outcomes.display).ops ++
            framebufferDisplayClose (framebufferDisplayOpen outcomes.display).out
          mem := if fb.var.bitsPerPixel = 16 ∨ fb.var.bitsPerPixel = 32 then
              drawColorBars fb (List.replicate fb.memSize 0)
            else List.replicate fb.memSize 0 } := by
  cases hout : (framebufferDisplayOpen outcomes.display).out with
  | none =>
      refine Or.inl ⟨rfl, ?_⟩
      rw [framebufferTestPattern, hout]
  | some display =>
      obtain ⟨fb, hfb⟩ := screen_of_open hout
      refine Or.inr ⟨fb, hfb, Option.some_ne_none display, ?_⟩
      rw [framebufferTestPattern, hout, hfb]
      dsimp only
      split <;> rfl

theorem testPattern_released (outcomes : ScreenOutcomes) (mem : List UInt8) :
    Ledger.Holds Resource.uses (framebufferTestPattern outcomes mem).ops [] := by
  have hclean : Clean (framebufferTestPattern outcomes mem).ops := by
    cases testPattern_cases outcomes mem with
    | inl hclosed =>
        have hdisplay := display_clean outcomes.display
        rw [hclosed.1, framebufferDisplayClose, List.append_nil] at hdisplay
        rw [hclosed.2]
        exact hdisplay
    | inr hopened =>
        obtain ⟨fb, -, -, hcall⟩ := hopened
        rw [hcall]
        exact display_clean outcomes.display
  have hnone := hclean.balanced Ledger.Holds.nil (fun _ _ => List.not_mem_nil)
    (fun _ _ _ hother => absurd hother List.not_mem_nil)
    (fun _ _ _ hother => absurd hother List.not_mem_nil)
  rwa [List.nil_append] at hnone

/-- A screen that shows the bars and nothing else. -/
structure ShowsBars (fb : FramebufferDisplay) (mem : List UInt8) : Prop where
  size : mem.length = fb.memSize
  bars : ∀ x y, InScreen fb x y →
    readPixel fb mem x y = barPixel fb.var (barOf fb x) % 2 ^ fb.var.bitsPerPixel.toNat
  clear : ∀ i, i < fb.memSize → ¬ Visible fb i → mem[i]? = some 0

theorem drawColorBars_shows (hformat : Supported fb) (h : Geometry fb)
    (hwidth : fb.var.xres.toNat ≤ 2 ^ 29) :
    ShowsBars fb (drawColorBars fb (List.replicate fb.memSize 0)) := by
  have hlength : (List.replicate fb.memSize (0 : UInt8)).length = fb.memSize :=
    List.length_replicate
  rw [drawColorBars_eq hformat]
  refine ⟨?_, ?_, ?_⟩
  · rw [Updates.length_apply, hlength]
  · intro x y hpoint
    rw [readPixel_painted hformat h hlength _ hpoint, sourcePlace_bar hwidth hpoint]
  · intro i hi hhidden
    rw [painted_frame hformat h _ _ hhidden, List.getElem?_replicate, if_pos hi]

/-- In a layout with all three channels two pixels look the same just when they are in the
same bar. -/
theorem ShowsBars.same_iff (hbars : ShowsBars fb mem) (h : ThreeChannels fb.var) {x y x' y' : Nat}
    (hpoint : InScreen fb x y) (hpoint' : InScreen fb x' y') :
    readPixel fb mem x y = readPixel fb mem x' y' ↔ barOf fb x = barOf fb x' := by
  have hfits : ∀ {bar : Nat}, bar < 8 →
      barPixel fb.var bar % 2 ^ fb.var.bitsPerPixel.toNat = barPixel fb.var bar := by
    intro bar hbar
    have hcolor : ∀ color ∈ barColors, color.1 < 256 ∧ color.2.1 < 256 ∧ color.2.2 < 256 := by
      decide
    obtain ⟨hr, hg, hb⟩ := hcolor _ (List.getElem_mem (l := barColors) hbar)
    rw [barPixel, List.getD_eq_getElem _ _ hbar]
    exact Nat.mod_eq_of_lt (packColor_lt h.toColorLayout hr hg hb)
  have hbar := barOf_lt hpoint
  have hbar' := barOf_lt hpoint'
  rw [hbars.bars x y hpoint, hbars.bars x' y' hpoint', hfits hbar, hfits hbar']
  exact ⟨barPixel_injective h hbar hbar', fun heq => congrArg (barPixel fb.var) heq⟩

end Pattern

/-- The framebuffer test gives back whatever it has acquired, leaves a screen alone that it
cannot open, and succeeds just on an open screen of 16 or 32 bits. On one of at most 2 ^ 29
columns, where `x * 8` does not wrap, it then shows eight bars from left to right on a black
screen, in colours that can be told apart wherever the layout has bits for them. -/
theorem test_pattern_shows_bars (outcomes : ScreenOutcomes) (mem : List UInt8) :
    let opened := framebufferDisplayOpen outcomes.display
    let call := framebufferTestPattern outcomes mem
    Ledger.Holds Resource.uses call.ops [] ∧
    (opened.out = none → call.ret = -1 ∧ call.mem = mem) ∧
    (opened.out ≠ none → ∃ fb, outcomes.screen = some fb ∧
      (¬ Supported fb → call.ret = -1 ∧ call.mem = List.replicate fb.memSize 0) ∧
      (Supported fb → call.ret = 0 ∧
        (Geometry fb → fb.var.xres.toNat ≤ 2 ^ 29 →
          ShowsBars fb call.mem ∧
          (∀ x x', x ≤ x' → barOf fb x ≤ barOf fb x') ∧
          (8 ≤ fb.var.xres.toNat →
            ∀ bar, bar < 8 → ∃ x, x < fb.var.xres.toNat ∧ barOf fb x = bar) ∧
          (ThreeChannels fb.var → ∀ x y x' y', InScreen fb x y → InScreen fb x' y' →
            (readPixel fb call.mem x y = readPixel fb call.mem x' y' ↔
              barOf fb x = barOf fb x'))))) := by
  dsimp only
  refine ⟨testPattern_released outcomes mem, ?_, ?_⟩
  · intro hclosed
    cases testPattern_cases outcomes mem with
    | inl hcase =>
        rw [hcase.2]
        exact ⟨rfl, rfl⟩
    | inr hcase =>
        obtain ⟨_, _, hopened, _⟩ := hcase
        exact absurd hclosed hopened
  · intro hopened
    cases testPattern_cases outcomes mem with
    | inl hcase => exact absurd hcase.1 hopened
    | inr hcase =>
        obtain ⟨fb, hfb, -, hcall⟩ := hcase
        refine ⟨fb, hfb, ?_, ?_⟩
        · intro hformat
          rw [hcall]
          exact ⟨if_neg hformat, if_neg hformat⟩
        · intro hformat
          have hmem : (framebufferTestPattern outcomes mem).mem =
              drawColorBars fb (List.replicate fb.memSize 0) := by
            rw [hcall]
            exact if_pos hformat
          refine ⟨?_, ?_⟩
          · rw [hcall]
            exact if_pos hformat
          · intro hgeometry hwidth
            have hshows := drawColorBars_shows hformat hgeometry hwidth
            rw [← hmem] at hshows
            exact ⟨hshows, fun x x' => barOf_mono, fun hwide bar => exists_barOf hwide,
              fun hchannels x y x' y' => hshows.same_iff hchannels⟩

/-- Eight columns in 5-6-5, the second of two lines of the memory being visible. -/
def eightColumns : FramebufferDisplay :=
  { memSize := 32, fix := { smemLen := 32, lineLength := 16 }
    var :=
      { xres := 8, yres := 1, xresVirtual := 8, yresVirtual := 2, xoffset := 0, yoffset := 1
        bitsPerPixel := 16, red := ⟨11, 5⟩, green := ⟨5, 6⟩, blue := ⟨0, 5⟩, transp := ⟨0, 0⟩ }
    mapped := rfl }

def barScreen : ScreenOutcomes :=
  { calloc := true, openDevice := some 4, fixInfo := some eightColumns.fix
    varInfo := some eightColumns.var, mmap := some 0x20000 }

theorem eightColumns_channels : ThreeChannels eightColumns.var := by
  have hdisjoint : eightColumns.var.fields.Pairwise BitFields.Field.Disjoint := by
    show List.Pairwise BitFields.Field.Disjoint [⟨11, 5⟩, ⟨5, 6⟩, ⟨0, 5⟩, ⟨0, 0⟩]
    simp only [List.pairwise_cons, List.mem_cons, List.not_mem_nil, or_false, forall_eq_or_imp,
      forall_eq, BitFields.Field.Disjoint, BitFields.Field.Covers]
    refine ⟨⟨?_, ?_, ?_⟩, ⟨?_, ?_⟩, ?_, by simp⟩ <;> omega
  exact ⟨⟨Or.inl rfl, by decide, by decide, hdisjoint⟩, by decide, by decide, by decide⟩

/-- The first column is red and the last one black, and they differ. -/
theorem test_pattern_shows_bars_eightColumns :
    ShowsBars eightColumns (framebufferTestPattern barScreen []).mem ∧
      readPixel eightColumns (framebufferTestPattern barScreen []).mem 0 0 ≠
        readPixel eightColumns (framebufferTestPattern barScreen []).mem 7 0 := by
  have hopen : (framebufferDisplayOpen barScreen.display).out ≠ none := by
    decide
  have hgeometry : Geometry eightColumns := by
    constructor <;> decide
  obtain ⟨fb, hfb, -, hsupported⟩ := (test_pattern_shows_bars barScreen []).2.2 hopen
  obtain rfl : eightColumns = fb := Option.some.inj hfb
  obtain ⟨hbars, -, -, hsame⟩ := (hsupported (Or.inl rfl)).2 hgeometry (by decide)
  refine ⟨hbars, fun heq => ?_⟩
  have hbar := (hsame eightColumns_channels 0 0 7 0 (by decide) (by decide)).mp heq
  exact absurd hbar (by decide)

end CameraGateway
