import CameraGateway.Core.CameraDevice
import CameraGateway.Core.ParseArgs
import CameraGateway.Metatheory.CaptureCleanup

/-!
The listing of a camera's formats. With a driver that refuses some index of each table the
three nested loops end, and what they print is the tables in their order, each as far as the
source reads it. A format can be chosen by the name in the listing just when it is one of the
four that the program knows.
-/
namespace CameraGateway
open Enumeration (collect upTo)

section Rounds
variable {driver : ListingDriver} {rounds : Nat}

theorem ofNat_period (index : Nat) : UInt32.ofNat (index + 2 ^ 32) = UInt32.ofNat index := by
  rw [UInt32.ofNat_eq_iff_mod_eq_toNat, UInt32.toNat_ofNat', Nat.add_mod_right]

/-- A loop over the answers to a `__u32` index that has not ended when all of them have been
given does not end. -/
theorem collect_rounds {α β : Type} (ask : UInt32 → Option α) (last : α → Bool)
    {visit : Nat → α → Option (List β)} (hvisit : ∀ i, visit (i + 2 ^ 32) = visit i)
    (hrounds : 2 ^ 32 ≤ rounds) :
    collect (fun index => ask (UInt32.ofNat index)) last visit rounds 0 =
      collect (fun index => ask (UInt32.ofNat index)) last visit (2 ^ 32) 0 := by
  have hask : ∀ i, ask (UInt32.ofNat (i + 2 ^ 32)) = ask (UInt32.ofNat i) :=
    fun i => congrArg ask (ofNat_period i)
  exact Enumeration.collect_stable (by decide) hask hvisit hrounds

theorem intervals_rounds (hrounds : 2 ^ 32 ≤ rounds) (pixelFormat width height : UInt32) :
    listFrameIntervals rounds driver pixelFormat width height =
      listFrameIntervals (2 ^ 32) driver pixelFormat width height := by
  rw [listFrameIntervals, listFrameIntervals,
    collect_rounds (driver.enumFrameIntervals pixelFormat width height) _ (fun _ => rfl) hrounds]

theorem sizes_rounds (hrounds : 2 ^ 32 ≤ rounds) (pixelFormat : UInt32) :
    listFrameSizes rounds driver pixelFormat = listFrameSizes (2 ^ 32) driver pixelFormat := by
  have hbody : listFrameSize rounds driver pixelFormat =
      listFrameSize (2 ^ 32) driver pixelFormat := by
    funext size
    cases size with
    | discrete width height => rw [listFrameSize, listFrameSize, intervals_rounds hrounds]
    | _ => rfl
  rw [listFrameSizes, listFrameSizes, hbody,
    collect_rounds (driver.enumFrameSizes pixelFormat) _ (fun _ => rfl) hrounds]

theorem listFormats_rounds (hrounds : 2 ^ 32 ≤ rounds) (device : List UInt8)
    (driver : ListingDriver) :
    cameraListFormats rounds device driver = cameraListFormats (2 ^ 32) device driver := by
  have hbody : listFormat rounds driver = listFormat (2 ^ 32) driver := by
    funext index format
    rw [listFormat, listFormat, sizes_rounds hrounds]
  have hperiod : ∀ i, listFormat (2 ^ 32) driver (i + 2 ^ 32) = listFormat (2 ^ 32) driver i := by
    intro i
    funext format
    rw [listFormat, listFormat, ofNat_period]
  have hloop := collect_rounds driver.enumFmt (fun _ => false) hperiod hrounds
  unfold cameraListFormats
  simp only [hbody, hloop]

end Rounds

section Tables
variable {driver : ListingDriver}

/-- The tables of a driver that refuses every index past their ends. -/
structure FormatTables (driver : ListingDriver) where
  formats : List FormatDesc
  sizes : UInt32 → List FrameSize
  intervals : UInt32 → UInt32 → UInt32 → List FrameInterval
  enumFmt : ∀ index, driver.enumFmt index = formats[index.toNat]?
  enumFrameSizes : ∀ format index, driver.enumFrameSizes format index = (sizes format)[index.toNat]?
  enumFrameIntervals : ∀ format width height index,
    driver.enumFrameIntervals format width height index =
      (intervals format width height)[index.toNat]?
  formats_lt : formats.length < 2 ^ 32
  sizes_lt : ∀ format, (sizes format).length < 2 ^ 32
  intervals_lt : ∀ format width height, (intervals format width height).length < 2 ^ 32

namespace FormatTables

/-- The lines of the intervals up to the first that is not a discrete one. -/
def intervalLines (tables : FormatTables driver) (format width height : UInt32) :
    List ListingLine :=
  (upTo (fun interval => !interval.isDiscrete) (tables.intervals format width height)).flatMap
    printInterval

def sizeLines (tables : FormatTables driver) (format : UInt32) : FrameSize → List ListingLine
  | .discrete width height => .size width height :: tables.intervalLines format width height
  | .stepwise range | .continuous range => [.sizeRange range]
  | .other => []

/-- The sizes up to the first range. -/
def formatLines (tables : FormatTables driver) (index : Nat) (format : FormatDesc) :
    List ListingLine :=
  .format (UInt32.ofNat index) (fourccToString format.pixelFormat) format.description ::
    (upTo FrameSize.isRange (tables.sizes format.pixelFormat)).flatMap
      (tables.sizeLines format.pixelFormat)

def listing (tables : FormatTables driver) : List ListingLine :=
  tables.formats.zipIdx.flatMap fun entry => tables.formatLines entry.2 entry.1

end FormatTables

theorem collect_listed {α β : Type} {ask : UInt32 → Option α} (last : α → Bool) {table : List α}
    {visit : Nat → α → Option (List β)} {lines : Nat → α → List β}
    (hask : ∀ index, ask index = table[index.toNat]?) (hlength : table.length < 2 ^ 32)
    (hvisit : ∀ k item, visit k item = some (lines k item)) :
    collect (fun index => ask (UInt32.ofNat index)) last visit (2 ^ 32) 0 =
      some ((upTo last table).zipIdx.flatMap fun entry => lines entry.2 entry.1,
        Enumeration.stop last table) := by
  have hanswers : ∀ k, k ≤ table.length → ask (UInt32.ofNat (0 + k)) = table[k]? := by
    intro k hk
    rw [hask, UInt32.toNat_ofNat', Nat.zero_add, Nat.mod_eq_of_lt (by omega)]
  have hcollected : collect (fun index => ask (UInt32.ofNat index)) last visit (2 ^ 32) 0 =
      some ((upTo last table).zipIdx.flatMap fun entry => lines entry.2 entry.1,
        0 + Enumeration.stop last table) :=
    Enumeration.collect_table hanswers (fun k item _ => hvisit k item) hlength
  rwa [Nat.zero_add] at hcollected

/-- A visit that does not look at the index. -/
theorem flatMap_zipIdx {α β : Type} (lines : α → List β) (table : List α) (i : Nat) :
    ((table.zipIdx i).flatMap fun entry => lines entry.1) = table.flatMap lines := by
  induction table generalizing i with
  | nil => rfl
  | cons item items ih => rw [List.zipIdx_cons, List.flatMap_cons, List.flatMap_cons, ih]

namespace FormatTables
variable (tables : FormatTables driver)

theorem intervals_listed (format width height : UInt32) :
    listFrameIntervals (2 ^ 32) driver format width height =
      some (tables.intervalLines format width height) := by
  have hlisted := collect_listed (fun interval : FrameInterval => !interval.isDiscrete)
    (tables.enumFrameIntervals format width height) (tables.intervals_lt format width height)
    (fun _ interval => (rfl : some (printInterval interval) = some (printInterval interval)))
  rw [flatMap_zipIdx] at hlisted
  rw [listFrameIntervals, hlisted]
  rfl

theorem size_listed (format : UInt32) (size : FrameSize) :
    listFrameSize (2 ^ 32) driver format size = some (tables.sizeLines format size) := by
  cases size with
  | discrete width height =>
      rw [listFrameSize, tables.intervals_listed format width height]
      rfl
  | _ => rfl

theorem sizes_listed (format : UInt32) :
    listFrameSizes (2 ^ 32) driver format =
      some ((upTo FrameSize.isRange (tables.sizes format)).flatMap (tables.sizeLines format)) := by
  have hlisted := collect_listed FrameSize.isRange (tables.enumFrameSizes format)
    (tables.sizes_lt format) (fun _ size => tables.size_listed format size)
  rw [flatMap_zipIdx] at hlisted
  rw [listFrameSizes, hlisted]
  rfl

theorem formats_listed :
    collect (fun index => driver.enumFmt (UInt32.ofNat index)) (fun _ => false)
      (listFormat (2 ^ 32) driver) (2 ^ 32) 0 = some (tables.listing, tables.formats.length) := by
  have hformat : ∀ index format,
      listFormat (2 ^ 32) driver index format = some (tables.formatLines index format) := by
    intro index format
    rw [listFormat, tables.sizes_listed]
    rfl
  have hlisted := collect_listed (fun _ => false) tables.enumFmt tables.formats_lt hformat
  rw [Enumeration.upTo_never fun _ => rfl, Enumeration.stop_never fun _ => rfl] at hlisted
  exact hlisted

end FormatTables

end Tables

section Names

theorem fourcc_eq {format : UInt32} (hlength : (fourccToString format).length = 4) :
    format.toNat = LittleEndian.decode (fourccToString format) := by
  have hwhole : fourccToString format = LittleEndian.encode 4 format.toNat := by
    have hprefix := List.takeWhile_prefix (l := LittleEndian.encode 4 format.toNat)
      fun byte : UInt8 => byte != 0
    exact hprefix.eq_of_length (by rw [LittleEndian.length_encode, ← fourccToString, hlength])
  rw [hwhole, LittleEndian.decode_encode]
  exact (Nat.mod_eq_of_lt format.toNat_lt).symm

theorem fourcc_length (format : UInt32) : (fourccToString format).length ≤ 4 := by
  have hprefix := List.takeWhile_prefix (l := LittleEndian.encode 4 format.toNat)
    fun byte : UInt8 => byte != 0
  have hle := hprefix.length_le
  rwa [LittleEndian.length_encode] at hle

def knownFormats : List UInt32 := [v4l2PixFmtYuyv, 0x3231564e, 0x50424752, v4l2PixFmtMjpeg]

theorem knownFormats_parse : ∀ format ∈ knownFormats,
    cameraParsePixelFormat (fourccToString format) = some format := by
  simp only [knownFormats, List.forall_mem_cons]
  exact ⟨by decide, by decide, by decide, by decide, List.forall_mem_nil _⟩

theorem fourcc_known {format known : UInt32} (hknown : known ∈ knownFormats)
    (h : fourccToString format = fourccToString known) : format = known := by
  have hlengths : ∀ known ∈ knownFormats, (fourccToString known).length = 4 := by
    simp only [knownFormats, List.forall_mem_cons]
    exact ⟨by decide, by decide, by decide, by decide, List.forall_mem_nil _⟩
  have hlength := hlengths known hknown
  have hcode := fourcc_eq (h ▸ hlength)
  rw [h, ← fourcc_eq hlength] at hcode
  exact UInt32.toNat_inj.mp hcode

/-- A listed name chooses the format it stands for, or nothing. -/
theorem parse_fourcc {format chosen : UInt32} :
    cameraParsePixelFormat (fourccToString format) = some chosen ↔
      chosen = format ∧ format ∈ knownFormats := by
  constructor
  · intro h
    have known : ∀ code ∈ knownFormats, fourccToString format = fourccToString code →
        some code = some chosen → chosen = format ∧ format ∈ knownFormats := by
      intro code hcode hname hchosen
      cases hchosen
      rw [fourcc_known hcode hname]
      exact ⟨rfl, hcode⟩
    rw [cameraParsePixelFormat] at h
    split at h
    · rename_i hname
      exact known v4l2PixFmtYuyv (by decide) hname h
    · split at h
      · rename_i hname
        exact known 0x3231564e (by decide) hname h
      · split at h
        · rename_i hname
          exact known 0x50424752 (by decide) hname h
        · split at h
          · rename_i hname
            cases hname with
            | inl hname => exact known v4l2PixFmtMjpeg (by decide) hname h
            | inr hname =>
                have hlength := fourcc_length format
                rw [hname] at hlength
                exact absurd hlength (by decide)
          · cases h
  · intro h
    obtain ⟨rfl, hknown⟩ := h
    exact knownFormats_parse _ hknown

end Names

section Listing
variable {device : List UInt8} {driver : ListingDriver} {rounds : Nat}

/-- The device can be opened and captures video. -/
structure Captures (driver : ListingDriver) (cap : Capability) : Prop where
  stat : driver.stat = some true
  opened : driver.openDevice ≠ none
  queryCap : driver.queryCap = some cap
  capture : cap.capabilities &&& v4l2CapVideoCapture ≠ 0

theorem listFormats_clean {call : ListingCall}
    (h : cameraListFormats rounds device driver = some call) :
    Ledger.Holds Resource.uses call.ops [] ∧ (call.ret = 0 ∨ call.ret = -1) := by
  have hpair : ∀ fd : Nat, Ledger.Holds Resource.uses
      [.acquire (.cameraFd fd), .release (.cameraFd fd)] [] := by
    intro fd
    have hacquired : Ledger.Holds Resource.uses [.acquire (.cameraFd fd)] [.cameraFd fd] :=
      Ledger.Holds.nil.acquire List.not_mem_nil fun _ hother => absurd hother List.not_mem_nil
    exact hacquired.release fun _ hother => absurd hother List.not_mem_nil
  revert h
  fun_cases cameraListFormats rounds device driver
  case case1 | case2 =>
      intro h
      cases h
      exact ⟨Ledger.Holds.nil, Or.inr rfl⟩
  case case3 fd _ _ _ | case4 fd _ _ _ _ _ _ =>
      intro h
      cases h
      exact ⟨hpair fd, Or.inr rfl⟩
  case case5 fd _ _ _ _ _ _ =>
      intro h
      obtain ⟨listed, -, rfl⟩ := Option.map_eq_some_iff.mp h
      refine ⟨hpair fd, ?_⟩
      dsimp only
      split
      · exact Or.inr rfl
      · exact Or.inl rfl

theorem listFormats_captures (tables : FormatTables driver) {cap : Capability}
    (h : Captures driver cap) :
    ∃ call, cameraListFormats (2 ^ 32) device driver = some call ∧
      call.lines = capabilityLines device cap ++ [.supportedFormats] ++ tables.listing ∧
      (call.ret = 0 ↔ tables.formats ≠ []) := by
  obtain ⟨fd, hfd⟩ := Option.ne_none_iff_exists'.mp h.opened
  have hindex : UInt32.ofNat tables.formats.length = 0 ↔ tables.formats = [] := by
    rw [UInt32.ofNat_eq_iff_mod_eq_toNat, Nat.mod_eq_of_lt tables.formats_lt]
    exact List.length_eq_zero_iff
  simp only [cameraListFormats, h.stat, hfd, h.queryCap, h.capture, tables.formats_listed,
    Option.map_some, ne_eq, not_true_eq_false, if_false]
  refine ⟨_, rfl, rfl, ?_⟩
  dsimp only
  split
  · rename_i hzero
    exact iff_of_false (by decide) fun hne => hne (hindex.mp hzero)
  · rename_i hsome
    exact iff_of_true rfl fun hnil => hsome (hindex.mpr hnil)

theorem listFormats_fails (h : ∀ cap, ¬ Captures driver cap) :
    ∃ call, cameraListFormats rounds device driver = some call ∧ call.ret = -1 ∧
      .supportedFormats ∉ call.lines := by
  fun_cases cameraListFormats rounds device driver
  case case1 | case2 => exact ⟨_, rfl, rfl, List.not_mem_nil⟩
  case case3 => exact ⟨_, rfl, rfl, List.not_mem_nil⟩
  case case4 fd _ _ cap _ _ _ =>
      have hnone : .supportedFormats ∉ capabilityLines device cap := by simp [capabilityLines]
      exact ⟨_, rfl, rfl, hnone⟩
  case case5 hstat fd hfd _ cap hcap _ hcapture =>
      have hopened : driver.openDevice ≠ none := hfd ▸ Option.some_ne_none fd
      exact absurd ⟨Classical.not_not.mp hstat, hopened, hcap, hcapture⟩ (h cap)

end Listing

/-- The listing ends when the driver's tables do and prints them in their order: each format
with its sizes up to a range of sizes, each discrete size with its intervals up to a range of
intervals. It succeeds just on a device that captures in some format and closes whatever it has
opened; more than 2^32 rounds never change it, and a name in it chooses, where it chooses
anything, the format it stands for. -/
theorem list_formats_exact (device : List UInt8) (driver : ListingDriver) :
    (∀ rounds, 2 ^ 32 ≤ rounds →
      cameraListFormats rounds device driver = cameraListFormats (2 ^ 32) device driver) ∧
    (∀ rounds call, cameraListFormats rounds device driver = some call →
      Ledger.Holds Resource.uses call.ops [] ∧ (call.ret = 0 ∨ call.ret = -1)) ∧
    (∀ (tables : FormatTables driver) cap, Captures driver cap →
      ∃ call, cameraListFormats (2 ^ 32) device driver = some call ∧
        call.lines = capabilityLines device cap ++ [.supportedFormats] ++ tables.listing ∧
        (call.ret = 0 ↔ tables.formats ≠ [])) ∧
    ((∀ cap, ¬ Captures driver cap) → ∀ rounds,
      ∃ call, cameraListFormats rounds device driver = some call ∧ call.ret = -1 ∧
        .supportedFormats ∉ call.lines) ∧
    (∀ format chosen, cameraParsePixelFormat (fourccToString format) = some chosen ↔
      chosen = format ∧ format ∈ knownFormats) := by
  refine ⟨?_, ?_, ?_, ?_, ?_⟩
  · intro rounds hrounds
    exact listFormats_rounds hrounds device driver
  · intro rounds call hcall
    exact listFormats_clean hcall
  · intro tables cap hcaptures
    exact listFormats_captures tables hcaptures
  · intro hnone rounds
    exact listFormats_fails hnone
  · intro format chosen
    exact parse_fourcc

def smallCamera : ListingDriver :=
  { stat := some true, openDevice := some 3
    queryCap := some ⟨ascii "mxc", ascii "ov5640", ascii "platform", v4l2CapVideoCapture⟩
    enumFmt := fun index => [⟨v4l2PixFmtMjpeg, ascii "Motion-JPEG"⟩][index.toNat]?
    enumFrameSizes := fun _ index => [FrameSize.discrete 640 480][index.toNat]?
    enumFrameIntervals := fun _ _ _ index =>
      [FrameInterval.discrete ⟨1, 30⟩, .discrete ⟨1, 15⟩][index.toNat]? }

def smallTables : FormatTables smallCamera :=
  { formats := [⟨v4l2PixFmtMjpeg, ascii "Motion-JPEG"⟩]
    sizes := fun _ => [.discrete 640 480]
    intervals := fun _ _ _ => [.discrete ⟨1, 30⟩, .discrete ⟨1, 15⟩]
    enumFmt := fun _ => rfl
    enumFrameSizes := fun _ _ => rfl
    enumFrameIntervals := fun _ _ _ _ => rfl
    formats_lt := by decide
    sizes_lt := fun _ => by decide
    intervals_lt := fun _ _ _ => by decide }

theorem list_formats_exact_smallCamera :
    ∃ call, cameraListFormats (2 ^ 32) (ascii "/dev/video1") smallCamera = some call ∧
      call.ret = 0 ∧
      call.lines.drop 6 =
        [.format 0 (ascii "MJPG") (ascii "Motion-JPEG"), .size 640 480, .interval ⟨1, 30⟩,
          .interval ⟨1, 15⟩] := by
  have hcaptures : Captures smallCamera
      ⟨ascii "mxc", ascii "ov5640", ascii "platform", v4l2CapVideoCapture⟩ :=
    ⟨rfl, by decide, rfl, by decide⟩
  obtain ⟨call, hcall, hlines, hret⟩ :=
    (list_formats_exact (ascii "/dev/video1") smallCamera).2.2.1 smallTables _ hcaptures
  refine ⟨call, hcall, hret.mpr (by decide), ?_⟩
  rw [hlines]
  decide

end CameraGateway
