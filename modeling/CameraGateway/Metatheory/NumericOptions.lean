import CameraGateway.Core.ParseArgs
import CameraGateway.Library.Assignments
import Mathlib.Data.List.TakeWhile

/-!
Which command lines `parse_args` accepts, and what it makes of their numbers. `atoi` reads a
complete numeral exactly, but it reads something of every other text too; a malformed numeral
is refused only if its reading, as the last one for its field, fails a check.
-/
namespace CameraGateway
open Assignments (last)

section Numerals

/-- The value of a complete decimal numeral, an optional sign and at least one digit, that fits
into `int`. -/
def numeral (text : List UInt8) : Option Int :=
  let signed := splitSign text
  let value := signedValue signed.1 signed.2
  if signed.2 ≠ [] ∧ signed.2.all digitByte ∧ -2 ^ 31 ≤ value ∧ value < 2 ^ 31 then some value
  else none

theorem digit_not_space {byte : UInt8} (h : digitByte byte = true) : isSpace byte = false := by
  have hrange : 48 ≤ byte.toNat ∧ byte.toNat ≤ 57 := by simpa [digitByte] using h
  have hspace : byte ≠ 32 := by
    intro heq
    rw [heq] at hrange
    exact absurd hrange (by decide)
  simp only [isSpace, Bool.or_eq_false_iff, Bool.and_eq_false_iff, beq_eq_false_iff_ne,
    decide_eq_false_iff_not]
  exact ⟨hspace, .inr (by omega)⟩

/-- No numeral begins with a space. -/
theorem dropSpace_signed {text : List UInt8} (hdigits : (splitSign text).2.all digitByte = true) :
    text.dropWhile isSpace = text := by
  cases text with
  | nil => rfl
  | cons byte text =>
      apply List.dropWhile_cons_of_neg
      rw [splitSign, List.head?_cons] at hdigits
      by_cases hminus : byte = 45
      · rw [hminus]
        decide
      by_cases hplus : byte = 43
      · rw [hplus]
        decide
      simp only [Option.some.injEq, hminus, hplus, if_false, List.all_cons, Bool.and_eq_true]
        at hdigits
      rw [digit_not_space hdigits.1]
      exact Bool.false_ne_true

theorem atoi_numeral {text : List UInt8} {value : Int} (h : numeral text = some value) :
    atoi text = value := by
  rw [numeral] at h
  split at h
  · rename_i hnumeral
    obtain ⟨-, hdigits, hmin, hmax⟩ := hnumeral
    have hwhole : (splitSign text).2.takeWhile digitByte = (splitSign text).2 :=
      List.takeWhile_eq_self_iff.mpr (List.all_eq_true.mp hdigits)
    rw [atoi, dropSpace_signed hdigits, hwhole, ← Option.some.inj h]
    omega
  · cases h

end Numerals

section Fields

/-- The six fields that are read from numerals. -/
inductive NumericField where
  | width
  | height
  | fps
  | frameCount
  | motionThreshold
  | httpPort
deriving DecidableEq, Repr

def NumericField.get (config : CommandConfig) : NumericField → Int
  | .width => config.width
  | .height => config.height
  | .fps => config.fps
  | .frameCount => config.frameCount
  | .motionThreshold => config.motionThreshold
  | .httpPort => config.httpPort

/-- The text that an option gives for a field; the port is what follows the last colon. -/
def NumericField.text : NumericField → CommandOption → Option (List UInt8)
  | .width, .width optarg => some optarg
  | .height, .height optarg => some optarg
  | .fps, .fps optarg => some optarg
  | .frameCount, .frameCount optarg => some optarg
  | .motionThreshold, .motionThreshold optarg => some optarg
  | .httpPort, .httpMjpeg optarg => some (portText optarg)
  | _, _ => none

/-- What `atoi` makes of the last text for a field, or the default. -/
def reading (field : NumericField) (options : List CommandOption) : Int :=
  ((last field.text options).map atoi).getD (field.get cameraConfigInit)

/-- The value with which an option makes `parse_args` return at once. -/
def CommandOption.stop : CommandOption → Option Int
  | .format optarg => if cameraParsePixelFormat optarg = none then some (-1) else none
  | .httpMjpeg optarg => if parsePort optarg < 0 then some (-1) else none
  | .help => some 1
  | .unknown => some (-1)
  | _ => none

/-- What an option that does not stop the loop changes. -/
def CommandLine.assign (line : CommandLine) (option : CommandOption) : CommandLine :=
  match parseOption line option with
  | .ok line => line
  | .error _ => line

theorem parseOption_eq (line : CommandLine) (option : CommandOption) :
    parseOption line option = option.stop.elim (.ok (line.assign option)) .error := by
  cases option with
  | format optarg =>
      rw [CommandOption.stop, CommandLine.assign, parseOption]
      cases cameraParsePixelFormat optarg <;> rfl
  | httpMjpeg optarg =>
      rw [CommandOption.stop, CommandLine.assign, parseOption]
      by_cases hport : parsePort optarg < 0
      · rw [if_pos hport, if_pos hport]
        rfl
      · rw [if_neg hport, if_neg hport]
        rfl
  | _ => rfl

theorem parsePort_eq {value : List UInt8} (h : ¬ parsePort value < 0) :
    parsePort value = atoi (portText value) := by
  rw [parsePort] at h ⊢
  split
  · rename_i hrange
    rw [if_pos hrange] at h
    exact absurd (by decide) h
  · rfl

theorem assign_get (field : NumericField) (line : CommandLine) {option : CommandOption}
    (h : option.stop = none) :
    field.get (line.assign option).config =
      ((field.text option).map atoi).getD (field.get line.config) := by
  cases option with
  | format optarg =>
      have hconfig : ∀ format, field.get { line.config with pixelFormat := format } =
          field.get line.config := by
        intro format
        cases field <;> rfl
      have htext : field.text (.format optarg) = none := by cases field <;> rfl
      rw [htext, CommandLine.assign, parseOption]
      cases cameraParsePixelFormat optarg with
      | none => rfl
      | some format => exact hconfig format
  | httpMjpeg optarg =>
      have hport : ¬ parsePort optarg < 0 := by
        intro hneg
        rw [CommandOption.stop, if_pos hneg] at h
        cases h
      rw [CommandLine.assign, parseOption, if_neg hport]
      cases field with
      | httpPort => exact parsePort_eq hport
      | _ => rfl
  | _ => cases field <;> rfl

variable {options : List CommandOption}

theorem stop_eq_none {option : CommandOption} (h : options.findSome? CommandOption.stop = none)
    (hoption : option ∈ options) : option.stop = none :=
  List.findSome?_eq_none_iff.mp h option hoption

theorem options_get (field : NumericField) (h : options.findSome? CommandOption.stop = none) :
    field.get (options.foldl CommandLine.assign initialLine).config = reading field options := by
  have hassign : ∀ option ∈ options, ∀ line : CommandLine,
      field.get (line.assign option).config =
        ((field.text option).map atoi).getD (field.get line.config) :=
    fun option hoption line => assign_get field line (stop_eq_none h hoption)
  rw [reading, ← Assignments.last_map]
  exact @Assignments.foldl_last _ _ _ CommandLine.assign (fun line => field.get line.config) _ _
    hassign initialLine

end Fields

section Checks

def CommandOption.savesNothing : CommandOption → Bool
  | .noSave => true
  | _ => false

def CommandOption.savesFrames : CommandOption → Bool
  | .saveFrames _ => true
  | _ => false

def CommandOption.servesHttp : CommandOption → Bool
  | .httpMjpeg _ => true
  | _ => false

def CommandOption.previews : CommandOption → Bool
  | .fbPreview _ => true
  | _ => false

def CommandOption.detectsMotion : CommandOption → Bool
  | .motionDetect | .motionDir _ => true
  | _ => false

def CommandOption.pixelFormat : CommandOption → Option UInt32
  | .format optarg => cameraParsePixelFormat optarg
  | _ => none

/-- The flags and the format that a configuration has beside its numbers. -/
structure FlagsOf (config : CommandConfig)
    (noSave saveFrames httpMjpeg fbPreview motionDetect : Bool) (pixelFormat : UInt32) :
    Prop where
  noSave : config.noSave = noSave
  saveFrames : config.saveFrames = saveFrames
  httpMjpeg : config.httpMjpeg = httpMjpeg
  fbPreview : config.fbPreview = fbPreview
  motionDetect : config.motionDetect = motionDetect
  pixelFormat : config.pixelFormat = pixelFormat

/-- An option sets its own flag, and no option clears one. -/
theorem assign_flags (line : CommandLine) {option : CommandOption} (h : option.stop = none) :
    FlagsOf (line.assign option).config (option.savesNothing || line.config.noSave)
      (option.savesFrames || line.config.saveFrames) (option.servesHttp || line.config.httpMjpeg)
      (option.previews || line.config.fbPreview)
      (option.detectsMotion || line.config.motionDetect)
      (option.pixelFormat.getD line.config.pixelFormat) := by
  cases option with
  | format optarg =>
      rw [CommandLine.assign, parseOption, CommandOption.pixelFormat]
      cases cameraParsePixelFormat optarg <;> exact ⟨rfl, rfl, rfl, rfl, rfl, rfl⟩
  | httpMjpeg optarg =>
      have hport : ¬ parsePort optarg < 0 := by
        intro hneg
        rw [CommandOption.stop, if_pos hneg] at h
        cases h
      rw [CommandLine.assign, parseOption, if_neg hport]
      exact ⟨rfl, rfl, rfl, rfl, rfl, rfl⟩
  | _ => exact ⟨rfl, rfl, rfl, rfl, rfl, rfl⟩

variable {options : List CommandOption}

/-- The options go together, and the readings are in range. -/
structure Consistent (options : List CommandOption) : Prop where
  width : 0 < reading .width options
  height : 0 < reading .height options
  fps : 0 < reading .fps options
  frameCount : 0 ≤ reading .frameCount options
  motionThreshold : 0 < reading .motionThreshold options
  saved : options.any CommandOption.savesNothing = true →
    options.any CommandOption.savesFrames = false
  served : options.any CommandOption.servesHttp = true →
    options.any CommandOption.savesNothing = false ∧ options.any CommandOption.savesFrames = false
  previewed : options.any CommandOption.previews = true →
    options.any CommandOption.savesNothing = false ∧ options.any CommandOption.savesFrames = false
  detected : options.any CommandOption.detectsMotion = true →
    (last CommandOption.pixelFormat options).getD v4l2PixFmtYuyv = v4l2PixFmtMjpeg ∧
      options.any CommandOption.servesHttp = true

theorem options_flags (h : options.findSome? CommandOption.stop = none) :
    FlagsOf (options.foldl CommandLine.assign initialLine).config
      (options.any CommandOption.savesNothing) (options.any CommandOption.savesFrames)
      (options.any CommandOption.servesHttp) (options.any CommandOption.previews)
      (options.any CommandOption.detectsMotion)
      ((last CommandOption.pixelFormat options).getD v4l2PixFmtYuyv) := by
  have hassign : ∀ option ∈ options, ∀ line : CommandLine, _ := fun option hoption line =>
    assign_flags line (stop_eq_none h hoption)
  have hflag : ∀ (get : CommandLine → Bool) (sets : CommandOption → Bool),
      (∀ option ∈ options, ∀ line, get (line.assign option) = (sets option || get line)) →
        get initialLine = false →
          get (options.foldl CommandLine.assign initialLine) = options.any sets := by
    intro get sets hsets hinitial
    rw [Assignments.foldl_flag hsets, hinitial, Bool.or_false]
  constructor
  · exact hflag (fun line => line.config.noSave) _
      (fun option hoption line => (hassign option hoption line).noSave) rfl
  · exact hflag (fun line => line.config.saveFrames) _
      (fun option hoption line => (hassign option hoption line).saveFrames) rfl
  · exact hflag (fun line => line.config.httpMjpeg) _
      (fun option hoption line => (hassign option hoption line).httpMjpeg) rfl
  · exact hflag (fun line => line.config.fbPreview) _
      (fun option hoption line => (hassign option hoption line).fbPreview) rfl
  · exact hflag (fun line => line.config.motionDetect) _
      (fun option hoption line => (hassign option hoption line).motionDetect) rfl
  · exact @Assignments.foldl_last _ _ _ CommandLine.assign (fun line => line.config.pixelFormat)
      CommandOption.pixelFormat _
      (fun option hoption line => (hassign option hoption line).pixelFormat) initialLine

/-- The checks of the source are one conjunction. -/
theorem acceptsConfig_eq (config : CommandConfig) :
    acceptsConfig config = true ↔
      (0 < config.width ∧ 0 < config.height ∧ 0 < config.fps ∧ 0 ≤ config.frameCount ∧
        0 < config.motionThreshold) ∧
      (config.noSave = true → config.saveFrames = false) ∧
      (config.httpMjpeg = true → config.noSave = false ∧ config.saveFrames = false) ∧
      (config.fbPreview = true → config.noSave = false ∧ config.saveFrames = false) ∧
      (config.motionDetect = true →
        config.pixelFormat = v4l2PixFmtMjpeg ∧ config.httpMjpeg = true) := by
  have hstep : ∀ (p : Prop) [Decidable p] (rest : Bool),
      (if p then false else rest) = true ↔ ¬ p ∧ rest = true := by
    intro p _ rest
    split <;> simp [*]
  simp only [acceptsConfig, hstep, not_or, not_and, Int.not_le, Int.not_lt, Bool.not_eq_true,
    Bool.not_eq_true', Bool.not_eq_false, not_ne_iff, and_true]
  constructor
  · intro h
    obtain ⟨hnumbers, hsaved, hserved, hpreviewed, hthreshold, hformat, hmotion⟩ := h
    obtain ⟨hwidth, hheight, hfps, hcount⟩ := hnumbers
    exact ⟨⟨hwidth, hheight, hfps, hcount, hthreshold⟩, hsaved, hserved, hpreviewed,
      fun h => ⟨hformat h, hmotion h⟩⟩
  · intro h
    obtain ⟨⟨hwidth, hheight, hfps, hcount, hthreshold⟩, hsaved, hserved, hpreviewed, hmotion⟩ := h
    exact ⟨⟨hwidth, hheight, hfps, hcount⟩, hsaved, hserved, hpreviewed, hthreshold,
      fun h => (hmotion h).1, fun h => (hmotion h).2⟩

theorem acceptsConfig_iff (h : options.findSome? CommandOption.stop = none) :
    acceptsConfig (options.foldl CommandLine.assign initialLine).config = true ↔
      Consistent options := by
  obtain ⟨hnoSave, hsaveFrames, hhttp, hpreview, hmotion, hformat⟩ := options_flags h
  have hwidth := options_get .width h
  have hheight := options_get .height h
  have hfps := options_get .fps h
  have hcount := options_get .frameCount h
  have hthreshold := options_get .motionThreshold h
  simp only [NumericField.get] at hwidth hheight hfps hcount hthreshold
  rw [acceptsConfig_eq, hnoSave, hsaveFrames, hhttp, hpreview, hmotion, hformat, hwidth, hheight,
    hfps, hcount, hthreshold]
  constructor
  · intro h
    obtain ⟨⟨hwidth, hheight, hfps, hcount, hthreshold⟩, hsaved, hserved, hpreviewed, hmotion⟩ := h
    exact ⟨hwidth, hheight, hfps, hcount, hthreshold, hsaved, hserved, hpreviewed, hmotion⟩
  · intro h
    exact ⟨⟨h.width, h.height, h.fps, h.frameCount, h.motionThreshold⟩, h.saved, h.served,
      h.previewed, h.detected⟩

end Checks

section Acceptance
variable {options : List CommandOption}

theorem parseArgs_eq (options : List CommandOption) :
    parseArgs options = (options.findSome? CommandOption.stop).elim
      (if acceptsConfig (options.foldl CommandLine.assign initialLine).config then
        .ok (options.foldl CommandLine.assign initialLine) else .error (-1)) .error := by
  rw [parseArgs, Assignments.foldlM_eq parseOption_eq]
  cases options.findSome? CommandOption.stop <;> rfl

/-- The command line is refused: the first option that stops the loop is not `--help`, or none
does and the checks after the loop fail. -/
def Refused (options : List CommandOption) : Prop :=
  options.findSome? CommandOption.stop = some (-1) ∨
    options.findSome? CommandOption.stop = none ∧ ¬ Consistent options

theorem parseArgs_refused_iff : parseArgs options = .error (-1) ↔ Refused options := by
  rw [parseArgs_eq, Refused]
  cases hstop : options.findSome? CommandOption.stop with
  | some ret => simp
  | none =>
      rw [← acceptsConfig_iff hstop]
      cases acceptsConfig (options.foldl CommandLine.assign initialLine).config <;> simp

theorem parseArgs_accepted {line : CommandLine} (h : parseArgs options = .ok line)
    (field : NumericField) : field.get line.config = reading field options := by
  rw [parseArgs_eq] at h
  cases hstop : options.findSome? CommandOption.stop with
  | some ret =>
      rw [hstop] at h
      cases h
  | none =>
      rw [hstop] at h
      simp only [Option.elim_none] at h
      split at h
      · rw [← Except.ok.inj h]
        exact options_get field hstop
      · cases h

/-- Every text for a numeric field is a numeral. -/
def WellFormed (options : List CommandOption) : Prop :=
  ∀ (field : NumericField), ∀ option ∈ options, ∀ text,
    field.text option = some text → (numeral text).isSome

/-- Numbers are accepted only when well formed: an accepted command line has numerals only, and
each field has the value of the last one for it; a text that is no numeral is refused. -/
structure NumbersSound (options : List CommandOption) : Prop where
  accepted : ∀ line, parseArgs options = .ok line →
    WellFormed options ∧ ∀ (field : NumericField) text, last field.text options = some text →
      numeral text = some (field.get line.config)
  refused : ∀ (field : NumericField), ∀ option ∈ options, ∀ text,
    field.text option = some text → numeral text = none → parseArgs options = .error (-1)

/-- This is so exactly for the command lines that hold numerals only or are refused. -/
theorem numbers_sound_iff (options : List CommandOption) :
    NumbersSound options ↔ WellFormed options ∨ Refused options := by
  constructor
  · intro h
    by_cases hwell : WellFormed options
    · exact .inl hwell
    · simp only [WellFormed, not_forall] at hwell
      obtain ⟨field, option, hoption, text, htext, hmalformed⟩ := hwell
      rw [Bool.not_eq_true, Option.isSome_eq_false_iff, Option.isNone_iff_eq_none] at hmalformed
      exact .inr (parseArgs_refused_iff.mp (h.refused field option hoption text htext hmalformed))
  · intro h
    constructor
    · intro line hline
      rcases h with hwell | hrefused
      · refine ⟨hwell, ?_⟩
        intro field text hlast
        obtain ⟨option, hoption, htext⟩ := Assignments.exists_of_last hlast
        obtain ⟨value, hvalue⟩ := Option.isSome_iff_exists.mp (hwell field option hoption text htext)
        rw [parseArgs_accepted hline, reading, hlast, hvalue, Option.map_some, Option.getD_some,
          atoi_numeral hvalue]
      · rw [parseArgs_refused_iff.mpr hrefused] at hline
        cases hline
    · intro field option hoption text htext hmalformed
      rcases h with hwell | hrefused
      · have hsome := hwell field option hoption text htext
        rw [hmalformed] at hsome
        cases hsome
      · exact parseArgs_refused_iff.mpr hrefused

/-- A mistyped frame count selects continuous capture. -/
theorem mistyped_count_is_continuous :
    (∃ line, parseArgs [.frameCount (ascii "abc")] = .ok line ∧ line.config.frameCount = 0) ∧
      ¬ NumbersSound [.frameCount (ascii "abc")] := by
  have haccepted : ∃ line, parseArgs [.frameCount (ascii "abc")] = .ok line ∧
      line.config.frameCount = 0 := ⟨_, rfl, by decide⟩
  refine ⟨haccepted, ?_⟩
  intro h
  obtain ⟨line, hline, -⟩ := haccepted
  have hrefused := h.refused .frameCount _ (List.mem_singleton_self _) _ rfl (by decide)
  rw [hline] at hrefused
  cases hrefused

end Acceptance
end CameraGateway
