import Mathlib.Data.List.Basic
import Mathlib.Data.Nat.Bitwise

/-!
Words made of bit fields. Values that are placed in disjoint fields and joined by a
bitwise or can be extracted again, and the bits outside the fields are 0. A word is the
join of its own fields when they cover it.
-/
namespace BitFields

structure Field where
  offset : Nat
  length : Nat

def Field.Covers (field : Field) (i : Nat) : Prop :=
  field.offset ≤ i ∧ i < field.offset + field.length

instance (field : Field) (i : Nat) : Decidable (field.Covers i) :=
  inferInstanceAs (Decidable (_ ∧ _))

def Field.Disjoint (field other : Field) : Prop := ∀ i, field.Covers i → ¬ other.Covers i

def Field.place (field : Field) (value : Nat) : Nat := value <<< field.offset

def Field.extract (field : Field) (word : Nat) : Nat := (word >>> field.offset) % 2 ^ field.length

section Fields
variable {field other : Field} {value : Nat}

theorem Field.Disjoint.symm (h : field.Disjoint other) : other.Disjoint field :=
  fun i hother hfield => h i hfield hother

theorem testBit_place (h : value < 2 ^ field.length) (i : Nat) :
    (field.place value).testBit i =
      (decide (field.Covers i) && value.testBit (i - field.offset)) := by
  rw [Field.place, Nat.testBit_shiftLeft]
  by_cases hlow : field.offset ≤ i
  · by_cases hhigh : i < field.offset + field.length
    · simp [Field.Covers, hlow, hhigh]
    · have hbit : value.testBit (i - field.offset) = false :=
        Nat.testBit_lt_two_pow (Nat.lt_of_lt_of_le h
          (Nat.pow_le_pow_right (by decide) (by omega)))
      simp [hbit]
  · simp [Field.Covers, hlow]

theorem testBit_extract (word i : Nat) :
    (field.extract word).testBit i =
      (decide (i < field.length) && word.testBit (field.offset + i)) := by
  rw [Field.extract, Nat.testBit_mod_two_pow, Nat.testBit_shiftRight]

@[simp] theorem place_zero (field : Field) : field.place 0 = 0 := Nat.zero_shiftLeft _

theorem extract_lt (field : Field) (word : Nat) : field.extract word < 2 ^ field.length :=
  Nat.mod_lt _ (Nat.two_pow_pos _)

theorem extract_or (word word' : Nat) :
    field.extract (word ||| word') = field.extract word ||| field.extract word' := by
  apply Nat.eq_of_testBit_eq
  intro i
  rw [Nat.testBit_or, testBit_extract, testBit_extract, testBit_extract, Nat.testBit_or,
    Bool.and_or_distrib_left]

theorem extract_place (h : value < 2 ^ field.length) :
    field.extract (field.place value) = value := by
  rw [Field.extract, Field.place, Nat.shiftLeft_shiftRight, Nat.mod_eq_of_lt h]

theorem extract_place_disjoint (hdisjoint : field.Disjoint other) (h : value < 2 ^ other.length) :
    field.extract (other.place value) = 0 := by
  apply Nat.eq_of_testBit_eq
  intro i
  rw [testBit_extract, testBit_place h, Nat.zero_testBit]
  by_cases hi : i < field.length
  · have hother := hdisjoint (field.offset + i) ⟨by omega, by omega⟩
    simp [hother]
  · simp [hi]

theorem place_lt {width : Nat} (h : value < 2 ^ field.length)
    (hwidth : field.offset + field.length ≤ width) : field.place value < 2 ^ width := by
  rw [Field.place, Nat.shiftLeft_eq]
  calc value * 2 ^ field.offset < 2 ^ field.length * 2 ^ field.offset :=
        Nat.mul_lt_mul_of_pos_right h (Nat.two_pow_pos _)
    _ = 2 ^ (field.offset + field.length) := by rw [Nat.add_comm, Nat.pow_add]
    _ ≤ 2 ^ width := Nat.pow_le_pow_right (by decide) hwidth

/-- A field that is extracted and placed again keeps its bits of the word. -/
theorem testBit_place_extract (word i : Nat) :
    (field.place (field.extract word)).testBit i =
      (decide (field.Covers i) && word.testBit i) := by
  rw [testBit_place (extract_lt field word), testBit_extract]
  by_cases hi : field.Covers i
  · have hlow := hi.1
    have hhigh := hi.2
    simp [hi, show i - field.offset < field.length by omega, Nat.add_sub_of_le hlow]
  · simp [hi]

theorem and_mask (word : Nat) :
    word &&& field.place (2 ^ field.length - 1) = field.place (field.extract word) := by
  apply Nat.eq_of_testBit_eq
  intro i
  rw [Nat.testBit_and, testBit_place_extract,
    testBit_place (Nat.sub_one_lt_of_lt (Nat.two_pow_pos _)), Nat.testBit_two_pow_sub_one]
  by_cases hi : field.Covers i
  · have hlow := hi.1
    have hhigh := hi.2
    simp [hi, show i - field.offset < field.length by omega]
  · simp [hi]

end Fields

/-- Values in their fields, joined to one word. -/
def pack : List (Field × Nat) → Nat
  | [] => 0
  | (field, value) :: entries => field.place value ||| pack entries

section Words
variable {entries : List (Field × Nat)}

def Fitting (entries : List (Field × Nat)) : Prop := ∀ entry ∈ entries, entry.2 < 2 ^ entry.1.length

theorem Fitting.tail {entry : Field × Nat} (h : Fitting (entry :: entries)) : Fitting entries :=
  fun other hother => h other (List.mem_cons_of_mem _ hother)

theorem extract_pack_disjoint {field : Field} (hfit : Fitting entries)
    (h : ∀ entry ∈ entries, field.Disjoint entry.1) : field.extract (pack entries) = 0 := by
  induction entries with
  | nil => simp [pack, Field.extract]
  | cons entry entries ih =>
      have hrest := ih hfit.tail fun other hother => h other (List.mem_cons_of_mem _ hother)
      have hfirst := extract_place_disjoint (h entry (List.mem_cons_self ..))
        (hfit entry (List.mem_cons_self ..))
      rw [pack, extract_or, hfirst, hrest, Nat.or_zero]

/-- What is packed into disjoint fields can be extracted. -/
theorem extract_pack (hfit : Fitting entries)
    (hdisjoint : entries.Pairwise fun entry other => entry.1.Disjoint other.1)
    {field : Field} {value : Nat} (h : (field, value) ∈ entries) :
    field.extract (pack entries) = value := by
  induction entries with
  | nil => cases h
  | cons entry entries ih =>
      obtain ⟨hfirst, hrest⟩ := List.pairwise_cons.mp hdisjoint
      rw [pack, extract_or]
      cases List.mem_cons.mp h with
      | inl hentry =>
          subst hentry
          rw [extract_place (hfit _ (List.mem_cons_self ..)),
            extract_pack_disjoint hfit.tail hfirst, Nat.or_zero]
      | inr hlater =>
          rw [ih hfit.tail hrest hlater,
            extract_place_disjoint (hfirst _ hlater).symm (hfit _ (List.mem_cons_self ..)),
            Nat.zero_or]

theorem testBit_pack_outside (hfit : Fitting entries) {i : Nat}
    (h : ∀ entry ∈ entries, ¬ entry.1.Covers i) : (pack entries).testBit i = false := by
  induction entries with
  | nil => exact Nat.zero_testBit i
  | cons entry entries ih =>
      have hrest := ih hfit.tail fun other hother => h other (List.mem_cons_of_mem _ hother)
      have hfirst := h entry (List.mem_cons_self ..)
      rw [pack, Nat.testBit_or, testBit_place (hfit entry (List.mem_cons_self ..)), hrest]
      simp [hfirst]

theorem pack_lt {width : Nat} (hfit : Fitting entries)
    (h : ∀ entry ∈ entries, entry.1.offset + entry.1.length ≤ width) :
    pack entries < 2 ^ width := by
  induction entries with
  | nil => exact Nat.two_pow_pos width
  | cons entry entries ih =>
      have hrest := ih hfit.tail fun other hother => h other (List.mem_cons_of_mem _ hother)
      have hfirst := place_lt (hfit entry (List.mem_cons_self ..)) (h entry (List.mem_cons_self ..))
      exact Nat.or_lt_two_pow hfirst hrest

/-- A word is the join of fields that cover it. -/
theorem pack_extract {width word : Nat} {fields : List Field} (hword : word < 2 ^ width)
    (hcover : ∀ i, i < width → ∃ field ∈ fields, field.Covers i) :
    pack (fields.map fun field => (field, field.extract word)) = word := by
  have hbits : ∀ i, (pack (fields.map fun field => (field, field.extract word))).testBit i =
      (decide (∃ field ∈ fields, field.Covers i) && word.testBit i) := by
    intro i
    clear hcover
    induction fields with
    | nil => simp [pack]
    | cons field fields ih =>
        rw [List.map_cons, pack, Nat.testBit_or, ih, testBit_place_extract,
          ← Bool.and_or_distrib_right]
        simp
  apply Nat.eq_of_testBit_eq
  intro i
  rw [hbits]
  by_cases hi : i < width
  · simp [hcover i hi]
  · have hzero : word.testBit i = false := Nat.testBit_lt_two_pow
      (Nat.lt_of_lt_of_le hword (Nat.pow_le_pow_right (by decide) (Nat.le_of_not_lt hi)))
    simp [hzero]

end Words
end BitFields
