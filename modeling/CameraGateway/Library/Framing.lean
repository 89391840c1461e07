import Mathlib.Data.List.Basic

/-!
Self-delimiting encodings. Concatenated encodings of two lists of messages that
agree as far as the shorter one goes come from lists that agree as far: a
receiver can cut the stream at every moment. Two ways to delimit are provided, a
field of recognisable symbols with a foreign symbol after it, and a header that
gives the length of an arbitrary payload.
-/
namespace Framing
universe u v
variable {α : Type u} {β : Type v}

/-- The start of any stream tells which value was encoded there. -/
def Delimited (encode : α → List β) : Prop :=
  ∀ {x y : α} {r s : List β}, encode x ++ r <+: encode y ++ s → x = y

def stream (encode : α → List β) (xs : List α) : List β := xs.flatMap encode

@[simp] theorem stream_nil (encode : α → List β) : stream encode [] = [] := rfl

@[simp] theorem stream_cons (encode : α → List β) (x : α) (xs : List α) :
    stream encode (x :: xs) = encode x ++ stream encode xs := rfl

theorem Delimited.rest_prefix {encode : α → List β} (h : Delimited encode) {x y : α}
    {r s : List β} (hp : encode x ++ r <+: encode y ++ s) : r <+: s := by
  obtain rfl := h hp
  exact (List.prefix_append_right_inj (encode x)).mp hp

theorem Delimited.stream_prefix {encode : α → List β} (h : Delimited encode)
    (nonempty : ∀ x, encode x ≠ []) {xs ys : List α}
    (hp : stream encode xs <+: stream encode ys) : xs <+: ys := by
  induction xs generalizing ys with
  | nil => exact List.nil_prefix
  | cons x xs ih =>
      cases ys with
      | nil =>
          have hnil := List.prefix_nil.mp hp
          exact absurd (List.append_eq_nil_iff.mp hnil).1 (nonempty x)
      | cons y ys =>
          have hrest := h.rest_prefix hp
          obtain rfl := h hp
          exact (List.cons_prefix_cons).mpr ⟨rfl, ih hrest⟩

theorem Delimited.stream_injective {encode : α → List β} (h : Delimited encode)
    (nonempty : ∀ x, encode x ≠ []) : Function.Injective (stream encode) := by
  intro xs ys heq
  have hxy : xs <+: ys := h.stream_prefix nonempty (heq ▸ List.prefix_rfl)
  have hyx : ys <+: xs := h.stream_prefix nonempty (heq ▸ List.prefix_rfl)
  exact hxy.eq_of_length_le hyx.length_le

private theorem takeWhile_field {p : β → Bool} {field : List β} {stop : β} (rest : List β)
    (hfield : ∀ b ∈ field, p b = true) (hstop : p stop = false) :
    (field ++ stop :: rest).takeWhile p = field := by
  rw [List.takeWhile_append_of_pos hfield, List.takeWhile_cons_of_neg (by simp [hstop]),
    List.append_nil]

/-- A field written in symbols of one kind ends at the first symbol of another. -/
theorem delimited_field {p : β → Bool} {field : α → List β}
    (injective : ∀ {x y}, field x = field y → x = y)
    (hfield : ∀ x, ∀ b ∈ field x, p b = true) {stop : β} (hstop : p stop = false)
    (before after : List β) :
    Delimited fun x => before ++ (field x ++ stop :: after) := by
  intro x y r s hp
  simp only [List.append_assoc, List.prefix_append_right_inj, List.cons_append] at hp
  obtain ⟨t, ht⟩ := hp
  rw [List.append_assoc, List.cons_append] at ht
  refine injective ?_
  rw [← takeWhile_field _ (hfield x) hstop, ht, takeWhile_field _ (hfield y) hstop]

/-- A header that gives the length delimits any payload, whatever its symbols. -/
theorem delimited_payload {header : Nat → List β} (h : Delimited header) (after : List β) :
    Delimited fun payload : List β => header payload.length ++ (payload ++ after) := by
  intro x y r s hp
  simp only [List.append_assoc] at hp
  have hlength : x.length = y.length := h hp
  obtain ⟨t, ht⟩ := h.rest_prefix hp
  rw [List.append_assoc] at ht
  exact (List.append_inj ht hlength).1

end Framing
