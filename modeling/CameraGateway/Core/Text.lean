import Mathlib.Algebra.Group.Nat.Defs
import Mathlib.Data.List.Basic

/-!
Bytes of C string literals and of the decimal conversions `%u` and `%lu`.
A literal of the source is written as a Lean string of ASCII characters.
-/
namespace CameraGateway

def asciiByte (c : Char) : UInt8 := UInt8.ofNat c.toNat

def ascii (text : String) : List UInt8 := text.toList.map asciiByte

/-- What `%u` and `%lu` print. -/
def decimal (n : Nat) : List UInt8 := (Nat.toDigits 10 n).map asciiByte

def digitByte (b : UInt8) : Bool := 48 ≤ b.toNat && b.toNat ≤ 57

private theorem digit_range {c : Char} (h : c.isDigit = true) : 48 ≤ c.toNat ∧ c.toNat ≤ 57 := by
  simp only [Char.isDigit, Bool.and_eq_true, decide_eq_true_eq] at h
  exact h

private theorem asciiByte_toNat {c : Char} (h : c.isDigit = true) :
    (asciiByte c).toNat = c.toNat := by
  have hrange := digit_range h
  rw [asciiByte, UInt8.toNat_ofNat']
  exact Nat.mod_eq_of_lt (by omega)

private theorem toDigits_isDigit {n : Nat} {c : Char} (h : c ∈ Nat.toDigits 10 n) :
    c.isDigit = true :=
  Nat.isDigit_of_mem_toDigits (by decide) (by decide) h

theorem decimal_digits {n : Nat} {b : UInt8} (h : b ∈ decimal n) : digitByte b = true := by
  obtain ⟨c, hc, rfl⟩ := List.mem_map.mp h
  have hdigit := toDigits_isDigit hc
  simpa [digitByte, asciiByte_toNat hdigit] using digit_range hdigit

private theorem decimal_chars (n : Nat) :
    (decimal n).map (fun b => Char.ofNat b.toNat) = Nat.toDigits 10 n := by
  rw [decimal, List.map_map]
  refine (List.map_congr_left fun c hc => ?_).trans (List.map_id _)
  simp [asciiByte_toNat (toDigits_isDigit hc)]

theorem decimal_foldl (n : Nat) :
    (decimal n).foldl (fun value digit => 10 * value + (digit.toNat - 48)) 0 = n := by
  have hvalue := @Nat.ofDigitChars_ten_toDigits n
  rw [Nat.ofDigitChars_eq_foldl] at hvalue
  rw [decimal, List.foldl_map]
  refine Eq.trans ?_ hvalue
  apply List.foldl_ext
  intro value c hc
  rw [asciiByte_toNat (toDigits_isDigit hc)]
  rfl

theorem padded_injective {j k m n : Nat}
    (h : List.replicate j 48 ++ decimal m = List.replicate k 48 ++ decimal n) : m = n := by
  have hchars := congrArg (fun l => l.map fun b : UInt8 => Char.ofNat b.toNat) h
  have hzero : Char.ofNat (48 : UInt8).toNat = '0' := rfl
  simp only [List.map_append, List.map_replicate, decimal_chars, hzero] at hchars
  have hvalue := congrArg (fun l => Nat.ofDigitChars 10 l 0) hchars
  simpa [Nat.ofDigitChars_append, Nat.ofDigitChars_replicate_zero] using hvalue

theorem decimal_injective {m n : Nat} (h : decimal m = decimal n) : m = n :=
  @padded_injective 0 0 m n h

theorem decimal_length_le {n k : Nat} (hk : 0 < k) (h : n < 10 ^ k) : (decimal n).length ≤ k := by
  rw [decimal, List.length_map]
  exact (Nat.length_toDigits_le_iff (by decide) hk).mpr h

end CameraGateway
