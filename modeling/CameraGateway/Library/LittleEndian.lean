import Mathlib.Algebra.Order.Ring.Nat
import Mathlib.Tactic.Ring

/-!
Numbers as bytes in memory, the least significant byte first.
-/
namespace LittleEndian

def encode : Nat → Nat → List UInt8
  | 0, _ => []
  | count + 1, value => UInt8.ofNat value :: encode count (value / 256)

def decode : List UInt8 → Nat
  | [] => 0
  | byte :: bytes => byte.toNat + 256 * decode bytes

@[simp] theorem length_encode (count value : Nat) : (encode count value).length = count := by
  induction count generalizing value with
  | zero => rfl
  | succ count ih => rw [encode, List.length_cons, ih]

/-- As many bytes hold the number up to what does not fit. -/
theorem decode_encode (count value : Nat) : decode (encode count value) = value % 256 ^ count := by
  induction count generalizing value with
  | zero => rw [encode, decode, Nat.pow_zero, Nat.mod_one]
  | succ count ih =>
      have hbyte : (UInt8.ofNat value).toNat = value % 256 := UInt8.toNat_ofNat'
      rw [encode, decode, ih, hbyte, Nat.pow_succ', Nat.mod_mul]

theorem encode_mod (count value : Nat) :
    encode count (value % 256 ^ count) = encode count value := by
  induction count generalizing value with
  | zero => rfl
  | succ count ih =>
      have hbyte : UInt8.ofNat (value % 256 ^ (count + 1)) = UInt8.ofNat value := by
        rw [UInt8.ofNat_eq_iff_mod_eq_toNat, UInt8.toNat_ofNat', Nat.pow_succ',
          Nat.mod_mul_right_mod]
      have hrest : value % 256 ^ (count + 1) / 256 = value / 256 % 256 ^ count := by
        rw [Nat.pow_succ', Nat.mod_mul_right_div_self]
      rw [encode, encode, hbyte, hrest, ih]

end LittleEndian
