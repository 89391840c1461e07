import Mathlib.Data.List.Nodup
import Mathlib.Logic.Function.Basic

/-!
Two-dimensional data in rows of a fixed pitch. A place is a column below the pitch and a
row; its address determines both. Nested loops over rows and columns visit a place at
most once.
-/
namespace Raster
universe u v w

def address (pitch x y : Nat) : Nat := y * pitch + x

section Address
variable {pitch x x' y y' : Nat}

theorem address_div (h : x < pitch) : address pitch x y / pitch = y := by
  rw [address, Nat.add_comm, Nat.add_mul_div_right _ _ (Nat.zero_lt_of_lt h),
    Nat.div_eq_of_lt h, Nat.zero_add]

theorem address_mod (h : x < pitch) : address pitch x y % pitch = x := by
  rw [address, Nat.add_comm, Nat.add_mul_mod_self_right, Nat.mod_eq_of_lt h]

theorem address_injective (h : x < pitch) (h' : x' < pitch)
    (heq : address pitch x y = address pitch x' y') : x = x' ∧ y = y' := by
  constructor
  · rw [← address_mod (y := y) h, heq, address_mod h']
  · rw [← address_div (y := y) h, heq, address_div h']

theorem address_lt {rows : Nat} (h : x < pitch) (hy : y < rows) :
    address pitch x y < pitch * rows := by
  have hrow : (y + 1) * pitch ≤ rows * pitch := Nat.mul_le_mul_right pitch hy
  rw [Nat.add_mul, Nat.one_mul] at hrow
  rw [address, Nat.mul_comm pitch rows]
  omega

theorem address_divMod (pitch i : Nat) : address pitch (i % pitch) (i / pitch) = i := by
  rw [address, Nat.mul_comm]
  exact Nat.div_add_mod i pitch

end Address

section Loops
variable {α : Type u} {β : Type v} {γ : Type w}

/-- The places that an outer loop over `ys` and an inner loop over `xs` visit. -/
theorem nodup_loops {ys : List β} {xs : List α} (hys : ys.Nodup) (hxs : xs.Nodup)
    {f : β → α → γ} (hf : Function.Injective2 f) : (ys.flatMap fun y => xs.map (f y)).Nodup := by
  rw [List.nodup_flatMap]
  constructor
  · intro y _
    exact hxs.map fun x x' h => (hf h).2
  · apply hys.imp
    intro y y' hne c hc hc'
    obtain ⟨x, -, rfl⟩ := List.mem_map.mp hc
    obtain ⟨x', -, heq⟩ := List.mem_map.mp hc'
    exact hne (hf heq).1.symm

theorem addresses_eq_range (pitch rows : Nat) :
    ((List.range rows).flatMap fun y => (List.range pitch).map fun x => address pitch x y) =
      List.range (pitch * rows) := by
  induction rows with
  | zero => rfl
  | succ rows ih =>
      have hrow : ((List.range pitch).map fun x => address pitch x rows) =
          (List.range pitch).map fun x => pitch * rows + x := by
        simp only [address, Nat.mul_comm]
      rw [List.range_succ, List.flatMap_append, ih, List.flatMap_singleton, hrow, Nat.mul_succ,
        List.range_add]

end Loops
end Raster
