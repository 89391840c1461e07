import Mathlib.Data.Fintype.Card
import Mathlib.Tactic.Ring

/-!
A length of `size` positions cut into `count` bands at the rounded-down multiples of
`size / count`, and the scaling of positions to `count` places. The bands tile the length
also when it has fewer positions than bands. The scaled place of a position is its band
unless the position straddles the exact, fractional edge of the band.
-/
namespace Bands

/-- Where the band `i` starts. -/
def edge (size count i : Nat) : Nat := i * size / count

/-- The position lies in the band `i`. -/
def Within (size count i x : Nat) : Prop := edge size count i ≤ x ∧ x < edge size count (i + 1)

instance (size count i x : Nat) : Decidable (Within size count i x) :=
  inferInstanceAs (Decidable (_ ∧ _))

/-- The position scaled to `count` places. -/
def place (size count x : Nat) : Nat := x * count / size

section Edges
variable {size count i j x : Nat}

theorem edge_count (h : 0 < count) : edge size count count = size :=
  Nat.mul_div_cancel_left size h

theorem edge_mono (h : i ≤ j) : edge size count i ≤ edge size count j :=
  Nat.div_le_div_right (Nat.mul_le_mul_right size h)

theorem edge_le_size (h : i ≤ count) (hpos : 0 < count) : edge size count i ≤ size := by
  calc edge size count i ≤ edge size count count := edge_mono h
    _ = size := edge_count hpos

theorem edge_lt_succ (hpos : 0 < count) (h : count ≤ size) :
    edge size count i < edge size count (i + 1) := by
  rw [edge, edge, Nat.lt_iff_add_one_le, Nat.le_div_iff_mul_le hpos, Nat.add_mul, Nat.one_mul,
    Nat.add_mul, Nat.one_mul]
  exact Nat.add_le_add (Nat.div_mul_le_self _ _) h

theorem within_unique (hi : Within size count i x) (hj : Within size count j x) : i = j := by
  rcases Nat.lt_trichotomy i j with h | h | h
  · have hedge : edge size count (i + 1) ≤ edge size count j := edge_mono h
    have hlow := hj.1
    have hhigh := hi.2
    omega
  · exact h
  · have hedge : edge size count (j + 1) ≤ edge size count i := edge_mono h
    have hlow := hi.1
    have hhigh := hj.2
    omega

theorem exists_within (hpos : 0 < count) (hx : x < size) :
    ∃ i, i < count ∧ Within size count i x := by
  have hsize : 0 < size := Nat.zero_lt_of_lt hx
  have hle : ∀ i, edge size count i ≤ x ↔ i * size < (x + 1) * count := by
    intro i
    rw [edge, ← Nat.lt_succ_iff, Nat.div_lt_iff_lt_mul hpos]
  have hproduct : 0 < (x + 1) * count := Nat.mul_pos (Nat.succ_pos x) hpos
  have hbelow := Nat.div_mul_le_self ((x + 1) * count - 1) size
  have hnext := Nat.lt_mul_of_div_lt (Nat.lt_add_one (((x + 1) * count - 1) / size)) hsize
  refine ⟨((x + 1) * count - 1) / size, ?_, ?_, ?_⟩
  · rw [Nat.div_lt_iff_lt_mul hsize]
    have hbound : (x + 1) * count ≤ size * count := Nat.mul_le_mul_right count hx
    rw [Nat.mul_comm count size]
    omega
  · rw [hle]
    omega
  · rw [← Nat.not_le, hle, Nat.not_lt]
    omega

theorem existsUnique_within (hpos : 0 < count) (hx : x < size) :
    ∃! i, i < count ∧ Within size count i x := by
  obtain ⟨i, hi, hwithin⟩ := exists_within hpos hx
  exact ⟨i, ⟨hi, hwithin⟩, fun j hj => within_unique hj.2 hwithin⟩

theorem within_lt_size (hpos : 0 < count) (hi : i < count) (h : Within size count i x) :
    x < size :=
  Nat.lt_of_lt_of_le h.2 (edge_le_size hi hpos)

end Edges

section Places
variable {size count x : Nat}

theorem place_lt (hx : x < size) (hpos : 0 < count) : place size count x < count := by
  rw [place, Nat.div_lt_iff_lt_mul (Nat.zero_lt_of_lt hx), Nat.mul_comm count size]
  exact Nat.mul_lt_mul_of_pos_right hx hpos

/-- The place is the band of a position, up to the band's fractional far edge. -/
theorem within_place_iff (hpos : 0 < count) :
    Within size count (place size count x) x ↔ x * count % size + count ≤ size := by
  have hsplit := Nat.div_add_mod (x * count) size
  have hcomm : place size count x * size = size * (x * count / size) := Nat.mul_comm _ _
  have hlow : edge size count (place size count x) ≤ x := by
    apply Nat.div_le_of_le_mul
    rw [hcomm, Nat.mul_comm count x]
    omega
  have hhigh : x < edge size count (place size count x + 1) ↔
      x * count + count ≤ size * (x * count / size) + size := by
    rw [edge, Nat.lt_iff_add_one_le, Nat.le_div_iff_mul_le hpos, Nat.add_mul, Nat.one_mul,
      Nat.add_mul, Nat.one_mul, hcomm]
  constructor
  · intro h
    have := hhigh.mp h.2
    omega
  · intro h
    exact ⟨hlow, hhigh.mpr (by omega)⟩

/-- Positions of a length that the bands divide evenly lie in the band of their place. -/
theorem within_place_of_dvd (hsize : 0 < size) (h : count ∣ size) :
    Within size count (place size count x) x := by
  obtain ⟨width, rfl⟩ := h
  have hpos : 0 < count := Nat.pos_of_mul_pos_right hsize
  have hwidth : 0 < width := Nat.pos_of_mul_pos_left hsize
  rw [within_place_iff hpos, Nat.mul_comm x count, Nat.mul_mod_mul_left]
  have hmod : x % width + 1 ≤ width := Nat.mod_lt x hwidth
  calc count * (x % width) + count = count * (x % width + 1) := (Nat.mul_succ _ _).symm
    _ ≤ count * width := Nat.mul_le_mul_left count hmod

end Places

section Sampling
variable {size count step : Nat}

/-- Some sampled position is scaled to the place `i`. -/
def Hit (size count step i : Nat) : Prop :=
  ∃ k, k * step < size ∧ place size count (k * step) = i

theorem hit_of_lt (hcount : 0 < count) (hstep : 0 < step) (h : (count - 1) * step < size) {i : Nat}
    (hi : i < count) : Hit size count step i := by
  have hsize : 0 < size := Nat.zero_lt_of_lt h
  have hpitch : 0 < step * count := Nat.mul_pos hstep hcount
  obtain ⟨k, hk⟩ : ∃ k, k = (i * size + (step * count - 1)) / (step * count) := ⟨_, rfl⟩
  have hceil := Nat.div_add_mod (i * size + (step * count - 1)) (step * count)
  have hrest := Nat.mod_lt (i * size + (step * count - 1)) hpitch
  rw [← hk] at hceil
  have hlow : i * size ≤ step * count * k := by omega
  have hhigh : step * count * k < (i + 1) * size := by
    rw [Nat.add_mul, Nat.one_mul]
    by_cases hle : step * count ≤ size
    · omega
    · -- fewer positions than the bands could take: then the sample is the `i`-th one
      have hki : k ≤ i := by
        rw [hk, ← Nat.lt_succ_iff, Nat.div_lt_iff_lt_mul hpitch, Nat.succ_mul]
        have hmul : i * size ≤ i * (step * count) := Nat.mul_le_mul_left i (Nat.le_of_not_le hle)
        omega
      have hmul : step * count * k ≤ step * count * i := Nat.mul_le_mul_left _ hki
      obtain ⟨gap, hgap⟩ : ∃ gap, step * count = size + gap :=
        ⟨step * count - size, by omega⟩
      have hgaplt : gap + 1 ≤ step := by
        rw [Nat.sub_mul, Nat.one_mul, Nat.mul_comm count step] at h
        omega
      have hshort : (i + 1) * gap < step * count := by
        calc (i + 1) * gap ≤ count * gap := Nat.mul_le_mul_right gap hi
          _ < count * step := Nat.mul_lt_mul_of_pos_left hgaplt hcount
          _ = step * count := Nat.mul_comm _ _
      have hexpand : step * count * i = i * size + i * gap := by
        rw [hgap]
        ring
      rw [Nat.add_mul, Nat.one_mul] at hshort
      omega
  refine ⟨k, ?_, ?_⟩
  · have hlast : (i + 1) * size ≤ count * size := Nat.mul_le_mul_right size hi
    have hscaled : count * (k * step) < count * size := by
      calc count * (k * step) = step * count * k := by ring
        _ < (i + 1) * size := hhigh
        _ ≤ count * size := hlast
    exact Nat.lt_of_mul_lt_mul_left hscaled
  · have hproduct : k * step * count = step * count * k := by ring
    rw [place, hproduct]
    exact Nat.div_eq_of_lt_le hlow hhigh

/-- Every place gets a sample exactly when there are as many samples as places. -/
theorem hit_all_iff (hcount : 0 < count) (hstep : 0 < step) :
    (∀ i, i < count → Hit size count step i) ↔ (count - 1) * step < size := by
  constructor
  · intro h
    choose sample hsample using fun i : Fin count => h i i.isLt
    apply Nat.lt_of_not_le
    intro hle
    -- all samples are among the first `count - 1`, too few for the places
    have hfew : ∀ i, sample i < count - 1 := by
      intro i
      have hlt : sample i * step < (count - 1) * step := Nat.lt_of_lt_of_le (hsample i).1 hle
      exact Nat.lt_of_mul_lt_mul_right hlt
    have hinjective : Function.Injective fun i : Fin count =>
        (⟨sample i, hfew i⟩ : Fin (count - 1)) := by
      intro i j heq
      have hsame : sample i = sample j := congrArg Fin.val heq
      apply Fin.ext
      rw [← (hsample i).2, ← (hsample j).2, hsame]
    have hcard := Fintype.card_le_of_injective _ hinjective
    rw [Fintype.card_fin, Fintype.card_fin] at hcard
    omega
  · intro h i hi
    exact hit_of_lt hcount hstep h hi

end Sampling
end Bands
