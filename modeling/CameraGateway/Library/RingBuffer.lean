import Mathlib.Data.Nat.ModEq
import Mathlib.Data.List.GetD
import Mathlib.Data.List.Rotate

/-!
Circular windows. A ring of `capacity` cells holds a list that starts at cell
`head` and continues modulo the capacity; every cell outside the window holds a
fixed blank value. The two moves of a bounded queue are proved once: filling the
first cell after the window, and blanking the head cell.
-/
namespace RingBuffer
universe u
variable {α : Type u}

/-- The cell that lies `i` places after `head`. -/
def cell (capacity head i : Nat) : Nat := (head + i) % capacity

structure Holds (blank : α) (cells : List α) (capacity head : Nat) (contents : List α) :
    Prop where
  length_eq : cells.length = capacity
  head_lt : head < capacity
  fits : contents.length ≤ capacity
  lookup : ∀ i, i < capacity →
    cells[cell capacity head i]? = some (contents.getD i blank)

theorem cell_lt {capacity head : Nat} (h : head < capacity) (i : Nat) :
    cell capacity head i < capacity :=
  Nat.mod_lt _ (Nat.zero_lt_of_lt h)

@[simp] theorem cell_zero {capacity head : Nat} (h : head < capacity) :
    cell capacity head 0 = head :=
  Nat.mod_eq_of_lt h

theorem cell_succ (capacity head i : Nat) :
    cell capacity ((head + 1) % capacity) i = cell capacity head (i + 1) := by
  unfold cell
  rw [Nat.mod_add_mod, Nat.add_assoc, Nat.add_comm 1 i]

theorem cell_succ_mod (capacity head i : Nat) :
    (cell capacity head i + 1) % capacity = cell capacity head (i + 1) := by
  unfold cell
  rw [Nat.mod_add_mod, Nat.add_assoc]

theorem cell_injective {capacity head i j : Nat} (hi : i < capacity) (hj : j < capacity)
    (h : cell capacity head i = cell capacity head j) : i = j := by
  have hc : (i : Nat) % capacity = j % capacity := by
    have h' : Nat.ModEq capacity (head + i) (head + j) := h
    exact Nat.ModEq.add_left_cancel' head h'
  rwa [Nat.mod_eq_of_lt hi, Nat.mod_eq_of_lt hj] at hc

/-- Every cell is some offset from the head. -/
theorem exists_cell {capacity head j : Nat} (h : head < capacity) (hj : j < capacity) :
    ∃ i, i < capacity ∧ cell capacity head i = j := by
  by_cases hle : head ≤ j
  · exact ⟨j - head, by omega, by rw [cell, Nat.add_sub_cancel' hle, Nat.mod_eq_of_lt hj]⟩
  · refine ⟨capacity + j - head, by omega, ?_⟩
    have hsum : head + (capacity + j - head) = j + capacity := by omega
    rw [cell, hsum, Nat.add_mod_right, Nat.mod_eq_of_lt hj]

theorem holds_replicate (blank : α) {capacity : Nat} (h : 0 < capacity) :
    Holds blank (List.replicate capacity blank) capacity 0 [] := by
  refine ⟨List.length_replicate, h, Nat.zero_le _, fun i _ => ?_⟩
  simp [cell_lt h]

namespace Holds
variable {blank : α} {cells : List α} {capacity head : Nat} {contents : List α}

theorem lookup_live (h : Holds blank cells capacity head contents) {i : Nat}
    (hi : i < contents.length) :
    cells[cell capacity head i]? = some contents[i] := by
  rw [h.lookup i (Nat.lt_of_lt_of_le hi h.fits), List.getD_eq_getElem _ _ hi]

theorem lookup_blank (h : Holds blank cells capacity head contents) {i : Nat}
    (hi : contents.length ≤ i) (hc : i < capacity) :
    cells[cell capacity head i]? = some blank := by
  rw [h.lookup i hc, List.getD_eq_default _ _ hi]

theorem blank_outside (h : Holds blank cells capacity head contents) {j : Nat}
    (hj : j < capacity) (outside : ∀ i, i < contents.length → j ≠ cell capacity head i) :
    cells[j]? = some blank := by
  obtain ⟨i, hi, rfl⟩ := exists_cell h.head_lt hj
  by_cases hlive : i < contents.length
  · exact absurd rfl (outside i hlive)
  · exact h.lookup_blank (Nat.le_of_not_lt hlive) hi

/-- Filling the first cell after the window appends to the contents. -/
theorem append (h : Holds blank cells capacity head contents) (x : α)
    (space : contents.length < capacity) :
    Holds blank (cells.set (cell capacity head contents.length) x) capacity head
      (contents ++ [x]) := by
  refine ⟨by rw [List.length_set, h.length_eq], h.head_lt,
    by simpa [Nat.succ_le_iff] using space, ?_⟩
  intro i hi
  by_cases he : i = contents.length
  · subst he
    have hlt : cell capacity head contents.length < cells.length := by
      rw [h.length_eq]; exact cell_lt h.head_lt _
    simp [List.getElem?_set_self hlt]
  · have hne : cell capacity head contents.length ≠ cell capacity head i := by
      intro hcell
      exact he (cell_injective space hi hcell).symm
    rw [List.getElem?_set_ne hne, h.lookup i hi]
    congr 1
    by_cases hl : i < contents.length
    · simp [List.getD_eq_getElem?_getD, List.getElem?_append_left hl]
    · have hge : contents.length + 1 ≤ i := by omega
      rw [List.getD_eq_default _ _ (by omega), List.getD_eq_default _ _ (by simpa using hge)]

/-- Blanking the head cell and advancing the head removes the first element. -/
theorem dropHead {x : α} (h : Holds blank cells capacity head (x :: contents)) :
    Holds blank (cells.set head blank) capacity ((head + 1) % capacity) contents := by
  have hpos : 0 < capacity := Nat.zero_lt_of_lt h.head_lt
  have hfits : contents.length + 1 ≤ capacity := by simpa using h.fits
  refine ⟨by rw [List.length_set, h.length_eq], Nat.mod_lt _ hpos, by omega, ?_⟩
  intro i hi
  rw [cell_succ]
  by_cases hlast : i + 1 < capacity
  · have hne : head ≠ cell capacity head (i + 1) := by
      intro hcell
      have h0 : cell capacity head 0 = cell capacity head (i + 1) := by
        rwa [cell_zero h.head_lt]
      exact absurd (cell_injective hpos hlast h0) (by omega)
    rw [List.getElem?_set_ne hne, h.lookup (i + 1) hlast]
    simp
  · have hwrap : cell capacity head (i + 1) = head := by
      have : i + 1 = capacity := by omega
      rw [this, cell, Nat.add_mod_right, Nat.mod_eq_of_lt h.head_lt]
    have hlt : head < cells.length := by rw [h.length_eq]; exact h.head_lt
    rw [hwrap, List.getElem?_set_self hlt, List.getD_eq_default _ _ (by omega)]

/-- Read from the head on, the cells are the contents and then blanks. -/
theorem rotate_eq (h : Holds blank cells capacity head contents) :
    cells.rotate head = contents ++ List.replicate (capacity - contents.length) blank := by
  apply List.ext_getElem?
  intro i
  by_cases hi : i < capacity
  · rw [List.getElem?_rotate (by rwa [h.length_eq]), h.length_eq, Nat.add_comm i head]
    have hcell := h.lookup i hi
    rw [cell] at hcell
    rw [hcell]
    by_cases hlive : i < contents.length
    · rw [List.getElem?_append_left hlive, List.getD_eq_getElem _ _ hlive,
        List.getElem?_eq_getElem hlive]
    · have hle : contents.length ≤ i := Nat.le_of_not_lt hlive
      rw [List.getElem?_append_right hle, List.getD_eq_default _ _ hle,
        List.getElem?_replicate_of_lt (by omega)]
  · have hle : capacity ≤ i := Nat.le_of_not_lt hi
    have hfits := h.fits
    rw [List.getElem?_eq_none (by rwa [List.length_rotate, h.length_eq]),
      List.getElem?_eq_none (by rw [List.length_append, List.length_replicate]; omega)]

/-- Whatever is read from the cells, but not from a blank one, is read from the contents. -/
theorem filterMap_perm {β : Type*} {f : α → Option β} (hblank : f blank = none)
    (h : Holds blank cells capacity head contents) :
    (cells.filterMap f).Perm (contents.filterMap f) := by
  have hrotated : ((cells.rotate head).filterMap f).Perm (cells.filterMap f) :=
    (List.rotate_perm cells head).filterMap f
  rw [h.rotate_eq, List.filterMap_append, List.filterMap_replicate_of_none hblank,
    List.append_nil] at hrotated
  exact hrotated.symm

end Holds

end RingBuffer
