import Mathlib.Data.List.Basic

/-!
The running least and greatest of a list of numbers below a bound. The least starts at the
bound and the greatest at 0, so that the two are in order exactly when there was a number.
-/
namespace Extent

structure Bounds (start : Nat) (values : List Nat) (lo hi : Nat) : Prop where
  lower : ∀ v ∈ values, lo ≤ v
  upper : ∀ v ∈ values, v ≤ hi
  empty : values = [] → lo = start ∧ hi = 0
  attained : values ≠ [] → lo ∈ values ∧ hi ∈ values

namespace Bounds
variable {start : Nat} {values : List Nat} {lo hi : Nat}

theorem nil (start : Nat) : Bounds start [] start 0 :=
  ⟨nofun, nofun, fun _ => ⟨rfl, rfl⟩, fun h => absurd rfl h⟩

theorem snoc (h : Bounds start values lo hi) {v : Nat} (hv : v < start) :
    Bounds start (values ++ [v]) (if v < lo then v else lo) (if v > hi then v else hi) := by
  refine ⟨?_, ?_, by simp, ?_⟩
  · intro w hw
    cases List.mem_append.mp hw with
    | inl hold =>
        have := h.lower w hold
        split <;> omega
    | inr hnew =>
        rw [List.mem_singleton.mp hnew]
        split <;> omega
  · intro w hw
    cases List.mem_append.mp hw with
    | inl hold =>
        have := h.upper w hold
        split <;> omega
    | inr hnew =>
        rw [List.mem_singleton.mp hnew]
        split <;> omega
  · intro _
    by_cases hempty : values = []
    · obtain ⟨rfl, rfl⟩ := h.empty hempty
      subst hempty
      constructor
      · rw [if_pos hv]
        exact List.mem_singleton_self v
      · split
        · exact List.mem_singleton_self v
        · have hzero : v = 0 := by omega
          rw [hzero]
          exact List.mem_singleton_self 0
    · obtain ⟨hlo, hhi⟩ := h.attained hempty
      constructor
      · split
        · exact List.mem_append_right _ (List.mem_singleton_self v)
        · exact List.mem_append_left _ hlo
      · split
        · exact List.mem_append_right _ (List.mem_singleton_self v)
        · exact List.mem_append_left _ hhi

theorem le_iff (h : Bounds start values lo hi) (hstart : 0 < start) : lo ≤ hi ↔ values ≠ [] := by
  constructor
  · rintro hle hempty
    obtain ⟨rfl, rfl⟩ := h.empty hempty
    omega
  · intro hne
    exact h.lower hi (h.attained hne).2

theorem greatest_lt (h : Bounds start values lo hi) (hstart : 0 < start)
    (hvalues : ∀ v ∈ values, v < start) : hi < start := by
  by_cases hempty : values = []
  · rw [(h.empty hempty).2]
    exact hstart
  · exact hvalues hi (h.attained hempty).2

end Bounds
end Extent
