import Mathlib.Data.List.Basic

/-!
Episodes of a sequence: maximal runs of consecutive elements with a property. An
episode is named by its first element, its onset.
-/
namespace Episodes
universe u
variable {α : Type u}

/-- The onsets in their order: the elements with the property that come first, or
right after an element without it. -/
def onsets (active : α → Bool) (l : List α) : List α :=
  (List.range l.length).filterMap fun i =>
    l[i]?.filter fun a => active a && (i == 0 || (l[i - 1]?.any fun b => !active b))

@[simp] theorem onsets_nil (active : α → Bool) : onsets active [] = [] := rfl

/-- A new element begins an episode when it has the property and the one before it,
if there is one, has not. -/
theorem onsets_snoc (active : α → Bool) (l : List α) (a : α) :
    onsets active (l ++ [a]) =
      onsets active l ++ if active a && !(l.getLast?.any active) then [a] else [] := by
  rw [onsets, List.length_append, List.length_singleton, List.range_succ, List.filterMap_append]
  congr 1
  · apply List.filterMap_congr
    intro i hi
    have hlt : i < l.length := List.mem_range.mp hi
    have hlt' : i - 1 < l.length := by omega
    rw [List.getElem?_append_left hlt, List.getElem?_append_left hlt']
  · have hbegin : (l.length == 0 || ((l ++ [a])[l.length - 1]?.any fun b => !active b)) =
        !(l.getLast?.any active) := by
      rcases List.eq_nil_or_concat l with rfl | ⟨l, b, rfl⟩
      · rfl
      · simp
    rw [List.filterMap_cons, List.filterMap_nil, hbegin]
    simp only [List.getElem?_concat_length, Option.filter]
    split <;> rename_i h <;> split at h <;> simp_all

end Episodes
