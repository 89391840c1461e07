import Mathlib.Data.List.Induction

/-!
Loops over items that assign to the fields of a state. A field holds what was assigned to it
last, and a loop that some items end at once is the plain loop up to the first of these.
-/
namespace Assignments
universe u v w
variable {ι : Type u} {σ : Type v} {β : Type w}

/-- The last assignment to a field; `sets` is what an item assigns to it, if anything. -/
def last (sets : ι → Option β) (items : List ι) : Option β := items.reverse.findSome? sets

@[simp] theorem last_nil (sets : ι → Option β) : last sets [] = none := rfl

theorem last_snoc (sets : ι → Option β) (items : List ι) (item : ι) :
    last sets (items ++ [item]) = (sets item).or (last sets items) := by
  rw [last, List.reverse_append, List.reverse_singleton, List.singleton_append,
    List.findSome?_cons, last]
  cases sets item <;> rfl

theorem last_map {γ : Type*} (f : β → γ) (sets : ι → Option β) (items : List ι) :
    last (fun item => (sets item).map f) items = (last sets items).map f := by
  induction items using List.reverseRecOn with
  | nil => rfl
  | append_singleton items item ih =>
      rw [last_snoc, last_snoc, ih]
      cases sets item <;> rfl

theorem exists_of_last {sets : ι → Option β} {items : List ι} {value : β}
    (h : last sets items = some value) : ∃ item ∈ items, sets item = some value := by
  obtain ⟨item, hitem, hvalue⟩ := List.exists_of_findSome?_eq_some h
  exact ⟨item, List.mem_reverse.mp hitem, hvalue⟩

/-- After the loop a field holds its last assignment, or what it held before. -/
theorem foldl_last {assign : σ → ι → σ} {get : σ → β} {sets : ι → Option β} {items : List ι}
    (h : ∀ item ∈ items, ∀ state, get (assign state item) = (sets item).getD (get state))
    (state : σ) : get (items.foldl assign state) = (last sets items).getD (get state) := by
  induction items using List.reverseRecOn with
  | nil => rfl
  | append_singleton items item ih =>
      have hitem := h item (List.mem_append_right _ (List.mem_singleton_self item))
      rw [List.foldl_append, List.foldl_cons, List.foldl_nil, hitem, last_snoc,
        ih fun other hother => h other (List.mem_append_left _ hother)]
      cases sets item <;> rfl

/-- A flag that no item clears is set after the loop if it was before or some item sets it. -/
theorem foldl_flag {assign : σ → ι → σ} {get : σ → Bool} {sets : ι → Bool} {items : List ι}
    (h : ∀ item ∈ items, ∀ state, get (assign state item) = (sets item || get state))
    (state : σ) : get (items.foldl assign state) = (items.any sets || get state) := by
  induction items using List.reverseRecOn with
  | nil => rfl
  | append_singleton items item ih =>
      have hitem := h item (List.mem_append_right _ (List.mem_singleton_self item))
      rw [List.foldl_append, List.foldl_cons, List.foldl_nil, hitem, List.any_append,
        ih fun other hother => h other (List.mem_append_left _ hother), List.any_cons,
        List.any_nil, Bool.or_false]
      cases sets item <;> simp

/-- A loop that items may end at once, with what the first of them reports. -/
theorem foldlM_eq {ε : Type*} {step : σ → ι → Except ε σ} {assign : σ → ι → σ}
    {stop : ι → Option ε}
    (h : ∀ state item, step state item = (stop item).elim (.ok (assign state item)) .error)
    (items : List ι) (state : σ) :
    items.foldlM step state =
      (items.findSome? stop).elim (.ok (items.foldl assign state)) .error := by
  induction items generalizing state with
  | nil => rfl
  | cons item items ih =>
      rw [List.foldlM_cons, h, List.findSome?_cons]
      cases stop item with
      | some report => rfl
      | none => exact ih (assign state item)

/-- What the items that do not end the loop preserve holds after it. -/
theorem foldlM_preserves {ε : Type*} {step : σ → ι → Except ε σ} {p : σ → Prop}
    (h : ∀ {state item next}, p state → step state item = .ok next → p next) {items : List ι}
    {state last : σ} (initial : p state) (hlast : items.foldlM step state = .ok last) : p last := by
  induction items generalizing state with
  | nil =>
      cases hlast
      exact initial
  | cons item items ih =>
      rw [List.foldlM_cons] at hlast
      cases hstep : step state item with
      | error report =>
          rw [hstep] at hlast
          cases hlast
      | ok next =>
          rw [hstep] at hlast
          exact ih (h initial hstep) hlast

end Assignments
