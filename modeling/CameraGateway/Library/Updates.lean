import Mathlib.Data.List.Nodup

/-!
A list of cells that is updated in place, one cell after the other. A cell that no update
names keeps its content, and one that is named once is changed once, whatever the order.
-/
namespace Updates
universe u
variable {α : Type u}

/-- A cell and what becomes of its content. -/
structure Update (α : Type u) where
  cell : Nat
  change : α → α

def Update.write (cell : Nat) (value : α) : Update α := ⟨cell, fun _ => value⟩

def apply (cells : List α) (updates : List (Update α)) : List α :=
  updates.foldl (fun cells update => cells.modify update.cell update.change) cells

@[simp] theorem apply_nil (cells : List α) : apply cells [] = cells := rfl

@[simp] theorem apply_cons (cells : List α) (update : Update α) (updates : List (Update α)) :
    apply cells (update :: updates) =
      apply (cells.modify update.cell update.change) updates := rfl

theorem apply_append (cells : List α) (updates later : List (Update α)) :
    apply cells (updates ++ later) = apply (apply cells updates) later :=
  List.foldl_append

/-- A loop whose body applies updates applies those of all its rounds. -/
theorem foldl_apply {β : Type*} (body : β → List (Update α)) (rounds : List β) (cells : List α) :
    rounds.foldl (fun cells round => apply cells (body round)) cells =
      apply cells (rounds.flatMap body) := by
  induction rounds generalizing cells with
  | nil => rfl
  | cons round rounds ih => rw [List.foldl_cons, ih, List.flatMap_cons, apply_append]

theorem set_eq_apply (cells : List α) (cell : Nat) (value : α) :
    cells.set cell value = apply cells [.write cell value] := by
  apply List.ext_getElem?
  intro i
  show _ = (cells.modify cell fun _ => value)[i]?
  rw [List.getElem?_modify, List.getElem?_set]
  by_cases hcell : cell = i
  · subst hcell
    by_cases hi : cell < cells.length
    · simp [hi]
    · simp [Nat.le_of_not_lt hi]
  · simp [hcell]

@[simp] theorem length_apply (cells : List α) (updates : List (Update α)) :
    (apply cells updates).length = cells.length := by
  induction updates generalizing cells with
  | nil => rfl
  | cons update updates ih => rw [apply_cons, ih, List.length_modify]

theorem apply_untouched {updates : List (Update α)} {i : Nat}
    (h : ∀ update ∈ updates, update.cell ≠ i) (cells : List α) :
    (apply cells updates)[i]? = cells[i]? := by
  induction updates generalizing cells with
  | nil => rfl
  | cons update updates ih =>
      rw [apply_cons, ih fun later hlater => h later (List.mem_cons_of_mem _ hlater),
        List.getElem?_modify_ne _ _ (h update (List.mem_cons_self ..))]

theorem apply_once {updates : List (Update α)} (hnodup : (updates.map Update.cell).Nodup)
    {update : Update α} (h : update ∈ updates) (cells : List α) :
    (apply cells updates)[update.cell]? = cells[update.cell]?.map update.change := by
  induction updates generalizing cells with
  | nil => cases h
  | cons first updates ih =>
      rw [List.map_cons, List.nodup_cons] at hnodup
      rw [apply_cons]
      rcases List.mem_cons.mp h with rfl | hlater
      · have hothers : ∀ later ∈ updates, later.cell ≠ update.cell := by
          intro later hlater heq
          exact hnodup.1 (heq ▸ List.mem_map_of_mem hlater)
        rw [apply_untouched hothers, List.getElem?_modify_eq]
        rfl
      · have hne : first.cell ≠ update.cell := by
          intro heq
          exact hnodup.1 (heq ▸ List.mem_map_of_mem hlater)
        rw [ih hnodup.2 hlater, List.getElem?_modify_ne _ _ hne]

/-- A cell that exists and is written once holds what was written. -/
theorem apply_write {updates : List (Update α)} (hnodup : (updates.map Update.cell).Nodup)
    {cell : Nat} {value : α} (h : .write cell value ∈ updates) {cells : List α}
    (hcell : cell < cells.length) : (apply cells updates)[cell]? = some value := by
  have hwritten := apply_once hnodup h cells
  rw [Update.write] at hwritten
  rw [hwritten, List.getElem?_eq_getElem hcell]
  rfl

def writes : Nat → List α → List (Update α)
  | _, [] => []
  | start, value :: values => .write start value :: writes (start + 1) values

theorem writes_cells (start : Nat) (values : List α) :
    (writes start values).map Update.cell = List.range' start values.length := by
  induction values generalizing start with
  | nil => rfl
  | cons value values ih =>
      rw [writes, List.map_cons, ih, List.length_cons, List.range'_succ]
      rfl

theorem mem_writes {start i : Nat} {values : List α} {value : α} (h : values[i]? = some value) :
    .write (start + i) value ∈ writes start values := by
  induction values generalizing start i with
  | nil => cases h
  | cons first values ih =>
      cases i with
      | zero =>
          rw [List.getElem?_cons_zero, Option.some.injEq] at h
          rw [h]
          exact List.mem_cons_self ..
      | succ i =>
          rw [List.getElem?_cons_succ] at h
          rw [writes, show start + (i + 1) = start + 1 + i by omega]
          exact List.mem_cons_of_mem _ (ih h)

/-- Among updates that name no cell twice, consecutive writes leave their values. -/
theorem apply_writes {updates : List (Update α)} (hnodup : (updates.map Update.cell).Nodup)
    {start : Nat} {values : List α} (h : writes start values ⊆ updates) {cells : List α}
    (hcells : start + values.length ≤ cells.length) :
    ((apply cells updates).drop start).take values.length = values := by
  apply List.ext_getElem?
  intro i
  rw [List.getElem?_take]
  split
  · rename_i hi
    have hvalue : values[i]? = some values[i] := List.getElem?_eq_getElem hi
    rw [List.getElem?_drop, apply_write hnodup (h (mem_writes hvalue)) (by omega), hvalue]
  · rename_i hi
    exact (List.getElem?_eq_none (Nat.le_of_not_lt hi)).symm

end Updates
