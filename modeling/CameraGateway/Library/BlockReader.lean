import Mathlib.Data.List.Basic

/-!
Reading a sequence of blocks through a window on the last one. Elements are taken from the
front of the window, to be delivered or to be skipped, and the next block is entered, which
skips what is left of the window. What has gone by and the window are the blocks in their order.
-/
namespace BlockReader
universe u
variable {α : Type u}

/-- The elements that have gone by are marked with whether they were delivered. -/
structure Reader (α : Type u) where
  blocks : List (List α)
  passed : List (α × Bool)
  window : List α

namespace Reader

def start (block : List α) : Reader α := { blocks := [block], passed := [], window := block }

def take (reader : Reader α) (delivered : Bool) (count : Nat) : Reader α :=
  { reader with
    passed := reader.passed ++ (reader.window.take count).map (·, delivered)
    window := reader.window.drop count }

def enter (reader : Reader α) (block : List α) : Reader α :=
  { blocks := reader.blocks ++ [block]
    passed := reader.passed ++ reader.window.map (·, false)
    window := block }

def delivered (reader : Reader α) : List α := (reader.passed.filter Prod.snd).map Prod.fst

/-- Nothing is lost, repeated or out of place. -/
def InOrder (reader : Reader α) : Prop :=
  reader.passed.map Prod.fst ++ reader.window = reader.blocks.flatten

theorem map_mark (elements : List α) (delivered : Bool) :
    (elements.map (·, delivered)).map Prod.fst = elements := by
  rw [List.map_map]
  exact List.map_id _

theorem inOrder_start (block : List α) : (start block).InOrder := by
  simp [InOrder, start]

theorem InOrder.take {reader : Reader α} (h : reader.InOrder) (delivered : Bool) (count : Nat) :
    (reader.take delivered count).InOrder := by
  rw [InOrder, Reader.take, List.map_append, map_mark, List.append_assoc, List.take_append_drop]
  exact h

theorem InOrder.enter {reader : Reader α} (h : reader.InOrder) (block : List α) :
    (reader.enter block).InOrder := by
  rw [InOrder] at h
  rw [InOrder, Reader.enter, List.map_append, map_mark, h, List.flatten_append,
    List.flatten_singleton]

/-- What is delivered is what the blocks hold, apart from what was skipped. -/
theorem InOrder.delivered_sublist {reader : Reader α} (h : reader.InOrder) :
    reader.delivered.Sublist reader.blocks.flatten := by
  rw [← h, delivered]
  exact (List.filter_sublist.map Prod.fst).trans (List.sublist_append_left _ _)

/-- Elements that have newly gone by, all of which were in the window. -/
def Extends (reader reader' : Reader α) : Prop :=
  ∃ later, reader'.passed = reader.passed ++ later ∧ ∀ element ∈ later, element.1 ∈ reader.window

theorem extends_refl (reader : Reader α) : reader.Extends reader :=
  ⟨[], (List.append_nil _).symm, by simp⟩

theorem extends_take (reader : Reader α) (delivered : Bool) (count : Nat) :
    reader.Extends (reader.take delivered count) := by
  refine ⟨_, rfl, ?_⟩
  intro element h
  obtain ⟨a, ha, rfl⟩ := List.mem_map.mp h
  exact List.mem_of_mem_take ha

theorem extends_enter (reader : Reader α) (block : List α) :
    reader.Extends (reader.enter block) := by
  refine ⟨_, rfl, ?_⟩
  intro element h
  obtain ⟨a, ha, rfl⟩ := List.mem_map.mp h
  exact ha

end Reader
end BlockReader
