import CameraGateway.Library.TransitionSystem
import Mathlib.Data.List.Perm.Basic

/-!
Blocks that a program allocates, uses and frees. An allocator hands out a block that
is not live, also one that was live before; a block is used and freed only while it is
live. The operations of a program are legal when they are a run of this system, and
`Owns` says which blocks a legal run has left live: all that its owners together know of.
-/
namespace Heap
universe u
variable {ι : Type u}

inductive Op (ι : Type u) where
  | alloc (block : ι)
  | use (block : ι)
  | free (block : ι)
deriving DecidableEq, Repr

def allocated (ops : List (Op ι)) : List ι :=
  ops.filterMap fun
    | .alloc block => some block
    | .use _ | .free _ => none

def freed (ops : List (Op ι)) : List ι :=
  ops.filterMap fun
    | .free block => some block
    | .alloc _ | .use _ => none

@[simp] theorem allocated_append (ops later : List (Op ι)) :
    allocated (ops ++ later) = allocated ops ++ allocated later := List.filterMap_append

@[simp] theorem freed_append (ops later : List (Op ι)) :
    freed (ops ++ later) = freed ops ++ freed later := List.filterMap_append

variable [DecidableEq ι]

/-- `live` are the blocks that are allocated and not yet freed. -/
def step (live : List ι) : Op ι → Option (List ι)
  | .alloc block => if block ∈ live then none else some (block :: live)
  | .use block => if block ∈ live then some live else none
  | .free block => if block ∈ live then some (live.erase block) else none

def heap (ι : Type u) [DecidableEq ι] : TransitionSystem.System (List ι) (Op ι) where
  init := []
  step := step

def after (ops : List (Op ι)) : Option (List ι) := TransitionSystem.exec (heap ι) [] ops

/-- The operations were legal, and the block is live after them. -/
def Live (ops : List (Op ι)) (block : ι) : Prop := ∃ live, after ops = some live ∧ block ∈ live

instance (ops : List (Op ι)) (block : ι) : Decidable (Live ops block) :=
  decidable_of_iff ((after ops).any (fun live => decide (block ∈ live)) = true) (by
    rw [Option.any_eq_true]
    exact exists_congr fun live => and_congr_right fun _ => decide_eq_true_iff)

/-- The operations were legal, and these are the live blocks. -/
def Owns (ops : List (Op ι)) (blocks : List ι) : Prop :=
  ∃ live, after ops = some live ∧ live.Perm blocks

theorem after_snoc {ops : List (Op ι)} {live : List ι} (h : after ops = some live) (op : Op ι) :
    after (ops ++ [op]) = step live op := by
  rw [after, TransitionSystem.exec_append, ← after, h, Option.bind_some]
  exact Option.bind_fun_some _

/-- One operation accounts for its block and for no other. -/
theorem step_count {live next : List ι} {op : Op ι} (h : step live op = some next) (block : ι) :
    next.count block + (freed [op]).count block =
      live.count block + (allocated [op]).count block := by
  cases op with
  | alloc new =>
      simp only [step, Option.ite_none_left_eq_some, Option.some.injEq] at h
      obtain ⟨-, rfl⟩ := h
      simp only [freed, allocated, List.filterMap_cons, List.filterMap_nil, List.count_nil,
        List.count_cons, Nat.add_zero, Nat.zero_add]
  | use old =>
      simp only [step, Option.ite_none_right_eq_some, Option.some.injEq] at h
      obtain ⟨-, rfl⟩ := h
      rfl
  | free old =>
      simp only [step, Option.ite_none_right_eq_some, Option.some.injEq] at h
      obtain ⟨hlive, rfl⟩ := h
      have hcount := (List.perm_cons_erase hlive).count_eq block
      rw [List.count_cons] at hcount
      simp only [freed, allocated, List.filterMap_cons, List.filterMap_nil, List.count_nil,
        List.count_cons, Nat.zero_add, Nat.add_zero]
      omega

namespace Owns
variable {ops : List (Op ι)} {blocks rest : List ι} {block : ι}

theorem nil : Owns ([] : List (Op ι)) [] := ⟨[], rfl, List.Perm.refl _⟩

theorem perm (h : Owns ops blocks) (hperm : blocks.Perm rest) : Owns ops rest := by
  obtain ⟨live, hafter, hlive⟩ := h
  exact ⟨live, hafter, hlive.trans hperm⟩

theorem live_iff (h : Owns ops blocks) : Live ops block ↔ block ∈ blocks := by
  obtain ⟨live, hafter, hlive⟩ := h
  constructor
  · rintro ⟨live', hafter', hmem⟩
    obtain rfl := Option.some.inj (hafter.symm.trans hafter')
    exact hlive.mem_iff.mp hmem
  · intro hmem
    exact ⟨live, hafter, hlive.mem_iff.mpr hmem⟩

theorem alloc (h : Owns ops blocks) (hfresh : block ∉ blocks) :
    Owns (ops ++ [.alloc block]) (block :: blocks) := by
  obtain ⟨live, hafter, hlive⟩ := h
  refine ⟨block :: live, ?_, hlive.cons block⟩
  rw [after_snoc hafter, step, if_neg (fun hmem => hfresh (hlive.mem_iff.mp hmem))]

theorem use (h : Owns ops blocks) (hmem : block ∈ blocks) :
    Owns (ops ++ [.use block]) blocks := by
  obtain ⟨live, hafter, hlive⟩ := h
  refine ⟨live, ?_, hlive⟩
  rw [after_snoc hafter, step, if_pos (hlive.mem_iff.mpr hmem)]

theorem free (h : Owns ops (block :: blocks)) : Owns (ops ++ [.free block]) blocks := by
  obtain ⟨live, hafter, hlive⟩ := h
  refine ⟨live.erase block, ?_, ?_⟩
  · rw [after_snoc hafter, step, if_pos (hlive.mem_iff.mpr List.mem_cons_self)]
  · have hperm := hlive.erase block
    rwa [List.erase_cons_head] at hperm

theorem useAll (h : Owns ops blocks) (hmem : ∀ used ∈ rest, used ∈ blocks) :
    Owns (ops ++ rest.map Op.use) blocks := by
  induction rest generalizing ops with
  | nil => simpa using h
  | cons used rest ih =>
      have hfirst := h.use (hmem used List.mem_cons_self)
      have hrest := ih hfirst fun other hother => hmem other (List.mem_cons_of_mem used hother)
      rwa [List.append_assoc] at hrest

theorem freeAll (h : Owns ops (rest ++ blocks)) : Owns (ops ++ rest.map Op.free) blocks := by
  induction rest generalizing ops with
  | nil => simpa using h
  | cons old rest ih =>
      have hrest := ih h.free
      rwa [List.append_assoc] at hrest

/-- A block is live or freed once for each time it was allocated. -/
theorem count_eq (h : Owns ops blocks) (block : ι) :
    blocks.count block + (freed ops).count block = (allocated ops).count block := by
  have hrun : ∀ {ops : List (Op ι)} {live next : List ι},
      TransitionSystem.exec (heap ι) live ops = some next →
      next.count block + (freed ops).count block =
        live.count block + (allocated ops).count block := by
    intro ops
    induction ops with
    | nil =>
        intro live next hexec
        cases hexec
        rfl
    | cons op ops ih =>
        intro live next hexec
        obtain ⟨middle, hstep, hrest⟩ := Option.bind_eq_some_iff.mp hexec
        have hlater := ih hrest
        have hfirst := step_count hstep block
        rw [← @List.singleton_append _ op ops, allocated_append, freed_append, List.count_append,
          List.count_append]
        omega
  obtain ⟨live, hafter, hlive⟩ := h
  have hcount := hrun hafter
  rw [List.count_nil, Nat.zero_add] at hcount
  rw [← hlive.count_eq]
  exact hcount

end Owns

end Heap
