import CameraGateway.Library.TransitionSystem
import Mathlib.Data.List.Nodup
import Mathlib.Data.List.Perm.Basic

/-!
A ledger of items that a program acquires and has to release. An item is acquired at
most once, and released at most once and only while it is held. Items can be built on
others: while an item is held, what it uses is not released, and nothing is built on a
released item. The operations of a program are legal when they are a run of this system;
`Holds` says what a legal run has left to release, and a `Balanced` piece of a program
leaves that as it was.
-/
namespace Ledger
universe u
variable {ι : Type u}

inductive Op (ι : Type u) where
  | acquire (item : ι)
  | release (item : ι)
deriving DecidableEq, Repr

/-- The items held and the items released, each of them once. -/
structure Book (ι : Type u) where
  held : List ι
  released : List ι
  distinct : (held ++ released).Nodup

def Book.empty : Book ι := { held := [], released := [], distinct := List.nodup_nil }

def acquired (ops : List (Op ι)) : List ι :=
  ops.filterMap fun
    | .acquire item => some item
    | .release _ => none

def released (ops : List (Op ι)) : List ι :=
  ops.filterMap fun
    | .acquire _ => none
    | .release item => some item

section Lists

@[simp] theorem acquired_append (ops later : List (Op ι)) :
    acquired (ops ++ later) = acquired ops ++ acquired later := List.filterMap_append

@[simp] theorem released_append (ops later : List (Op ι)) :
    released (ops ++ later) = released ops ++ released later := List.filterMap_append

@[simp] theorem acquired_map_acquire (items : List ι) :
    acquired (items.map Op.acquire) = items := by
  induction items with
  | nil => rfl
  | cons item items ih => exact congrArg (List.cons item) ih

@[simp] theorem released_map_acquire (items : List ι) : released (items.map Op.acquire) = [] := by
  induction items with
  | nil => rfl
  | cons item items ih => exact ih

@[simp] theorem acquired_map_release (items : List ι) : acquired (items.map Op.release) = [] := by
  induction items with
  | nil => rfl
  | cons item items ih => exact ih

theorem mem_acquired {ops : List (Op ι)} {item : ι} :
    item ∈ acquired ops ↔ .acquire item ∈ ops := by
  induction ops with
  | nil => exact iff_of_false List.not_mem_nil List.not_mem_nil
  | cons op ops ih =>
      cases op with
      | acquire other =>
          change item ∈ other :: acquired ops ↔ _
          rw [List.mem_cons, List.mem_cons, ih, Op.acquire.injEq]
      | release other =>
          change item ∈ acquired ops ↔ _
          rw [List.mem_cons, ih]
          exact ⟨Or.inr, fun h => h.resolve_left nofun⟩

end Lists

variable [DecidableEq ι]

variable (uses : ι → ι → Bool)

/-- `uses item other` says that `item` is built on `other`. -/
def Book.acquire (book : Book ι) (item : ι) : Option (Book ι) :=
  if fresh : item ∉ book.held ++ book.released ∧
      ∀ other ∈ book.released, uses item other = false then
    some
      { held := item :: book.held
        released := book.released
        distinct := List.nodup_cons.mpr ⟨fresh.1, book.distinct⟩ }
  else none

theorem release_distinct {book : Book ι} {item : ι} (h : item ∈ book.held) :
    (book.held.erase item ++ item :: book.released).Nodup := by
  have hmoved : (book.held.erase item ++ item :: book.released).Perm
      (book.held ++ book.released) :=
    List.perm_middle.trans ((List.perm_cons_erase h).symm.append_right book.released)
  exact hmoved.nodup_iff.mpr book.distinct

def Book.release (book : Book ι) (item : ι) : Option (Book ι) :=
  if h : item ∈ book.held ∧ ∀ other ∈ book.held.erase item, uses other item = false then
    some
      { held := book.held.erase item
        released := item :: book.released
        distinct := release_distinct h.1 }
  else none

def step (book : Book ι) : Op ι → Option (Book ι)
  | .acquire item => book.acquire uses item
  | .release item => book.release uses item

def ledger : TransitionSystem.System (Book ι) (Op ι) where
  init := Book.empty
  step := step uses

def after (ops : List (Op ι)) : Option (Book ι) :=
  TransitionSystem.exec (ledger uses) Book.empty ops

/-- The operations were legal and these items are still held. -/
def Holds (ops : List (Op ι)) (items : List ι) : Prop :=
  ∃ book, after uses ops = some book ∧ book.held.Perm items

variable {uses : ι → ι → Bool}

/-- One operation moves its item and no other. -/
theorem step_perm {book next : Book ι} {op : Op ι} (h : step uses book op = some next) :
    (next.held ++ next.released).Perm (acquired [op] ++ (book.held ++ book.released)) ∧
      next.released.Perm (released [op] ++ book.released) := by
  cases op with
  | acquire item =>
      simp only [step, Book.acquire, Option.dite_none_right_eq_some, Option.some.injEq] at h
      obtain ⟨-, rfl⟩ := h
      exact ⟨List.Perm.refl _, List.Perm.refl _⟩
  | release item =>
      simp only [step, Book.release, Option.dite_none_right_eq_some, Option.some.injEq] at h
      obtain ⟨hfree, rfl⟩ := h
      refine ⟨?_, List.Perm.refl _⟩
      exact List.perm_middle.trans ((List.perm_cons_erase hfree.1).symm.append_right book.released)

theorem exec_perm {book next : Book ι} {ops : List (Op ι)}
    (h : TransitionSystem.exec (ledger uses) book ops = some next) :
    (next.held ++ next.released).Perm (acquired ops ++ (book.held ++ book.released)) ∧
      next.released.Perm (released ops ++ book.released) := by
  induction ops generalizing book with
  | nil =>
      cases h
      exact ⟨List.Perm.refl _, List.Perm.refl _⟩
  | cons op ops ih =>
      obtain ⟨middle, hstep, hrest⟩ := Option.bind_eq_some_iff.mp h
      obtain ⟨hall, hreleased⟩ := ih hrest
      obtain ⟨hall', hreleased'⟩ := step_perm hstep
      rw [← @List.singleton_append _ op ops, acquired_append, released_append]
      constructor
      · refine hall.trans ((hall'.append_left _).trans ?_)
        rw [← List.append_assoc]
        exact List.perm_append_comm.append_right _
      · refine hreleased.trans ((hreleased'.append_left _).trans ?_)
        rw [← List.append_assoc]
        exact List.perm_append_comm.append_right _

theorem after_perm {ops : List (Op ι)} {book : Book ι} (h : after uses ops = some book) :
    (book.held ++ book.released).Perm (acquired ops) ∧ book.released.Perm (released ops) := by
  obtain ⟨hall, hreleased⟩ := exec_perm h
  simp only [Book.empty, List.append_nil] at hall hreleased
  exact ⟨hall, hreleased⟩

theorem after_snoc {ops : List (Op ι)} {op : Op ι} {book : Book ι}
    (h : after uses ops = some book) : after uses (ops ++ [op]) = step uses book op := by
  rw [after, TransitionSystem.exec_append, ← after, h, Option.bind_some]
  exact Option.bind_fun_some _

/-- What uses a released item is not acquired any more. -/
theorem exec_unusable {book next : Book ι} {ops : List (Op ι)} {item other : ι}
    (h : TransitionSystem.exec (ledger uses) book ops = some next) (hitem : item ∈ book.released)
    (huses : uses other item = true) : other ∉ acquired ops := by
  induction ops generalizing book with
  | nil => exact List.not_mem_nil
  | cons op ops ih =>
      obtain ⟨middle, hstep, hrest⟩ := Option.bind_eq_some_iff.mp h
      change step uses book op = some middle at hstep
      cases op with
      | acquire new =>
          simp only [step, Book.acquire, Option.dite_none_right_eq_some, Option.some.injEq] at hstep
          obtain ⟨hfresh, rfl⟩ := hstep
          change other ∉ new :: acquired ops
          rw [List.mem_cons, not_or]
          refine ⟨?_, ih hrest hitem⟩
          rintro rfl
          exact Bool.false_ne_true ((hfresh.2 item hitem).symm.trans huses)
      | release old =>
          simp only [step, Book.release, Option.dite_none_right_eq_some, Option.some.injEq] at hstep
          obtain ⟨hfree, rfl⟩ := hstep
          exact ih hrest (List.mem_cons_of_mem old hitem)

namespace Holds
variable {ops later : List (Op ι)} {items rest : List ι} {item : ι}

theorem nil : Holds uses [] [] := ⟨Book.empty, rfl, List.Perm.refl _⟩

theorem perm (h : Holds uses ops items) (hperm : items.Perm rest) : Holds uses ops rest := by
  obtain ⟨book, hafter, hheld⟩ := h
  exact ⟨book, hafter, hheld.trans hperm⟩

theorem acquire (h : Holds uses ops items) (hfresh : item ∉ acquired ops)
    (husable : ∀ other ∈ released ops, uses item other = false) :
    Holds uses (ops ++ [.acquire item]) (item :: items) := by
  obtain ⟨book, hafter, hheld⟩ := h
  obtain ⟨hall, hreleased⟩ := after_perm hafter
  have hnew : item ∉ book.held ++ book.released ∧
      ∀ other ∈ book.released, uses item other = false := by
    refine ⟨fun hmem => hfresh (hall.mem_iff.mp hmem), ?_⟩
    intro other hother
    exact husable other (hreleased.mem_iff.mp hother)
  exact ⟨_, (after_snoc hafter).trans (dif_pos hnew), hheld.cons item⟩

theorem release (h : Holds uses ops (item :: items))
    (hunused : ∀ other ∈ items, uses other item = false) :
    Holds uses (ops ++ [.release item]) items := by
  obtain ⟨book, hafter, hheld⟩ := h
  have herase : (book.held.erase item).Perm items := by
    have hperm := hheld.erase item
    rwa [List.erase_cons_head] at hperm
  have hfree : item ∈ book.held ∧ ∀ other ∈ book.held.erase item, uses other item = false :=
    ⟨hheld.mem_iff.mpr List.mem_cons_self, fun other hother =>
      hunused other (herase.mem_iff.mp hother)⟩
  exact ⟨_, (after_snoc hafter).trans (dif_pos hfree), herase⟩

theorem acquireAll (h : Holds uses ops items) (hnodup : rest.Nodup)
    (hfresh : ∀ item ∈ rest, item ∉ acquired ops)
    (husable : ∀ item ∈ rest, ∀ other ∈ released ops, uses item other = false) :
    Holds uses (ops ++ rest.map Op.acquire) (rest ++ items) := by
  induction rest generalizing ops items with
  | nil => simpa using h
  | cons item rest ih =>
      obtain ⟨hitem, hrest⟩ := List.nodup_cons.mp hnodup
      have hfirst : Holds uses (ops ++ [.acquire item]) (item :: items) :=
        h.acquire (hfresh item List.mem_cons_self) (husable item List.mem_cons_self)
      have hnext : Holds uses (ops ++ [.acquire item] ++ rest.map Op.acquire)
          (rest ++ item :: items) := by
        apply ih hfirst hrest
        · intro other hother hmem
          rw [acquired_append, List.mem_append] at hmem
          cases hmem with
          | inl hold => exact hfresh other (List.mem_cons_of_mem item hother) hold
          | inr hnew =>
              rw [List.mem_singleton.mp hnew] at hother
              exact hitem hother
        · intro other hother old hold
          rw [released_append] at hold
          have hold' : old ∈ released ops := by simpa [released] using hold
          exact husable other (List.mem_cons_of_mem item hother) old hold'
      rw [List.append_assoc] at hnext
      exact hnext.perm List.perm_middle

/-- Several items, one after the other, each no longer used when its turn comes. -/
theorem releaseAll (h : Holds uses ops (rest ++ items))
    (horder : rest.Pairwise fun item later => uses later item = false)
    (hunused : ∀ item ∈ rest, ∀ other ∈ items, uses other item = false) :
    Holds uses (ops ++ rest.map Op.release) items := by
  induction rest generalizing ops with
  | nil => simpa using h
  | cons item rest ih =>
      obtain ⟨hitem, hrest⟩ := List.pairwise_cons.mp horder
      have hfirst : Holds uses (ops ++ [.release item]) (rest ++ items) := by
        refine h.release fun other hother => ?_
        cases List.mem_append.mp hother with
        | inl hlater => exact hitem other hlater
        | inr hkept => exact hunused item List.mem_cons_self other hkept
      have hnext := ih hfirst hrest fun other hother =>
        hunused other (List.mem_cons_of_mem item hother)
      rwa [List.append_assoc] at hnext

/-- An item is held or released once for each time it was acquired. -/
theorem count_eq (h : Holds uses ops items) (item : ι) :
    items.count item + (released ops).count item = (acquired ops).count item := by
  obtain ⟨book, hafter, hheld⟩ := h
  obtain ⟨hall, hreleased⟩ := after_perm hafter
  rw [← hall.count_eq, List.count_append, hheld.count_eq, hreleased.count_eq]

theorem acquired_nodup (h : Holds uses ops items) : (acquired ops).Nodup := by
  obtain ⟨book, hafter, -⟩ := h
  exact (after_perm hafter).1.nodup_iff.mp book.distinct

theorem released_nodup (h : Holds uses ops items) : (released ops).Nodup := by
  obtain ⟨book, hafter, -⟩ := h
  exact (after_perm hafter).2.nodup_iff.mp (List.nodup_append.mp book.distinct).2.1

/-- Before an item is released, everything that ever uses it has been released. -/
theorem released_before {other : ι} (h : Holds uses (ops ++ .release item :: later) items)
    (huses : uses other item = true) (hne : other ≠ item)
    (hother : other ∈ acquired (ops ++ .release item :: later)) : other ∈ released ops := by
  obtain ⟨last, hafter, -⟩ := h
  rw [after, TransitionSystem.exec_append] at hafter
  obtain ⟨book, hbook, hrest⟩ := Option.bind_eq_some_iff.mp hafter
  obtain ⟨next, hstep, hlater⟩ := Option.bind_eq_some_iff.mp hrest
  change book.release uses item = some next at hstep
  simp only [Book.release, Option.dite_none_right_eq_some, Option.some.injEq] at hstep
  obtain ⟨hfree, rfl⟩ := hstep
  obtain ⟨hall, hreleased⟩ := after_perm hbook
  have hbefore : other ∈ acquired ops := by
    rw [acquired_append, List.mem_append] at hother
    have hgone : other ∉ acquired later := by
      refine exec_unusable hlater ?_ huses
      exact List.mem_cons_self
    exact hother.resolve_right hgone
  apply hreleased.mem_iff.mp
  refine (List.mem_append.mp (hall.mem_iff.mpr hbefore)).resolve_left fun hheld => ?_
  have hunused := hfree.2 other ((List.mem_erase_of_ne hne).mpr hheld)
  exact Bool.false_ne_true (hunused.symm.trans huses)

end Holds

/-- A piece of a program that releases what it acquires, and nothing else. -/
def Balanced (uses : ι → ι → Bool) (piece : List (Op ι)) : Prop :=
  ∀ ⦃ops : List (Op ι)⦄ ⦃items : List ι⦄, Holds uses ops items →
    (∀ item ∈ acquired piece, item ∉ acquired ops) →
    (∀ item ∈ acquired piece, ∀ other ∈ released ops, uses item other = false) →
    (∀ item ∈ acquired piece, ∀ other ∈ items, uses other item = false) →
    Holds uses (ops ++ piece) items

theorem Balanced.nil : Balanced uses [] := by
  intro ops items h _ _ _
  rwa [List.append_nil]

/-- Items around a balanced piece, released in an order in which no item is used any more
when its turn comes. -/
theorem Balanced.bracket {items order : List ι} {piece : List (Op ι)}
    (hpiece : Balanced uses piece) (hperm : items.Perm order) (hnodup : items.Nodup)
    (hdisjoint : ∀ item ∈ acquired piece, item ∉ items)
    (hunused : ∀ item ∈ acquired piece, ∀ other ∈ items, uses other item = false)
    (horder : order.Pairwise fun item later => uses later item = false) :
    Balanced uses (items.map Op.acquire ++ piece ++ order.map Op.release) := by
  intro ops held h hfresh husable hfree
  simp only [acquired_append, acquired_map_acquire, acquired_map_release, List.append_nil,
    List.mem_append] at hfresh husable hfree
  have hopened : Holds uses (ops ++ items.map Op.acquire) (items ++ held) :=
    h.acquireAll hnodup (fun item hitem => hfresh item (Or.inl hitem))
      (fun item hitem => husable item (Or.inl hitem))
  have hinside : Holds uses (ops ++ items.map Op.acquire ++ piece) (items ++ held) := by
    apply hpiece hopened
    · intro item hitem
      rw [acquired_append, acquired_map_acquire, List.mem_append, not_or]
      exact ⟨hfresh item (Or.inr hitem), hdisjoint item hitem⟩
    · intro item hitem
      rw [released_append, released_map_acquire, List.append_nil]
      exact husable item (Or.inr hitem)
    · intro item hitem other hother
      cases List.mem_append.mp hother with
      | inl hnew => exact hunused item hitem other hnew
      | inr hold => exact hfree item (Or.inr hitem) other hold
  have hclosed := (hinside.perm (hperm.append_right held)).releaseAll horder ?_
  · rwa [List.append_assoc, List.append_assoc, ← List.append_assoc (items.map Op.acquire)]
      at hclosed
  · intro item hitem other hother
    exact hfree item (Or.inl (hperm.mem_iff.mpr hitem)) other hother

end Ledger
