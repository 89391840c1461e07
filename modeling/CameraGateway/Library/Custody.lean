import CameraGateway.Library.TransitionSystem

/-!
Items that a borrower takes from a lender one at a time. An item may be used only
between its taking and its return, and is returned once; a return can fail, and the
item then stays with the borrower for good. The operations of a program are legal
when they are a run of this system.
-/
namespace Custody
universe u
variable {ρ : Type u}

inductive Op (ρ : Type u) where
  | take (item : ρ)
  | use (item : ρ)
  | giveBack (item : ρ) (ok : Bool)
deriving DecidableEq, Repr

/-- The item in the borrower's hand, and those whose return has failed. -/
structure Holding (ρ : Type u) where
  hand : Option ρ
  lost : List ρ
deriving DecidableEq, Repr

def Holding.none : Holding ρ := { hand := Option.none, lost := [] }

variable [DecidableEq ρ]

def step (holding : Holding ρ) : Op ρ → Option (Holding ρ)
  | .take item =>
      if holding.hand = Option.none ∧ item ∉ holding.lost then
        some { holding with hand := some item }
      else Option.none
  | .use item => if holding.hand = some item then some holding else Option.none
  | .giveBack item ok =>
      if holding.hand = some item then
        some { hand := Option.none, lost := if ok then holding.lost else item :: holding.lost }
      else Option.none

def custody (ρ : Type u) [DecidableEq ρ] : TransitionSystem.System (Holding ρ) (Op ρ) where
  init := Holding.none
  step := step

/-- Where the operations have led, if all of them were legal. -/
def after (ops : List (Op ρ)) : Option (Holding ρ) :=
  TransitionSystem.exec (custody ρ) Holding.none ops

@[simp] theorem after_nil : after ([] : List (Op ρ)) = some Holding.none := rfl

theorem after_snoc {ops : List (Op ρ)} {holding : Holding ρ} (h : after ops = some holding)
    (op : Op ρ) : after (ops ++ [op]) = step holding op := by
  rw [after, TransitionSystem.exec_append]
  rw [after] at h
  rw [h]
  cases hstep : step holding op with
  | none => simp [TransitionSystem.exec, custody, hstep]
  | some next => simp [TransitionSystem.exec, custody, hstep]

theorem step_take {lost : List ρ} {item : ρ} (h : item ∉ lost) :
    step { hand := Option.none, lost := lost } (.take item) =
      some { hand := some item, lost := lost } := by
  simp [step, h]

theorem step_use (lost : List ρ) (item : ρ) :
    step { hand := some item, lost := lost } (.use item) =
      some { hand := some item, lost := lost } := by
  simp [step]

theorem step_giveBack (lost : List ρ) (item : ρ) (ok : Bool) :
    step { hand := some item, lost := lost } (.giveBack item ok) =
      some { hand := Option.none, lost := if ok then lost else item :: lost } := by
  simp [step]

end Custody
