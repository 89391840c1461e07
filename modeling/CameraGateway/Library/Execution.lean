import CameraGateway.Library.TransitionSystem
import Mathlib.Order.Monotone.Basic

/-!
Infinite runs of a transition system, for what must happen: a state that is reached sooner
or later. The rule is that of a measure which runs out, under the assumption that the steps
which use it up come again as long as the state has not been reached.
-/
namespace TransitionSystem
universe u v
variable {σ : Type u} {α : Type v} {M : System σ α} {s : σ}

/-- The states around one label of a finite run. -/
theorem exec_split {s t : σ} {as : List α} (h : exec M s as = some t) {n : Nat} {a : α}
    (ha : as[n]? = some a) : ∃ u, exec M s (as.take n) = some u ∧ ∃ v, M.step u a = some v ∧
      exec M s (as.take (n + 1)) = some v := by
  induction n generalizing s as with
  | zero =>
      cases as with
      | nil => cases ha
      | cons b as =>
          cases ha
          obtain ⟨v, hv, -⟩ := Option.bind_eq_some_iff.mp h
          exact ⟨s, rfl, v, hv, by simp [exec, hv]⟩
  | succ n ih =>
      cases as with
      | nil => cases ha
      | cons b as =>
          obtain ⟨v, hv, hrest⟩ := Option.bind_eq_some_iff.mp h
          simpa [exec, hv] using ih hrest ha

theorem exec_unrestricted {check : σ → α → Bool} {s t : σ} {as : List α}
    (h : exec (M.restrict check) s as = some t) : exec M s as = some t := by
  induction as generalizing s with
  | nil => exact h
  | cons a as ih =>
      obtain ⟨u, hu, hrest⟩ := Option.bind_eq_some_iff.mp h
      exact Option.bind_eq_some_iff.mpr ⟨u, (restrict_step.mp hu).2, ih hrest⟩

/-- An infinite run from `s`. Where it has no label its state stays, so that it can go on
without a step. -/
structure Execution (M : System σ α) (s : σ) where
  state : Nat → σ
  label : Nat → Option α
  start : state 0 = s
  next : ∀ n a, label n = some a → M.step (state n) a = some (state (n + 1))
  stay : ∀ n, label n = none → state (n + 1) = state n

namespace Execution
variable {marked : α → Prop} {done : σ → Prop}

theorem invariant {I : σ → Prop} (run : Execution M s) (initial : I s)
    (preserved : ∀ n a, run.label n = some a → I (run.state n) → I (run.state (n + 1))) (n : Nat) :
    I (run.state n) := by
  induction n with
  | zero =>
      rw [run.start]
      exact initial
  | succ n ih =>
      cases hlabel : run.label n with
      | none =>
          rw [run.stay n hlabel]
          exact ih
      | some a => exact preserved n a hlabel ih

theorem reachable (run : Execution M s) (h : Reachable M s) (n : Nat) :
    Reachable M (run.state n) :=
  run.invariant h (fun n a hlabel hn => hn.step a (run.next n a hlabel)) n

/-- As long as the run is not `done` it comes to another marked step. -/
def Recurs (run : Execution M s) (marked : α → Prop) (done : σ → Prop) : Prop :=
  ∀ n, ¬ done (run.state n) → ∃ m, n ≤ m ∧ ∃ a, run.label m = some a ∧ marked a

/-- A measure that marked steps use up and no step adds to runs out. -/
theorem Recurs.eventually {run : Execution M s} (h : run.Recurs marked done)
    (remaining : σ → Nat)
    (spent : ∀ n a, run.label n = some a → marked a → ¬ done (run.state n) →
      remaining (run.state (n + 1)) < remaining (run.state n))
    (kept : ∀ n a, run.label n = some a → ¬ marked a →
      remaining (run.state (n + 1)) ≤ remaining (run.state n)) :
    ∃ n, done (run.state n) := by
  by_contra hnever
  rw [not_exists] at hnever
  have hstep : ∀ n, remaining (run.state (n + 1)) ≤ remaining (run.state n) := by
    intro n
    cases hlabel : run.label n with
    | none => rw [run.stay n hlabel]
    | some a =>
        by_cases hmarked : marked a
        · exact Nat.le_of_lt (spent n a hlabel hmarked (hnever n))
        · exact kept n a hlabel hmarked
  have hfalls : ∀ k n, remaining (run.state n) = k → False := by
    intro k
    induction k using Nat.strong_induction_on with
    | _ k ih =>
        intro n hn
        obtain ⟨m, hle, a, hlabel, hmarked⟩ := h n (hnever n)
        have hless := spent m a hlabel hmarked (hnever m)
        have hlater : remaining (run.state m) ≤ remaining (run.state n) :=
          antitone_nat_of_succ_le (f := fun n => remaining (run.state n)) hstep hle
        exact ih _ (by omega) (m + 1) rfl
  exact hfalls _ 0 rfl

/-- If only marked steps lead to a lasting `done`, a run that gets there recurs until then. -/
theorem recurs_of_eventually {run : Execution M s} {n : Nat} (hn : done (run.state n))
    (lasting : ∀ n a, run.label n = some a → done (run.state n) → done (run.state (n + 1)))
    (unmarked : ∀ n a, run.label n = some a → ¬ marked a → done (run.state (n + 1)) →
      done (run.state n)) : run.Recurs marked done := by
  intro k hk
  by_contra hnone
  have hback : ∀ d, done (run.state (k + d)) → done (run.state k) := by
    intro d
    induction d with
    | zero => exact id
    | succ d ih =>
        intro hlater
        apply ih
        cases hlabel : run.label (k + d) with
        | none => exact run.stay (k + d) hlabel ▸ hlater
        | some a =>
            refine unmarked (k + d) a hlabel (fun hmarked => ?_) hlater
            exact hnone ⟨k + d, by omega, a, hlabel, hmarked⟩
  have hforth : ∀ d, done (run.state (n + d)) := by
    intro d
    induction d with
    | zero => exact hn
    | succ d ih =>
        cases hlabel : run.label (n + d) with
        | none => exact (run.stay (n + d) hlabel).symm ▸ ih
        | some a => exact lasting (n + d) a hlabel ih
  refine hk (hback n ?_)
  rw [Nat.add_comm]
  exact hforth k

def ofExec {t : σ} {as : List α} (h : exec M s as = some t) : Execution M s where
  state n := (exec M s (as.take n)).getD t
  label n := as[n]?
  start := rfl
  next n a hlabel := by
    obtain ⟨u, hbefore, v, hstep, hafter⟩ := exec_split h hlabel
    rw [hbefore, hafter]
    exact hstep
  stay n hlabel := by
    have hlength : as.length ≤ n := List.getElem?_eq_none_iff.mp hlabel
    rw [List.take_of_length_le hlength, List.take_of_length_le (Nat.le_succ_of_le hlength)]

theorem ofExec_end {t : σ} {as : List α} (h : exec M s as = some t) {n : Nat}
    (hn : as.length ≤ n) : (ofExec h).state n = t := by
  show (exec M s (as.take n)).getD t = t
  rw [List.take_of_length_le hn, h]
  rfl

/-- Where a restricted run has a label, the state before it has passed the check. -/
theorem ofExec_checked {t : σ} {as : List α} {check : σ → α → Bool}
    (h : exec (M.restrict check) s as = some t) (h' : exec M s as = some t) {n : Nat} {a : α}
    (hlabel : (ofExec h').label n = some a) : check ((ofExec h').state n) a = true := by
  obtain ⟨u, hbefore, v, hstep, -⟩ := exec_split h hlabel
  have hsame : exec M s (as.take n) = some u := exec_unrestricted hbefore
  show check ((exec M s (as.take n)).getD t) a = true
  rw [hsame]
  exact (restrict_step.mp hstep).1

end Execution

end TransitionSystem
