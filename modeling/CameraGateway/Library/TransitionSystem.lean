/-!
Executable labelled transition systems. A label carries every choice of the
scheduler and of the environment, so a step is a partial function and a run is
a list of labels. Runs are relative to a guard on steps: the guard is what a
conditional property assumes of each step of the run. A system can be observed: a
history variable then records what a property says about the past of a state.
-/
namespace TransitionSystem
universe u v
variable {σ : Type u} {α : Type v}

structure System (σ : Type u) (α : Type v) where
  init : σ
  step : σ → α → Option σ

def exec (M : System σ α) : σ → List α → Option σ
  | s, [] => some s
  | s, a :: as => (M.step s a).bind fun t => exec M t as

theorem exec_append (M : System σ α) (s : σ) (as bs : List α) :
    exec M s (as ++ bs) = (exec M s as).bind fun t => exec M t bs := by
  induction as generalizing s with
  | nil => rfl
  | cons a as ih =>
      simp only [List.cons_append, exec, ih, Option.bind_assoc]

/-- Runs from one state to another whose steps all meet the guard. -/
inductive RunUnder (M : System σ α) (guard : σ → α → Prop) (s : σ) : σ → Prop where
  | refl : RunUnder M guard s s
  | step {t u : σ} (a : α) : RunUnder M guard s t → guard t a →
      M.step t a = some u → RunUnder M guard s u

def ReachableUnder (M : System σ α) (guard : σ → α → Prop) (s : σ) : Prop :=
  RunUnder M guard M.init s

def Reachable (M : System σ α) : σ → Prop := ReachableUnder M fun _ _ => True

theorem Reachable.init (M : System σ α) : Reachable M M.init := RunUnder.refl

theorem Reachable.step {M : System σ α} {s t : σ} (a : α) (h : Reachable M s)
    (hs : M.step s a = some t) : Reachable M t :=
  RunUnder.step a h True.intro hs

/-- What holds at the start of a run and is kept by its steps holds at its end. -/
theorem RunUnder.invariant {M : System σ α} {guard : σ → α → Prop} {I : σ → Prop} {s t : σ}
    (h : RunUnder M guard s t) (initial : I s)
    (preserved : ∀ {t u : σ} (a : α), RunUnder M guard s t → I t → guard t a →
      M.step t a = some u → I u) : I t := by
  induction h with
  | refl => exact initial
  | step a hr hg hs ih => exact preserved a hr ih hg hs

theorem RunUnder.trans {M : System σ α} {guard : σ → α → Prop} {s t u : σ}
    (h : RunUnder M guard s t) (h' : RunUnder M guard t u) : RunUnder M guard s u := by
  induction h' with
  | refl => exact h
  | step a _ hg hs ih => exact .step a ih hg hs

theorem RunUnder.reachable {M : System σ α} {guard : σ → α → Prop} {s t : σ}
    (h : RunUnder M guard s t) (hs : Reachable M s) : Reachable M t :=
  h.invariant hs fun a _ ht _ hstep => ht.step a hstep

theorem ReachableUnder.reachable {M : System σ α} {guard : σ → α → Prop} {s : σ}
    (h : ReachableUnder M guard s) : Reachable M s :=
  RunUnder.reachable h (Reachable.init M)

/-- An inductive invariant may use that the state before the step is reachable. -/
theorem ReachableUnder.invariant {M : System σ α} {guard : σ → α → Prop} {I : σ → Prop}
    (initial : I M.init)
    (preserved : ∀ {s t : σ} (a : α), Reachable M s → I s → guard s a →
      M.step s a = some t → I t)
    {s : σ} (h : ReachableUnder M guard s) : I s :=
  RunUnder.invariant h initial fun a hr hi hg hs =>
    preserved a (ReachableUnder.reachable hr) hi hg hs

theorem Reachable.invariant {M : System σ α} {I : σ → Prop} (initial : I M.init)
    (preserved : ∀ {s t : σ} (a : α), Reachable M s → I s → M.step s a = some t → I t)
    {s : σ} (h : Reachable M s) : I s :=
  ReachableUnder.invariant initial (fun a hr hi _ hs => preserved a hr hi hs) h

/-- A run of the executable step function, whose labels all meet the guard. -/
theorem RunUnder.exec {M : System σ α} {guard : σ → α → Prop} {s t u : σ}
    (h : RunUnder M guard s t) {as : List α} (hguard : ∀ a ∈ as, ∀ s, guard s a)
    (hs : exec M t as = some u) : RunUnder M guard s u := by
  induction as generalizing t with
  | nil =>
      simp only [TransitionSystem.exec, Option.some.injEq] at hs
      exact hs ▸ h
  | cons a as ih =>
      simp only [TransitionSystem.exec, Option.bind_eq_some_iff] at hs
      obtain ⟨v, hv, hrest⟩ := hs
      refine ih ?_ (fun b hb => hguard b (List.mem_cons_of_mem a hb)) hrest
      exact RunUnder.step a h (hguard a (List.mem_cons_self ..) t) hv

/-- The system that refuses the steps which fail a check. -/
def System.restrict (M : System σ α) (check : σ → α → Bool) : System σ α where
  init := M.init
  step s a := if check s a then M.step s a else none

theorem restrict_step {M : System σ α} {check : σ → α → Bool} {s t : σ} {a : α} :
    (M.restrict check).step s a = some t ↔ check s a = true ∧ M.step s a = some t := by
  rw [System.restrict, Option.ite_none_right_eq_some]

theorem Reachable.unrestricted {M : System σ α} {check : σ → α → Bool} {s : σ}
    (h : Reachable (M.restrict check) s) : Reachable M s :=
  Reachable.invariant (M := M.restrict check) (I := Reachable M) (Reachable.init M)
    (fun a _ hi hs => hi.step a (restrict_step.mp hs).2) h

/-- A run of the restricted system is one whose steps all passed the check. -/
theorem RunUnder.restrict {M : System σ α} {check : σ → α → Bool} {guard : σ → α → Prop}
    (hcheck : ∀ s a, check s a = true → guard s a) {s t u : σ} (h : RunUnder M guard s t)
    {as : List α} (hs : TransitionSystem.exec (M.restrict check) t as = some u) :
    RunUnder M guard s u := by
  induction as generalizing t with
  | nil =>
      simp only [TransitionSystem.exec, Option.some.injEq] at hs
      exact hs ▸ h
  | cons a as ih =>
      simp only [TransitionSystem.exec, Option.bind_eq_some_iff, System.restrict] at hs
      obtain ⟨v, hv, hrest⟩ := hs
      split at hv
      · rename_i hpass
        exact ih (RunUnder.step a h (hcheck t a hpass) hv) hrest
      · cases hv

/-- A run of the executable step function ends in a reachable state. -/
theorem Reachable.exec {M : System σ α} {s t : σ} (h : Reachable M s) {as : List α}
    (hs : exec M s as = some t) : Reachable M t :=
  RunUnder.exec h (fun _ _ _ => True.intro) hs

/-- A run that has been evaluated to a state with a decidable property. -/
theorem exists_exec_of_any {M : System σ α} {as : List α} {p : σ → Bool}
    (h : (exec M M.init as).any p = true) :
    ∃ s, exec M M.init as = some s ∧ p s = true := by
  obtain ⟨s, hs, hp⟩ := (Option.any_eq_true _ _).mp h
  exact ⟨s, hs, hp⟩

/-- When each marked step uses up some of what remains and no step adds to it, a run has no
more marked steps than remained at its start. -/
theorem exec_countP_le {M : System σ α} {I : σ → Prop} {marked : α → Bool} {remaining : σ → Nat}
    (preserved : ∀ {s t : σ} (a : α), I s → M.step s a = some t → I t)
    (spent : ∀ {s t : σ} (a : α), I s → M.step s a = some t →
      (marked a).toNat + remaining t ≤ remaining s)
    {s t : σ} {as : List α} (hs : I s) (hexec : exec M s as = some t) :
    as.countP marked + remaining t ≤ remaining s := by
  induction as generalizing s with
  | nil =>
      cases hexec
      exact Nat.le_of_eq (by rw [List.countP_nil, Nat.zero_add])
  | cons a as ih =>
      obtain ⟨u, hu, hrest⟩ := Option.bind_eq_some_iff.mp hexec
      have hlater := ih (preserved a hs hu) hrest
      have hfirst := spent a hs hu
      rw [List.countP_cons]
      cases hmarked : marked a with
      | true =>
          rw [hmarked, Bool.toNat_true] at hfirst
          rw [if_pos rfl]
          omega
      | false =>
          rw [if_neg Bool.false_ne_true]
          omega

section Observe
universe w
variable {η : Type w}

/-- The system together with a history of its steps. -/
def System.observe (M : System σ α) (start : η) (watch : σ → α → η → η) : System (σ × η) α where
  init := (M.init, start)
  step s a := (M.step s.1 a).map fun t => (t, watch s.1 a s.2)

variable {M : System σ α} {start : η} {watch : σ → α → η → η}

theorem observe_step {s : σ × η} {t : σ × η} {a : α} :
    (M.observe start watch).step s a = some t ↔
      M.step s.1 a = some t.1 ∧ t.2 = watch s.1 a s.2 := by
  rw [System.observe, Option.map_eq_some_iff]
  constructor
  · rintro ⟨u, hu, rfl⟩
    exact ⟨hu, rfl⟩
  · rintro ⟨hstep, hwatch⟩
    exact ⟨t.1, hstep, Prod.ext rfl hwatch.symm⟩

/-- The history does not restrict the system: every run has one. -/
theorem Reachable.observed {s : σ} (h : Reachable M s) :
    ∃ history, Reachable (M.observe start watch) (s, history) := by
  refine Reachable.invariant
    (I := fun s => ∃ history, Reachable (M.observe start watch) (s, history))
    ⟨start, Reachable.init _⟩ ?_ h
  rintro s t a - ⟨history, hreach⟩ hs
  exact ⟨_, hreach.step a (observe_step.mpr ⟨hs, rfl⟩)⟩

theorem Reachable.unobserved {s : σ × η} (h : Reachable (M.observe start watch) s) :
    Reachable M s.1 :=
  h.invariant (I := fun s => Reachable M s.1) (Reachable.init M) fun a _ hi hs =>
    hi.step a (observe_step.mp hs).1

/-- A coarser history is a view of a finer one. -/
theorem Reachable.observed_view {θ : Type w} {start' : θ} {watch' : σ → α → θ → θ} (view : η → θ)
    (hstart : view start = start')
    (hwatch : ∀ s a history, view (watch s a history) = watch' s a (view history))
    {s : σ} {history : η} (h : Reachable (M.observe start watch) (s, history)) :
    Reachable (M.observe start' watch') (s, view history) := by
  refine Reachable.invariant
    (I := fun p : σ × η => Reachable (M.observe start' watch') (p.1, view p.2)) ?_ ?_ h
  · exact hstart ▸ Reachable.init (M.observe start' watch')
  · rintro ⟨s, history⟩ ⟨t, history'⟩ a - hview hs
    obtain ⟨hstep, rfl⟩ := observe_step.mp hs
    exact hview.step a (observe_step.mpr ⟨hstep, hwatch s a history⟩)

theorem Reachable.observed_invariant {I : σ → η → Prop} (initial : I M.init start)
    (preserved : ∀ {s t : σ} {history : η} (a : α), Reachable M s → I s history →
      M.step s a = some t → I t (watch s a history))
    {s : σ} {history : η} (h : Reachable (M.observe start watch) (s, history)) : I s history := by
  refine Reachable.invariant (I := fun p : σ × η => I p.1 p.2) initial ?_ h
  rintro ⟨s, history⟩ ⟨t, history'⟩ a hreach hi hs
  obtain ⟨hstep, rfl⟩ := observe_step.mp hs
  exact preserved a hreach.unobserved hi hstep

end Observe

end TransitionSystem
