/-!
Forward simulation of machines that answer each input with an output. A machine
may refuse an input; a run is then undefined. When every step of the first
machine is matched by a step of the second with the same output, so is every run; and
when the first machine refuses nothing that the second one takes, the converse holds.
-/
namespace Simulation
universe u v w x
variable {σ : Type u} {τ : Type v} {ι : Type w} {ο : Type x}

def run (step : σ → ι → Option (σ × ο)) : σ → List ι → Option (σ × List ο)
  | s, [] => some (s, [])
  | s, i :: is => do
      let (t, o) ← step s i
      let (u, os) ← run step t is
      pure (u, o :: os)

theorem run_cons {step : σ → ι → Option (σ × ο)} {s u : σ} {i : ι} {is : List ι}
    {outputs : List ο} :
    run step s (i :: is) = some (u, outputs) ↔
      ∃ t o os, step s i = some (t, o) ∧ run step t is = some (u, os) ∧ outputs = o :: os := by
  simp only [run, Option.bind_eq_bind, Option.bind_eq_some_iff, Option.pure_def,
    Option.some.injEq, Prod.mk.injEq, Prod.exists]
  constructor
  · rintro ⟨t, o, hs, u', os, hr, rfl, rfl⟩
    exact ⟨t, o, os, hs, hr, rfl⟩
  · rintro ⟨t, o, os, hs, hr, rfl⟩
    exact ⟨t, o, hs, u, os, hr, rfl, rfl⟩

/-- `R` relates states; matched steps give equal outputs and related states. -/
def Simulates (R : σ → τ → Prop) (step : σ → ι → Option (σ × ο))
    (abstractStep : τ → ι → Option (τ × ο)) : Prop :=
  ∀ {s : σ} {t : τ} {s' : σ} (i : ι) (o : ο), R s t → step s i = some (s', o) →
    ∃ t', abstractStep t i = some (t', o) ∧ R s' t'

theorem Simulates.converse {R : σ → τ → Prop} {step : σ → ι → Option (σ × ο)}
    {abstractStep : τ → ι → Option (τ × ο)} (sim : Simulates R step abstractStep)
    (defined : ∀ {s : σ} {t : τ} (i : ι), R s t → step s i = none → abstractStep t i = none) :
    Simulates (fun t s => R s t) abstractStep step := by
  intro t s t' i o related habstract
  cases hstep : step s i with
  | none =>
      rw [defined i related hstep] at habstract
      cases habstract
  | some next =>
      obtain ⟨s', o'⟩ := next
      obtain ⟨t'', hsame, hrelated⟩ := sim i o' related hstep
      rw [habstract, Option.some.injEq, Prod.mk.injEq] at hsame
      obtain ⟨rfl, rfl⟩ := hsame
      exact ⟨s', rfl, hrelated⟩

theorem run_simulates {R : σ → τ → Prop} {step : σ → ι → Option (σ × ο)}
    {abstractStep : τ → ι → Option (τ × ο)} (sim : Simulates R step abstractStep)
    {s s' : σ} {t : τ} (related : R s t) {inputs : List ι} {outputs : List ο}
    (h : run step s inputs = some (s', outputs)) :
    ∃ t', run abstractStep t inputs = some (t', outputs) ∧ R s' t' := by
  induction inputs generalizing s t outputs with
  | nil =>
      simp only [run, Option.some.injEq, Prod.mk.injEq] at h
      obtain ⟨rfl, rfl⟩ := h
      exact ⟨t, rfl, related⟩
  | cons i is ih =>
      obtain ⟨u, o, os, hstep, hrest, rfl⟩ := run_cons.mp h
      obtain ⟨v, habstract, hv⟩ := sim i o related hstep
      obtain ⟨t', hrun, ht'⟩ := ih hv hrest
      exact ⟨t', run_cons.mpr ⟨v, o, os, habstract, hrun, rfl⟩, ht'⟩

end Simulation
