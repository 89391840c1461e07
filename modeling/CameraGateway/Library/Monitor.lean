import Mathlib.Data.Finset.Card
import Mathlib.Data.Fintype.Basic
import Mathlib.Algebra.BigOperators.Group.Finset.Piecewise
import CameraGateway.Library.TransitionSystem

/-!
Mesa monitors: one mutex, one condition variable, any finite number of threads.

A thread that holds the mutex runs the body of its operation once. The body
either asks to wait, which releases the mutex and blocks, or leaves with a new
shared state and a notification. A signal moves one blocked thread to the
signalled phase whenever some thread is blocked; a broadcast moves all of them.
A thread may take the mutex from the signalled phase, and also straight from the
blocked phase: that is a spurious wake-up.

`Accounting` is the discipline under which single signals are enough. Its
consequence `Covered` says that, while some thread is blocked, the tokens in the
shared state are at most the threads already on their way to take one.
-/
namespace Monitor
universe u v w x
variable {T : Type u} {σ : Type v} {Op : Type w} {Choice : Type x}

inductive Phase (Op : Type w) where
  | idle
  | entering (op : Op)
  | inside (op : Op)
  | blocked (op : Op)
  | signalled (op : Op)
deriving DecidableEq

inductive Notify where
  | nobody
  | one
  | all
deriving DecidableEq

inductive Outcome (σ : Type v) where
  | wait
  | leave (shared : σ) (notify : Notify)

structure State (T : Type u) (σ : Type v) (Op : Type w) where
  shared : σ
  owner : Option T
  phase : T → Phase Op

/-- `run` names the thread that a signal wakes, if there is one to wake. -/
inductive Action (T : Type u) (Op : Type w) (Choice : Type x) where
  | call (t : T) (op : Op)
  | acquire (t : T)
  | run (t : T) (choice : Choice) (target : Option T)

namespace Phase

def Blocked : Phase Op → Bool
  | .blocked _ => true
  | _ => false

def Signalled : Phase Op → Bool
  | .signalled _ => true
  | _ => false

/-- Signalled, or already holding the mutex inside a waiting operation. -/
def OnTheWay (waits : Op → Bool) : Phase Op → Bool
  | .signalled _ => true
  | .inside op => waits op
  | _ => false

def wake : Phase Op → Phase Op
  | .blocked op => .signalled op
  | p => p

/-- The phase a thread has once it holds the mutex, if it was asking for it. -/
def acquired : Phase Op → Option (Phase Op)
  | .entering op | .signalled op | .blocked op => some (.inside op)
  | _ => none

end Phase

variable [DecidableEq T] [Fintype T]

/-- The phases after a notification; a signal with no target needs that nobody waits. -/
def notified (phase : T → Phase Op) : Notify → Option T → Option (T → Phase Op)
  | .nobody, _ => some phase
  | .all, _ => some fun t => (phase t).wake
  | .one, some t =>
      if (phase t).Blocked then some (Function.update phase t (phase t).wake) else none
  | .one, none => if ∀ t, (phase t).Blocked = false then some phase else none

def step (body : σ → Op → Choice → Outcome σ) (s : State T σ Op) :
    Action T Op Choice → Option (State T σ Op)
  | .call t op =>
      match s.phase t with
      | .idle => some { s with phase := Function.update s.phase t (.entering op) }
      | _ => none
  | .acquire t =>
      match s.owner, (s.phase t).acquired with
      | none, some p => some { s with owner := some t, phase := Function.update s.phase t p }
      | _, _ => none
  | .run t choice target =>
      match s.phase t with
      | .inside op =>
          match body s.shared op choice with
          | .wait => some
              { s with owner := none, phase := Function.update s.phase t (.blocked op) }
          | .leave shared notify =>
              (notified (Function.update s.phase t .idle) notify target).map fun phase =>
                { shared := shared, owner := none, phase := phase }
      | _ => none

def system (body : σ → Op → Choice → Outcome σ) (start : σ) :
    TransitionSystem.System (State T σ Op) (Action T Op Choice) where
  init := { shared := start, owner := none, phase := fun _ => .idle }
  step := step body

def count (P : Phase Op → Bool) (phase : T → Phase Op) : Nat :=
  (Finset.univ.filter fun t => P (phase t) = true).card

/-- Replacing one phase trades what it counted for what the new one counts. -/
theorem count_update (P : Phase Op → Bool) (phase : T → Phase Op) (t : T) (p : Phase Op) :
    count P (Function.update phase t p) + (P (phase t)).toNat = count P phase + (P p).toNat := by
  have hsum : ∀ f : T → Phase Op, count P f =
      (P (f t)).toNat + ∑ u ∈ Finset.univ.erase t, (P (f u)).toNat := by
    intro f
    rw [Finset.add_sum_erase Finset.univ (fun u => (P (f u)).toNat) (Finset.mem_univ t)]
    rw [count, Finset.card_filter]
    refine Finset.sum_congr rfl fun u _ => ?_
    cases P (f u) <;> rfl
  have hrest : ∑ u ∈ Finset.univ.erase t, (P (Function.update phase t p u)).toNat =
      ∑ u ∈ Finset.univ.erase t, (P (phase u)).toNat := by
    refine Finset.sum_congr rfl fun u hu => ?_
    rw [Function.update_of_ne (Finset.ne_of_mem_erase hu)]
  rw [hsum (Function.update phase t p), hsum phase, hrest, Function.update_self]
  omega

/-- Single signals suffice: waiting needs an empty state that is not closed, a
waiting operation that leaves takes a token, and only a signal adds one. -/
structure Accounting (body : σ → Op → Choice → Outcome σ) (waits : Op → Bool)
    (tokens : σ → Nat) (closed : σ → Bool) : Prop where
  wait : ∀ {s op c}, body s op c = .wait →
    waits op = true ∧ tokens s = 0 ∧ closed s = false
  consume : ∀ {s s' op c n}, waits op = true → body s op c = .leave s' n →
    n = .nobody ∧ tokens s' ≤ tokens s - 1 ∧ closed s' = closed s
  quiet : ∀ {s s' op c}, waits op = false → body s op c = .leave s' .nobody →
    tokens s' ≤ tokens s ∧ closed s' = closed s
  signal : ∀ {s s' op c}, waits op = false → body s op c = .leave s' .one →
    tokens s' ≤ tokens s + 1 ∧ closed s' = closed s

structure Covered (waits : Op → Bool) (tokens : σ → Nat) (closed : σ → Bool)
    (s : State T σ Op) : Prop where
  /-- Only the owner of the mutex is inside an operation. -/
  exclusive : ∀ t op, s.phase t = .inside op → s.owner = some t
  /-- Only waiting operations are blocked or signalled. -/
  waiters : ∀ t op, s.phase t = .blocked op ∨ s.phase t = .signalled op → waits op = true
  covered : ∀ t, (s.phase t).Blocked = true →
    closed s.shared = false ∧ tokens s.shared ≤ count (Phase.OnTheWay waits) s.phase

section Preservation
variable {body : σ → Op → Choice → Outcome σ} {waits : Op → Bool} {tokens : σ → Nat}
  {closed : σ → Bool} {s s' : State T σ Op}

private theorem covered_call (h : Covered waits tokens closed s) {t : T} {op : Op}
    (hs : step body s (.call t op) = some s') : Covered waits tokens closed s' := by
  simp only [step] at hs
  split at hs
  · rename_i hidle
    obtain rfl := Option.some.inj hs
    have hcount := count_update (Phase.OnTheWay waits) s.phase t (.entering op)
    simp only [hidle, Phase.OnTheWay, Bool.toNat_false, Nat.add_zero] at hcount
    refine ⟨?_, ?_, ?_⟩
    · intro u q hu
      by_cases hut : u = t
      · subst hut; simp at hu
      · exact h.exclusive u q (by simpa [hut] using hu)
    · intro u q hu
      by_cases hut : u = t
      · subst hut; simp at hu
      · exact h.waiters u q (by simpa [hut] using hu)
    · intro u hu
      by_cases hut : u = t
      · subst hut; simp [Phase.Blocked] at hu
      · rw [hcount]
        exact h.covered u (by simpa [hut] using hu)
  · simp at hs

private theorem covered_acquire (h : Covered waits tokens closed s) {t : T}
    (hs : step body s (.acquire t : Action T Op Choice) = some s') :
    Covered waits tokens closed s' := by
  simp only [step] at hs
  split at hs
  · rename_i p hfree hp
    obtain rfl := Option.some.inj hs
    obtain ⟨op, rfl, hmore⟩ : ∃ op, p = .inside op ∧
        ((s.phase t).OnTheWay waits = true → waits op = true) := by
      cases hphase : s.phase t with
      | idle | inside _ => simp [hphase, Phase.acquired] at hp
      | entering op | blocked op =>
          exact ⟨op, by simpa [hphase, Phase.acquired] using hp.symm, by simp [Phase.OnTheWay]⟩
      | signalled op =>
          exact ⟨op, by simpa [hphase, Phase.acquired] using hp.symm,
            fun _ => h.waiters t op (Or.inr hphase)⟩
    have hcount := count_update (Phase.OnTheWay waits) s.phase t (.inside op)
    have hle : count (Phase.OnTheWay waits) s.phase ≤
        count (Phase.OnTheWay waits) (Function.update s.phase t (.inside op)) := by
      have hinside : Phase.OnTheWay waits (.inside op) = waits op := rfl
      rw [hinside] at hcount
      cases hway : (s.phase t).OnTheWay waits with
      | true =>
          rw [hway, hmore hway] at hcount
          exact Nat.le_of_eq (Nat.add_right_cancel hcount).symm
      | false =>
          rw [hway, Bool.toNat_false] at hcount
          omega
    refine ⟨?_, ?_, ?_⟩
    · intro u q hu
      by_cases hut : u = t
      · rw [hut]
      · have := h.exclusive u q (by simpa [hut] using hu)
        simp [hfree] at this
    · intro u q hu
      by_cases hut : u = t
      · subst hut; simp at hu
      · exact h.waiters u q (by simpa [hut] using hu)
    · intro u hu
      by_cases hut : u = t
      · subst hut; simp [Phase.Blocked] at hu
      · have hold := h.covered u (by simpa [hut] using hu)
        exact ⟨hold.1, Nat.le_trans hold.2 hle⟩
  · simp at hs

/-- Once its body has run, a thread that leaves is idle and nobody is inside. -/
private theorem idle_phases (h : Covered waits tokens closed s) {t : T} {op : Op}
    (ht : s.phase t = .inside op) :
    (∀ u q, Function.update s.phase t .idle u ≠ .inside q) ∧
      (∀ u q, Function.update s.phase t .idle u = .blocked q ∨
        Function.update s.phase t .idle u = .signalled q → waits q = true) ∧
      count (Phase.OnTheWay waits) (Function.update s.phase t .idle) +
        (waits op).toNat = count (Phase.OnTheWay waits) s.phase := by
  have howner := h.exclusive t op ht
  refine ⟨?_, ?_, ?_⟩
  · intro u q hu
    by_cases hut : u = t
    · subst hut; simp at hu
    · have := h.exclusive u q (by simpa [hut] using hu)
      rw [howner] at this
      exact hut (Option.some.inj this).symm
  · intro u q hu
    by_cases hut : u = t
    · subst hut; simp at hu
    · exact h.waiters u q (by simpa [hut] using hu)
  · have hcount := count_update (Phase.OnTheWay waits) s.phase t .idle
    simpa only [ht, Phase.OnTheWay, Bool.toNat_false, Nat.add_zero] using hcount

omit [Fintype T] in
private theorem blocked_of_idle {phase : T → Phase Op} {t u : T}
    (h : (Function.update phase t .idle u).Blocked = true) : (phase u).Blocked = true := by
  by_cases hut : u = t
  · subst hut; simp [Phase.Blocked] at h
  · simpa [hut] using h

private theorem wake_inside {p : Phase Op} {q : Op} (h : p.wake = .inside q) : p = .inside q := by
  cases p <;> simp_all [Phase.wake]

private theorem wake_not_blocked (p : Phase Op) : p.wake.Blocked = false := by
  cases p <;> rfl

private theorem wake_waiter {p : Phase Op} {q : Op}
    (h : p.wake = .blocked q ∨ p.wake = .signalled q) : p = .blocked q ∨ p = .signalled q := by
  cases p <;> simp_all [Phase.wake]

/-- The signalled thread pays for the token that the signal announces. -/
private theorem covered_signalled {phase : T → Phase Op} {shared : σ} {v : T}
    (houtside : ∀ u q, phase u ≠ .inside q)
    (hwaiters : ∀ u q, phase u = .blocked q ∨ phase u = .signalled q → waits q = true)
    (hv : (phase v).Blocked = true)
    (hcovered : ∀ u, (phase u).Blocked = true →
      closed shared = false ∧ tokens shared ≤ count (Phase.OnTheWay waits) phase + 1) :
    Covered waits tokens closed
      { shared := shared, owner := none, phase := Function.update phase v (phase v).wake } := by
  have hone : count (Phase.OnTheWay waits) (Function.update phase v (phase v).wake) =
      count (Phase.OnTheWay waits) phase + 1 := by
    have hcount := count_update (Phase.OnTheWay waits) phase v (phase v).wake
    cases hp : phase v with
    | blocked q =>
        simpa only [hp, Phase.wake, Phase.OnTheWay, Bool.toNat_false, Bool.toNat_true,
          Nat.add_zero] using hcount
    | idle | entering _ | inside _ | signalled _ => simp [hp, Phase.Blocked] at hv
  refine ⟨fun u q hu => ?_, fun u q hu => ?_, fun u hu => ?_⟩
  · change Function.update phase v (phase v).wake u = _ at hu
    by_cases huv : u = v
    · subst huv
      rw [Function.update_self] at hu
      exact absurd (wake_inside hu) (houtside u q)
    · rw [Function.update_of_ne huv] at hu
      exact absurd hu (houtside u q)
  · change Function.update phase v (phase v).wake u = _ ∨
      Function.update phase v (phase v).wake u = _ at hu
    by_cases huv : u = v
    · subst huv
      rw [Function.update_self] at hu
      exact hwaiters u q (wake_waiter hu)
    · rw [Function.update_of_ne huv] at hu
      exact hwaiters u q hu
  · change (Function.update phase v (phase v).wake u).Blocked = true at hu
    have huv : u ≠ v := by
      rintro rfl
      simp [wake_not_blocked] at hu
    rw [Function.update_of_ne huv] at hu
    obtain ⟨hopen, hle⟩ := hcovered u hu
    exact ⟨hopen, hone ▸ hle⟩

private theorem covered_run (acc : Accounting body waits tokens closed)
    (h : Covered waits tokens closed s) {t : T} {choice : Choice} {target : Option T}
    (hs : step body s (.run t choice target) = some s') : Covered waits tokens closed s' := by
  simp only [step] at hs
  split at hs
  · rename_i op ht
    obtain ⟨houtside, hwaiters, hcount⟩ := idle_phases h ht
    split at hs
    · -- the body asks to wait: nothing is there to take
      rename_i hbody
      obtain ⟨hop, htokens, hopen⟩ := acc.wait hbody
      obtain rfl := Option.some.inj hs
      refine ⟨?_, ?_, fun _ _ => ⟨hopen, htokens ▸ Nat.zero_le _⟩⟩
      · intro u q hu
        by_cases hut : u = t
        · subst hut; simp at hu
        · exact absurd (by simpa [hut] using hu) (houtside u q)
      · intro u q hu
        by_cases hut : u = t
        · subst hut
          obtain rfl : op = q := by simpa using hu
          exact hop
        · exact h.waiters u q (by simpa [hut] using hu)
    · rename_i shared notify hbody
      obtain ⟨phase, hphase, rfl⟩ := Option.map_eq_some_iff.mp hs
      -- what the body did to the tokens, before the notification is looked at
      cases notify with
      | nobody =>
          obtain rfl := Option.some.inj hphase
          refine ⟨fun u q hu => absurd hu (houtside u q), hwaiters, fun u hu => ?_⟩
          obtain ⟨hopen, hle⟩ := h.covered u (blocked_of_idle hu)
          cases hop : waits op with
          | true =>
              obtain ⟨-, htokens, hclosed⟩ := acc.consume hop hbody
              rw [hop, Bool.toNat_true] at hcount
              refine ⟨hclosed ▸ hopen, ?_⟩
              show tokens shared ≤ count (Phase.OnTheWay waits) (Function.update s.phase t .idle)
              omega
          | false =>
              obtain ⟨htokens, hclosed⟩ := acc.quiet hop hbody
              rw [hop, Bool.toNat_false] at hcount
              refine ⟨hclosed ▸ hopen, ?_⟩
              show tokens shared ≤ count (Phase.OnTheWay waits) (Function.update s.phase t .idle)
              omega
      | all =>
          obtain rfl := Option.some.inj hphase
          refine ⟨fun u q hu => absurd (wake_inside hu) (houtside u q),
            fun u q hu => hwaiters u q (wake_waiter hu), fun u hu => ?_⟩
          simp [wake_not_blocked] at hu
      | one =>
          have hop : waits op = false := by
            cases hop : waits op with
            | false => rfl
            | true => exact absurd (acc.consume hop hbody).1 (by simp)
          obtain ⟨htokens, hclosed⟩ := acc.signal hop hbody
          rw [hop, Bool.toNat_false] at hcount
          cases target with
          | none =>
              simp only [notified] at hphase
              split at hphase
              · rename_i hnone
                obtain rfl := Option.some.inj hphase
                refine ⟨fun u q hu => absurd hu (houtside u q), hwaiters, fun u hu => ?_⟩
                simp [hnone u] at hu
              · simp at hphase
          | some v =>
              simp only [notified] at hphase
              split at hphase
              · rename_i hblocked
                obtain rfl := Option.some.inj hphase
                refine covered_signalled houtside hwaiters hblocked fun u hu => ?_
                obtain ⟨hopen, hle⟩ := h.covered u (blocked_of_idle hu)
                exact ⟨hclosed ▸ hopen, by omega⟩
              · simp at hphase
  · simp at hs

theorem covered_step (acc : Accounting body waits tokens closed)
    (h : Covered waits tokens closed s) {a : Action T Op Choice}
    (hs : step body s a = some s') : Covered waits tokens closed s' := by
  cases a with
  | call t op => exact covered_call h hs
  | acquire t => exact covered_acquire h hs
  | run t choice target => exact covered_run acc h hs

end Preservation

section Runs
variable {body : σ → Op → Choice → Outcome σ} {waits : Op → Bool} {tokens : σ → Nat}
  {closed : σ → Bool} {start : σ}

theorem Reachable.covered (acc : Accounting body waits tokens closed) {s : State T σ Op}
    (h : TransitionSystem.Reachable (system (T := T) body start) s) :
    Covered waits tokens closed s := by
  refine TransitionSystem.Reachable.invariant (I := Covered waits tokens closed) ⟨?_, ?_, ?_⟩
    (fun a _ hi hs => covered_step acc hi hs) h
  · intro t op ht
    simp [system] at ht
  · intro t op ht
    simp [system] at ht
  · intro t ht
    simp [system, Phase.Blocked] at ht

omit [DecidableEq T] in
/-- While the mutex is free nobody is inside, so whoever is on the way was signalled. -/
theorem Covered.count_signalled {s : State T σ Op} (h : Covered waits tokens closed s)
    (hfree : s.owner = none) :
    count (Phase.OnTheWay waits) s.phase = count Phase.Signalled s.phase := by
  refine congrArg Finset.card (Finset.filter_congr fun t _ => ?_)
  cases ht : s.phase t with
  | inside op =>
      have howner := h.exclusive t op ht
      simp [hfree] at howner
  | idle | entering _ | blocked _ | signalled _ => rfl

omit [DecidableEq T] in
theorem exists_of_count_pos {P : Phase Op → Bool} {phase : T → Phase Op}
    (h : 0 < count P phase) : ∃ t, P (phase t) = true := by
  obtain ⟨t, ht⟩ := Finset.card_pos.mp h
  exact ⟨t, (Finset.mem_filter.mp ht).2⟩

end Runs

end Monitor
