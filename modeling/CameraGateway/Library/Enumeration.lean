import Mathlib.Data.List.Basic

/-!
The items of a table, asked for at 0, 1, 2 and so on until one is refused or an item says
that it is the last. Each item is visited as it comes; a visit can go on forever, and so can
the loop when nothing is ever refused. When the answers repeat after a period, a loop that has
not ended after one period never does.
-/
namespace Enumeration
universe u v
variable {α : Type u} {β : Type v}

/-- The loop from index `i` on, for `fuel` rounds, with the index that it ends at; `none` when
it has not ended by then or a visit does not end. -/
def collect (ask : Nat → Option α) (last : α → Bool) (visit : Nat → α → Option (List β)) :
    Nat → Nat → Option (List β × Nat)
  | 0, _ => none
  | fuel + 1, i =>
      match ask i with
      | none => some ([], i)
      | some item => (visit i item).bind fun lines =>
          if last item then some (lines, i)
          else (collect ask last visit fuel (i + 1)).map fun rest => (lines ++ rest.1, rest.2)

/-- The items of a table up to the first that is a last one. -/
def upTo (last : α → Bool) : List α → List α
  | [] => []
  | item :: items => item :: if last item then [] else upTo last items

/-- The number of items before the refusal or the last item. -/
def stop (last : α → Bool) : List α → Nat
  | [] => 0
  | item :: items => if last item then 0 else stop last items + 1

theorem upTo_never {last : α → Bool} (h : ∀ item, last item = false) (table : List α) :
    upTo last table = table := by
  induction table with
  | nil => rfl
  | cons item items ih => rw [upTo, if_neg (by rw [h]; exact Bool.false_ne_true), ih]

theorem stop_never {last : α → Bool} (h : ∀ item, last item = false) (table : List α) :
    stop last table = table.length := by
  induction table with
  | nil => rfl
  | cons item items ih =>
      rw [stop, if_neg (by rw [h]; exact Bool.false_ne_true), ih, List.length_cons]

section Loop
variable {ask : Nat → Option α} {last : α → Bool} {visit : Nat → α → Option (List β)}

/-- When the answers are those of a table, enough rounds visit its items in order. -/
theorem collect_table {table : List α} {lines : Nat → α → List β} {i fuel : Nat}
    (hask : ∀ k, k ≤ table.length → ask (i + k) = table[k]?)
    (hvisit : ∀ k, ∀ item ∈ upTo last table, visit k item = some (lines k item))
    (hfuel : table.length < fuel) :
    collect ask last visit fuel i =
      some (((upTo last table).zipIdx i).flatMap fun entry => lines entry.2 entry.1,
        i + stop last table) := by
  induction table generalizing i fuel with
  | nil =>
      obtain ⟨rest, rfl⟩ := Nat.exists_eq_add_of_lt hfuel
      have hnone : ask i = none := hask 0 (Nat.le_refl 0)
      rw [collect, hnone]
      rfl
  | cons item items ih =>
      obtain ⟨rest, rfl⟩ := Nat.exists_eq_add_of_lt hfuel
      have hfirst : ask i = some item := hask 0 (Nat.zero_le _)
      have hlines := hvisit i item List.mem_cons_self
      have hlater : ∀ k, k ≤ items.length → ask (i + 1 + k) = items[k]? := by
        intro k hk
        have hnext := hask (k + 1) (Nat.succ_le_succ hk)
        rwa [List.getElem?_cons_succ, Nat.add_comm k 1, ← Nat.add_assoc] at hnext
      rw [collect, hfirst]
      dsimp only
      rw [hlines, Option.bind_some]
      cases hlast : last item with
      | true => simp [upTo, stop, hlast]
      | false =>
          have hrest := @ih (i + 1) (items.length + 1 + rest) hlater ?_ (by omega)
          · rw [List.length_cons, hrest]
            simp [upTo, stop, hlast]
            omega
          · intro k other hother
            apply hvisit
            rw [upTo, hlast]
            exact List.mem_cons_of_mem item hother

theorem collect_mono {fuel i : Nat} {result : List β × Nat} (more : Nat)
    (h : collect ask last visit fuel i = some result) :
    collect ask last visit (fuel + more) i = some result := by
  induction fuel generalizing i result with
  | zero => cases h
  | succ fuel ih =>
      rw [Nat.succ_add, collect]
      rw [collect] at h
      cases hask : ask i with
      | none => rwa [hask] at h
      | some item =>
          rw [hask] at h
          dsimp only at h ⊢
          obtain ⟨lines, hlines, hrest⟩ := Option.bind_eq_some_iff.mp h
          rw [hlines, Option.bind_some]
          split at hrest
          · rename_i hlast
            rw [if_pos hlast, hrest]
          · rename_i hlast
            obtain ⟨later, hlater, heq⟩ := Option.map_eq_some_iff.mp hrest
            rw [if_neg hlast, ih hlater, Option.map_some, heq]

/-- A loop that has not ended goes on from where it is, unless it is stuck in a visit. -/
theorem collect_continues {fuel i : Nat} (more : Nat)
    (h : collect ask last visit fuel i = none) :
    collect ask last visit (fuel + more) i = none ∨
      ∃ lines, collect ask last visit (fuel + more) i =
        (collect ask last visit more (i + fuel)).map fun rest => (lines ++ rest.1, rest.2) := by
  induction fuel generalizing i with
  | zero =>
      refine Or.inr ⟨[], ?_⟩
      rw [Nat.zero_add, Nat.add_zero]
      exact Option.map_id'.symm
  | succ fuel ih =>
      rw [Nat.succ_add, collect]
      rw [collect] at h
      cases hask : ask i with
      | none =>
          rw [hask] at h
          cases h
      | some item =>
          rw [hask] at h
          dsimp only at h ⊢
          cases hlines : visit i item with
          | none => exact Or.inl rfl
          | some lines =>
              rw [hlines, Option.bind_some] at h
              rw [Option.bind_some]
              split at h
              · cases h
              · rename_i hlast
                rw [if_neg hlast]
                have hrest := Option.map_eq_none_iff.mp h
                cases ih hrest with
                | inl hstuck => exact Or.inl (by rw [hstuck, Option.map_none])
                | inr hgoes =>
                    obtain ⟨later, hlater⟩ := hgoes
                    refine Or.inr ⟨lines ++ later, ?_⟩
                    rw [hlater, Option.map_map, Nat.add_right_comm i 1 fuel, Nat.add_assoc i fuel 1]
                    congr 1
                    funext rest
                    simp [List.append_assoc]

/-- A period later the loop does the same. -/
theorem collect_shift {period : Nat} (hask : ∀ i, ask (i + period) = ask i)
    (hvisit : ∀ i, visit (i + period) = visit i) (fuel i : Nat) :
    collect ask last visit fuel (i + period) =
      (collect ask last visit fuel i).map fun rest => (rest.1, rest.2 + period) := by
  induction fuel generalizing i with
  | zero => rfl
  | succ fuel ih =>
      rw [collect, collect, hask, hvisit]
      cases ask i with
      | none => rfl
      | some item =>
          dsimp only
          cases visit i item with
          | none => rfl
          | some lines =>
              rw [Option.bind_some, Option.bind_some]
              split
              · rfl
              · rw [Nat.add_right_comm, ih, Option.map_map, Option.map_map]
                rfl

/-- Rounds after the first period make no difference. -/
theorem collect_stable {period : Nat} (hpos : 0 < period) (hask : ∀ i, ask (i + period) = ask i)
    (hvisit : ∀ i, visit (i + period) = visit i) {fuel : Nat} (hfuel : period ≤ fuel) :
    collect ask last visit fuel 0 = collect ask last visit period 0 := by
  obtain ⟨more, rfl⟩ := Nat.exists_eq_add_of_le hfuel
  clear hfuel
  cases hperiod : collect ask last visit period 0 with
  | some result => exact collect_mono more hperiod
  | none =>
      induction more using Nat.strongRecOn with
      | _ more ih =>
          cases collect_continues more hperiod with
          | inl hstuck => exact hstuck
          | inr hgoes =>
              obtain ⟨lines, hlines⟩ := hgoes
              have hrest : collect ask last visit more 0 = none := by
                by_cases hmore : more < period
                · obtain ⟨gap, rfl⟩ := Nat.exists_eq_add_of_lt hmore
                  cases hresult : collect ask last visit more 0 with
                  | none => rfl
                  | some result =>
                      have hlonger := collect_mono (gap + 1) hresult
                      rw [← Nat.add_assoc, hperiod] at hlonger
                      cases hlonger
                · have hbefore := ih (more - period) (by omega)
                  rwa [Nat.add_sub_of_le (Nat.le_of_not_lt hmore)] at hbefore
              rw [hlines, collect_shift hask hvisit, hrest]
              rfl

end Loop

end Enumeration
