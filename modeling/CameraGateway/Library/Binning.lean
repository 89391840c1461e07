import Mathlib.Algebra.BigOperators.Group.Finset.Piecewise
import Mathlib.Algebra.BigOperators.Ring.Finset
import Mathlib.Algebra.Order.BigOperators.Group.Finset

/-!
Sums of a list of items by bin, and means rounded down. The mean of all items is
at most the greatest mean of a bin, also when every one of them is rounded down.
-/
namespace Binning
universe u v
variable {ι : Type u} {κ : Type v}

section Total
variable [DecidableEq κ]

/-- The amounts of the items that fall into one bin. -/
def total (items : List ι) (bin : ι → κ) (amount : ι → Nat) (b : κ) : Nat :=
  (items.map fun i => if bin i = b then amount i else 0).sum

@[simp] theorem total_nil (bin : ι → κ) (amount : ι → Nat) (b : κ) :
    total [] bin amount b = 0 := rfl

theorem total_concat (items : List ι) (i : ι) (bin : ι → κ) (amount : ι → Nat) (b : κ) :
    total (items ++ [i]) bin amount b =
      total items bin amount b + if bin i = b then amount i else 0 := by
  simp [total]

/-- Nothing is lost when every item has its bin among those summed. -/
theorem sum_total (items : List ι) (bin : ι → κ) (amount : ι → Nat) {bins : Finset κ}
    (h : ∀ i ∈ items, bin i ∈ bins) :
    ∑ b ∈ bins, total items bin amount b = (items.map amount).sum := by
  induction items with
  | nil => simp
  | cons i items ih =>
      have hrest := ih fun j hj => h j (List.mem_cons_of_mem i hj)
      have hfirst : ∑ b ∈ bins, (if bin i = b then amount i else 0) = amount i := by
        rw [Finset.sum_ite_eq, if_pos (h i (List.mem_cons_self ..))]
      simp only [total, List.map_cons, List.sum_cons, Finset.sum_add_distrib, hfirst]
      rw [← hrest]
      rfl

theorem total_le (items : List ι) (bin : ι → κ) {amount : ι → Nat} {bound : Nat} (b : κ)
    (h : ∀ i ∈ items, amount i ≤ bound) :
    total items bin amount b ≤ bound * total items bin (fun _ => 1) b := by
  induction items with
  | nil => simp
  | cons i items ih =>
      have hrest := ih fun j hj => h j (List.mem_cons_of_mem i hj)
      have hfirst := h i (List.mem_cons_self ..)
      simp only [total, List.map_cons, List.sum_cons, Nat.mul_add] at hrest ⊢
      apply Nat.add_le_add _ hrest
      split
      · simpa using hfirst
      · exact Nat.zero_le _

theorem total_one (items : List ι) (bin : ι → κ) (b : κ) :
    total items bin (fun _ => 1) b = (items.filter fun i => decide (bin i = b)).length := by
  induction items with
  | nil => rfl
  | cons i items ih =>
      rw [total] at ih ⊢
      rw [List.map_cons, List.sum_cons, ih]
      by_cases hbin : bin i = b
      · simp [hbin, Nat.add_comm]
      · simp [hbin]

theorem total_indicator {items : List ι} {bin : ι → κ} {amount : ι → Nat} {b : κ} {c : Nat}
    (h : ∀ i ∈ items, amount i = if bin i = b then c else 0) (b' : κ) :
    total items bin amount b' = (if b' = b then c else 0) * total items bin (fun _ => 1) b' := by
  induction items with
  | nil => simp
  | cons i items ih =>
      have hrest := ih fun j hj => h j (List.mem_cons_of_mem i hj)
      simp only [total, List.map_cons, List.sum_cons, Nat.mul_add] at hrest ⊢
      rw [hrest, h i (List.mem_cons_self ..)]
      by_cases hbin : bin i = b'
      · simp [hbin]
      · simp [hbin]

/-- The amount of one more item fits below the total of all of them. -/
theorem total_split_le (before after : List ι) (i : ι) (bin : ι → κ) (amount : ι → Nat) :
    total before bin amount (bin i) + amount i ≤
      total (before ++ i :: after) bin amount (bin i) := by
  simp only [total, List.map_append, List.map_cons, List.sum_append, List.sum_cons, if_true]
  omega

theorem total_eq_sum [DecidableEq ι] {items : List ι} (h : items.Nodup) (bin : ι → κ)
    (amount : ι → Nat) (b : κ) :
    total items bin amount b = ∑ i ∈ items.toFinset with bin i = b, amount i := by
  rw [total, ← List.sum_toFinset _ h, Finset.sum_filter]

end Total

section Mean

/-- The mean rounded down, and 0 where there is nothing to average. -/
def mean (sum count : Nat) : Nat := if count > 0 then sum / count else 0

theorem mean_le {sum count bound : Nat} (h : sum ≤ bound * count) : mean sum count ≤ bound := by
  rw [mean]
  split
  · exact Nat.div_le_of_le_mul (by rwa [Nat.mul_comm])
  · exact Nat.zero_le bound

theorem lt_of_mean_le {sum count bound : Nat} (hcount : 0 < count) (h : mean sum count ≤ bound) :
    sum < (bound + 1) * count := by
  rw [mean, if_pos hcount] at h
  exact (Nat.div_lt_iff_lt_mul hcount).mp (Nat.lt_succ_of_le h)

/-- The mediant of rounded means: the mean of the whole is at most a common bound
of the means of the bins. -/
theorem mean_sum_le {bins : Finset κ} {sum count : κ → Nat} {bound : Nat}
    (hempty : ∀ b ∈ bins, count b = 0 → sum b = 0)
    (h : ∀ b ∈ bins, mean (sum b) (count b) ≤ bound) :
    mean (∑ b ∈ bins, sum b) (∑ b ∈ bins, count b) ≤ bound := by
  rw [mean]
  split
  · rename_i hcount
    apply Nat.le_of_lt_succ
    rw [Nat.div_lt_iff_lt_mul hcount, Nat.succ_eq_add_one, Finset.mul_sum]
    obtain ⟨b, hb, hpos⟩ := Finset.exists_ne_zero_of_sum_ne_zero (Nat.ne_of_gt hcount)
    apply Finset.sum_lt_sum
    · intro c hc
      by_cases hzero : count c = 0
      · simp [hempty c hc hzero]
      · exact Nat.le_of_lt (lt_of_mean_le (Nat.pos_of_ne_zero hzero) (h c hc))
    · exact ⟨b, hb, lt_of_mean_le (Nat.pos_of_ne_zero hpos) (h b hb)⟩
  · exact Nat.zero_le bound

theorem mean_mul {count : Nat} (h : 0 < count) (c : Nat) : mean (c * count) count = c := by
  rw [mean, if_pos h, Nat.mul_div_cancel c h]

def meanOver (items : Finset ι) (amount : ι → Nat) : Nat := (∑ i ∈ items, amount i) / items.card

theorem mean_eq_div (sum count : Nat) : mean sum count = sum / count := by
  rw [mean]
  split
  · rfl
  · rename_i hzero
    rw [Nat.eq_zero_of_not_pos hzero, Nat.div_zero]

/-- The rounded mean of a bin is the mean over the set of its items. -/
theorem mean_total_eq [DecidableEq ι] [DecidableEq κ] {items : List ι} (h : items.Nodup)
    (bin : ι → κ) (amount : ι → Nat) (b : κ) :
    mean (total items bin amount b) (total items bin (fun _ => 1) b) =
      meanOver (items.toFinset.filter fun i => bin i = b) amount := by
  rw [mean_eq_div, total_eq_sum h, total_eq_sum h, meanOver,
    Finset.card_eq_sum_ones]

end Mean
end Binning
