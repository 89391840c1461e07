import Mathlib.Algebra.GroupWithZero.Nat
import Mathlib.Data.List.Basic

/-!
Texts of lines `key separator value terminator`. A key contains neither the separator nor
the terminator and a value no terminator; such texts are read back exactly. A text can come
after other lines, up to one that marks the end of them.
-/
namespace KeyValueLines
universe u v

theorem lookup_of_mem {κ : Type u} {ν : Type v} [BEq κ] [LawfulBEq κ] {entries : List (κ × ν)}
    (hnodup : (entries.map Prod.fst).Nodup) {entry : κ × ν} (h : entry ∈ entries) :
    entries.lookup entry.1 = some entry.2 := by
  induction entries with
  | nil => cases h
  | cons first entries ih =>
      obtain ⟨hnot, hrest⟩ := List.nodup_cons.mp hnodup
      cases List.mem_cons.mp h with
      | inl heq =>
          rw [heq]
          exact List.lookup_cons_self
      | inr hmem =>
          have hne : entry.1 ≠ first.1 := fun heq =>
            hnot (heq ▸ List.mem_map_of_mem hmem)
          rw [List.lookup_cons, beq_false_of_ne hne]
          exact ih hrest hmem

variable {α : Type u} [DecidableEq α]

def line (separator terminator : α) (entry : List α × List α) : List α :=
  entry.1 ++ separator :: (entry.2 ++ [terminator])

def encode (separator terminator : α) (entries : List (List α × List α)) : List α :=
  entries.flatMap (line separator terminator)

theorem encode_length_le {α : Type u} (separator terminator : α) {width : Nat}
    {entries : List (List α × List α)} (h : ∀ entry ∈ entries, entry.2.length ≤ width) :
    (encode separator terminator entries).length ≤
      (entries.map fun entry => entry.1.length).sum + (width + 2) * entries.length := by
  induction entries with
  | nil => exact Nat.zero_le _
  | cons entry entries ih =>
      have hfirst := h entry List.mem_cons_self
      have hrest := ih fun other hother => h other (List.mem_cons_of_mem entry hother)
      rw [encode, List.flatMap_cons, ← encode, List.length_append, line, List.length_append,
        List.length_cons, List.length_append, List.length_singleton, List.map_cons, List.sum_cons,
        List.length_cons, Nat.mul_succ]
      omega

/-- The text before the first delimiter and the text after it. -/
def cut (delimiter : α) : List α → Option (List α × List α)
  | [] => none
  | a :: text =>
      if a = delimiter then some ([], text)
      else (cut delimiter text).map fun parts => (a :: parts.1, parts.2)

/-- The lines of a text whose last line is terminated, `begun` being what has been read of
the first one. -/
def lines (terminator : α) (begun : List α) : List α → Option (List (List α))
  | [] => if begun = [] then some [] else none
  | a :: text =>
      if a = terminator then (lines terminator [] text).map (begun :: ·)
      else lines terminator (begun ++ [a]) text

def decode (separator terminator : α) (text : List α) : Option (List (List α × List α)) :=
  (lines terminator [] text).bind fun lines => lines.mapM (cut separator)

/-- An entry that a line can carry. -/
structure Clean (separator terminator : α) (entry : List α × List α) : Prop where
  separator_key : separator ∉ entry.1
  terminator_key : terminator ∉ entry.1
  terminator_value : terminator ∉ entry.2

variable {separator terminator delimiter : α}

theorem cut_append {before : List α} (h : delimiter ∉ before) (after : List α) :
    cut delimiter (before ++ delimiter :: after) = some (before, after) := by
  induction before with
  | nil => exact if_pos rfl
  | cons a before ih =>
      obtain ⟨hne, hrest⟩ := not_or.mp (mt List.mem_cons.mpr h)
      rw [List.cons_append, cut, if_neg (Ne.symm hne), ih hrest]
      rfl

theorem lines_append {begun first : List α} (h : terminator ∉ first) (text : List α) :
    lines terminator begun (first ++ terminator :: text) =
      (lines terminator [] text).map ((begun ++ first) :: ·) := by
  induction first generalizing begun with
  | nil =>
      rw [List.nil_append, lines, if_pos rfl, List.append_nil]
  | cons a first ih =>
      obtain ⟨hne, hrest⟩ := not_or.mp (mt List.mem_cons.mpr h)
      rw [List.cons_append, lines, if_neg (Ne.symm hne), ih hrest, List.append_assoc,
        List.singleton_append]

theorem mapM_cut {entries : List (List α × List α)}
    (h : ∀ entry ∈ entries, separator ∉ entry.1) :
    (entries.map fun entry => entry.1 ++ separator :: entry.2).mapM (cut separator) =
      some entries := by
  induction entries with
  | nil => rfl
  | cons entry entries ih =>
      have hrest := ih fun other hother => h other (List.mem_cons_of_mem entry hother)
      rw [List.map_cons, List.mapM_cons, cut_append (h entry List.mem_cons_self), hrest]
      rfl

theorem lines_encode (hdistinct : separator ≠ terminator) {entries : List (List α × List α)}
    (h : ∀ entry ∈ entries, Clean separator terminator entry) :
    lines terminator [] (encode separator terminator entries) =
      some (entries.map fun entry => entry.1 ++ separator :: entry.2) := by
  induction entries with
  | nil => exact if_pos rfl
  | cons entry entries ih =>
      have hclean := h entry List.mem_cons_self
      have hrest := ih fun other hother => h other (List.mem_cons_of_mem entry hother)
      have hfirst : terminator ∉ entry.1 ++ separator :: entry.2 := by
        rw [List.mem_append, List.mem_cons, not_or, not_or]
        exact ⟨hclean.terminator_key, Ne.symm hdistinct, hclean.terminator_value⟩
      have htext : encode separator terminator (entry :: entries) =
          (entry.1 ++ separator :: entry.2) ++
            terminator :: encode separator terminator entries := by
        simp [encode, line]
      rw [htext, lines_append hfirst, hrest]
      rfl

theorem decode_encode (hdistinct : separator ≠ terminator) {entries : List (List α × List α)}
    (h : ∀ entry ∈ entries, Clean separator terminator entry) :
    decode separator terminator (encode separator terminator entries) = some entries := by
  rw [decode, lines_encode hdistinct h, Option.bind_some]
  exact mapM_cut fun entry hentry => (h entry hentry).separator_key

/-- The text after the first line that is the mark, `begun` being what has been read of the
current line. -/
def afterLine (terminator : α) (mark begun : List α) : List α → Option (List α)
  | [] => none
  | a :: text =>
      if a = terminator then
        if begun = mark then some text else afterLine terminator mark [] text
      else afterLine terminator mark (begun ++ [a]) text

theorem afterLine_line {mark begun first : List α} (h : terminator ∉ first) (text : List α) :
    afterLine terminator mark begun (first ++ terminator :: text) =
      if begun ++ first = mark then some text else afterLine terminator mark [] text := by
  induction first generalizing begun with
  | nil => rw [List.nil_append, afterLine, if_pos rfl, List.append_nil]
  | cons a first ih =>
      obtain ⟨hne, hrest⟩ := not_or.mp (mt List.mem_cons.mpr h)
      rw [List.cons_append, afterLine, if_neg (Ne.symm hne), ih hrest, List.append_assoc,
        List.singleton_append]

/-- Lines other than the mark, the mark, and then the text. -/
theorem afterLine_lines {mark : List α} (hmark : terminator ∉ mark) {before : List (List α)}
    (h : ∀ first ∈ before, terminator ∉ first ∧ first ≠ mark) (text : List α) :
    afterLine terminator mark []
      (before.flatMap (· ++ [terminator]) ++ (mark ++ terminator :: text)) = some text := by
  induction before with
  | nil => exact (afterLine_line hmark text).trans (if_pos rfl)
  | cons first before ih =>
      obtain ⟨hclean, hother⟩ := h first List.mem_cons_self
      have hrest := ih fun later hlater => h later (List.mem_cons_of_mem first hlater)
      rw [List.flatMap_cons, List.append_assoc, List.append_assoc, List.singleton_append,
        afterLine_line hclean, List.nil_append, if_neg hother, hrest]

end KeyValueLines
