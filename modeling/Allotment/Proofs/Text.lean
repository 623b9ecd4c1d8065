import Mathlib.Data.List.DropRight
import Allotment.Text.Blank
import Allotment.Text.Cut
/-!
# Trimming and cutting

What the two ways of taking a text apart leave as it is.  Trimming is two passes, one
from each end, that commute (`trimStart_trimEnd`), so it may be done in any order, and
blanks around a text are of no account (`trim_padded`).  A text that holds no separator is
its only piece (`pieces_of_not_mem`), two texts with a separator between them have the
pieces of both (`pieces_append_sep`), and parts joined by a separator that none of them
holds come apart again (`pieces_joined`).
-/
namespace Allotment.Text

/-! ## Trimming -/

theorem trimStart_of_blank {c : Char} {cs : List Char} (h : isBlank c = true) :
    trimStart (c :: cs) = trimStart cs := List.dropWhile_cons_of_pos h

theorem trimStart_of_not_blank {c : Char} {cs : List Char} (h : isBlank c = false) :
    trimStart (c :: cs) = c :: cs := List.dropWhile_cons_of_neg (by simp [h])

theorem trimEnd_trimEnd (cs : List Char) : trimEnd (trimEnd cs) = trimEnd cs :=
  List.rdropWhile_idempotent isBlank cs

/-- Only what follows the last character that is no blank is dropped at the end. -/
theorem trimEnd_append {p : List Char} (hp : p ≠ []) (h : isBlank (p.getLast hp) = false)
    (cs : List Char) : trimEnd (p ++ cs) = p ++ trimEnd cs := by
  have hrev : trimStart p.reverse = p.reverse := by
    rw [trimStart, List.dropWhile_eq_self_iff]
    intro hlen
    simp [List.getLast_eq_getElem] at h ⊢
    exact h
  rw [trimEnd, trimEnd, trimStart, List.reverse_append, List.dropWhile_append]
  split
  · rename_i hnil
    rw [List.isEmpty_iff] at hnil
    rw [trimStart] at hrev
    rw [trimStart, hnil, hrev]
    simp
  · simp [trimStart]

theorem trimEnd_cons_of_not_blank {c : Char} {cs : List Char} (h : isBlank c = false) :
    trimEnd (c :: cs) = c :: trimEnd cs := trimEnd_append (p := [c]) (by simp) (by simpa using h) cs

theorem trimEnd_cons_of_blank {c : Char} {cs : List Char} (h : isBlank c = true) :
    trimEnd (c :: cs) = if trimEnd cs = [] then [] else c :: trimEnd cs := by
  rw [trimEnd, trimEnd, trimStart, trimStart, List.reverse_cons, List.dropWhile_append]
  by_cases hcs : List.dropWhile isBlank cs.reverse = []
  · simp [hcs, h]
  · simp [hcs]

/-- **The two passes of trimming commute.** -/
theorem trimStart_trimEnd (cs : List Char) : trimStart (trimEnd cs) = trimEnd (trimStart cs) := by
  induction cs with
  | nil => rfl
  | cons c cs ih =>
    by_cases hc : isBlank c = true
    · rw [trimStart_of_blank hc, ← ih, trimEnd_cons_of_blank hc]
      split
      · rename_i hnil
        rw [hnil]
      · exact trimStart_of_blank hc
    · rw [Bool.not_eq_true] at hc
      rw [trimStart_of_not_blank hc, trimEnd_cons_of_not_blank hc, trimStart_of_not_blank hc]

theorem trim_trimEnd (cs : List Char) : trim (trimEnd cs) = trim cs := by
  rw [trim, trim, trimStart_trimEnd, trimEnd_trimEnd]

theorem trim_trimStart (cs : List Char) : trim (trimStart cs) = trim cs := by
  rw [trim, trim, trimStart, trimStart, List.dropWhile_idempotent]

/-- **Trimming again changes nothing.** -/
theorem trim_trim (cs : List Char) : trim (trim cs) = trim cs := by
  have hend : trim (trim cs) = trim (trimStart cs) := trim_trimEnd (trimStart cs)
  rw [hend, trim_trimStart]

theorem trimmed_trimmed (s : String) : trimmed (trimmed s) = trimmed s := by
  simp [trimmed, trim_trim]

theorem trimStart_of_no_blank {cs : List Char} (h : ∀ c ∈ cs, isBlank c = false) :
    trimStart cs = cs := by
  cases cs with
  | nil => rfl
  | cons c cs => exact trimStart_of_not_blank (h c List.mem_cons_self)

/-- A text without blanks stays as it is. -/
theorem trim_of_no_blank {cs : List Char} (h : ∀ c ∈ cs, isBlank c = false) : trim cs = cs := by
  rw [trim, trimStart_of_no_blank h, trimEnd, trimStart_of_no_blank, List.reverse_reverse]
  intro c hc
  exact h c (List.mem_reverse.1 hc)

theorem trimStart_append_of_blank {before : List Char} (h : ∀ c ∈ before, isBlank c = true)
    (cs : List Char) : trimStart (before ++ cs) = trimStart cs :=
  List.dropWhile_append_of_pos h

theorem trimEnd_append_of_blank {after : List Char} (h : ∀ c ∈ after, isBlank c = true)
    (cs : List Char) : trimEnd (cs ++ after) = trimEnd cs := by
  rw [trimEnd, List.reverse_append, trimStart_append_of_blank, trimEnd]
  intro c hc
  exact h c (List.mem_reverse.1 hc)

theorem trim_blank_append {before : List Char} (h : ∀ c ∈ before, isBlank c = true) (cs : List Char) :
    trim (before ++ cs) = trim cs := by
  rw [trim, trimStart_append_of_blank h, trim]

theorem trim_append_of_blank {after : List Char} (h : ∀ c ∈ after, isBlank c = true) (cs : List Char) :
    trim (cs ++ after) = trim cs := by
  rw [trim, ← trimStart_trimEnd, trimEnd_append_of_blank h, trimStart_trimEnd, trim]

/-- **Blanks around a text are of no account.** -/
theorem trim_padded {before after : List Char} (hbefore : ∀ c ∈ before, isBlank c = true)
    (hafter : ∀ c ∈ after, isBlank c = true) (cs : List Char) : trim (before ++ cs ++ after) = trim cs := by
  rw [trim_append_of_blank hafter, trim_blank_append hbefore]

theorem trim_of_blank {cs : List Char} (h : ∀ c ∈ cs, isBlank c = true) : trim cs = [] := by
  have hstart : trimStart cs = [] := by
    rw [trimStart, List.dropWhile_eq_nil_iff]
    exact h
  rw [trim, hstart]
  rfl

theorem mem_of_mem_trimStart {c : Char} {cs : List Char} (h : c ∈ trimStart cs) : c ∈ cs :=
  (List.dropWhile_sublist isBlank).mem h

theorem mem_of_mem_trim {c : Char} {cs : List Char} (h : c ∈ trim cs) : c ∈ cs := by
  have hend : c ∈ trimStart (trimStart cs).reverse := List.mem_reverse.1 h
  exact mem_of_mem_trimStart (List.mem_reverse.1 (mem_of_mem_trimStart hend))

theorem trimStart_append_cons {c : Char} (h : isBlank c = false) (a b : List Char) :
    trimStart (a ++ c :: b) = trimStart a ++ c :: b := by
  induction a with
  | nil => exact trimStart_of_not_blank h
  | cons d a ih =>
    by_cases hd : isBlank d = true
    · rw [List.cons_append, trimStart_of_blank hd, trimStart_of_blank hd, ih]
    · rw [Bool.not_eq_true] at hd
      rw [List.cons_append, trimStart_of_not_blank hd, trimStart_of_not_blank hd, List.cons_append]

/-- **Trimming gets no further than a character that is no blank**, from either end. -/
theorem trim_append_cons {c : Char} (h : isBlank c = false) (a b : List Char) :
    trim (a ++ c :: b) = trimStart a ++ c :: trimEnd b := by
  have hlast : isBlank ((trimStart a ++ [c]).getLast (by simp)) = false := by simpa using h
  have hcut : trimStart a ++ c :: b = (trimStart a ++ [c]) ++ b := by simp
  rw [trim, trimStart_append_cons h, hcut, trimEnd_append _ hlast]
  simp

theorem mem_trim_iff {c : Char} (h : isBlank c = false) {cs : List Char} : c ∈ trim cs ↔ c ∈ cs := by
  refine ⟨mem_of_mem_trim, fun hc => ?_⟩
  obtain ⟨a, b, rfl⟩ := List.append_of_mem hc
  rw [trim_append_cons h]
  simp

/-! ## Cutting -/

theorem cut?_append {sep : Char} {a : List Char} (h : sep ∉ a) (b : List Char) :
    cut? sep (a ++ sep :: b) = some (a, b) := by
  induction a with
  | nil => simp [cut?]
  | cons c a ih =>
    simp only [List.mem_cons, not_or] at h
    rw [List.cons_append, cut?, if_neg (Ne.symm h.1), ih h.2]
    rfl

theorem pieces_of_not_mem {sep : Char} {cs : List Char} (h : sep ∉ cs) : pieces sep cs = [cs] := by
  induction cs with
  | nil => rfl
  | cons c cs ih =>
    simp only [List.mem_cons, not_or] at h
    rw [pieces, if_neg (Ne.symm h.1), ih h.2]

/-- **Two texts with a separator between them come apart as each of them does.** -/
theorem pieces_append_sep (sep : Char) (s t : List Char) :
    pieces sep (s ++ sep :: t) = pieces sep s ++ pieces sep t := by
  induction s with
  | nil => simp [pieces]
  | cons c s ih =>
    rw [List.cons_append, pieces, pieces, ih]
    by_cases hc : c = sep
    · simp [hc]
    · rw [if_neg hc, if_neg hc]
      cases hp : pieces sep s with
      | nil => exact absurd hp (pieces_ne_nil sep s)
      | cons p ps => rfl

/-- A text up to its first separator is its first piece. -/
theorem pieces_append {sep : Char} {p : List Char} (h : sep ∉ p) (cs : List Char) :
    pieces sep (p ++ sep :: cs) = p :: pieces sep cs := by
  rw [pieces_append_sep, pieces_of_not_mem h]
  rfl

/-- **Parts that hold no separator come apart as they were joined.** -/
theorem pieces_joined {sep : Char} : ∀ {ps : List (List Char)}, ps ≠ [] → (∀ p ∈ ps, sep ∉ p) →
    pieces sep (joined sep ps) = ps
  | [], hne, _ => absurd rfl hne
  | [p], _, h => pieces_of_not_mem (h p List.mem_cons_self)
  | p :: q :: ps, _, h => by
    rw [joined, pieces_append (h p List.mem_cons_self)]
    · rw [pieces_joined (by simp) fun r hr => h r (List.mem_cons_of_mem p hr)]
    · simp

end Allotment.Text
