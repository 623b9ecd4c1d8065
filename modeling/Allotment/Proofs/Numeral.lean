import Mathlib.Tactic.IntervalCases
import Allotment.Text.Blank
import Allotment.Text.Numeral
/-!
# Numerals read back

A number written in a base up to sixteen is read back as itself (`number?_toDigits`).
The digits written are the sixteen of `digitChar`, none of which is a blank or separates
the parts of an address; a text with any other character in it is no number.
-/
namespace Allotment.Text

variable {base : Nat}

theorem digitValue?_digitChar {d : Nat} (h : d < 16) : digitValue? (Nat.digitChar d) = some d := by
  interval_cases d <;> rfl

theorem digit?_digitChar (hb : base ≤ 16) {d : Nat} (h : d < base) :
    digit? base (Nat.digitChar d) = some d := by
  rw [digit?, digitValue?_digitChar (Nat.lt_of_lt_of_le h hb)]
  simp [h]

theorem digits?_append (seen : Nat) (cs ds : List Char) :
    digits? base seen (cs ++ ds) = (digits? base seen cs).bind fun n => digits? base n ds := by
  induction cs generalizing seen with
  | nil => rfl
  | cons c cs ih =>
    rw [List.cons_append, digits?, digits?]
    cases digit? base c with
    | none => rfl
    | some d => exact ih (seen * base + d)

theorem digits?_toDigits (hb : 1 < base) (hb' : base ≤ 16) (n : Nat) :
    digits? base 0 (Nat.toDigits base n) = some n := by
  induction n using Nat.strongRecOn with
  | ind n ih =>
    rw [Nat.toDigits_eq_if hb]
    split
    · rename_i hlt
      simp [digits?, digit?_digitChar hb' hlt]
    · rename_i hle
      have hlast : n % base < base := Nat.mod_lt n (by omega)
      rw [digits?_append, ih (n / base) (Nat.div_lt_self (by omega) hb)]
      simp only [Option.bind_some, digits?, digit?_digitChar hb' hlast, Option.some.injEq]
      exact Nat.div_add_mod' n base

/-- **A written number is read back.** -/
theorem number?_toDigits (hb : 1 < base) (hb' : base ≤ 16) (n : Nat) :
    number? base (Nat.toDigits base n) = some n := by
  have h := digits?_toDigits hb hb' n
  cases hcs : Nat.toDigits base n with
  | nil => exact absurd hcs Nat.toDigits_ne_nil
  | cons c cs => rw [hcs] at h; exact h

theorem mem_toDigits (hb : 1 < base) {n : Nat} {c : Char} (h : c ∈ Nat.toDigits base n) :
    ∃ d < base, c = Nat.digitChar d := by
  induction n using Nat.strongRecOn with
  | ind n ih =>
    rw [Nat.toDigits_eq_if hb] at h
    split at h
    · rename_i hlt
      exact ⟨n, hlt, List.mem_singleton.1 h⟩
    · rcases List.mem_append.1 h with h | h
      · exact ih (n / base) (Nat.div_lt_self (by omega) hb) h
      · exact ⟨n % base, Nat.mod_lt n (by omega), List.mem_singleton.1 h⟩

/-- A digit is no blank and none of the characters that separate the parts of an address. -/
theorem digitChar_plain {d : Nat} (h : d < 16) :
    isBlank (Nat.digitChar d) = false ∧ Nat.digitChar d ≠ '.' ∧ Nat.digitChar d ≠ ':' := by
  interval_cases d <;> decide

theorem plain_of_mem_toDigits (hb : 1 < base) (hb' : base ≤ 16) {n : Nat} {c : Char}
    (h : c ∈ Nat.toDigits base n) : isBlank c = false ∧ c ≠ '.' ∧ c ≠ ':' := by
  obtain ⟨d, hd, rfl⟩ := mem_toDigits hb h
  exact digitChar_plain (Nat.lt_of_lt_of_le hd hb')

/-- Only digits make a number. -/
theorem digit?_isSome_of_digits? {seen n : Nat} {cs : List Char} (h : digits? base seen cs = some n) :
    ∀ c ∈ cs, (digit? base c).isSome = true := by
  induction cs generalizing seen with
  | nil => intro c hc; cases hc
  | cons c cs ih =>
    rw [digits?] at h
    cases hd : digit? base c with
    | none => rw [hd] at h; cases h
    | some d =>
      rw [hd] at h
      intro e he
      rcases List.mem_cons.1 he with rfl | he
      · rw [hd]; rfl
      · exact ih h e he

theorem digit?_isSome_of_number? {n : Nat} {cs : List Char} (h : number? base cs = some n) :
    ∀ c ∈ cs, (digit? base c).isSome = true := by
  cases cs with
  | nil => cases h
  | cons c cs => exact digit?_isSome_of_digits? h

end Allotment.Text
