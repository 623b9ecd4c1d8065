/-!
# Places counted in bytes

A place in a text can be told by the number of bytes before it in UTF-8.  A text can
be cut there unless the place lies inside a character or behind the end
(`cutAt?_eq_some_iff`).  A cap counts characters but cuts at such a place; as it takes the
place of a character, it tears none (`capped?_eq`).
-/
namespace Allotment.Text

/-- How many bytes a text takes. -/
def byteLength : List Char → Nat
  | [] => 0
  | c :: cs => c.utf8Size + byteLength cs

/-- The first `n` bytes of a text and the rest, if both are texts. -/
def cutAt? : Nat → List Char → Option (List Char × List Char)
  | 0, cs => some ([], cs)
  | _ + 1, [] => none
  | n + 1, c :: cs =>
    if c.utf8Size ≤ n + 1 then (cutAt? (n + 1 - c.utf8Size) cs).map fun p => (c :: p.1, p.2)
    else none

/-- A text can be cut behind a first part that takes as many bytes, and nowhere else. -/
theorem cutAt?_eq_some_iff {n : Nat} {cs a b : List Char} :
    cutAt? n cs = some (a, b) ↔ cs = a ++ b ∧ byteLength a = n := by
  induction cs generalizing n a with
  | nil =>
    cases n with
    | zero =>
      cases a with
      | nil => simp [cutAt?, byteLength]
      | cons c a => simp [cutAt?]
    | succ n =>
      cases a with
      | nil => simp [cutAt?, byteLength]
      | cons c a => simp [cutAt?]
  | cons c cs ih =>
    cases n with
    | zero =>
      cases a with
      | nil => simp [cutAt?, byteLength]
      | cons d a =>
        have := d.utf8Size_pos
        simp only [cutAt?, Option.some.injEq, Prod.mk.injEq, byteLength]
        constructor
        · rintro ⟨h, _⟩; cases h
        · rintro ⟨_, h⟩; omega
    | succ n =>
      cases a with
      | nil =>
        simp only [cutAt?, byteLength]
        split <;> simp
      | cons d a =>
        simp only [cutAt?, byteLength, List.cons_append, List.cons.injEq]
        split
        · rename_i h
          simp only [Option.map_eq_some_iff, Prod.mk.injEq, List.cons.injEq, Prod.exists]
          constructor
          · rintro ⟨x, y, hxy, ⟨rfl, rfl⟩, rfl⟩
            obtain ⟨h1, h2⟩ := ih.1 hxy
            exact ⟨⟨rfl, h1⟩, by omega⟩
          · rintro ⟨⟨rfl, h1⟩, h2⟩
            exact ⟨a, b, ih.2 ⟨h1, by omega⟩, ⟨rfl, rfl⟩, rfl⟩
        · rename_i h
          constructor
          · intro h'; cases h'
          · rintro ⟨⟨rfl, _⟩, h2⟩; omega

/-! ## Caps -/

/-- The place of the character with number `n`, counted from nought, if there are so many. -/
def placeOf? : Nat → List Char → Option Nat
  | _, [] => none
  | 0, _ :: _ => some 0
  | n + 1, c :: cs => (placeOf? n cs).map (c.utf8Size + ·)

/-- What stands before a place, if that is a text.  A place behind the end takes nothing away. -/
def truncate? (place : Nat) (cs : List Char) : Option (List Char) :=
  if byteLength cs < place then some cs else (cutAt? place cs).map Prod.fst

/-- The text with no more than `n` characters, cut at the place of the first that is too many. -/
def capped? (n : Nat) (cs : List Char) : Option (List Char) :=
  match placeOf? n cs with
  | none => some cs
  | some place => truncate? place cs

theorem byteLength_append (a b : List Char) : byteLength (a ++ b) = byteLength a + byteLength b := by
  induction a with
  | nil => simp [byteLength]
  | cons c a ih => rw [List.cons_append, byteLength, byteLength, ih, Nat.add_assoc]

/-- The place of a character is behind the characters that precede it. -/
theorem placeOf?_eq (n : Nat) (cs : List Char) :
    placeOf? n cs = if n < cs.length then some (byteLength (cs.take n)) else none := by
  induction cs generalizing n with
  | nil => simp [placeOf?]
  | cons c cs ih =>
    cases n with
    | zero => simp [placeOf?, byteLength]
    | succ n =>
      rw [placeOf?, ih, List.take_succ_cons, byteLength, List.length_cons]
      by_cases h : n < cs.length
      · rw [if_pos h, if_pos (Nat.succ_lt_succ h)]
        rfl
      · rw [if_neg h, if_neg fun h' => h (Nat.lt_of_succ_lt_succ h')]
        rfl

theorem placeOf?_eq_none_iff {n : Nat} {cs : List Char} : placeOf? n cs = none ↔ cs.length ≤ n := by
  simp [placeOf?_eq]

theorem placeOf?_eq_some_iff {n place : Nat} {cs : List Char} :
    placeOf? n cs = some place ↔ n < cs.length ∧ byteLength (cs.take n) = place := by
  simp [placeOf?_eq]

/-- At the place of a character a text can be cut. -/
theorem cutAt?_placeOf? {n place : Nat} {cs : List Char} (h : placeOf? n cs = some place) :
    cutAt? place cs = some (cs.take n, cs.drop n) :=
  cutAt?_eq_some_iff.2 ⟨(List.take_append_drop n cs).symm, (placeOf?_eq_some_iff.1 h).2⟩

/-- **A cap tears no character**, and leaves as many as it says. -/
theorem capped?_eq (n : Nat) (cs : List Char) : capped? n cs = some (cs.take n) := by
  cases hplace : placeOf? n cs with
  | none => rw [capped?, hplace, List.take_of_length_le (placeOf?_eq_none_iff.1 hplace)]
  | some place =>
    have hcut := cutAt?_placeOf? hplace
    obtain ⟨hcs, hbefore⟩ := cutAt?_eq_some_iff.1 hcut
    have hle : place ≤ byteLength cs := by
      rw [hcs, byteLength_append, hbefore]
      exact Nat.le_add_right _ _
    simp only [capped?, hplace, truncate?, if_neg (Nat.not_lt.2 hle), hcut, Option.map_some]

end Allotment.Text
