import Mathlib.Tactic.IntervalCases
import Allotment.Address.Text
import Allotment.Proofs.Numeral
import Allotment.Proofs.Text
/-!
# Addresses read back

Every address is read back from its text, however lenient the reader is (`ofChars?_chars`),
so two addresses never share a text.  The narrow family is four octets.  In the wide
family there are three spellings, and the reader tells them apart by the first `::`: eight
groups have none, an elided run leaves its neighbours on the two sides, and a mapped
address starts with one.
-/
namespace Allotment

open Text

/-! ## Digits and places -/

theorem ofPlaces_octets {n : Nat} (h : n < Family.v4.size) : ofPlaces 256 (places 256 4 n) = n := by
  simp only [Family.size] at h
  simp only [places, ofPlaces, List.nil_append, List.cons_append, List.foldl_cons, List.foldl_nil]
  omega

theorem ofPlaces_groups {n : Nat} (h : n < Family.v6.size) :
    ofPlaces 65536 (places 65536 8 n) = n := by
  simp only [Family.size] at h
  simp only [places, ofPlaces, List.nil_append, List.cons_append, List.foldl_cons, List.foldl_nil]
  omega

theorem length_places (base count n : Nat) : (places base count n).length = count := by
  induction count generalizing n with
  | zero => rfl
  | succ count ih => rw [places, List.length_append, ih]; rfl

theorem places_lt {base : Nat} (hb : 0 < base) (count n : Nat) :
    ∀ d ∈ places base count n, d < base := by
  induction count generalizing n with
  | zero => intro d hd; cases hd
  | succ count ih =>
    intro d hd
    rw [places, List.mem_append] at hd
    rcases hd with hd | hd
    · exact ih (n / base) d hd
    · rw [List.mem_singleton.1 hd]
      exact Nat.mod_lt n hb

/-! ## Octets -/

/-- A written octet has no superfluous zero. -/
theorem head?_decimal {d : Nat} (h : d < 256) :
    (decimal d).length ≤ 1 ∨ (decimal d).head? ≠ some '0' := by
  revert d
  decide +kernel

theorem octet?_decimal (l : Leniency) {d : Nat} (h : d < 256) : octet? l (decimal d) = some d := by
  have hlen : (decimal d).length ≤ 3 := (Nat.length_toDigits_le_iff (by decide) (by decide)).2 (by omega)
  rw [octet?, if_pos ⟨hlen, .inr (head?_decimal h)⟩, decimal, number?_toDigits (by decide) (by decide)]
  simp [h]

theorem mapM_octet?_decimal (l : Leniency) {ds : List Nat} (h : ∀ d ∈ ds, d < 256) :
    (ds.map decimal).mapM (octet? l) = some ds := by
  induction ds with
  | nil => rfl
  | cons d ds ih =>
    rw [List.map_cons, List.mapM_cons, octet?_decimal l (h d List.mem_cons_self),
      ih fun e he => h e (List.mem_cons_of_mem d he)]
    rfl

theorem pieces_dotted (n : Nat) : pieces '.' (dotted n) = (places 256 4 n).map decimal := by
  refine pieces_joined ?_ ?_
  · simp [places]
  · intro p hp hdot
    obtain ⟨d, -, rfl⟩ := List.mem_map.1 hp
    exact (plain_of_mem_toDigits (by decide) (by decide) hdot).2.1 rfl

/-- **Four octets are read back.** -/
theorem dotted?_dotted (l : Leniency) {n : Nat} (h : n < Family.v4.size) :
    dotted? l (dotted n) = some n := by
  rw [dotted?, pieces_dotted, mapM_octet?_decimal l (places_lt (by decide) 4 n)]
  exact congrArg some (ofPlaces_octets h)

theorem mem_joined {sep c : Char} : ∀ {ps : List (List Char)}, c ∈ joined sep ps →
    c = sep ∨ ∃ p ∈ ps, c ∈ p
  | [], h => by cases h
  | [p], h => .inr ⟨p, List.mem_cons_self, h⟩
  | p :: q :: ps, h => by
    rw [joined] at h
    · rcases List.mem_append.1 h with h | h
      · exact .inr ⟨p, List.mem_cons_self, h⟩
      · rcases List.mem_cons.1 h with rfl | h
        · exact .inl rfl
        · rcases mem_joined h with rfl | ⟨r, hr, hc⟩
          · exact .inl rfl
          · exact .inr ⟨r, List.mem_cons_of_mem p hr, hc⟩
    · simp

theorem mapM_isSome {α β : Type} {f : α → Option β} : ∀ {xs : List α} {ys : List β},
    xs.mapM f = some ys → ∀ x ∈ xs, (f x).isSome = true
  | [], _, _, x, hx => by cases hx
  | a :: xs, ys, h, x, hx => by
    rw [List.mapM_cons] at h
    cases ha : f a with
    | none => rw [ha] at h; cases h
    | some b =>
      cases hs : xs.mapM f with
      | none => rw [ha, hs] at h; cases h
      | some bs =>
        rcases List.mem_cons.1 hx with rfl | hx
        · rw [ha]; rfl
        · exact mapM_isSome hs x hx

theorem digit?_isSome_of_octet? {l : Leniency} {cs : List Char} (h : (octet? l cs).isSome = true) :
    ∀ c ∈ cs, (digit? 10 c).isSome = true := by
  rw [octet?] at h
  split at h
  · cases hn : number? 10 cs with
    | none => rw [hn] at h; cases h
    | some n => exact digit?_isSome_of_number? hn
  · cases h

/-- A text with a colon is not four octets. -/
theorem dotted?_of_colon (l : Leniency) {cs : List Char} (h : ':' ∈ cs) : dotted? l cs = none := by
  rw [dotted?]
  cases hm : (pieces '.' cs).mapM (octet? l) with
  | none => rfl
  | some ds =>
    rw [← joined_pieces '.' cs] at h
    rcases mem_joined h with hdot | ⟨p, hp, hc⟩
    · cases hdot
    · have hdigit := digit?_isSome_of_octet? (mapM_isSome hm p hp) ':' hc
      cases hdigit

/-! ## Groups -/

theorem group?_hexadecimal {g : Nat} (h : g < 65536) : group? (hexadecimal g) = some g := by
  have hlen : (hexadecimal g).length ≤ 4 :=
    (Nat.length_toDigits_le_iff (by decide) (by decide)).2 (by omega)
  rw [group?, if_pos hlen, hexadecimal, number?_toDigits (by decide) (by decide)]

theorem groups?_hexadecimal (octets : Option Leniency) : ∀ {gs : List Nat}, (∀ g ∈ gs, g < 65536) →
    groups? octets (gs.map hexadecimal) = some gs
  | [], _ => rfl
  | [g], h => by
    rw [List.map_singleton, groups?, group?_hexadecimal (h g List.mem_cons_self)]
  | g :: g' :: gs, h => by
    have ih := groups?_hexadecimal octets fun e he => h e (List.mem_cons_of_mem g he)
    rw [List.map_cons, groups?, group?_hexadecimal (h g List.mem_cons_self), ih]
    · rfl
    · simp

theorem colon_not_mem_hexadecimal (g : Nat) : ':' ∉ hexadecimal g :=
  fun h => (plain_of_mem_toDigits (by decide) (by decide) h).2.2 rfl

theorem hexadecimal_ne_nil (g : Nat) : hexadecimal g ≠ [] := Nat.toDigits_ne_nil

theorem pieces_colonGroups {gs : List Nat} (h : gs ≠ []) :
    pieces ':' (colonGroups gs) = gs.map hexadecimal := by
  refine pieces_joined (by simpa using h) fun p hp => ?_
  obtain ⟨g, -, rfl⟩ := List.mem_map.1 hp
  exact colon_not_mem_hexadecimal g

theorem colonGroups_cons (g g' : Nat) (gs : List Nat) :
    colonGroups (g :: g' :: gs) = hexadecimal g ++ ':' :: colonGroups (g' :: gs) := rfl

theorem sideGroups?_colonGroups (octets : Option Leniency) {gs : List Nat} (h : ∀ g ∈ gs, g < 65536) :
    sideGroups? octets (colonGroups gs) = some gs := by
  cases gs with
  | nil => rfl
  | cons g gs =>
    have hne : colonGroups (g :: gs) ≠ [] := by
      cases gs with
      | nil => exact hexadecimal_ne_nil g
      | cons g' gs => rw [colonGroups_cons]; simp
    rw [sideGroups?]
    · rw [pieces_colonGroups (by simp), groups?_hexadecimal octets h]
    · exact hne

/-! ## The first `::` -/

/-- A text without a colon is passed over. -/
theorem elision?_append {p : List Char} (h : ':' ∉ p) (cs : List Char) :
    elision? (p ++ cs) = (elision? cs).map fun q => (p ++ q.1, q.2) := by
  induction p with
  | nil => simp
  | cons c p ih =>
    simp only [List.mem_cons, not_or] at h
    rw [List.cons_append, elision?]
    · rw [ih h.2]
      cases elision? cs <;> rfl
    · rintro ds rfl
      exact absurd rfl h.1

/-- A single colon is passed over. -/
theorem elision?_colon {c : Char} (h : c ≠ ':') (cs : List Char) :
    elision? (':' :: c :: cs) = (elision? (c :: cs)).map fun q => (':' :: q.1, q.2) := by
  rw [elision?]
  rintro ds - hd
  exact h (List.cons.inj hd).1

/-- The text of a group starts with a digit. -/
theorem exists_cons_hexadecimal (g : Nat) : ∃ c cs, hexadecimal g = c :: cs ∧ c ≠ ':' := by
  cases hg : hexadecimal g with
  | nil => exact absurd hg (hexadecimal_ne_nil g)
  | cons c cs =>
    refine ⟨c, cs, rfl, fun hc => colon_not_mem_hexadecimal g ?_⟩
    rw [hg, hc]
    exact List.mem_cons_self

theorem exists_cons_colonGroups (g : Nat) (gs : List Nat) :
    ∃ c cs, colonGroups (g :: gs) = c :: cs ∧ c ≠ ':' := by
  obtain ⟨c, cs, hg, hc⟩ := exists_cons_hexadecimal g
  cases gs with
  | nil => exact ⟨c, cs, hg, hc⟩
  | cons g' gs => exact ⟨c, cs ++ ':' :: colonGroups (g' :: gs), by rw [colonGroups_cons, hg]; rfl, hc⟩

theorem elision?_colonGroups_append : ∀ (gs : List Nat) (cs : List Char),
    elision? (colonGroups gs ++ ':' :: ':' :: cs) = some (colonGroups gs, cs)
  | [], cs => by simp [colonGroups, joined, elision?]
  | [g], cs => by
    show elision? (hexadecimal g ++ ':' :: ':' :: cs) = some (hexadecimal g, cs)
    rw [elision?_append (colon_not_mem_hexadecimal g)]
    simp [elision?]
  | g :: g' :: gs, cs => by
    have ih := elision?_colonGroups_append (g' :: gs) cs
    obtain ⟨c, rest, hhead, hc⟩ := exists_cons_colonGroups g' gs
    rw [colonGroups_cons, List.append_assoc, elision?_append (colon_not_mem_hexadecimal g)]
    rw [hhead] at ih ⊢
    rw [List.cons_append, List.cons_append, elision?_colon hc, ← List.cons_append, ih]
    rfl

theorem elision?_colonGroups : ∀ gs : List Nat, elision? (colonGroups gs) = none
  | [] => rfl
  | [g] => by
    have h := elision?_append (colon_not_mem_hexadecimal g) []
    rw [List.append_nil] at h
    exact h
  | g :: g' :: gs => by
    have ih := elision?_colonGroups (g' :: gs)
    obtain ⟨c, rest, hhead, hc⟩ := exists_cons_colonGroups g' gs
    rw [colonGroups_cons, elision?_append (colon_not_mem_hexadecimal g)]
    rw [hhead] at ih ⊢
    rw [elision?_colon hc, ih]
    rfl

/-! ## The elided run -/

theorem take_zeroRun : ∀ gs : List Nat, gs.take (zeroRun gs) = List.replicate (zeroRun gs) 0
  | [] => rfl
  | g :: gs => by
    rw [zeroRun, List.takeWhile_cons]
    split
    · rename_i hg
      have ih := take_zeroRun gs
      rw [zeroRun] at ih
      rw [List.length_cons, List.take_succ_cons, ih, List.replicate_succ]
      simpa using hg
    · rfl

theorem zeroRun_le (gs : List Nat) : zeroRun gs ≤ gs.length :=
  (List.takeWhile_sublist _).length_le

/-- The longest run lies inside the groups and has zeros only. -/
theorem longestZeroRun_spec (gs : List Nat) :
    (longestZeroRun gs).1 + (longestZeroRun gs).2 ≤ gs.length ∧
      (gs.drop (longestZeroRun gs).1).take (longestZeroRun gs).2 =
        List.replicate (longestZeroRun gs).2 0 := by
  induction gs with
  | nil => exact ⟨Nat.le_refl 0, rfl⟩
  | cons g gs ih =>
    rw [longestZeroRun]
    simp only
    split
    · exact ⟨by simpa using zeroRun_le (g :: gs), take_zeroRun (g :: gs)⟩
    · refine ⟨?_, ih.2⟩
      have := ih.1
      rw [List.length_cons]
      omega

/-- What an elision leaves out is put back between its two sides. -/
theorem append_replicate_longestZeroRun (gs : List Nat) :
    gs.take (longestZeroRun gs).1 ++ List.replicate (longestZeroRun gs).2 0 ++
      gs.drop ((longestZeroRun gs).1 + (longestZeroRun gs).2) = gs := by
  rw [← (longestZeroRun_spec gs).2, List.append_assoc, ← List.drop_drop, List.take_append_drop,
    List.take_append_drop]

/-! ## What an address is written with -/

section Characters

variable {P : Char → Prop} (hdigit : ∀ d < 16, P (Nat.digitChar d))

include hdigit

theorem forall_mem_toDigits {base : Nat} (hb : 1 < base) (hb' : base ≤ 16) (n : Nat) :
    ∀ c ∈ Nat.toDigits base n, P c := by
  intro c hc
  obtain ⟨d, hd, rfl⟩ := mem_toDigits hb hc
  exact hdigit d (Nat.lt_of_lt_of_le hd hb')

theorem forall_mem_dotted (hdot : P '.') (n : Nat) : ∀ c ∈ dotted n, P c := by
  intro c hc
  rcases mem_joined hc with rfl | ⟨p, hp, hc⟩
  · exact hdot
  · obtain ⟨d, -, rfl⟩ := List.mem_map.1 hp
    exact forall_mem_toDigits hdigit (by decide) (by decide) d c hc

theorem forall_mem_colonGroups (hcolon : P ':') (gs : List Nat) : ∀ c ∈ colonGroups gs, P c := by
  intro c hc
  rcases mem_joined hc with rfl | ⟨p, hp, hc⟩
  · exact hcolon
  · obtain ⟨g, -, rfl⟩ := List.mem_map.1 hp
    exact forall_mem_toDigits hdigit (by decide) (by decide) g c hc

theorem forall_mem_elidedGroups (hcolon : P ':') (gs : List Nat) : ∀ c ∈ elidedGroups gs, P c := by
  intro c hc
  simp only [elidedGroups] at hc
  split at hc
  · rcases List.mem_append.1 hc with hc | hc
    · exact forall_mem_colonGroups hdigit hcolon _ c hc
    · simp only [List.mem_cons] at hc
      rcases hc with rfl | rfl | hc
      · exact hcolon
      · exact hcolon
      · exact forall_mem_colonGroups hdigit hcolon _ c hc
  · exact forall_mem_colonGroups hdigit hcolon _ c hc

/-- **Digits, dots and colons are all that an address is written with.** -/
theorem Address.forall_mem_chars (hdot : P '.') (hcolon : P ':') (a : Address) : ∀ c ∈ a.chars, P c := by
  cases a with
  | v4 bits => exact forall_mem_dotted hdigit hdot bits.toNat
  | v6 bits =>
    rw [chars]
    split
    · intro c hc
      rcases List.mem_append.1 hc with hc | hc
      · have hf : P 'f' := hdigit 15 (by decide)
        simp only [String.reduceToList, List.mem_cons, List.not_mem_nil, or_false] at hc
        rcases hc with rfl | rfl | rfl | rfl | rfl | rfl | rfl <;> assumption
      · exact forall_mem_dotted hdigit hdot _ c hc
    · exact forall_mem_elidedGroups hdigit hcolon _

end Characters

/-! ## Eight groups -/

/-- **Eight groups are read back**, an elided run of zeros included. -/
theorem eightGroups?_elidedGroups (l : Leniency) {gs : List Nat} (hlen : gs.length = 8)
    (h : ∀ g ∈ gs, g < 65536) : eightGroups? l (elidedGroups gs) = some gs := by
  obtain ⟨hinside, -⟩ := longestZeroRun_spec gs
  have hback := append_replicate_longestZeroRun gs
  rw [elidedGroups]
  generalize longestZeroRun gs = run at hinside hback
  obtain ⟨start, length⟩ := run
  simp only at hinside hback ⊢
  split
  · rename_i hlong
    have hfront : ∀ g ∈ gs.take start, g < 65536 := fun g hg => h g (List.mem_of_mem_take hg)
    have hrest : ∀ g ∈ gs.drop (start + length), g < 65536 := fun g hg => h g (List.mem_of_mem_drop hg)
    have hbefore := sideGroups?_colonGroups none hfront
    have hafter := sideGroups?_colonGroups (some l) hrest
    have hstart : (gs.take start).length = start := by rw [List.length_take]; omega
    have hend : (gs.drop (start + length)).length = 8 - start - length := by
      rw [List.length_drop]; omega
    have hfill : 8 - start - (8 - start - length) = length := by omega
    rw [eightGroups?, elision?_colonGroups_append]
    simp only [hbefore, hafter, Option.bind_some, hstart, hend, hfill, hback]
    rw [if_pos]
    refine ⟨by omega, ?_⟩
    split <;> omega
  · have hne : gs ≠ [] := by rintro rfl; cases hlen
    rw [eightGroups?, elision?_colonGroups]
    simp only [pieces_colonGroups hne, groups?_hexadecimal (some l) h]
    simp [hlen]

/-- A mapped address is read back: the octets at its end are the last two groups. -/
theorem eightGroups?_mapped (l : Leniency) {m : Nat} (h : m < Family.v4.size) :
    eightGroups? l ("::ffff:".toList ++ dotted m) =
      some [0, 0, 0, 0, 0, 0xffff, m / 65536 % 65536, m % 65536] := by
  have hcolon : ':' ∉ dotted m := fun hc =>
    forall_mem_dotted (P := fun c => c ≠ ':') (by decide) (by decide) m ':' hc rfl
  have hdot : '.' ∈ dotted m := by
    simp [dotted, places, joined]
  have hgroup : group? (dotted m) = none := by
    rw [group?]
    split
    · cases hn : number? 16 (dotted m) with
      | none => rfl
      | some n => cases digit?_isSome_of_number? hn '.' hdot
    · rfl
  have hpieces : pieces ':' ("ffff:".toList ++ dotted m) = ["ffff".toList, dotted m] := by
    show pieces ':' ("ffff".toList ++ ':' :: dotted m) = _
    rw [pieces_append (by decide), pieces_of_not_mem hcolon]
  have hside : sideGroups? (some l) ("ffff:".toList ++ dotted m) =
      some (0xffff :: places 65536 2 m) := by
    rw [sideGroups?]
    · rw [hpieces, groups?]
      · have hf : group? "ffff".toList = some 0xffff := by decide
        rw [hf, groups?, hgroup]
        simp [dotted?_dotted l h]
      · simp
    · simp
  have helision : elision? ("::ffff:".toList ++ dotted m) = some ([], "ffff:".toList ++ dotted m) := rfl
  have hfront : sideGroups? none [] = some [] := rfl
  rw [eightGroups?, helision]
  simp only [hfront, hside, Option.bind_some]
  rw [if_pos]
  · simp [places, List.replicate]
  · simp only [places, List.length_cons, List.length_append, List.length_nil]
    split <;> omega

/-! ## Addresses -/

/-- A 128-bit number is its top part and, below, what a mapped address holds. -/
theorem ofPlaces_mapped {n : Nat} (hm : n / Family.v4.size = 0xffff) :
    ofPlaces 65536 [0, 0, 0, 0, 0, 0xffff, n % Family.v4.size / 65536 % 65536,
      n % Family.v4.size % 65536] = n := by
  simp only [Family.size] at hm ⊢
  simp only [ofPlaces, List.foldl_cons, List.foldl_nil]
  omega

theorem colon_mem_elidedGroups {gs : List Nat} (h : gs.length = 8) : ':' ∈ elidedGroups gs := by
  simp only [elidedGroups]
  split
  · simp
  · match gs with
    | [] => cases h
    | [g] => cases h
    | g :: g' :: gs => simp [colonGroups_cons]

namespace Address

/-- **An address is read back from its text.** -/
theorem ofChars?_chars (l : Leniency) (a : Address) : ofChars? l a.chars = some a := by
  cases a with
  | v4 bits =>
    have h : bits.toNat < Family.v4.size := bits.isLt
    rw [chars, ofChars?, dotted?_dotted l h]
    simp [Family.address]
  | v6 bits =>
    have h : bits.toNat < Family.v6.size := bits.isLt
    rw [chars]
    split
    · rename_i hm
      have hlow : bits.toNat % Family.v4.size < Family.v4.size := Nat.mod_lt _ (by decide)
      rw [ofChars?, dotted?_of_colon l (by simp), eightGroups?_mapped l hlow]
      simp only [Option.map_some, ofPlaces_mapped hm]
      simp [Family.address]
    · have hlen := length_places 65536 8 bits.toNat
      rw [ofChars?, dotted?_of_colon l (colon_mem_elidedGroups hlen),
        eightGroups?_elidedGroups l hlen (places_lt (by decide) 8 bits.toNat)]
      simp only [Option.map_some, ofPlaces_groups h]
      simp [Family.address]

theorem toList_text (a : Address) : a.text.toList = a.chars := String.toList_ofList

theorem ofText?_text (a : Address) : ofText? a.text = some a := by
  rw [ofText?, toList_text, ofChars?_chars]

/-- Two addresses never share a text. -/
theorem text_injective {a b : Address} (h : a.text = b.text) : a = b := by
  have ha := ofText?_text a
  rw [h, ofText?_text b] at ha
  exact (Option.some.inj ha).symm

theorem isBlank_chars (a : Address) : ∀ c ∈ a.chars, isBlank c = false :=
  a.forall_mem_chars (fun _ hd => (digitChar_plain hd).1) (by decide) (by decide)

/-- The text of an address is not empty: the empty text is no address. -/
theorem chars_ne_nil (a : Address) : a.chars ≠ [] := by
  intro h
  have ha := ofChars?_chars .strict a
  rw [h] at ha
  cases ha

/-- The text of an address has nothing to trim. -/
theorem trim_toList_text (a : Address) : trim a.text.toList = a.chars := by
  rw [toList_text, trim_of_no_blank a.isBlank_chars]

end Address

end Allotment
