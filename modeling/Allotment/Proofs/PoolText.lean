import Allotment.Proofs.AddressText
import Allotment.Proofs.Extent
/-!
# Pools written and read again

A pool that was read from an entry is read back from its own text (`ofEntry_text`).  A pool
that was not may come back trimmed, but if it describes an interval it still describes the
same one (`interval_of_ofEntry_text`): blanks are of no account, and a dash is no part of
an address (`dash_not_mem_of_ofChars?`), so the first dash of a range is the one between its
ends.
-/
namespace Allotment

open Text

/-! ## The characters of an address -/

/-- A hexadecimal digit, or what separates the parts of an address. -/
def IsAddressChar (c : Char) : Prop := c = '.' ∨ c = ':' ∨ (digit? 16 c).isSome = true

theorem isAddressChar_of_digit? {base : Nat} (hb : base ≤ 16) {c : Char} (h : (digit? base c).isSome = true) :
    IsAddressChar c := by
  refine .inr (.inr ?_)
  unfold digit? at h ⊢
  cases hc : digitValue? c with
  | none => simp [hc] at h
  | some d =>
    simp only [hc, Option.isSome_filter, Option.any_some, decide_eq_true_eq] at h ⊢
    omega

theorem isAddressChar_of_number? {base n : Nat} (hb : base ≤ 16) {p : List Char} (h : number? base p = some n) :
    ∀ c ∈ p, IsAddressChar c :=
  fun c hc => isAddressChar_of_digit? hb (digit?_isSome_of_number? h c hc)

/-- What holds of the separator and of every piece holds of the text. -/
theorem forall_mem_of_pieces {P : Char → Prop} {sep : Char} (hsep : P sep) {cs : List Char}
    (h : ∀ p ∈ pieces sep cs, ∀ c ∈ p, P c) : ∀ c ∈ cs, P c := by
  intro c hc
  rw [← joined_pieces sep cs] at hc
  rcases mem_joined hc with rfl | ⟨p, hp, hcp⟩
  · exact hsep
  · exact h p hp c hcp

theorem isAddressChar_of_dotted? {l : Leniency} {cs : List Char} {n : Nat} (h : dotted? l cs = some n) :
    ∀ c ∈ cs, IsAddressChar c := by
  unfold dotted? at h
  cases hm : (pieces '.' cs).mapM (octet? l) with
  | none => simp [hm] at h
  | some ds =>
    refine forall_mem_of_pieces (.inl rfl) fun p hp c hc => ?_
    exact isAddressChar_of_digit? (by decide) (digit?_isSome_of_octet? (mapM_isSome hm p hp) c hc)

theorem isAddressChar_of_group? {p : List Char} {g : Nat} (h : group? p = some g) : ∀ c ∈ p, IsAddressChar c := by
  unfold group? at h
  split at h
  · exact isAddressChar_of_number? (by decide) h
  · cases h

theorem isAddressChar_of_groups? {octets : Option Leniency} : ∀ {ps : List (List Char)} {gs : List Nat},
    groups? octets ps = some gs → ∀ p ∈ ps, ∀ c ∈ p, IsAddressChar c
  | [], _, _ => by simp
  | [p], gs, h => by
    rw [List.forall_mem_singleton]
    rw [groups?] at h
    cases hp : group? p with
    | some g => exact isAddressChar_of_group? hp
    | none =>
      -- the last group may be four octets instead
      cases octets with
      | none => simp [hp] at h
      | some l =>
        cases hd : dotted? l p with
        | none => simp [hp, hd] at h
        | some n => exact isAddressChar_of_dotted? hd
  | p :: q :: ps, gs, h => by
    rw [List.forall_mem_cons]
    rw [groups?] at h
    · obtain ⟨g, hg, h⟩ := Option.bind_eq_some_iff.1 h
      obtain ⟨gs', hgs, -⟩ := Option.map_eq_some_iff.1 h
      exact ⟨isAddressChar_of_group? hg, isAddressChar_of_groups? hgs⟩
    · simp

theorem isAddressChar_of_sideGroups? {octets : Option Leniency} {cs : List Char} {gs : List Nat}
    (h : sideGroups? octets cs = some gs) : ∀ c ∈ cs, IsAddressChar c := by
  cases cs with
  | nil => simp
  | cons c cs => exact forall_mem_of_pieces (.inr (.inl rfl)) (isAddressChar_of_groups? h)

theorem eq_of_elision? : ∀ {cs a b : List Char}, elision? cs = some (a, b) → cs = a ++ ':' :: ':' :: b := by
  intro cs
  fun_induction elision? cs with
  | case1 cs => rintro a b ⟨⟩; rfl
  | case2 c cs _ ih =>
    intro a b h
    obtain ⟨⟨a', b'⟩, hp, hab⟩ := Option.map_eq_some_iff.1 h
    cases hab
    rw [List.cons_append, ← ih hp]
  | case3 => intro a b h; cases h

theorem isAddressChar_of_eightGroups? {l : Leniency} {cs : List Char} {gs : List Nat}
    (h : eightGroups? l cs = some gs) : ∀ c ∈ cs, IsAddressChar c := by
  unfold eightGroups? at h
  cases he : elision? cs with
  | none =>
    simp only [he] at h
    obtain ⟨hgroups, -⟩ := Option.filter_eq_some_iff.1 h
    exact forall_mem_of_pieces (.inr (.inl rfl)) (isAddressChar_of_groups? hgroups)
  | some sides =>
    obtain ⟨before, after⟩ := sides
    simp only [he] at h
    obtain ⟨hs, hbefore, h⟩ := Option.bind_eq_some_iff.1 h
    obtain ⟨ts, hafter, -⟩ := Option.bind_eq_some_iff.1 h
    rw [eq_of_elision? he]
    intro c hc
    simp only [List.mem_append, List.mem_cons] at hc
    rcases hc with hc | rfl | rfl | hc
    · exact isAddressChar_of_sideGroups? hbefore c hc
    · exact .inr (.inl rfl)
    · exact .inr (.inl rfl)
    · exact isAddressChar_of_sideGroups? hafter c hc

/-- **An address holds digits, dots and colons only**, however lenient the reader is. -/
theorem isAddressChar_of_ofChars? {l : Leniency} {cs : List Char} {a : Address}
    (h : Address.ofChars? l cs = some a) : ∀ c ∈ cs, IsAddressChar c := by
  unfold Address.ofChars? at h
  cases hd : dotted? l cs with
  | some n => exact isAddressChar_of_dotted? hd
  | none =>
    simp only [hd] at h
    obtain ⟨gs, hgs, -⟩ := Option.map_eq_some_iff.1 h
    exact isAddressChar_of_eightGroups? hgs

theorem dash_not_mem_of_ofChars? {l : Leniency} {cs : List Char} {a : Address}
    (h : Address.ofChars? l cs = some a) : '-' ∉ cs := by
  intro hdash
  rcases isAddressChar_of_ofChars? h '-' hdash with hdot | hcolon | hdigit
  · cases hdot
  · cases hcolon
  · cases hdigit

/-! ## Entries -/

namespace Pool

theorem ofEntry_cidr (entry : String) : ofEntry .cidr entry = .ok (cidr (trimmed entry)) := rfl

/-- **A range is cut at the first dash of its entry.** -/
theorem ofEntry_range {entry : String} {a b : List Char} (h : entry.toList = a ++ '-' :: b) (ha : '-' ∉ a) :
    ofEntry .range entry = .ok (range (String.ofList (trim a)) (String.ofList (trim b))) := by
  have hstart : '-' ∉ trimStart a := fun hmem => ha (mem_of_mem_trimStart hmem)
  have htrim : trim entry.toList = trimStart a ++ '-' :: trimEnd b := by
    rw [h, trim_append_cons (by decide)]
  simp [ofEntry, htrim, cut?_append hstart, trim_trimStart, trim_trimEnd]

theorem ofEntry_range_of_no_dash {entry : String} (h : '-' ∉ entry.toList) :
    ofEntry .range entry = .error (.missingSeparator (trimmed entry)) := by
  have hcut : cut? '-' (trim entry.toList) = none := cut?_eq_none_iff.2 fun hmem => h (mem_of_mem_trim hmem)
  simp [ofEntry, hcut, trimmed]

/-- **An entry for a range** is cut at its first dash, or refused for want of one. -/
theorem ofEntry_range_cases (entry : String) :
    (∃ a b, entry.toList = a ++ '-' :: b ∧ '-' ∉ a ∧
      ofEntry .range entry = .ok (range (String.ofList (trim a)) (String.ofList (trim b)))) ∨
    '-' ∉ entry.toList ∧ ofEntry .range entry = .error (.missingSeparator (trimmed entry)) := by
  cases hcut : cut? '-' entry.toList with
  | none =>
    have hdash := cut?_eq_none_iff.1 hcut
    exact .inr ⟨hdash, ofEntry_range_of_no_dash hdash⟩
  | some ends =>
    obtain ⟨a, b⟩ := ends
    obtain ⟨hentry, ha⟩ := cut?_eq_some hcut
    exact .inl ⟨a, b, hentry, ha, ofEntry_range hentry ha⟩

theorem ofEntry_congr {entry entry' : String} (h : trim entry.toList = trim entry'.toList) (form : PoolForm) :
    ofEntry form entry = ofEntry form entry' := by
  unfold ofEntry; rw [h]

theorem toList_text_range (first last : String) :
    (range first last).text.toList = first.toList ++ '-' :: last.toList := by
  simp [text]

/-- **A pool that was read from an entry is read back from its text.** -/
theorem ofEntry_text {form : PoolForm} {entry : String} {p : Pool} (h : ofEntry form entry = .ok p) :
    p.form = form ∧ ofEntry form p.text = .ok p := by
  cases form with
  | cidr =>
    rw [ofEntry_cidr] at h
    cases h
    refine ⟨rfl, ?_⟩
    rw [text, ofEntry_cidr, trimmed_trimmed]
  | range =>
    rcases ofEntry_range_cases entry with ⟨a, b, -, ha, hread⟩ | ⟨-, hrefused⟩
    · rw [hread] at h
      cases h
      have htext := toList_text_range (String.ofList (trim a)) (String.ofList (trim b))
      rw [String.toList_ofList, String.toList_ofList] at htext
      refine ⟨rfl, ?_⟩
      rw [ofEntry_range htext fun hmem => ha (mem_of_mem_trim hmem), trim_trim, trim_trim]
    · rw [hrefused] at h
      cases h

theorem blockInterval_trimmed {block : String} {s : Interval} (h : blockInterval block = .ok s) :
    blockInterval (trimmed block) = .ok s := by
  have hsame : trim (trimmed block).toList = trim block.toList := by simp [trimmed, trim_trim]
  unfold blockInterval at h ⊢
  rw [hsame]
  cases hb : Block.ofChars? (trim block.toList) with
  | none => simp [hb] at h
  | some b => simpa [hb] using h

/-- **A pool that describes an interval is read back as one that describes the same.** -/
theorem interval_of_ofEntry_text {p : Pool} {s : Interval} (h : p.interval = .ok s) :
    ∃ p', ofEntry p.form p.text = .ok p' ∧ p'.interval = .ok s := by
  cases p with
  | cidr block =>
    refine ⟨cidr (trimmed block), ofEntry_cidr block, ?_⟩
    rw [interval] at h ⊢
    exact blockInterval_trimmed h
  | range first last =>
    cases interval_range_iff.1 h with
    | closed ha hb hf hle hmem =>
      have hdash : '-' ∉ trim first.toList := by
        rw [Address.ofText?, trimmed, String.toList_ofList] at ha
        exact dash_not_mem_of_ofChars? ha
      have hfirst : '-' ∉ first.toList := fun hc => hdash ((mem_trim_iff (by decide)).2 hc)
      refine ⟨range (trimmed first) (trimmed last), ofEntry_range (toList_text_range first last) hfirst, ?_⟩
      rw [interval_range_iff]
      exact .closed (by rw [trimmed_trimmed]; exact ha) (by rw [trimmed_trimmed]; exact hb) hf hle hmem

/-- **The text of a pool survives being written and read again.**  What was read from an entry is read back
as it is.  Any other pool, however its parts are spaced, is read back as one that describes the same
interval, if it describes one.  Blanks around an entry, or around the first dash of a range, are of no
account, also where the entry is refused. -/
theorem text_survives_rereading :
    (∀ (form : PoolForm) (entry : String) (p : Pool), ofEntry form entry = .ok p →
      p.form = form ∧ ofEntry form p.text = .ok p) ∧
    (∀ (p : Pool) (s : Interval), p.interval = .ok s →
      ∃ p', ofEntry p.form p.text = .ok p' ∧ p'.interval = p.interval) ∧
    (∀ (form : PoolForm) (before entry after : String), (∀ c ∈ before.toList, isBlank c = true) →
      (∀ c ∈ after.toList, isBlank c = true) →
      ofEntry form (before ++ entry ++ after) = ofEntry form entry) ∧
    ∀ first before after last : String, '-' ∉ first.toList → (∀ c ∈ before.toList, isBlank c = true) →
      (∀ c ∈ after.toList, isBlank c = true) →
      ofEntry .range (first ++ before ++ "-" ++ after ++ last) = ofEntry .range (first ++ "-" ++ last) := by
  refine ⟨fun form entry p h => ofEntry_text h, fun p s h => ?_, fun form before entry after hb ha => ?_,
    fun first before after last hfirst hb ha => ?_⟩
  · rw [h]
    exact interval_of_ofEntry_text h
  · refine ofEntry_congr ?_ form
    rw [String.toList_append, String.toList_append, trim_padded hb ha]
  · have hspaced : (first ++ before ++ "-" ++ after ++ last).toList =
        (first.toList ++ before.toList) ++ '-' :: (after.toList ++ last.toList) := by simp
    have hplain : (first ++ "-" ++ last).toList = first.toList ++ '-' :: last.toList := by simp
    have hdash : '-' ∉ first.toList ++ before.toList := by
      intro hmem
      rcases List.mem_append.1 hmem with hmem | hmem
      · exact hfirst hmem
      · exact absurd (hb _ hmem) (by decide)
    rw [ofEntry_range hspaced hdash, ofEntry_range hplain hfirst, trim_append_of_blank hb,
      trim_blank_append ha]

/-- A range whose ends are spaced comes back trimmed, and describes the same interval. -/
theorem text_survives_rereading_spaced :
    let p : Pool := range " 10.0.0.1" "10.0.0.9 "
    p.interval = .ok ⟨.v4, 0x0a000001, 0x0a000009, by decide, by decide⟩ ∧ ofEntry .range p.text ≠ .ok p ∧
      ofEntry .range (" " ++ p.text ++ " ") = ofEntry .range p.text ∧
      ∃ p', ofEntry p.form p.text = .ok p' ∧ p'.interval = p.interval := by
  intro p
  obtain ⟨-, hreread, hpadded, -⟩ := text_survives_rereading
  have hinterval : p.interval = .ok ⟨.v4, 0x0a000001, 0x0a000009, by decide, by decide⟩ := by decide +kernel
  have hblanks : ∀ c ∈ " ".toList, isBlank c = true := List.forall_mem_singleton.2 (by decide)
  exact ⟨hinterval, by decide +kernel, hpadded .range " " p.text " " hblanks hblanks, hreread p _ hinterval⟩

end Pool
end Allotment
