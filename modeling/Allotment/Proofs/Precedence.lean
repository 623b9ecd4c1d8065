import Allotment.Proofs.PoolText
import Allotment.Proofs.Verdict
/-!
# Precedence

One entry decides which pool governs a namespace: the first that is present under the keys
of the namespace (`PoolName.keys`), also if it cannot be read.  The order of precedence goes
by names, the document by texts, and two names share a text only if one of them belongs to
a namespace that is called like the word for all of them (`text_eq_iff`).  The first name
with an entry is still known from the text of its key (`firstOf?_of_present?`), so the
entries behind the first one, those of other namespaces and all others are of no account.
-/
namespace Allotment

open Text

/-! ## Names as texts -/

/-- The word for the scope in the names of pools. -/
def PoolScope.word : PoolScope → String
  | .within ns => ns
  | .everywhere => PoolName.everywhereWord

namespace PoolName

theorem text_eq (n : PoolName) : n.text = n.form.word ++ "-" ++ n.scope.word := by
  obtain ⟨form, scope⟩ := n
  cases scope <;> rfl

/-- **Names share a text only if their scopes share a word.** -/
theorem text_eq_iff {n n' : PoolName} : n.text = n'.text ↔ n.form = n'.form ∧ n.scope.word = n'.scope.word := by
  rw [text_eq, text_eq, ← String.toList_inj, ← String.toList_inj]
  simp only [String.toList_append]
  cases n.form <;> cases n'.form <;> simp [PoolForm.word]

/-- The keys under which a namespace's pool is looked for, the first to count first. -/
def keys (ns : String) : List String := (precedence ns).map text

theorem mem_keys_iff {ns : String} {n : PoolName} :
    n.text ∈ keys ns ↔ n.scope.word = ns ∨ n.scope.word = everywhereWord := by
  have hform : n.form = .cidr ∨ n.form = .range := by cases n.form <;> simp
  simp only [keys, precedence, List.map_cons, List.map_nil, List.mem_cons, List.not_mem_nil, or_false,
    text_eq_iff, PoolScope.word]
  tauto

/-- **Two namespaces look under the common keys only.** -/
theorem mem_keys_and_mem_keys_iff {ns other key : String} (hne : ns ≠ other) :
    key ∈ keys ns ∧ key ∈ keys other ↔ key = "cidr-global" ∨ key = "range-global" := by
  have hcommon : ∀ n : PoolName,
      n.scope.word = everywhereWord ↔ n.text = "cidr-global" ∨ n.text = "range-global" := by
    intro n
    have hcidr : "cidr-global" = text ⟨.cidr, .everywhere⟩ := rfl
    have hrange : "range-global" = text ⟨.range, .everywhere⟩ := rfl
    have hform : n.form = .cidr ∨ n.form = .range := by cases n.form <;> simp
    rw [hcidr, hrange, text_eq_iff, text_eq_iff]
    simp only [PoolScope.word]
    tauto
  constructor
  · rintro ⟨hkey, hkey'⟩
    obtain ⟨n, -, rfl⟩ := List.mem_map.1 hkey
    rw [mem_keys_iff] at hkey hkey'
    rw [← hcommon]
    rcases hkey with hword | hword
    · rcases hkey' with hword' | hword'
      · exact absurd (hword.symm.trans hword') hne
      · exact hword'
    · exact hword
  · rintro (rfl | rfl)
    · have hmem : ∀ ns, text ⟨.cidr, .everywhere⟩ ∈ keys ns := fun _ => mem_keys_iff.2 (.inr rfl)
      exact ⟨hmem ns, hmem other⟩
    · have hmem : ∀ ns, text ⟨.range, .everywhere⟩ ∈ keys ns := fun _ => mem_keys_iff.2 (.inr rfl)
      exact ⟨hmem ns, hmem other⟩

end PoolName

namespace PoolDocument

/-! ## The first key that is present -/

/-- The first of some keys under which there is an entry, with that entry. -/
def present? (d : PoolDocument) : List String → Option (String × String)
  | [] => none
  | key :: keys =>
    match d.get? key with
    | some entry => some (key, entry)
    | none => d.present? keys

theorem present?_map_text (d : PoolDocument) : ∀ names : List PoolName,
    d.present? (names.map PoolName.text) =
      Option.map (fun first => (first.1.text, first.2)) (d.firstOf? names)
  | [] => rfl
  | name :: names => by
    rw [List.map_cons, present?, firstOf?, entry?]
    cases d.get? name.text with
    | none => exact d.present?_map_text names
    | some entry => rfl

theorem entry?_of_firstOf? {d : PoolDocument} {names : List PoolName} {name : PoolName} {entry : String}
    (h : d.firstOf? names = some (name, entry)) : d.entry? name = some entry := by
  obtain ⟨-, -, -, -, hentry⟩ := (d.firstOf?_eq_some_iff names).1 h
  exact hentry

/-- **The first name with an entry is known from its key's text**, although names may share a text. -/
theorem firstOf?_of_present? {d d' : PoolDocument} : ∀ {names : List PoolName},
    d.present? (names.map PoolName.text) = d'.present? (names.map PoolName.text) →
      d.firstOf? names = d'.firstOf? names
  | [], _ => rfl
  | name :: names, h => by
    -- if only one document had an entry here, the other's first key would be the same and missing in it
    have hgap : ∀ {d d' : PoolDocument} {entry : String}, d.get? name.text = some entry →
        d'.get? name.text = none → some (name.text, entry) ≠ d'.present? (names.map PoolName.text) := by
      intro d d' entry _ habsent hsame
      rw [present?_map_text, eq_comm, Option.map_eq_some_iff] at hsame
      obtain ⟨⟨n, e⟩, hn, htext⟩ := hsame
      have hpresent : d'.get? n.text = some e := entry?_of_firstOf? hn
      rw [Prod.mk.injEq] at htext
      rw [htext.1, habsent] at hpresent
      cases hpresent
    rw [List.map_cons, present?, present?] at h
    rw [firstOf?, firstOf?, entry?, entry?]
    cases hd : d.get? name.text with
    | some entry =>
      cases hd' : d'.get? name.text with
      | some entry' =>
        simp only [hd, hd', Option.some.injEq, Prod.mk.injEq, true_and] at h
        rw [h]
      | none =>
        simp only [hd, hd'] at h
        exact absurd h (hgap hd hd')
    | none =>
      cases hd' : d'.get? name.text with
      | some entry' =>
        simp only [hd, hd'] at h
        exact absurd h.symm (hgap hd' hd)
      | none =>
        simp only [hd, hd'] at h
        exact firstOf?_of_present? h

theorem governing_of_present? {d d' : PoolDocument} {ns : String}
    (h : d.present? (PoolName.keys ns) = d'.present? (PoolName.keys ns)) : d.governing ns = d'.governing ns := by
  unfold governing
  rw [firstOf?_of_present? h]

/-- No key is looked at behind one that is present. -/
theorem present?_append_cons {d d' : PoolDocument} {first : String} (hfirst : (d.get? first).isSome = true)
    (after : List String) : ∀ {before : List String}, (∀ key ∈ before ++ [first], d'.get? key = d.get? key) →
    d'.present? (before ++ first :: after) = d.present? (before ++ first :: after)
  | [], h => by
    have hsame : d'.get? first = d.get? first := h first (by simp)
    obtain ⟨entry, hentry⟩ := Option.isSome_iff_exists.1 hfirst
    simp [present?, hsame, hentry]
  | key :: before, h => by
    rw [List.cons_append, List.forall_mem_cons] at h
    rw [List.cons_append, present?, present?, h.1, present?_append_cons hfirst after h.2]

/-! ## What becomes of it -/

/-- What the first entry that is present decides for a namespace. -/
inductive Resolution (d : PoolDocument) (ns : String) : Except Failure NamedPool → Prop where
  | unpooled : (∀ key ∈ PoolName.keys ns, d.get? key = none) → Resolution d ns (.error (.poolNotFound ns))
  | malformed {name : PoolName} {entry : String} : d.Governs ns name entry → name.form = .range →
      '-' ∉ entry.toList →
      Resolution d ns (.error (.invalidPool name.text (.missingSeparator (trimmed entry))))
  | found {name : PoolName} {entry : String} {pool : Pool} : d.Governs ns name entry →
      Pool.ofEntry name.form entry = .ok pool → Resolution d ns (.ok ⟨name, pool⟩)

theorem governing_of_governs {d : PoolDocument} {ns : String} {name : PoolName} {entry : String}
    (h : d.Governs ns name entry) :
    d.governing ns =
      match Pool.ofEntry name.form entry with
      | .ok pool => .ok ⟨name, pool⟩
      | .error reason => .error (.invalidPool name.text reason) := by
  cases hread : Pool.ofEntry name.form entry <;> simp [governing, governs_iff.1 h, hread]

theorem governing_of_absent {d : PoolDocument} {ns : String} (h : ∀ key ∈ PoolName.keys ns, d.get? key = none) :
    d.governing ns = .error (.poolNotFound ns) := by
  have hnames : ∀ n ∈ PoolName.precedence ns, d.entry? n = none := fun n hn => h _ (List.mem_map_of_mem hn)
  unfold governing
  rw [(d.firstOf?_eq_none_iff _).2 hnames]

theorem resolution_governing (d : PoolDocument) (ns : String) : d.Resolution ns (d.governing ns) := by
  cases hf : d.firstOf? (PoolName.precedence ns) with
  | none =>
    have habsent : ∀ key ∈ PoolName.keys ns, d.get? key = none := by
      intro key hkey
      obtain ⟨n, hn, rfl⟩ := List.mem_map.1 hkey
      exact (d.firstOf?_eq_none_iff _).1 hf n hn
    rw [governing_of_absent habsent]
    exact .unpooled habsent
  | some first =>
    obtain ⟨name, entry⟩ := first
    have hgoverns : d.Governs ns name entry := governs_iff.2 hf
    rw [governing_of_governs hgoverns]
    cases hp : Pool.ofEntry name.form entry with
    | ok pool => exact .found hgoverns hp
    | error reason =>
      -- only a range without a dash is refused
      cases hform : name.form with
      | cidr =>
        rw [hform, Pool.ofEntry_cidr] at hp
        cases hp
      | range =>
        rw [hform] at hp
        rcases Pool.ofEntry_range_cases entry with ⟨a, b, -, -, hread⟩ | ⟨hdash, hrefused⟩
        · rw [hread] at hp
          cases hp
        · rw [hrefused] at hp
          cases hp
          exact .malformed hgoverns hform hdash

/-- **What is resolved is what the first entry decides, and nothing else.** -/
theorem governing_eq_iff {d : PoolDocument} {ns : String} {v : Except Failure NamedPool} :
    d.governing ns = v ↔ d.Resolution ns v := by
  constructor
  · rintro rfl
    exact d.resolution_governing ns
  · intro h
    cases h with
    | unpooled habsent => exact governing_of_absent habsent
    | malformed hgoverns hform hdash =>
      rw [governing_of_governs hgoverns, hform, Pool.ofEntry_range_of_no_dash hdash]
    | found hgoverns hp => rw [governing_of_governs hgoverns, hp]

/-- Whether two namespaces are answered alike: from one key, in the same words, or both not at all. -/
inductive SameResolution : Except Failure NamedPool → Except Failure NamedPool → Prop where
  | unpooled (ns ns' : String) : SameResolution (.error (.poolNotFound ns)) (.error (.poolNotFound ns'))
  | invalid (key : String) (reason : PoolFault) :
      SameResolution (.error (.invalidPool key reason)) (.error (.invalidPool key reason))
  | found {name name' : PoolName} (pool : Pool) : name.text = name'.text →
      SameResolution (.ok ⟨name, pool⟩) (.ok ⟨name', pool⟩)

/-- What is resolved once the first entry is known, whatever the name it was found under. -/
theorem sameResolution_of_text {name name' : PoolName} (h : name.text = name'.text) (entry : String) :
    SameResolution
      (match Pool.ofEntry name.form entry with
        | .ok pool => .ok ⟨name, pool⟩
        | .error reason => .error (.invalidPool name.text reason))
      (match Pool.ofEntry name'.form entry with
        | .ok pool => .ok ⟨name', pool⟩
        | .error reason => .error (.invalidPool name'.text reason)) := by
  rw [(PoolName.text_eq_iff.1 h).1, h]
  cases Pool.ofEntry name'.form entry with
  | ok pool => exact .found pool h
  | error reason => exact .invalid _ reason

/-- Names that are looked for under the same keys, as far as there are entries, are answered alike. -/
theorem sameResolution_of_present? {d : PoolDocument} {ns ns' : String}
    (h : d.present? (PoolName.keys ns) = d.present? (PoolName.keys ns')) :
    SameResolution (d.governing ns) (d.governing ns') := by
  rw [PoolName.keys, PoolName.keys, present?_map_text, present?_map_text] at h
  unfold governing
  cases hf : d.firstOf? (PoolName.precedence ns) with
  | none =>
    rw [hf, Option.map_none, eq_comm, Option.map_eq_none_iff] at h
    rw [h]
    exact .unpooled ns ns'
  | some first =>
    rw [hf, Option.map_some, eq_comm, Option.map_eq_some_iff] at h
    obtain ⟨⟨name', entry'⟩, hf', hsame⟩ := h
    rw [Prod.mk.injEq] at hsame
    obtain ⟨htext, rfl⟩ := hsame
    rw [hf']
    exact sameResolution_of_text htext.symm _

/-- A namespace without entries of its own is looked for where one is that is called like all of them. -/
theorem present?_keys_of_unlisted {d : PoolDocument} {ns : String} (hcidr : d.get? ("cidr-" ++ ns) = none)
    (hrange : d.get? ("range-" ++ ns) = none) :
    d.present? (PoolName.keys PoolName.everywhereWord) = d.present? (PoolName.keys ns) := by
  have hkeys : PoolName.keys ns = ["cidr-" ++ ns, "cidr-global", "range-" ++ ns, "range-global"] := rfl
  have hglobal : PoolName.keys PoolName.everywhereWord =
      ["cidr-global", "cidr-global", "range-global", "range-global"] := rfl
  rw [hkeys, hglobal]
  simp only [present?, hcidr, hrange]
  cases d.get? "cidr-global" <;> cases d.get? "range-global" <;> rfl

/-- **The first entry that is present decides alone.**  It is the first under the four keys of the namespace;
without one there is no pool, and one that is there but malformed is not passed over (`Resolution`).  Two
documents with the same first entry under the same key resolve alike; so a document may be changed at will
behind the first key that is present, and under all keys that are not the namespace's.  Its keys are those
of the names made for it and of the names made for all, whatever characters it consists of: two namespaces
share the latter only.  A namespace that is called like all of them is answered as one without entries of
its own. -/
theorem governing_decided_by_first (d : PoolDocument) (ns : String) :
    PoolName.keys ns = ["cidr-" ++ ns, "cidr-global", "range-" ++ ns, "range-global"] ∧
    (∀ v, d.governing ns = v ↔ d.Resolution ns v) ∧
    (∀ d' : PoolDocument, d.present? (PoolName.keys ns) = d'.present? (PoolName.keys ns) →
      d.governing ns = d'.governing ns) ∧
    (∀ (d' : PoolDocument) (before : List String) (first : String) (after : List String),
      PoolName.keys ns = before ++ first :: after → (d.get? first).isSome = true →
      (∀ key ∈ before ++ [first], d'.get? key = d.get? key) → d'.governing ns = d.governing ns) ∧
    (∀ name : PoolName, name.text ∈ PoolName.keys ns ↔ name.scope.word = ns ∨ name.scope.word = "global") ∧
    (∀ other key : String, ns ≠ other →
      (key ∈ PoolName.keys ns ∧ key ∈ PoolName.keys other ↔ key = "cidr-global" ∨ key = "range-global")) ∧
    (d.get? ("cidr-" ++ ns) = none → d.get? ("range-" ++ ns) = none →
      SameResolution (d.governing "global") (d.governing ns)) := by
  refine ⟨rfl, fun v => governing_eq_iff, fun d' h => governing_of_present? h,
    fun d' before first after hkeys hfirst hsame => ?_, fun name => PoolName.mem_keys_iff,
    fun other key hne => PoolName.mem_keys_and_mem_keys_iff hne,
    fun hcidr hrange => sameResolution_of_present? (present?_keys_of_unlisted hcidr hrange)⟩
  refine governing_of_present? ?_
  rw [hkeys]
  exact present?_append_cons hfirst after hsame

/-- A namespace with a dash in its name has a malformed entry; a readable one behind it and another
namespace's change nothing, and a third namespace is answered from the common key. -/
theorem governing_decided_by_first_dashed :
    let d : PoolDocument :=
      (PoolDocument.empty.insert "range-a-b" "10.0.0.1").insert "range-global" "10.0.0.1-10.0.0.9"
    let d' : PoolDocument := (d.insert "cidr-a" "10.1.0.0/29").insert "range-global" "10.0.0.1"
    d.governing "a-b" = .error (.invalidPool "range-a-b" (.missingSeparator "10.0.0.1")) ∧
      d'.governing "a-b" = d.governing "a-b" ∧
      d.governing "c" = .ok ⟨⟨.range, .everywhere⟩, .range "10.0.0.1" "10.0.0.9"⟩ ∧
      SameResolution (d.governing "global") (d.governing "c") := by
  intro d d'
  obtain ⟨hkeys, -, -, hedits, -⟩ := d.governing_decided_by_first "a-b"
  obtain ⟨-, -, -, -, -, -, halike⟩ := d.governing_decided_by_first "c"
  have hsplit : PoolName.keys "a-b" = ["cidr-a-b", "cidr-global"] ++ "range-a-b" :: ["range-global"] := hkeys
  exact ⟨by decide +kernel, hedits d' _ _ _ hsplit (by decide +kernel) (by decide +kernel), by decide +kernel,
    halike (by decide +kernel) (by decide +kernel)⟩

end PoolDocument
end Allotment
