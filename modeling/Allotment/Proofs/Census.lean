import Allotment.Proofs.ReadBack
/-!
# The census of claims

The claims of some services, counted and in order.  A service counts with the address that
its label is read as (`claimOf?_eq_bind`), so the set does not depend on how often or in
which order the services come, nor on which text of an address a label has, and a label
that cannot be read is as good as none.  As a list the claims ascend, the narrow family
first, and the size counts each address once (`Counted`); while further addresses are put
in, every one of them is told whether it is new (`insertEach`).
-/
namespace Allotment

open Text

/-! ## The order of addresses -/

/-- Whether an address comes before another: every narrow one before every wide one, and within a
family the lower number first. -/
def Address.ComesBefore (a b : Address) : Prop :=
  a.family = .v4 ∧ b.family = .v6 ∨ a.family = b.family ∧ a.value < b.value

theorem Address.compare_eq_lt_iff {a b : Address} : compare a b = .lt ↔ a.ComesBefore b := by
  have hrank : compare a b = compare a.rank b.rank := rfl
  rw [hrank, Nat.compare_eq_lt]
  cases a with
  | v4 x =>
    cases b with
    | v4 y => simp [ComesBefore, rank, family, value]
    | v6 y =>
      have hx := x.isLt
      refine iff_of_true ?_ (.inl ⟨rfl, rfl⟩)
      simp only [rank, Family.size]
      omega
  | v6 x =>
    cases b with
    | v4 y =>
      have hy := y.isLt
      refine iff_of_false ?_ ?_
      · simp only [rank, Family.size]
        omega
      · rintro (⟨hfamily, -⟩ | ⟨hfamily, -⟩) <;> cases hfamily
    | v6 y => simp [ComesBefore, rank, family, value]

/-- The service with a text on its address label. -/
def Service.labelled (s : Service) (text : String) : Service :=
  { s with labels := s.labels.insert addressLabel text }

theorem Service.address?_labelled (s : Service) (text : String) : (s.labelled text).address? = some text :=
  Std.ExtTreeMap.getElem?_insert_self

namespace Claims

variable {c : Claims} {a : Address}

/-! ## What counts -/

/-- **A service claims what its label is read as.** -/
theorem claimOf?_eq_bind (s : Service) :
    claimOf? s = s.address?.bind fun label => Address.ofText? (trimmed label) := by
  ext a
  rw [claimOf?_eq_some_iff, Option.bind_eq_some_iff]
  simp only [Address.ofText?, trimmed, String.toList_ofList]

theorem contains_ofServices_iff {ss : List Service} :
    (ofServices ss).contains a = true ↔
      ∃ s ∈ ss, ∃ label, s.address? = some label ∧ Address.ofText? (trimmed label) = some a := by
  simp only [contains_iff, mem_ofServices, claimOf?_eq_bind, Option.bind_eq_some_iff]

theorem ofServices_skip {s : Service} (h : claimOf? s = none) (before after : List Service) :
    ofServices (before ++ s :: after) = ofServices (before ++ after) := by
  rw [ofServices, ofServices, List.filterMap_append, List.filterMap_append, List.filterMap_cons_none h]

theorem ofServices_replace {s t : Service} (h : claimOf? t = claimOf? s) (before after : List Service) :
    ofServices (before ++ t :: after) = ofServices (before ++ s :: after) := by
  rw [ofServices, ofServices, List.filterMap_append, List.filterMap_append, List.filterMap_cons,
    List.filterMap_cons, h]

/-- **Neither the order of the services matters nor how often they come.** -/
theorem ofServices_congr {ss ss' : List Service} (h : ∀ s, s ∈ ss' ↔ s ∈ ss) :
    ofServices ss' = ofServices ss := by
  apply eq_of_mem_iff
  intro a
  simp only [mem_ofServices, h]

/-! ## Claims as a list -/

theorem mem_toList : a ∈ c.toList ↔ a ∈ c := Std.ExtTreeSet.mem_toList

theorem length_toList (c : Claims) : c.toList.length = c.size := Std.ExtTreeSet.length_toList

theorem pairwise_toList (c : Claims) : c.toList.Pairwise Address.ComesBefore :=
  Std.ExtTreeSet.ordered_toList.imp Address.compare_eq_lt_iff.1

theorem nodup_toList (c : Claims) : c.toList.Nodup :=
  Std.ExtTreeSet.distinct_toList.imp fun hne heq => hne (Std.LawfulEqCmp.compare_eq_iff_eq.2 heq)

theorem card_contains (c : Claims) : Nat.card {a // c.contains a = true} = c.size := by
  have hmem : ∀ a, a ∈ c.toList.toFinset ↔ c.contains a = true := fun a => by
    rw [List.mem_toFinset, mem_toList, contains_iff]
  rw [Nat.subtype_card _ hmem, List.toFinset_card_of_nodup c.nodup_toList, length_toList]

/-- The list of the claims and their size are those of the set. -/
structure Counted (c : Claims) : Prop where
  listed : ∀ a, a ∈ c.toList ↔ c.contains a = true
  ascending : c.toList.Pairwise Address.ComesBefore
  length : c.toList.length = c.size
  size : c.size = Nat.card {a // c.contains a = true}

theorem counted (c : Claims) : c.Counted where
  listed _ := mem_toList.trans contains_iff.symm
  ascending := c.pairwise_toList
  length := c.length_toList
  size := c.card_contains.symm

/-! ## Further addresses -/

theorem size_insert (c : Claims) (a : Address) :
    (c.insert a).size = c.size + if c.contains a = true then 0 else 1 := by
  show (c.addresses.insert a).size = c.addresses.size + if c.addresses.contains a = true then 0 else 1
  rw [Std.ExtTreeSet.size_insert]
  split <;> rfl

/-- The addresses put in one after another, and whether each of them was new. -/
def insertEach (c : Claims) : List Address → List Bool × Claims
  | [] => ([], c)
  | a :: as =>
    let (isNew, c') := c.insertNew a
    let (answers, last) := c'.insertEach as
    (isNew :: answers, last)

theorem insertEach_snd : ∀ (as : List Address) (c : Claims), (c.insertEach as).2 = as.foldl insert c
  | [], _ => rfl
  | a :: as, c => insertEach_snd as (c.insert a)

theorem length_insertEach : ∀ (as : List Address) (c : Claims), (c.insertEach as).1.length = as.length
  | [], _ => rfl
  | a :: as, c => congrArg (· + 1) (length_insertEach as (c.insert a))

/-- **An address is new if it was neither claimed nor put in before.** -/
theorem getElem?_insertEach (a : Address) (after : List Address) :
    ∀ (before : List Address) (c : Claims),
      (c.insertEach (before ++ a :: after)).1[before.length]? = some (decide (a ∉ c ∧ a ∉ before))
  | [], c => by
    show some (!c.contains a) = _
    simp [← contains_iff]
  | b :: before, c => by
    have hrest := getElem?_insertEach a after before (c.insert b)
    simp only [mem_insert, List.mem_cons, not_or] at hrest ⊢
    show ((c.insert b).insertEach (before ++ a :: after)).1[before.length]? = _
    rw [hrest]
    -- an address that is put in is claimed from then on
    congr 2
    rw [eq_comm (a := b), eq_iff_iff]
    tauto

/-- **The size grows with every address that is new, and with no other.** -/
theorem size_insertEach : ∀ (as : List Address) (c : Claims),
    (c.insertEach as).2.size = c.size + (c.insertEach as).1.count true
  | [], _ => rfl
  | a :: as, c => by
    have hrest := size_insertEach as (c.insert a)
    rw [size_insert] at hrest
    show ((c.insert a).insertEach as).2.size =
      c.size + ((!c.contains a) :: ((c.insert a).insertEach as).1).count true
    rw [hrest, List.count_cons, Nat.add_assoc]
    cases c.contains a with
    | true => simp
    | false => simp [Nat.add_comm]

/-- **The claims of some services are the addresses on their labels.**  An address is claimed if and as some
label, without the blanks around it, is a text of it.  So no label at all, a blank one and one that is no
address add nothing, wherever they stand; another text of the same address changes nothing, nor does
another order of the services or a repetition.  The claims ascend and the size counts each once, also
after further addresses are put in; of these each is told whether it is new, and the size grows with the
new ones. -/
theorem census_of_labels (ss : List Service) :
    (∀ a, (ofServices ss).contains a = true ↔
      ∃ s ∈ ss, ∃ label, s.address? = some label ∧ Address.ofText? (trimmed label) = some a) ∧
    (∀ before s after, ss = before ++ s :: after →
      (s.address? = none → ofServices ss = ofServices (before ++ after)) ∧
      ∀ label, s.address? = some label →
        (trimmed label = "" ∨ Address.ofText? (trimmed label) = none →
          ofServices ss = ofServices (before ++ after)) ∧
        ∀ text, Address.ofText? (trimmed text) = Address.ofText? (trimmed label) →
          ofServices (before ++ s.labelled text :: after) = ofServices ss) ∧
    (∀ ss', (∀ s, s ∈ ss' ↔ s ∈ ss) → ofServices ss' = ofServices ss) ∧
    (ofServices ss).Counted ∧
    ∀ as : List Address,
      let (answers, claims) := (ofServices ss).insertEach as
      claims.Counted ∧
      (∀ a, claims.contains a = true ↔ (ofServices ss).contains a = true ∨ a ∈ as) ∧
      claims.size = (ofServices ss).size + answers.count true ∧ answers.length = as.length ∧
      ∀ before a after, as = before ++ a :: after →
        answers[before.length]? = some (decide (a ∉ ofServices ss ∧ a ∉ before)) := by
  refine ⟨fun a => contains_ofServices_iff, ?_, fun ss' => ofServices_congr, counted _, fun as => ?_⟩
  · rintro before s after rfl
    refine ⟨fun hs => ?_, fun label hs => ⟨fun hlabel => ?_, fun text htext => ?_⟩⟩
    · exact ofServices_skip (by rw [claimOf?_eq_bind, hs, Option.bind_none]) before after
    · have hnone : Address.ofText? (trimmed label) = none := by
        rcases hlabel with hblank | hnone
        · rw [hblank]
          rfl
        · exact hnone
      exact ofServices_skip (by rw [claimOf?_eq_bind, hs, Option.bind_some, hnone]) before after
    · refine ofServices_replace ?_ before after
      rw [claimOf?_eq_bind, claimOf?_eq_bind, s.address?_labelled, hs, Option.bind_some, Option.bind_some,
        htext]
  · refine ⟨counted _, fun a => ?_, size_insertEach as _, length_insertEach as _, ?_⟩
    · rw [insertEach_snd, contains_iff, mem_foldl_insert, contains_iff]
    · rintro before a after rfl
      exact getElem?_insertEach a after before _

/-- Two texts of one address, a blank label, one that is no address, and the narrow family first. -/
example :
    let web : Service := ⟨"default", "web", "", ∅, none, 1, ⟨[]⟩⟩
    let claims := ofServices (["fd00:0:0::1", " ", "ten.zero", " 10.0.0.1", "fd00::1"].map web.labelled)
    claims.toList = [.v4 0x0a000001, .v6 0xfd000000000000000000000000000001] ∧
      (claims.insertEach [.v4 0x0a000001, .v4 0x0a000002, .v4 0x0a000002]).1 = [false, true, false] := by
  decide +kernel

end Claims
end Allotment
