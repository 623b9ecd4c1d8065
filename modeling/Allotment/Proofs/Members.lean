import Mathlib.Data.List.Forall2
import Mathlib.Data.List.Nodup
import Allotment.Json.Form
/-!
# The members of an object

An object has its members in no order: a value with the members of its objects written in
another order is the same value (`Rearranged`).  As long as no name occurs twice, looking a
member up does not depend on the order (`exists_obj_of_rearranged`), and so neither does
what the fields of a record are (`exists_fields?_of_rearranged`).
-/
namespace Allotment

theorem nodup_keys {κ α : Type} [Ord κ] [Std.TransOrd κ] [Std.LawfulEqOrd κ] (m : Std.ExtTreeMap κ α) :
    (m.toList.map (·.1)).Nodup := by
  rw [List.nodup_iff_pairwise_ne, List.pairwise_map]
  exact Std.ExtTreeMap.distinct_keys_toList.imp fun hne heq =>
    hne (Std.LawfulEqCmp.compare_eq_iff_eq.2 heq)

namespace Json

mutual

/-- A value, and the same with the members of its objects in some order, at whatever depth. -/
inductive Rearranged : Json → Json → Prop where
  | refl (j : Json) : Rearranged j j
  | arr {items items' : List Json} : RearrangedItems items items' → Rearranged (.arr items) (.arr items')
  | obj {members members' members'' : List (String × Json)} : RearrangedMembers members members' →
      members'.Perm members'' → Rearranged (.obj members) (.obj members'')

/-- Items that are the same one by one. -/
inductive RearrangedItems : List Json → List Json → Prop where
  | nil : RearrangedItems [] []
  | cons {j j' : Json} {items items' : List Json} : Rearranged j j' → RearrangedItems items items' →
      RearrangedItems (j :: items) (j' :: items')

/-- Members that have the same names and the same values one by one. -/
inductive RearrangedMembers : List (String × Json) → List (String × Json) → Prop where
  | nil : RearrangedMembers [] []
  | cons {name : String} {j j' : Json} {members members' : List (String × Json)} : Rearranged j j' →
      RearrangedMembers members members' → RearrangedMembers ((name, j) :: members) ((name, j') :: members')

end

theorem RearrangedItems.refl : ∀ items : List Json, RearrangedItems items items
  | [] => .nil
  | j :: items => .cons (.refl j) (refl items)

theorem RearrangedMembers.refl : ∀ members : List (String × Json), RearrangedMembers members members
  | [] => .nil
  | (_, j) :: members => .cons (.refl j) (refl members)

theorem eq_str_of_rearranged {s : String} {j : Json} (h : Rearranged (str s) j) : j = str s := by
  cases h
  rfl

theorem eq_int_of_rearranged {n : Int} {j : Json} (h : Rearranged (int n) j) : j = int n := by
  cases h
  rfl

theorem exists_arr_of_rearranged {items : List Json} {j : Json} (h : Rearranged (arr items) j) :
    ∃ items', j = arr items' ∧ RearrangedItems items items' := by
  cases h with
  | refl => exact ⟨items, rfl, .refl items⟩
  | arr hitems => exact ⟨_, rfl, hitems⟩

/-! ## Looking members up -/

/-- A name that occurs once has the value that stands under it. -/
theorem lookup_eq_some_iff_mem {α : Type} {name : String} {a : α} : ∀ {members : List (String × α)},
    (members.map (·.1)).Nodup → (members.lookup name = some a ↔ (name, a) ∈ members)
  | [], _ => by simp
  | (name', a') :: members, hnodup => by
    rw [List.map_cons, List.nodup_cons] at hnodup
    rw [List.lookup_cons, List.mem_cons]
    by_cases hname : name = name'
    · subst hname
      have hlater : (name, a) ∉ members := fun hmem => hnodup.1 (List.mem_map.2 ⟨_, hmem, rfl⟩)
      simp [hlater, eq_comm]
    · have hne : (name == name') = false := beq_false_of_ne hname
      simp [hne, hname, lookup_eq_some_iff_mem hnodup.2]

theorem lookup_perm {α : Type} {members members' : List (String × α)} (h : members.Perm members')
    (hnodup : (members.map (·.1)).Nodup) (name : String) : members.lookup name = members'.lookup name := by
  have hnodup' : (members'.map (·.1)).Nodup := (h.map _).nodup_iff.1 hnodup
  apply Option.ext
  intro a
  rw [lookup_eq_some_iff_mem hnodup, lookup_eq_some_iff_mem hnodup', h.mem_iff]

namespace RearrangedMembers

theorem names {members members' : List (String × Json)} :
    RearrangedMembers members members' → members'.map (·.1) = members.map (·.1)
  | .nil => rfl
  | .cons _ h => by rw [List.map_cons, List.map_cons, names h]

theorem lookup {members members' : List (String × Json)} (name : String) :
    RearrangedMembers members members' →
      Option.Rel Rearranged (members.lookup name) (members'.lookup name)
  | .nil => .none
  | @RearrangedMembers.cons name' _ _ _ _ hj h => by
    rw [List.lookup_cons, List.lookup_cons]
    cases name == name' with
    | true => exact .some hj
    | false => exact lookup name h

end RearrangedMembers

/-- **Looking up a member of an object does not depend on the order of the members.** -/
theorem exists_obj_of_rearranged {members : List (String × Json)} {j : Json}
    (hnodup : (members.map (·.1)).Nodup) (h : Rearranged (obj members) j) :
    ∃ members', j = obj members' ∧ (members'.map (·.1)).Nodup ∧
      ∀ name, Option.Rel Rearranged (members.lookup name) (members'.lookup name) := by
  have hsplit : ∃ members' members'', j = obj members'' ∧ RearrangedMembers members members' ∧
      members'.Perm members'' := by
    cases h with
    | refl => exact ⟨members, members, rfl, .refl members, .refl members⟩
    | obj hmembers hperm => exact ⟨_, _, rfl, hmembers, hperm⟩
  obtain ⟨members', members'', rfl, hmembers, hperm⟩ := hsplit
  rw [← hmembers.names] at hnodup
  refine ⟨members'', rfl, (hperm.map _).nodup_iff.1 hnodup, fun name => ?_⟩
  rw [← lookup_perm hperm hnodup name]
  exact hmembers.lookup name

theorem exists_single_of_rearranged {name : String} {v j : Json} (h : Rearranged (obj [(name, v)]) j) :
    ∃ v', j = obj [(name, v')] ∧ Rearranged v v' := by
  cases h with
  | refl => exact ⟨v, rfl, .refl v⟩
  | obj hmembers hperm =>
    cases hmembers with
    | cons hv hrest =>
      cases hrest
      rw [List.singleton_perm] at hperm
      exact ⟨_, by rw [← hperm], hv⟩

/-! ## The fields of a record -/

/-- The members of a record's fields, of which those that are there are written. -/
def present (fields : List (String × Option Json)) : List (String × Json) :=
  fields.filterMap fun f => f.2.map (f.1, ·)

theorem present_names_sublist : ∀ fields : List (String × Option Json),
    ((present fields).map (·.1)).Sublist (fields.map (·.1))
  | [] => .slnil
  | (name, none) :: fields => (present_names_sublist fields).cons name
  | (name, some _) :: fields => (present_names_sublist fields).cons_cons name

theorem mem_present {fields : List (String × Option Json)} {name : String} {j : Json} :
    (name, j) ∈ present fields ↔ (name, some j) ∈ fields := by
  simp [present]

theorem lookup_present {fields : List (String × Option Json)} {name : String} {field : Option Json}
    (hnodup : (fields.map (·.1)).Nodup) (hmem : (name, field) ∈ fields) :
    (present fields).lookup name = field := by
  have hpresent := hnodup.sublist (present_names_sublist fields)
  apply Option.ext
  intro j
  rw [lookup_eq_some_iff_mem hpresent, mem_present, ← lookup_eq_some_iff_mem hnodup,
    (lookup_eq_some_iff_mem hnodup).2 hmem, Option.some.injEq]

/-- **The fields of a record do not depend on the order of the members**, and a field that was not
written is not there. -/
theorem exists_fields?_of_rearranged (names : List String) {fields : List (String × Option Json)} {j : Json}
    (hnames : fields.map (·.1) = names) (hnodup : names.Nodup) (h : Rearranged (obj (present fields)) j) :
    ∃ values, j.fields? names = some values ∧
      List.Forall₂ (Option.Rel Rearranged) (fields.map (·.2)) values := by
  subst hnames
  obtain ⟨members, rfl, -, hlookup⟩ :=
    exists_obj_of_rearranged (hnodup.sublist (present_names_sublist fields)) h
  refine ⟨_, rfl, ?_⟩
  rw [List.map_map, List.forall₂_map_left_iff, List.forall₂_map_right_iff, List.forall₂_same]
  rintro ⟨name, field⟩ hmem
  have hfield := hlookup name
  rw [lookup_present hnodup hmem] at hfield
  exact hfield

end Json

end Allotment
