import Mathlib.Data.List.Basic
import Allotment.Service
/-!
# Namesakes

Which services have load balancers of the same name.  A name is an `a` and the first
characters of the uid without dashes (`toList_balancerName`), so it is shared exactly if
these agree (`balancerName_eq_iff`), wherever the dashes stand and however many bytes the
characters take.  The cap is set at a place counted in bytes; the places at which a text can
be cut are the valid positions of its encoding (`isValid_iff_cutAt?`), and what stands
before such a place has the bytes before it (`toByteArray_of_cutAt?`).
-/
namespace Allotment

namespace Text

variable {n : Nat} {cs a b u v : List Char}

/-! ## Places in the encoding -/

theorem utf8ByteSize_ofList : ∀ cs : List Char, (String.ofList cs).utf8ByteSize = byteLength cs
  | [] => rfl
  | c :: cs => by
    have hsplit : String.ofList (c :: cs) = String.singleton c ++ String.ofList cs := by
      rw [String.singleton_eq_ofList, ← String.ofList_append]
      rfl
    rw [hsplit, String.utf8ByteSize_append, String.utf8ByteSize_singleton, utf8ByteSize_ofList cs,
      byteLength]

/-- **A text can be cut at the valid positions of its encoding, and nowhere else.** -/
theorem isValid_iff_cutAt? :
    String.Pos.Raw.IsValid (String.ofList cs) ⟨n⟩ ↔ ∃ a b, cutAt? n cs = some (a, b) := by
  simp only [cutAt?_eq_some_iff, String.Pos.Raw.isValid_iff_exists_take_toList, String.toList_ofList,
    utf8ByteSize_ofList]
  constructor
  · rintro ⟨i, hi⟩
    exact ⟨cs.take i, cs.drop i, (List.take_append_drop i cs).symm, hi.symm⟩
  · rintro ⟨a, b, rfl, hn⟩
    refine ⟨a.length, ?_⟩
    rw [List.take_left]
    exact hn.symm

theorem toByteArray_of_cutAt? (h : cutAt? n cs = some (a, b)) :
    (String.ofList a).toByteArray = (String.ofList cs).toByteArray.extract 0 n := by
  obtain ⟨rfl, hn⟩ := cutAt?_eq_some_iff.1 h
  have hsize : n = (String.ofList a).toByteArray.size := by
    rw [String.size_toByteArray, utf8ByteSize_ofList, hn]
  rw [String.ofList_append, String.toByteArray_append, ByteArray.extract_append_eq_left hsize]

/-! ## Agreement -/

theorem take_eq_iff_getElem? : u.take n = v.take n ↔ ∀ i < n, u[i]? = v[i]? := by
  constructor
  · intro h i hi
    rw [← List.getElem?_take_of_lt hi, h, List.getElem?_take_of_lt hi]
  · intro h
    apply List.ext_getElem?
    intro i
    by_cases hi : i < n
    · rw [List.getElem?_take_of_lt hi, List.getElem?_take_of_lt hi, h i hi]
    · rw [List.getElem?_take_eq_none (Nat.le_of_not_lt hi), List.getElem?_take_eq_none (Nat.le_of_not_lt hi)]

/-- Where one of two texts is shorter than what is taken of both, all of both is taken. -/
theorem eq_of_take_eq (hshort : u.length < n ∨ v.length < n) (h : u.take n = v.take n) : u = v := by
  have hlength := congrArg List.length h
  rw [List.length_take, List.length_take] at hlength
  have hu : u.length ≤ n := by omega
  have hv : v.length ≤ n := by omega
  rwa [List.take_of_length_le hu, List.take_of_length_le hv] at h

/-- **Two texts begin alike if they agree character by character**, and in full if one of them is shorter. -/
theorem take_eq_take_iff :
    u.take n = v.take n ↔ if u.length < n ∨ v.length < n then u = v else ∀ i < n, u[i]? = v[i]? := by
  by_cases hshort : u.length < n ∨ v.length < n
  · rw [if_pos hshort]
    exact ⟨eq_of_take_eq hshort, congrArg _⟩
  · rw [if_neg hshort]
    exact take_eq_iff_getElem?

end Text

open Text

namespace Service

variable {s t : Service}

/-! ## Names -/

theorem balancerName?_eq_some (s : Service) : s.balancerName? = some s.balancerName :=
  (Option.some_get _).symm

theorem balancerName_eq (s : Service) : s.balancerName = String.ofList (s.uncappedName.take 32) :=
  Option.some.inj (s.balancerName?_eq_some.symm.trans s.balancerName?_eq)

theorem toList_balancerName (s : Service) : s.balancerName.toList = 'a' :: s.bareUid.take 31 := by
  rw [balancerName_eq, String.toList_ofList, uncappedName, List.take_succ_cons]

theorem balancerName_eq_iff : s.balancerName = t.balancerName ↔ s.bareUid.take 31 = t.bareUid.take 31 := by
  rw [← String.toList_inj, toList_balancerName, toList_balancerName, List.cons_inj_right]

theorem dash_not_mem_balancerName (s : Service) : '-' ∉ s.balancerName.toList := by
  rw [toList_balancerName, List.mem_cons, not_or]
  refine ⟨by decide, fun h => ?_⟩
  simpa [bareUid] using List.mem_of_mem_take h

theorem length_balancerName (s : Service) : s.balancerName.length = min 32 s.uncappedName.length := by
  rw [balancerName_eq, String.length_ofList, List.length_take]

/-- What is cut off a name, and how. -/
theorem balancerName_cut (s : Service) :
    match placeOf? 32 s.uncappedName with
    | none => s.uncappedName.length ≤ 32 ∧ s.balancerName = String.ofList s.uncappedName
    | some place => 32 < s.uncappedName.length ∧ s.balancerName.length = 32 ∧
        String.Pos.Raw.IsValid (String.ofList s.uncappedName) ⟨place⟩ ∧
        s.balancerName.toByteArray = (String.ofList s.uncappedName).toByteArray.extract 0 place := by
  cases hplace : placeOf? 32 s.uncappedName with
  | none =>
    have hshort := placeOf?_eq_none_iff.1 hplace
    refine ⟨hshort, ?_⟩
    rw [balancerName_eq, List.take_of_length_le hshort]
  | some place =>
    have hlong := (placeOf?_eq_some_iff.1 hplace).1
    have hcut := cutAt?_placeOf? hplace
    refine ⟨hlong, ?_, isValid_iff_cutAt?.2 ⟨_, _, hcut⟩, ?_⟩
    · rw [length_balancerName, Nat.min_eq_left (Nat.le_of_lt hlong)]
    · rw [balancerName_eq, toByteArray_of_cutAt? hcut]

/-- **Two load balancers are namesakes exactly if the kept parts of the uids agree.**  That is the uids
without dashes, up to their 31st character, or in full if one of them is shorter.  Every service has a name
for its load balancer: it starts with `a`, has no dash and no more than 32 characters.  If it were longer, it
is cut at the place of the 33rd character, which is a valid position of the encoding, and keeps the bytes
before that place. -/
theorem namesakes_exact (s t : Service) :
    (s.balancerName = t.balancerName ↔
      if s.bareUid.length < 31 ∨ t.bareUid.length < 31 then s.bareUid = t.bareUid
      else ∀ i < 31, s.bareUid[i]? = t.bareUid[i]?) ∧
    s.balancerName? = some s.balancerName ∧
    s.balancerName.toList.head? = some 'a' ∧ '-' ∉ s.balancerName.toList ∧ s.balancerName.length ≤ 32 ∧
    match placeOf? 32 s.uncappedName with
    | none => s.uncappedName.length ≤ 32 ∧ s.balancerName = String.ofList s.uncappedName
    | some place => 32 < s.uncappedName.length ∧ s.balancerName.length = 32 ∧
        String.Pos.Raw.IsValid (String.ofList s.uncappedName) ⟨place⟩ ∧
        s.balancerName.toByteArray = (String.ofList s.uncappedName).toByteArray.extract 0 place := by
  refine ⟨balancerName_eq_iff.trans take_eq_take_iff, s.balancerName?_eq_some, ?_,
    s.dash_not_mem_balancerName, ?_, s.balancerName_cut⟩
  · rw [toList_balancerName, List.head?_cons]
  · rw [length_balancerName]
    exact Nat.min_le_left 32 _

/-- Behind 31 characters of four bytes each, a uid may go on as it likes. -/
example (r : Service) :
    let uid (rest : List Char) := String.ofList (List.replicate 31 '😀' ++ rest)
    let s := { r with uid := uid ['-', 'b'] }
    let t := { r with uid := uid ['c', '-', 'd'] }
    s.balancerName = t.balancerName ∧ placeOf? 32 s.uncappedName = some 125 := by
  simp only [balancerName_eq_iff, uncappedName, bareUid, String.toList_ofList]
  decide

end Service
end Allotment
