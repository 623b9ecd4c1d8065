import Allotment.Proofs.Members
/-!
# Reading back what is written

Every stored thing is read back from its JSON form, whatever order the members come in
(`Reads`).  A record is written as the list of its fields, each under its name and left out
if there is nothing to write (`Json.present`); it is read field by field, and each field
needs only that its own value is read back.  So the form of a thing tells it from every
other, and writing what was read brings every form to rest (`ReadsBack`).
-/
namespace Allotment

namespace Json

variable {α : Type} {read : Json → Option α} {write : α → Json} {j : Json} {a : α}

/-- Whether a reader gets a value from some JSON, in whatever order the members stand. -/
def Reads (read : Json → Option α) (j : Json) (a : α) : Prop := ∀ j', Rearranged j j' → read j' = some a

/-- The same of a reader of fields, which may find nothing there. -/
def ReadsField (read : Option Json → Option α) (field : Option Json) (a : α) : Prop :=
  ∀ field', Option.Rel Rearranged field field' → read field' = some a

/-- What it means that a reader reads what a writer writes.  What is written is read back, in whatever
order its members stand, so no two values have the same form; and what is read from any JSON and
written again is read as the same value and is written the same once more. -/
structure ReadsBack (write : α → Json) (read : Json → Option α) : Prop where
  read_write : ∀ a j, Rearranged (write a) j → read j = some a
  injective : ∀ a b, Rearranged (write a) (write b) → a = b
  settles : ∀ j j', (read j).map write = some j' → read j' = read j ∧ (read j').map write = some j'

theorem readsBack_of_reads (h : ∀ a, Reads read (write a) a) : ReadsBack write read := by
  refine ⟨h, fun a b hab => ?_, fun j j' hj => ?_⟩
  · have hb := h a _ hab
    rw [h b _ (.refl _)] at hb
    exact (Option.some.inj hb).symm
  · obtain ⟨a, ha, rfl⟩ := Option.map_eq_some_iff.1 hj
    have hback := h a _ (.refl _)
    exact ⟨hback.trans ha.symm, by rw [hback]; rfl⟩

/-! ## Single values -/

theorem reads_str (s : String) : Reads string? (str s) s := by
  intro j h
  rw [eq_str_of_rearranged h]
  rfl

theorem reads_nullable_str (s : String) : Reads (nullable string?) (str s) (some s) := by
  intro j h
  rw [eq_str_of_rearranged h]
  rfl

theorem reads_below {bound n : Nat} (hn : n < bound) : Reads (below? bound) (int n) n := by
  intro j h
  rw [eq_int_of_rearranged h]
  simp [below?, hn]

theorem mapM_of_rearrangedItems (h : ∀ a, Reads read (write a) a) : ∀ {as : List α} {items : List Json},
    RearrangedItems (as.map write) items → items.mapM read = some as
  | [], _, .nil => rfl
  | a :: as, _, .cons ha hitems => by
    rw [List.mapM_cons, h a _ ha, mapM_of_rearrangedItems h hitems]
    rfl

theorem reads_list (h : ∀ a, Reads read (write a) a) (as : List α) :
    Reads (list? read) (arr (as.map write)) as := by
  intro j hj
  obtain ⟨items, rfl, hitems⟩ := exists_arr_of_rearranged hj
  exact mapM_of_rearrangedItems h hitems

/-! ## Texts by key -/

theorem names_ofTextMap (m : TextMap) :
    ((m.toList.map fun (name, t) => (name, str t)).map (·.1)).Nodup := by
  rw [List.map_map]
  exact nodup_keys m

theorem lookup_ofTextMap (m : TextMap) (name : String) :
    (m.toList.map fun (name, t) => (name, str t)).lookup name = m[name]?.map str := by
  apply Option.ext
  intro j
  rw [lookup_eq_some_iff_mem (names_ofTextMap m)]
  simp [Std.ExtTreeMap.mem_toList_iff_getElem?_eq_some]

theorem getElem?_insertIfNew (m : TextMap) (name' t name : String) :
    (m.insertIfNew name' t)[name]? = m[name]?.or (if name = name' then some t else none) := by
  simp only [Std.ExtTreeMap.getElem?_insertIfNew, Std.LawfulEqCmp.compare_eq_iff_eq]
  by_cases hname : name = name'
  · subst hname
    cases hm : m[name]? with
    | none => simp [Std.ExtTreeMap.mem_iff_isSome_getElem?, hm]
    | some old => simp [Std.ExtTreeMap.mem_iff_isSome_getElem?, hm]
  · simp [hname, Ne.symm hname]

/-- A map that is read has the text of the first member under each name. -/
theorem exists_textMap : ∀ {members : List (String × Json)} (m : TextMap), (∀ p ∈ members, ∃ t, p.2 = str t) →
    ∃ m' : TextMap, members.foldlM (fun m (name, j) => j.string?.map fun t => m.insertIfNew name t) m = some m' ∧
      ∀ name : String, m'[name]? = m[name]?.or ((members.lookup name).bind string?)
  | [], m, _ => ⟨m, rfl, fun name => by simp⟩
  | (name', j) :: members, m, htexts => by
    rw [List.forall_mem_cons] at htexts
    obtain ⟨⟨t, ht⟩, htexts⟩ := htexts
    obtain rfl : j = str t := ht
    obtain ⟨m', hm', hget⟩ := exists_textMap (m.insertIfNew name' t) htexts
    refine ⟨m', hm', fun name => ?_⟩
    rw [hget, getElem?_insertIfNew, Option.or_assoc, List.lookup_cons]
    by_cases hname : name = name'
    · simp [hname, string?]
    · have hne : (name == name') = false := beq_false_of_ne hname
      simp [hne, hname]

theorem reads_textMap (m : TextMap) : Reads textMap? (ofTextMap m) m := by
  intro j hj
  obtain ⟨members, rfl, hnodup, hlookup⟩ := exists_obj_of_rearranged (names_ofTextMap m) hj
  -- texts are not rearranged, so the members are those that were written
  have hfound : ∀ name, members.lookup name = m[name]?.map str := by
    intro name
    have hrel := hlookup name
    rw [lookup_ofTextMap] at hrel
    generalize members.lookup name = found at hrel ⊢
    cases hm : m[name]? with
    | none =>
      rw [hm] at hrel
      cases hrel
      rfl
    | some t =>
      rw [hm] at hrel
      cases hrel with
      | some h => rw [eq_str_of_rearranged h, Option.map_some]
  have htexts : ∀ p ∈ members, ∃ t, p.2 = str t := by
    rintro ⟨name, v⟩ hmem
    have hv := (lookup_eq_some_iff_mem hnodup).2 hmem
    rw [hfound] at hv
    obtain ⟨t, -, ht⟩ := Option.map_eq_some_iff.1 hv
    exact ⟨t, ht.symm⟩
  obtain ⟨m', hm', hget⟩ := exists_textMap ∅ htexts
  have hsame : m' = m := by
    apply Std.ExtTreeMap.ext_getElem?
    intro name
    rw [hget, hfound]
    cases m[name]? <;> simp [string?]
  rw [textMap?, hm', hsame]

/-! ## Fields -/

theorem Reads.required (h : Reads read j a) : ReadsField (required read) (some j) a := by
  intro field hfield
  cases hfield with
  | some hj => exact h _ hj

theorem Reads.withDefault (h : Reads read j a) (default : α) :
    ReadsField (withDefault default read) (some j) a := by
  intro field hfield
  cases hfield with
  | some hj => exact h _ hj

/-- A text that may be absent is absent if it was not written, and an empty one is not absent. -/
theorem readsField_optional (t : Option String) :
    ReadsField (withDefault none (nullable string?)) (t.map str) t := by
  cases t with
  | none =>
    intro field hfield
    cases hfield
    rfl
  | some t => exact (reads_nullable_str t).withDefault none

end Json

open Json

/-! ## Status -/

namespace Ingress

def fields (i : Ingress) : List (String × Option Json) :=
  [("ip", some (str i.ip)), ("hostname", i.hostname.map str)]

theorem toJson_eq (i : Ingress) : i.toJson = obj (present i.fields) := by
  obtain ⟨ip, _ | hostname⟩ := i <;> rfl

theorem reads_toJson (i : Ingress) : Reads ofJson? i.toJson i := by
  intro j hj
  rw [toJson_eq] at hj
  obtain ⟨values, hvalues, hrel⟩ := exists_fields?_of_rearranged ["ip", "hostname"] rfl (by decide) hj
  obtain _ | ⟨hip, _ | ⟨hhostname, hrest⟩⟩ := hrel
  cases hrest
  have hip' := (reads_str i.ip).required _ hip
  have hhostname' := readsField_optional i.hostname _ hhostname
  simp [ofJson?, hvalues, hip', hhostname']

end Ingress

namespace Status

def fields (s : Status) : List (String × Option Json) :=
  [("ingress", some (arr (s.ingress.map Ingress.toJson)))]

theorem toJson_eq (s : Status) : s.toJson = obj (present s.fields) := rfl

theorem reads_toJson (s : Status) : Reads ofJson? s.toJson s := by
  intro j hj
  rw [toJson_eq] at hj
  obtain ⟨values, hvalues, hrel⟩ := exists_fields?_of_rearranged ["ingress"] rfl (by decide) hj
  obtain _ | ⟨hingress, hrest⟩ := hrel
  cases hrest
  have hingress' := (reads_list Ingress.reads_toJson s.ingress).withDefault [] _ hingress
  simp [ofJson?, hvalues, hingress']

end Status

/-! ## Services -/

namespace Service

def fields (s : Service) : List (String × Option Json) :=
  [("namespace", some (str s.ns)), ("name", some (str s.name)), ("uid", some (str s.uid)),
    ("labels", some (ofTextMap s.labels)), ("assignedAddress", s.assigned.map str),
    ("resourceVersion", some (int s.version.toNat)), ("status", some s.status.toJson)]

theorem toJson_eq (s : Service) : s.toJson = obj (present s.fields) := by
  obtain ⟨ns, name, uid, labels, _ | address, version, status⟩ := s <;> rfl

theorem reads_toJson (s : Service) : Reads ofJson? s.toJson s := by
  intro j hj
  rw [toJson_eq] at hj
  obtain ⟨values, hvalues, hrel⟩ := exists_fields?_of_rearranged fieldNames rfl (by decide) hj
  obtain _ | ⟨hns, _ | ⟨hname, _ | ⟨huid, _ | ⟨hlabels, _ | ⟨hassigned, _ | ⟨hversion,
    _ | ⟨hstatus, hrest⟩⟩⟩⟩⟩⟩⟩ := hrel
  cases hrest
  have hns' := (reads_str s.ns).required _ hns
  have hname' := (reads_str s.name).required _ hname
  have huid' := (reads_str s.uid).required _ huid
  have hlabels' := (reads_textMap s.labels).withDefault ∅ _ hlabels
  have hassigned' := readsField_optional s.assigned _ hassigned
  have hversion' := (reads_below s.version.toNat_lt_size).withDefault 0 _ hversion
  have hstatus' := (Status.reads_toJson s.status).withDefault .empty _ hstatus
  simp [ofJson?, hvalues, hns', hname', huid', hlabels', hassigned', hversion', hstatus']

end Service

/-! ## Pool documents and pools -/

namespace PoolDocument

def fields (d : PoolDocument) : List (String × Option Json) := [("data", some (ofTextMap d.entries))]

theorem toJson_eq (d : PoolDocument) : d.toJson = obj (present d.fields) := rfl

theorem reads_toJson (d : PoolDocument) : Reads ofJson? d.toJson d := by
  intro j hj
  rw [toJson_eq] at hj
  obtain ⟨values, hvalues, hrel⟩ := exists_fields?_of_rearranged ["data"] rfl (by decide) hj
  obtain _ | ⟨hdata, hrest⟩ := hrel
  cases hrest
  have hdata' := (reads_textMap d.entries).withDefault ∅ _ hdata
  simp [ofJson?, hvalues, hdata']

end PoolDocument

namespace Pool

theorem reads_toJson (p : Pool) : Reads ofJson? p.toJson p := by
  intro j hj
  cases p with
  | cidr block =>
    obtain ⟨v, rfl, hv⟩ := exists_single_of_rearranged hj
    obtain ⟨members, rfl, -, hlookup⟩ := exists_obj_of_rearranged (by simp) hv
    have hblock := (reads_str block).required _ (hlookup "block")
    rw [required] at hblock
    simp [ofJson?, member?, hblock]
  | range first last =>
    obtain ⟨v, rfl, hv⟩ := exists_single_of_rearranged hj
    obtain ⟨members, rfl, -, hlookup⟩ := exists_obj_of_rearranged (by simp) hv
    have hfirst := (reads_str first).required _ (hlookup "start")
    have hlast := (reads_str last).required _ (hlookup "end")
    rw [required] at hfirst hlast
    simp [ofJson?, member?, hfirst, hlast]

end Pool

/-- **Every stored thing is read back from its form**, and the form tells it from every other: services,
their status and its addresses, pool documents and pools. -/
theorem forms_read_back :
    ReadsBack Service.toJson Service.ofJson? ∧ ReadsBack Status.toJson Status.ofJson? ∧
      ReadsBack Ingress.toJson Ingress.ofJson? ∧ ReadsBack PoolDocument.toJson PoolDocument.ofJson? ∧
      ReadsBack Pool.toJson Pool.ofJson? :=
  ⟨readsBack_of_reads Service.reads_toJson, readsBack_of_reads Status.reads_toJson,
    readsBack_of_reads Ingress.reads_toJson, readsBack_of_reads PoolDocument.reads_toJson,
    readsBack_of_reads Pool.reads_toJson⟩

/-- The members in another order with one more, the fields without their names, and a name that is empty. -/
example :
    Ingress.ofJson? (obj [("hostname", str ""), ("port", int 80), ("ip", str "10.0.0.1")]) =
        some ⟨"10.0.0.1", some ""⟩ ∧
      (Ingress.ofJson? (arr [str "10.0.0.1", null])).map Ingress.toJson =
        some (obj [("ip", str "10.0.0.1")]) :=
  ⟨rfl, rfl⟩

end Allotment
