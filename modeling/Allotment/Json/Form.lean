import Allotment.Json
import Allotment.Pool.Document
/-!
# The JSON form of the stored things

How services, their status, pool documents and pools are written as JSON, and which
JSON is read as one of them.  A record is an object, or an array of its fields in
their order; unknown members are passed over, a missing field takes its default if it
has one, and an explicit null stands only for a field that may be absent.
-/
namespace Allotment

namespace Json

/-- The fields of a record with the given names: `none` for a field that is not there.  An array
gives the fields in order and may not have more than there are. -/
def fields? (names : List String) : Json → Option (List (Option Json))
  | obj members => some (names.map fun name => members.lookup name)
  | arr items =>
    if items.length ≤ names.length then
      some (items.map some ++ List.replicate (names.length - items.length) none)
    else none
  | _ => none

/-- A field that has to be there. -/
def required {α : Type} (read : Json → Option α) (field : Option Json) : Option α := field.bind read

/-- A field that has a default. -/
def withDefault {α : Type} (default : α) (read : Json → Option α) : Option Json → Option α
  | none => some default
  | some j => read j

/-- A value that may be absent: null is none. -/
def nullable {α : Type} (read : Json → Option α) : Json → Option (Option α)
  | null => some none
  | j => (read j).map some

/-- A list of values, each of which can be read. -/
def list? {α : Type} (read : Json → Option α) : Json → Option (List α)
  | arr items => items.mapM read
  | _ => none

/-- Texts by key. -/
def textMap? : Json → Option TextMap
  | obj members =>
    members.foldlM (fun m (name, j) => j.string?.map fun t => m.insertIfNew name t) ∅
  | _ => none

/-- Texts by key as an object. -/
def ofTextMap (m : TextMap) : Json := obj (m.toList.map fun (name, t) => (name, str t))

/-- A member that is written only if there is something to write. -/
def optional (name : String) : Option String → List (String × Json)
  | none => []
  | some t => [(name, str t)]

end Json

open Json

/-! ## Status -/

namespace Ingress

def toJson (i : Ingress) : Json := obj (("ip", str i.ip) :: optional "hostname" i.hostname)

def ofJson? (j : Json) : Option Ingress :=
  match j.fields? ["ip", "hostname"] with
  | some [ip, hostname] => do
    some ⟨← required string? ip, ← withDefault none (nullable string?) hostname⟩
  | _ => none

end Ingress

namespace Status

def empty : Status := ⟨[]⟩

def toJson (s : Status) : Json := obj [("ingress", arr (s.ingress.map Ingress.toJson))]

def ofJson? (j : Json) : Option Status :=
  match j.fields? ["ingress"] with
  | some [ingress] => do some ⟨← withDefault [] (list? Ingress.ofJson?) ingress⟩
  | _ => none

end Status

/-! ## Services -/

namespace Service

def toJson (s : Service) : Json :=
  obj (("namespace", str s.ns) :: ("name", str s.name) :: ("uid", str s.uid) ::
    ("labels", ofTextMap s.labels) :: optional "assignedAddress" s.assigned ++
    [("resourceVersion", int s.version.toNat), ("status", s.status.toJson)])

/-- The names of a service's fields in their order. -/
def fieldNames : List String :=
  ["namespace", "name", "uid", "labels", "assignedAddress", "resourceVersion", "status"]

def ofJson? (j : Json) : Option Service :=
  match j.fields? fieldNames with
  | some [ns, name, uid, labels, assigned, version, status] => do
    some {
      ns := ← required string? ns
      name := ← required string? name
      uid := ← required string? uid
      labels := ← withDefault ∅ textMap? labels
      assigned := ← withDefault none (nullable string?) assigned
      version := UInt64.ofNat (← withDefault 0 (below? UInt64.size) version)
      status := ← withDefault .empty Status.ofJson? status }
  | _ => none

end Service

/-! ## Pool documents and pools -/

namespace PoolDocument

def toJson (d : PoolDocument) : Json := obj [("data", ofTextMap d.entries)]

def ofJson? (j : Json) : Option PoolDocument :=
  match j.fields? ["data"] with
  | some [data] => do some ⟨← withDefault ∅ textMap? data⟩
  | _ => none

end PoolDocument

namespace Pool

def toJson : Pool → Json
  | cidr block => obj [("Cidr", obj [("block", str block)])]
  | range first last => obj [("Range", obj [("start", str first), ("end", str last)])]

/-- The only member says which form it is; its fields cannot be given as an array. -/
def ofJson? : Json → Option Pool
  | obj [("Cidr", j@(obj _))] => do some (cidr (← (j.member? "block").bind string?))
  | obj [("Range", j@(obj _))] => do
    some (range (← (j.member? "start").bind string?) (← (j.member? "end").bind string?))
  | _ => none

end Pool

namespace PoolForm

def toJson (f : PoolForm) : Json := str f.word

/-- The form's word, or an object with the word as its only name and null under it. -/
def ofJson? : Json → Option PoolForm
  | str w | obj [(w, null)] =>
    if w = PoolForm.cidr.word then some .cidr else if w = PoolForm.range.word then some .range else none
  | _ => none

end PoolForm

end Allotment
