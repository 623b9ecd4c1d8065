import Allotment.Reconcile
import Allotment.Store.Archive
import Allotment.Store.Registry
/-!
# The stores of an allocator

The registry of services and the archive of documents together, as the surroundings of
a reconciliation that runs alone.
-/
namespace Allotment

/-- Both stores. -/
structure Stores where
  registry : Registry
  archive : Archive
deriving DecidableEq

/-- What listing reports. -/
def Registry.listNotices (ns selector : String) : Except StoreFault (List Service) → List Notice
  | .ok ss => [.listed ss.length ns selector]
  | .error _ => []

/-- What creating a document reports: that there is a new one. -/
def Archive.createNotices (a : Archive) (key : Key) : List Notice :=
  if a.unavailable || (a.peek? key).isSome then [] else [.documentCreated key]

namespace Stores

def empty : Stores := ⟨.empty, .empty⟩

def list (st : Stores) (ns selector : String) : Except StoreFault (List Service) × Stores :=
  (st.registry.list ns selector, st)

def get (st : Stores) (key : Key) : Except StoreFault Service × Stores := (st.registry.get key, st)

def update (st : Stores) (s : Service) : Except StoreFault Service × Stores :=
  let (answer, registry) := st.registry.update s
  (answer, { st with registry })

def getDocument (st : Stores) (key : Key) : Except StoreFault PoolDocument × Stores :=
  (st.archive.get key, st)

def createDocument (st : Stores) (key : Key) : Except StoreFault PoolDocument × Stores :=
  let (answer, archive) := st.archive.create key
  (answer, { st with archive })

/-- The stores as surroundings in which nobody else acts and the signal never changes. -/
def surroundings (raised : Bool) : Surroundings Stores where
  list := list
  getDocument := getDocument
  createDocument := createDocument
  get := get
  update := update
  signal st := (raised, st)
  sleep st _ := (raised, st)

end Stores

/-! ## What an allocator is asked besides reconciling -/

namespace Surroundings

variable {σ : Type}

/-- The pool document, created if it is missing. -/
def document (env : Surroundings σ) (report : σ → List Notice → σ) (settings : Settings) (w : σ) :
    Except Failure PoolDocument × σ :=
  match env.getDocument w settings.document with
  | (.ok d, w) => (.ok d, w)
  | (.error f, w) =>
    if f.isNotFound then
      let (answer, w) := env.createDocument (report w [.documentMissing settings.document])
        settings.document
      (answer.mapError .store, w)
    else (.error (.store f), w)

end Surroundings

/-- What a load balancer sees of a service: its status, if the allocator with this id owns it. -/
def Service.presence? (s : Service) (id : String) : Option Status :=
  if s.isOwnedBy id then some s.status else none

/-- What happens when a service is deleted: nothing is stored, its address is free with it. -/
def Service.release (s : Service) : Trace :=
  [.count .deletion, .notice (.deleting s.key s.uid (s.address?.getD ""))]

end Allotment
