import Allotment.Service
/-!
# What can go wrong at a store
-/
namespace Allotment

/-- What a store keeps under a key. -/
inductive StoredKind where
  | service
  | document
deriving DecidableEq, Repr

/-- The kind in words. -/
def StoredKind.words : StoredKind → String
  | .service => "service"
  | .document => "configuration document"

/-- Why a store refused a call. -/
inductive StoreFault where
  /-- Nothing is stored under the key. -/
  | notFound (kind : StoredKind) (key : Key)
  /-- The stored version is not the one that the write is based on. -/
  | versionConflict (name : String) (expected actual : UInt64)
  /-- The store could not be reached. -/
  | connection (cause : String)
deriving DecidableEq, Repr

namespace StoreFault

/-- The fault in words. -/
def message : StoreFault → String
  | notFound kind key => kind.words ++ " " ++ key.text ++ " not found"
  | versionConflict name expected actual =>
    "version conflict on " ++ name ++ ": expected " ++ toString expected ++ ", found " ++
      toString actual
  | connection cause => "store connection error: " ++ cause

def isNotFound : StoreFault → Bool
  | notFound .. => true
  | _ => false

def isConflict : StoreFault → Bool
  | versionConflict .. => true
  | _ => false

end StoreFault

end Allotment
