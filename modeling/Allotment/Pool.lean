import Allotment.Block
import Allotment.Pool.Fault
import Allotment.Text.Blank
/-!
# Pools

A pool is what an administrator wrote: a block, or a range with two ends.  The
texts are kept as written; `interval` says which addresses they mean.
-/
namespace Allotment

open Text

/-- The two ways to write a pool. -/
inductive PoolForm where
  | cidr
  | range
deriving DecidableEq, Repr

/-- The word for the form in the names of pools. -/
def PoolForm.word : PoolForm → String
  | .cidr => "cidr"
  | .range => "range"

/-- A pool as written. -/
inductive Pool where
  | cidr (block : String)
  | range (first last : String)
deriving DecidableEq, Repr

namespace Pool

def form : Pool → PoolForm
  | cidr _ => .cidr
  | range _ _ => .range

/-- The pool in the notation that `ofEntry` reads. -/
def text : Pool → String
  | cidr block => block
  | range first last => first ++ "-" ++ last

/-- The pool that an entry of the pool document describes.  The ends of a range are separated by
its first dash, and blanks around every part are dropped. -/
def ofEntry (form : PoolForm) (entry : String) : Except PoolFault Pool :=
  let body := trim entry.toList
  match form with
  | .cidr => .ok (cidr (String.ofList body))
  | .range =>
    match cut? '-' body with
    | some (first, last) => .ok (range (String.ofList (trim first)) (String.ofList (trim last)))
    | none => .error (.missingSeparator (String.ofList body))

/-- The usable hosts of the block that a text describes. -/
def blockInterval (block : String) : Except PoolFault Interval :=
  match Block.ofChars? (trim block.toList) with
  | none => .error (.malformedBlock block)
  | some b =>
    match b.hosts? with
    | none => .error (.noHosts b.text)
    | some s => .ok s

/-- The address that one end of a range describes. -/
def rangeEnd (s : String) : Except PoolFault Address :=
  match Address.ofChars? .strict (trim s.toList) with
  | none => .error (.malformedAddress s)
  | some a => .ok a

/-- The closed interval between the two ends of a range. -/
def rangeInterval (first last : String) : Except PoolFault Interval :=
  (rangeEnd first).bind fun a =>
    (rangeEnd last).bind fun b =>
      if hf : b.family = a.family then
        if h : a.value ≤ b.value then
          .ok ⟨a.family, a.value, b.value, h, hf ▸ b.value_lt⟩
        else .error (.inverted first last)
      else .error (.mixedFamilies first last)

/-- The addresses that the pool means. -/
def interval : Pool → Except PoolFault Interval
  | cidr block => blockInterval block
  | range first last => rangeInterval first last

end Pool

/-- Where a pool applies: in one namespace, or in all. -/
inductive PoolScope where
  | within (ns : String)
  | everywhere
deriving DecidableEq, Repr

/-- The name of a pool in the pool document. -/
structure PoolName where
  form : PoolForm
  scope : PoolScope
deriving DecidableEq, Repr

namespace PoolName

/-- The word that stands for all namespaces. -/
def everywhereWord : String := "global"

/-- The key of the pool in the pool document. -/
def text (n : PoolName) : String :=
  n.form.word ++ "-" ++ (match n.scope with
    | .within ns => ns
    | .everywhere => everywhereWord)

/-- The names under which a namespace's pool is looked for: blocks before ranges, and of each form
the namespace's own pool before the one for all. -/
def precedence (ns : String) : List PoolName :=
  [⟨.cidr, .within ns⟩, ⟨.cidr, .everywhere⟩, ⟨.range, .within ns⟩, ⟨.range, .everywhere⟩]

end PoolName

end Allotment
