import Allotment.Service
import Allotment.Text.Cut
/-!
# Label selectors

A selector is a list of terms between commas, all of which have to hold.  A term
with an equals sign asks for a label's value, a bare term for the label's presence.
-/
namespace Allotment

open Text

/-- One condition on labels. -/
inductive SelectorTerm where
  | equals (label value : String)
  | present (label : String)
deriving DecidableEq, Repr

namespace SelectorTerm

/-- The condition that a term's text states; key and value lie on the two sides of its first
equals sign, blanks around them dropped. -/
def ofChars (cs : List Char) : SelectorTerm :=
  match cut? '=' cs with
  | some (label, value) => .equals (String.ofList (trim label)) (String.ofList (trim value))
  | none => .present (String.ofList cs)

def holds (labels : TextMap) : SelectorTerm → Bool
  | .equals label value => labels[label]? == some value
  | .present label => labels.contains label

end SelectorTerm

/-- A conjunction of terms. -/
abbrev Selector := List SelectorTerm

namespace Selector

/-- The selector that a text states; blank terms state nothing. -/
def ofText (s : String) : Selector :=
  (((pieces ',' s.toList).map trim).filter fun cs => !cs.isEmpty).map SelectorTerm.ofChars

def holds (q : Selector) (labels : TextMap) : Bool := q.all (·.holds labels)

end Selector

/-- Whether the service's labels meet the selector that a text states. -/
def Service.selectedBy (s : Service) (selector : String) : Bool :=
  (Selector.ofText selector).holds s.labels

end Allotment
