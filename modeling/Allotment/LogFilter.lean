import Allotment.LogFilter.Directive
import Allotment.Text.Cut
/-!
# Log filters

A filter is two lists of directives: those that can be decided without knowing the spans
around, and those that ask for a span or a field.  A directive may stand in both.  In
each list the most specific comes first; of two directives for the same things the later
counts.
-/
namespace Allotment

open Text

/-- Directives, the most specific of each list first. -/
structure LogFilter where
  static : List LogDirective
  dynamic : List LogDirective

namespace LogFilter

/-- A list of directives with one more in its place, instead of one for the same things. -/
def insert (d : LogDirective) : List LogDirective → List LogDirective
  | [] => [d]
  | e :: ds =>
    match d.order e with
    | .gt => d :: e :: ds
    | .eq => d :: ds
    | .lt => e :: insert d ds

/-- The filter of directives in the order in which they are given. -/
def ofDirectives (ds : List LogDirective) : LogFilter :=
  let arranged (ds : List LogDirective) := ds.foldl (fun f d => insert d f) []
  ⟨arranged (ds.filter LogDirective.isStatic), arranged (ds.filter LogDirective.isDynamic)⟩

/-- The filter that a text states: directives between commas, of which empty ones state nothing. -/
def ofText (s : String) : Except FilterFault LogFilter :=
  (((pieces ',' s.toList).filter fun cs => !cs.isEmpty).mapM LogDirective.ofChars).map ofDirectives

def text (f : LogFilter) : String := ",".intercalate ((f.static ++ f.dynamic).map LogDirective.text)

/-- The filter in force: the one asked for from outside unless it is malformed, else the configured one. -/
def effective (requested : Option String) (configured : String) : Except FilterFault LogFilter :=
  match requested.map ofText with
  | none | some (.error .malformed) => ofText configured
  | some answer => answer

end LogFilter

end Allotment
