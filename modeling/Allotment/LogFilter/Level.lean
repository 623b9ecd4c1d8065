import Allotment.Text.Numeral
/-!
# Levels of logging
-/
namespace Allotment

open Text

/-- How much is logged. -/
inductive LogLevel where
  | off
  | error
  | warn
  | info
  | debug
  | trace
deriving DecidableEq, Repr

namespace LogLevel

def all : List LogLevel := [off, error, warn, info, debug, trace]

def word : LogLevel → String
  | off => "off"
  | error => "error"
  | warn => "warn"
  | info => "info"
  | debug => "debug"
  | trace => "trace"

/-- The level with a given number or, in any case of its letters, a given word. -/
def ofText? (s : String) : Option LogLevel :=
  match count? UInt64.size s with
  | some n => all[n]?
  | none => all.find? fun l => l.word == String.ofList (s.toList.map Char.toLower)

end LogLevel

end Allotment
