import Allotment.Settings
import Allotment.Toml.Reader
/-!
# Settings from a file

The settings that a file in TOML describes.  What is missing keeps its standard value
and what is unknown is passed over.  A group of settings is a table, or an array of
its settings in their order; a date in place of a group sets nothing.
-/
namespace Allotment

namespace Toml

/-- The settings of a group with the given names: `none` for one that is not there. -/
def fields? (names : List String) : Toml → Option (List (Option Toml))
  | table _ ms => some (names.map fun name => ms.lookup name)
  | list items => some ((items.map some ++ names.map fun _ => none).take names.length)
  | tables ts =>
    some ((ts.map (fun ms => some (table .header ms)) ++ names.map fun _ => none).take names.length)
  | moment => some (names.map fun _ => none)
  | _ => none

def asText? : Toml → Option String
  | text s => some s
  | _ => none

def asBool? : Toml → Option Bool
  | bool b => some b
  | _ => none

/-- A whole number below a bound. -/
def asCount? (bound : Nat) : Toml → Option Nat
  | int n => if 0 ≤ n ∧ n.toNat < bound then some n.toNat else none
  | _ => none

def asWord? (v : Toml) : Option UInt64 := (v.asCount? UInt64.size).map UInt64.ofNat

/-- A number, whole or not. -/
def asFloat? : Toml → Option Float
  | float x => some x
  | int n => some (Int64.ofInt n).toFloat
  | _ => none

/-- A setting, or its value where none is given. -/
def orElse {α : Type} (value : α) (read : Toml → Option α) : Option Toml → Option α
  | none => some value
  | some v => read v

end Toml

open Toml

/-- The place of the pool document. -/
def Key.ofToml? (standard : Key) (v : Toml) : Option Key :=
  match v.fields? ["name", "namespace"] with
  | some [name, ns] => do
    let name ← orElse standard.name asText? name
    some ⟨← orElse standard.ns asText? ns, name⟩
  | _ => none

def Backoff.ofToml? (standard : Backoff) (v : Toml) : Option Backoff :=
  match v.fields? ["max_attempts", "initial_backoff_ms", "multiplier", "max_backoff_ms", "jitter"] with
  | some [attempts, initial, multiplier, ceiling, jitter] => do
    some {
      attempts := ← orElse standard.attempts (asCount? UInt32.size) attempts
      initialMillis := ← orElse standard.initialMillis asWord? initial
      multiplier := ← orElse standard.multiplier asFloat? multiplier
      ceilingMillis := ← orElse standard.ceilingMillis asWord? ceiling
      jitter := ← orElse standard.jitter asFloat? jitter }
  | _ => none

def Logging.ofToml? (standard : Logging) (v : Toml) : Option Logging :=
  match v.fields? ["level", "json"] with
  | some [level, json] => do
    some ⟨← orElse standard.level asText? level, ← orElse standard.json asBool? json⟩
  | _ => none

namespace Settings

/-- The settings of a file's root table. -/
def ofMembers? (ms : Toml.Members) : Option Settings := do
  some {
    allocatorId := ← orElse standard.allocatorId asText? (ms.lookup "allocator_id")
    document := ← orElse standard.document (Key.ofToml? standard.document) (ms.lookup "config_document")
    backoff := ← orElse standard.backoff (Backoff.ofToml? standard.backoff) (ms.lookup "retry")
    logging := ← orElse standard.logging (Logging.ofToml? standard.logging) (ms.lookup "logging") }

/-- The settings that a file describes, if they can be read and nothing speaks against them. -/
def ofText (s : String) : Except SettingsFault Settings :=
  match (Toml.ofText? s).bind ofMembers? with
  | some settings => settings.validated
  | none => .error .unreadable

end Settings

end Allotment
