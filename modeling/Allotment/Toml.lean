/-!
# Settings files: values and tables

The tree that a file in TOML describes, and the rules by which its tables grow.  A
table remembers how it came to be, because that decides what may still be added to
it: a table with a header is closed to dotted keys, a table made by dotted keys is
closed to headers, and an inline table is closed altogether.
-/
namespace Allotment

/-- How a table came to be. -/
inductive TableOrigin where
  /-- Only as a part of the path in a header. -/
  | implied
  /-- By a header of its own. -/
  | header
  /-- As a part of a dotted key. -/
  | dotted
  /-- In braces. -/
  | inline
deriving DecidableEq, Repr

/-- A value of a settings file. -/
inductive Toml where
  | text (s : String)
  | int (n : Int)
  | float (x : Float)
  | bool (b : Bool)
  /-- A date, a time or both; nothing asks which. -/
  | moment
  | list (items : List Toml)
  | table (origin : TableOrigin) (members : List (String × Toml))
  /-- The tables under headers in double brackets. -/
  | tables (items : List (List (String × Toml)))

namespace Toml

/-- The members of a table. -/
abbrev Members := List (String × Toml)

/-- The members with the one of that name replaced, or with a new one at the end. -/
def assign (ms : Members) (name : String) (v : Toml) : Members :=
  match ms with
  | [] => [(name, v)]
  | m :: rest => if m.1 == name then (name, v) :: rest else m :: assign rest name v

/-- Changes the last of a list of tables. -/
def updateLast (f : Members → Option Members) : List Members → Option (List Members)
  | [] => none
  | [t] => (f t).map ([·])
  | t :: ts => (updateLast f ts).map (t :: ·)

/-- Adds a member; a name can be given once. -/
def addMember (name : String) (v : Toml) (ms : Members) : Option Members :=
  match ms.lookup name with
  | none => some (ms ++ [(name, v)])
  | some _ => none

/-! ## Headers -/

/-- Changes the tables that a header's path leads to; a missing one is made on the way, and of tables
under a double-bracketed header the last is meant. -/
def underHeader (f : Members → Option Members) : List String → Members → Option Members
  | [], ms => f ms
  | name :: path, ms =>
    match ms.lookup name with
    | none => (underHeader f path []).map fun t => assign ms name (table .implied t)
    | some (table .inline _) => none
    | some (table origin t) => (underHeader f path t).map fun t => assign ms name (table origin t)
    | some (tables ts) => (updateLast (underHeader f path) ts).map fun ts => assign ms name (tables ts)
    | some _ => none

/-- Opens a table: a new one, or one that was only implied so far. -/
def openTable (name : String) (ms : Members) : Option Members :=
  match ms.lookup name with
  | none => some (assign ms name (table .header []))
  | some (table .implied t) => some (assign ms name (table .header t))
  | some _ => none

/-- Opens one more table under a double-bracketed header. -/
def appendTable (name : String) (ms : Members) : Option Members :=
  match ms.lookup name with
  | none => some (assign ms name (tables [[]]))
  | some (tables ts) => some (assign ms name (tables (ts ++ [[]])))
  | some _ => none

/-! ## Dotted keys -/

/-- Adds a value under a dotted key.  The tables on the way are made by dotted keys or passed through;
one with a header of its own is closed, and the innermost has to be made by dotted keys. -/
def addDotted (name : String) (v : Toml) : List String → Members → Option Members
  | [], ms => addMember name v ms
  | [key], ms =>
    match ms.lookup key with
    | none => (addMember name v []).map fun t => assign ms key (table .dotted t)
    | some (table .dotted t) => (addMember name v t).map fun t => assign ms key (table .dotted t)
    | some _ => none
  | key :: path, ms =>
    match ms.lookup key with
    | none => (addDotted name v path []).map fun t => assign ms key (table .dotted t)
    | some (table .dotted t) => (addDotted name v path t).map fun t => assign ms key (table .dotted t)
    | some (table .implied t) => (addDotted name v path t).map fun t => assign ms key (table .implied t)
    | some (tables ts) => (updateLast (addDotted name v path) ts).map fun ts => assign ms key (tables ts)
    | some _ => none

end Toml

end Allotment
