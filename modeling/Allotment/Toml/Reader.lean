import Allotment.Toml.Scalar
/-!
# Settings files: the reader

Keys, values and lines.  Values nest, and dotted keys reach, less than eighty levels
deep.
-/
namespace Allotment.Toml

open Text

/-- How deep values may nest and how many parts a key may have: less than this. -/
def depthLimit : Nat := 80

/-! ## Keys -/

def isBareKeyChar (c : Char) : Bool := c.isAlphanum || c == '-' || c == '_'

/-- One part of a key: bare or quoted. -/
def keyPart? : List Char → Option (String × List Char)
  | '"' :: cs => basicTail? [] cs
  | '\'' :: cs => literalTail? [] cs
  | cs =>
    match cs.takeWhile isBareKeyChar with
    | [] => none
    | name => some (String.ofList name, cs.dropWhile isBareKeyChar)

/-- The parts of a key between dots, blanks around each passed over; at most `limit` of them. -/
def keyParts? : Nat → List Char → Option (List String × List Char)
  | 0, _ => none
  | limit + 1, cs =>
    (keyPart? (skipSpace cs)).bind fun (part, cs) =>
      match skipSpace cs with
      | '.' :: cs => (keyParts? limit cs).map fun (parts, cs) => (part :: parts, cs)
      | cs => some ([part], cs)

/-- A key as the path to its table and its last part. -/
def key? (cs : List Char) : Option ((List String × String) × List Char) :=
  (keyParts? (depthLimit - 1) cs).bind fun (parts, cs) =>
    parts.getLast?.map fun name => ((parts.dropLast, name), cs)

/-! ## Lines -/

/-- A comment up to the line's end. -/
def skipComment : List Char → List Char
  | '#' :: cs => cs.dropWhile isPlain
  | cs => cs

/-- The text behind the rest of a line that holds nothing more than a comment. -/
def lineRest? (cs : List Char) : Option (List Char) :=
  match skipComment (skipSpace cs) with
  | [] => some []
  | cs => newline? cs

/-- Blanks, comments and line ends within an array; at most `fuel` lines of them. -/
def skipLines : Nat → List Char → List Char
  | 0, cs => cs
  | fuel + 1, cs =>
    match newline? (skipComment (skipSpace cs)) with
    | some cs => skipLines fuel cs
    | none => skipSpace cs

/-! ## Values -/

/-- A scalar. -/
def scalarValue? : List Char → Option (Toml × List Char)
  | 't' :: 'r' :: 'u' :: 'e' :: cs => some (bool true, cs)
  | 'f' :: 'a' :: 'l' :: 's' :: 'e' :: cs => some (bool false, cs)
  | '"' :: cs => (string? ('"' :: cs)).map fun (s, cs) => (text s, cs)
  | '\'' :: cs => (string? ('\'' :: cs)).map fun (s, cs) => (text s, cs)
  | cs => moment? cs <|> float? cs <|> specialFloat? cs <|> integer? cs

mutual

/-- A value that stands `depth` levels below the limit. -/
def value? : Nat → Nat → List Char → Option (Toml × List Char)
  | 0, _, _ => none
  | fuel + 1, depth, '[' :: cs =>
    match depth with
    | 0 => none
    | depth + 1 =>
      match skipLines cs.length cs with
      | ']' :: cs => some (list [], cs)
      | cs => (items? fuel depth cs).map fun (vs, cs) => (list vs, cs)
  | fuel + 1, depth, '\x7b' :: cs =>
    match depth with
    | 0 => none
    | depth + 1 =>
      match skipSpace cs with
      | '\x7d' :: cs => some (table .inline [], cs)
      | cs => (members? fuel depth [] cs).map fun (ms, cs) => (table .inline ms, cs)
  | _ + 1, _, cs => scalarValue? cs

/-- The items of an array up to its closing bracket; a comma may follow the last. -/
def items? : Nat → Nat → List Char → Option (List Toml × List Char)
  | 0, _, _ => none
  | fuel + 1, depth, cs =>
    (value? fuel depth cs).bind fun (v, cs) =>
      match skipLines cs.length cs with
      | ']' :: cs => some ([v], cs)
      | ',' :: cs =>
        match skipLines cs.length cs with
        | ']' :: cs => some ([v], cs)
        | cs => (items? fuel depth cs).map fun (vs, cs) => (v :: vs, cs)
      | _ => none

/-- The members of an inline table up to its closing brace, after those in `seen`; no comma follows
the last, and all stand on one line. -/
def members? : Nat → Nat → Members → List Char → Option (Members × List Char)
  | 0, _, _, _ => none
  | fuel + 1, depth, seen, cs =>
    (key? cs).bind fun ((path, name), cs) =>
      match cs with
      | '=' :: cs =>
        (value? fuel depth (skipSpace cs)).bind fun (v, cs) =>
          (addDotted name v path seen).bind fun seen =>
            match skipSpace cs with
            | ',' :: cs => members? fuel depth seen cs
            | '\x7d' :: cs => some (seen, cs)
            | _ => none
      | _ => none

end

/-! ## The file -/

/-- The tables read so far and the path of the table that lines are added to. -/
structure Document where
  root : Members
  path : List String

namespace Document

/-- Adds a value to the table of the last header. -/
def addValue (d : Document) (path : List String) (name : String) (v : Toml) : Option Document :=
  (underHeader (addDotted name v path) d.path d.root).map fun root => { d with root }

/-- Opens the table of a header. -/
def openWith (make : String → Members → Option Members) (d : Document) (path : List String)
    (name : String) : Option Document :=
  (underHeader (make name) path d.root).map fun root => ⟨root, path ++ [name]⟩

end Document

/-- One line that is neither blank nor a comment: a header or a key with its value. -/
def line? (d : Document) : List Char → Option (Document × List Char)
  | '[' :: '[' :: cs =>
    (key? cs).bind fun ((path, name), cs) =>
      match cs with
      | ']' :: ']' :: cs => (d.openWith appendTable path name).map (·, cs)
      | _ => none
  | '[' :: cs =>
    (key? cs).bind fun ((path, name), cs) =>
      match cs with
      | ']' :: cs => (d.openWith openTable path name).map (·, cs)
      | _ => none
  | cs =>
    (key? cs).bind fun ((path, name), cs) =>
      match cs with
      | '=' :: cs =>
        (value? (cs.length + 1) (depthLimit - 1) (skipSpace cs)).bind fun (v, cs) =>
          (d.addValue path name v).map (·, cs)
      | _ => none

/-- All lines of a file, at most `fuel` of them. -/
def lines? : Nat → Document → List Char → Option Members
  | 0, d, cs => if cs.isEmpty then some d.root else none
  | fuel + 1, d, cs =>
    match skipSpace cs with
    | [] => some d.root
    | '#' :: cs => (lineRest? ('#' :: cs)).bind (lines? fuel d)
    | '\n' :: cs => lines? fuel d cs
    | '\r' :: '\n' :: cs => lines? fuel d cs
    | cs => (line? d cs).bind fun (d, cs) => (lineRest? cs).bind (lines? fuel d)

/-- The root table of a file; a byte order mark in front is passed over. -/
def ofText? (s : String) : Option Members :=
  let cs := match s.toList with
    | '\ufeff' :: cs => cs
    | cs => cs
  lines? (cs.length + 1) ⟨[], []⟩ cs

end Allotment.Toml
