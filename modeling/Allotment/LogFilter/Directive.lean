import Allotment.LogFilter.Field
import Allotment.LogFilter.Level
import Allotment.Text.Alphanumeric
import Allotment.Text.Blank
import Allotment.Text.Bytes
/-!
# Directives of log filters

A directive is a level for a target, for spans or for everything.  Its text gives the
target, then in brackets the name of a span and in braces a field, then behind an equals
sign the level; all but one of these may be left out.
-/
namespace Allotment

open Text

/-- Why a text states no filter. -/
inductive FilterFault where
  /-- A part of it has no form of a directive. -/
  | malformed
  /-- A place counted in it lies inside a character. -/
  | torn
deriving DecidableEq, Repr

/-- A level for what comes from a target, within a span, with a field; or for everything. -/
structure LogDirective where
  target : Option String
  span : Option String
  field : Option LogField
  level : LogLevel

namespace LogDirective

/-! ## Text -/

/-- Whether the directive asks for a span or a field. -/
def isDynamic (d : LogDirective) : Bool := d.span.isSome || d.field.isSome

/-- Whether the directive can be decided without knowing the spans around: it asks for no span and for no
field's value. -/
def isStatic (d : LogDirective) : Bool := d.span.isNone && !(d.field.any fun f => f.value.isSome)

/-- The span and the field in their brackets. -/
def spanText (d : LogDirective) : String :=
  if d.isDynamic then
    "[" ++ d.span.getD "" ++ ((d.field.map fun f => "\x7b" ++ f.text ++ "\x7d").getD "") ++ "]"
  else ""

def text (d : LogDirective) : String :=
  d.target.getD "" ++ d.spanText ++ (if d.target.isSome || d.isDynamic then "=" else "") ++ d.level.word

/-! ## Reading

A place in a directive is told by the text that follows it once the blanks at both ends are
gone.  It is counted in bytes from the first character that is not blank, but used from
the start of the text. -/

/-- The bytes before the place that `rest` follows. -/
def place (cs rest : List Char) : Nat := byteLength (trim cs) - byteLength rest

/-- The text from a place on. -/
def partFrom (cs rest : List Char) : Except FilterFault (List Char) :=
  match cutAt? (place cs rest) cs with
  | some (_, part) => .ok part
  | none => .error .torn

/-- The text between two places. -/
def partBetween (cs rest stop : List Char) : Except FilterFault (List Char) :=
  match cutAt? (place cs stop) cs with
  | none => .error .torn
  | some (before, _) =>
    match cutAt? (place cs rest) before with
    | none => .error .torn
    | some (_, part) => .ok part

/-- A level written behind an equals sign; nothing there means everything. -/
def level? (cs : List Char) : Option LogLevel :=
  if cs.isEmpty then some .trace else LogLevel.ofText? (String.ofList cs)

/-- The end of a directive: a level behind an equals sign, or nothing. -/
def withLevel (cs : List Char) (make : LogLevel → LogDirective) :
    List Char → Except FilterFault LogDirective
  | [] => .ok (make .trace)
  | '=' :: rest =>
    (partFrom cs rest).bind fun word =>
      match level? word with
      | some level => .ok (make level)
      | none => .error .malformed
  | _ => .error .malformed

/-- A field behind its opening brace, and the text behind its closing one. -/
def fieldWithin (cs rest : List Char) : Except FilterFault (LogField × List Char) :=
  match rest.dropWhile (· != '\x7d') with
  | [] => .error .malformed
  | brace :: behind =>
    (partBetween cs rest (brace :: behind)).bind fun part =>
      if part.isEmpty then .error .malformed
      else match LogField.ofChars? part with
        | some f => .ok (f, behind)
        | none => .error .malformed

/-- The rest of a directive behind the bracket that opens its span.  Before a field the name of the span
may be missing. -/
def withSpan (cs : List Char) (target : Option String) (rest : List Char) :
    Except FilterFault LogDirective :=
  match rest.dropWhile fun c => c != ']' && c != '\x7b' with
  | [] => .error .malformed
  | mark :: behind =>
    (partBetween cs rest (mark :: behind)).bind fun span =>
      if mark == ']' then withLevel cs (fun level => ⟨target, some (String.ofList span), none, level⟩) behind
      else
        (fieldWithin cs behind).bind fun
          | (f, ']' :: behind) =>
            let span := if span.isEmpty then none else some (String.ofList span)
            withLevel cs (fun level => ⟨target, span, some f, level⟩) behind
          | _ => .error .malformed

/-- What a directive may start with, a span apart. -/
def isOpening (c : Char) : Bool := isAlphanumeric c || c == '-' || c == ':' || c == '_'

/-- The directive that a text states.  A word alone is a level or else a target. -/
def ofChars (cs : List Char) : Except FilterFault LogDirective :=
  match trim cs with
  | [] => .error .malformed
  | '[' :: rest => withSpan cs none rest
  | c :: body =>
    if !isOpening c then .error .malformed
    else match body.dropWhile fun c => c != '=' && c != '[' with
      | [] =>
        match LogLevel.ofText? (String.ofList cs) with
        | some level => .ok ⟨none, none, none, level⟩
        | none => .ok ⟨some (String.ofList cs), none, none, .trace⟩
      | mark :: behind =>
        (partBetween cs (c :: body) (mark :: behind)).bind fun target =>
          let target := some (String.ofList target)
          if mark == '[' then withSpan cs target behind
          else withLevel cs (fun level => ⟨target, none, none, level⟩) (mark :: behind)

/-! ## Order -/

/-- How much the target narrows a directive: its length in bytes. -/
def breadth (d : LogDirective) : Nat :=
  match d.target with
  | none => 0
  | some target => target.utf8ByteSize + 1

/-- The order of directives.  The longer target is greater, then who asks for a span, then who asks for a
field; among equals the alphabet decides on targets, spans and fields. -/
def order (d e : LogDirective) : Ordering :=
  (compare d.breadth e.breadth).then <|
    (compare d.span.isSome e.span.isSome).then <|
      (compare d.field.isSome e.field.isSome).then <|
        (compare (d.target.getD "") (e.target.getD "")).then <|
          (compare (d.span.getD "") (e.span.getD "")).then <|
            match d.field, e.field with
            | some f, some g => f.order g
            | _, _ => .eq

end LogDirective

end Allotment
