import Allotment.Text.Alphanumeric
import Allotment.Text.Blank
import Allotment.Text.Numeral
/-!
# Search patterns

Whether a text is a pattern of regular expressions (`Pattern.isValid`).  Reading keeps
no more of a pattern than what decides that: how deep it nests, the names of its groups,
and under which modes each part stands.

There are no tables of letters and digits of all scripts, nor of their cases, behind a
pattern: what would need one is no pattern.  A pattern stands between braces, so that it
holds no closing one, and no count of repetitions.
-/
namespace Allotment.Text.Pattern

/-! ## Modes -/

/-- How a part of a pattern is meant. -/
structure Modes where
  /-- Both cases of a letter count as one. -/
  folded : Bool
  /-- Characters are those of all scripts, and not bytes. -/
  wide : Bool
  /-- Blanks and comments between the signs do not count. -/
  spaced : Bool

/-- The modes that a pattern starts with. -/
def Modes.initial : Modes := ⟨false, true, false⟩

/-- The letters of all modes; those that are not in `Modes` decide nothing here. -/
def modeLetters : List Char := ['i', 'm', 's', 'U', 'u', 'R', 'x']

/-- The modes after a list of letters, of which those behind a dash are switched off. -/
def Modes.changedBy (letters : List Char) (m : Modes) : Modes :=
  let on := letters.takeWhile (· != '-')
  let changed (letter : Char) (old : Bool) := on.contains letter || (old && !letters.contains letter)
  ⟨changed 'i' m.folded, changed 'u' m.wide, changed 'x' m.spaced⟩

/-- Whether a list of letters may switch modes: it names none twice, and at most one dash stands in it
and not at its end. -/
def isModeList (letters : List Char) : Bool :=
  letters.all (fun c => c == '-' || modeLetters.contains c) && letters.eraseDups.length == letters.length &&
    letters.getLast? != some '-'

/-- The text behind blanks and comments; `comment` tells whether it starts within a comment. -/
def skipGap (comment : Bool) : List Char → List Char
  | [] => []
  | c :: cs =>
    if comment then skipGap (c != '\n') cs
    else if isBlank c then skipGap false cs
    else if c == '#' then skipGap true cs
    else c :: cs

/-- The text from the next sign on. -/
def Modes.skip (m : Modes) (cs : List Char) : List Char := if m.spaced then skipGap false cs else cs

/-! ## Signs -/

/-- A sign that stands for one character, for a kind of characters or for a place. -/
inductive Sign where
  /-- A character; `byte` tells that two digits state its number. -/
  | char (c : Char) (byte : Bool)
  /-- A kind of characters: digits, blanks, or those of words, or all others. -/
  | kind (negated : Bool)
  /-- The start or the end of the text, of a line or of a word. -/
  | edge (ofWord : Bool)

/-- A number of so many hexadecimal digits after the digits of `seen`. -/
def hexDigits? (m : Modes) : Nat → Nat → List Char → Option (Nat × List Char)
  | 0, seen, cs => some (seen, cs)
  | n + 1, seen, cs =>
    match m.skip cs with
    | c :: cs => (digit? 16 c).bind fun d => hexDigits? m n (seen * 16 + d) cs
    | [] => none

/-- A character by its number, of so many digits. -/
def numbered? (m : Modes) (count : Nat) (cs : List Char) : Option (Sign × List Char) :=
  (hexDigits? m count 0 cs).bind fun (n, cs) =>
    if Nat.isValidChar n then some (.char (Char.ofNat n) (count == 2), cs) else none

/-- The sign behind a backslash.  A mark of ASCII stands for itself, but for the angle brackets. -/
def escape? (m : Modes) : List Char → Option (Sign × List Char)
  | 'x' :: cs => numbered? m 2 cs
  | 'u' :: cs => numbered? m 4 cs
  | 'U' :: cs => numbered? m 8 cs
  | 'a' :: cs => some (.char '\x07' false, cs)
  | 't' :: cs => some (.char '\t' false, cs)
  | 'n' :: cs => some (.char '\n' false, cs)
  | 'v' :: cs => some (.char '\x0b' false, cs)
  | 'f' :: cs => some (.char '\x0c' false, cs)
  | 'r' :: cs => some (.char '\r' false, cs)
  | c :: cs =>
    if c == 'd' || c == 's' || c == 'w' then some (.kind false, cs)
    else if c == 'D' || c == 'S' || c == 'W' then some (.kind true, cs)
    else if c == 'A' || c == 'z' then some (.edge false, cs)
    else if c == 'b' || c == 'B' || c == '<' || c == '>' then some (.edge true, cs)
    else if c.toNat < 0x80 && !c.isAlphanum then some (.char c false, cs)
    else none
  | [] => none

/-- Whether a sign is supported outside a set. -/
def Sign.isSupported (m : Modes) : Sign → Bool
  | .char c byte => if m.wide then !m.folded else !byte || c.toNat < 0x80
  | .kind negated => !m.wide && !negated
  | .edge ofWord => !ofWord || !m.wide

/-- Whether a sign is supported as a member of a set. -/
def Sign.isMember (m : Modes) : Sign → Bool
  | .char c _ => if m.wide then !m.folded else c.toNat < 0x80
  | .kind negated => !m.wide && !negated
  | .edge _ => false

/-! ## Sets -/

/-- The height of something with parts of the given heights; a single part is not wrapped. -/
def wrapped : List Nat → Nat
  | [] => 0
  | [h] => h
  | hs => hs.foldl max 0 + 1

/-- The kinds of characters that a set can name. -/
def kindNames : List String :=
  ["alnum", "alpha", "ascii", "blank", "cntrl", "digit", "graph", "lower", "print", "punct", "space",
    "upper", "word", "xdigit"]

/-- A named kind behind the bracket that opens it: whether all other characters are meant, and the text
behind the closing bracket. -/
def namedKind? : List Char → Option (Bool × List Char)
  | ':' :: cs =>
    let (negated, cs) := match cs with
      | '^' :: cs => (true, cs)
      | cs => (false, cs)
    let name := cs.takeWhile (· != ':')
    match cs.drop name.length with
    | ':' :: ']' :: cs => if kindNames.contains (String.ofList name) then some (negated, cs) else none
    | _ => none
  | _ => none

/-- A sign within a set. -/
def memberSign? (m : Modes) : List Char → Option (Sign × List Char)
  | '\\' :: cs => escape? m cs
  | c :: cs => some (.char c false, cs)
  | [] => none

/-- The sign that follows a dash.  In a text with gaps a comment is passed over no further than to its
first word. -/
def Modes.behindDash? (m : Modes) (cs : List Char) : Option Char :=
  if m.spaced then
    match cs.dropWhile isBlank with
    | '#' :: cs => (cs.dropWhile isBlank).head?
    | cs => cs.head?
  else cs.head?

/-- A member of a set that is no set, or a range of members, and the text behind it. -/
def member? (m : Modes) (cs : List Char) : Option (List Char) :=
  (memberSign? m cs).bind fun (first, cs) =>
    let single := if first.isMember m then some cs else none
    match m.skip cs with
    | '-' :: cs =>
      if m.behindDash? cs == some ']' || m.behindDash? cs == some '-' then single
      else
        (memberSign? m (m.skip cs)).bind fun (last, cs) =>
          match first, last with
          | .char a _, .char b _ =>
            if a.toNat ≤ b.toNat && first.isMember m && last.isMember m then some cs else none
          | _, _ => none
    | _ => single

/-- Operations on sets: what both have, what the second has not, what one of them has. -/
def operation? : List Char → Option (List Char)
  | '&' :: '&' :: cs => some cs
  | '-' :: '-' :: cs => some cs
  | '~' :: '~' :: cs => some cs
  | _ => none

/-- How far a set has been read. -/
structure SetState where
  /-- The height of what stands before the last operation. -/
  left : Option Nat
  /-- The heights of the members since then. -/
  members : List Nat
  /-- Nothing but dashes stands before: a dash is a member, and so is a bracket in front of all. -/
  opening : Bool

namespace SetState

/-- The height of what has been read. -/
def height (s : SetState) : Nat :=
  match s.left with
  | none => wrapped s.members
  | some h => max h (wrapped s.members) + 1

def add (s : SetState) (height : Nat) : SetState := ⟨s.left, height :: s.members, false⟩

end SetState

mutual

/-- A set behind its opening bracket: its height and the text behind its closing one. -/
def set? : Nat → Modes → List Char → Option (Nat × List Char)
  | 0, _, _ => none
  | fuel + 1, m, cs =>
    match m.skip cs with
    | '^' :: cs =>
      if m.wide then (members? fuel m ⟨none, [], true⟩ cs).map fun (h, cs) => (h + 1, cs) else none
    | cs => (members? fuel m ⟨none, [], true⟩ cs).map fun (h, cs) => (h + 1, cs)

/-- The rest of a set. -/
def members? : Nat → Modes → SetState → List Char → Option (Nat × List Char)
  | 0, _, _, _ => none
  | fuel + 1, m, s, cs =>
    match m.skip cs with
    | [] => none
    | c :: cs =>
      if s.opening && (c == '-' || (c == ']' && s.members.isEmpty)) then
        if (Sign.char c false).isMember m then
          members? fuel m { s.add 0 with opening := c == '-' } cs
        else none
      else if c == ']' then some (s.height, cs)
      else if c == '[' then
        match namedKind? cs with
        | some (negated, cs) =>
          if if m.wide then !m.folded else !negated then members? fuel m (s.add 0) cs else none
        | none => (set? fuel m cs).bind fun (h, cs) => members? fuel m (s.add h) cs
      else
        match operation? (c :: cs) with
        | some cs => members? fuel m ⟨some s.height, [], false⟩ cs
        | none => (member? m (c :: cs)).bind fun cs => members? fuel m (s.add 0) cs

end

/-! ## Groups -/

/-- The name of a group behind its opening angle bracket, and the text behind the closing one. -/
def groupName? (cs : List Char) : Option (List Char × List Char) :=
  let name := cs.takeWhile (· != '>')
  let isInner (c : Char) := isAlphanumeric c || c == '_' || c == '.' || c == '[' || c == ']'
  match name, cs.drop name.length with
  | c :: inner, _ :: cs =>
    if (isAlphabetic c || c == '_') && inner.all isInner then some (name, cs) else none
  | _, _ => none

/-- What an opening parenthesis starts. -/
inductive Opening where
  /-- A group, perhaps with a name, whose parts stand under modes of their own. -/
  | group (name : Option (List Char)) (modes : Modes)
  /-- No group: the modes change up to the end of the group around. -/
  | change (modes : Modes)

/-- What stands behind an opening parenthesis, and the text behind that. -/
def opening? (m : Modes) (cs : List Char) : Option (Opening × List Char) :=
  match m.skip cs with
  | '?' :: 'P' :: '<' :: cs => (groupName? cs).map fun (name, cs) => (.group (some name) m, cs)
  | '?' :: '<' :: cs => (groupName? cs).map fun (name, cs) => (.group (some name) m, cs)
  | '?' :: cs =>
    let letters := cs.takeWhile fun c => c != ':' && c != ')'
    if isModeList letters then
      match cs.drop letters.length with
      | ':' :: cs => some (.group none (m.changedBy letters), cs)
      | _ :: cs => if letters.isEmpty then none else some (.change (m.changedBy letters), cs)
      | [] => none
    else none
  | cs => some (.group none m, cs)

/-- How far a group has been read. -/
structure GroupState where
  /-- The names of all groups so far, within this one or not. -/
  names : List (List Char)
  /-- The heights of the alternatives before this one. -/
  alternatives : List Nat
  /-- The heights of the parts of this alternative. -/
  parts : List Nat
  /-- The last part can be repeated. -/
  repeatable : Bool

namespace GroupState

/-- The state behind the opening of a group. -/
def inside (names : List (List Char)) : GroupState := ⟨names, [], [], false⟩

/-- The height of what has been read. -/
def height (g : GroupState) : Nat := wrapped (wrapped g.parts :: g.alternatives)

def add (g : GroupState) (height : Nat) : GroupState :=
  { g with parts := height :: g.parts, repeatable := true }

/-- The last part repeated. -/
def repeated? (g : GroupState) : Option GroupState :=
  match g.parts with
  | h :: parts => if g.repeatable then some { g with parts := (h + 1) :: parts } else none
  | [] => none

end GroupState

/-- The rest of a group: what has been read at its end, and the text there, which is empty or starts with
a closing parenthesis. -/
def parts? : Nat → Modes → GroupState → List Char → Option (GroupState × List Char)
  | 0, _, _, _ => none
  | fuel + 1, m, g, cs =>
    match m.skip cs with
    | [] => some (g, [])
    | ')' :: cs => some (g, ')' :: cs)
    | '|' :: cs =>
      parts? fuel m ⟨g.names, wrapped g.parts :: g.alternatives, [], false⟩ cs
    | '(' :: cs =>
      (opening? m cs).bind fun
        | (.change m, cs) => parts? fuel m { g.add 0 with repeatable := false } cs
        | (.group name inner, cs) =>
          if name.any g.names.contains then none
          else
            (parts? fuel inner (.inside (name.toList ++ g.names)) cs).bind fun
              | (content, ')' :: cs) =>
                parts? fuel m { g.add (content.height + 1) with names := content.names } cs
              | _ => none
    | '[' :: cs => (set? (cs.length + 1) m cs).bind fun (h, cs) => parts? fuel m (g.add h) cs
    | '\\' :: cs =>
      (escape? m cs).bind fun (sign, cs) =>
        if sign.isSupported m then parts? fuel m (g.add 0) cs else none
    | '\x7b' :: _ => none
    | c :: cs =>
      if c == '*' || c == '+' || c == '?' then
        g.repeated?.bind fun g =>
          parts? fuel m g (match cs with
            | '?' :: cs => cs
            | cs => cs)
      else if c == '^' || c == '$' then parts? fuel m (g.add 0) cs
      else if c == '.' then if m.wide then parts? fuel m (g.add 0) cs else none
      else if (Sign.char c false).isSupported m then parts? fuel m (g.add 0) cs
      else none

/-- How deep a pattern may nest. -/
def heightLimit : Nat := 250

/-- Whether a text is a pattern. -/
def isValid (cs : List Char) : Bool :=
  match parts? (cs.length + 1) .initial (.inside []) cs with
  | some (g, []) => g.height ≤ heightLimit
  | _ => false

end Allotment.Text.Pattern
