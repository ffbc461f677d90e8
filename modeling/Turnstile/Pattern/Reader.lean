import Turnstile.Pattern.Class
import Turnstile.Text.Blank
import Turnstile.Word

/-!
# Reading the pieces of a pattern

Readers for escapes, numbers, flags and classes. Each takes the characters that are left and returns
what it read together with the rest, or nothing when the pattern is no good at that point.

* `readEscape?`: what a backslash introduces.
* `readClass?`: a class between square brackets, with nested classes and set operations.
* `readFlags?`, `readGroupName?`: what may follow the opening of a group.
-/

namespace Turnstile.Pattern

/-! ## Blanks -/

/-- What is left after blanks and comments, where the flags let them be ignored. -/
def skipBlanks (f : Flags) (cs : List Char) : List Char :=
  if f.ignoreBlanks then go cs false else cs
where
  go : List Char → Bool → List Char
    | [], _ => []
    | c :: cs, true => go cs (c != '\n')
    | c :: cs, false =>
      if Text.isBlank c then go cs false else if c = '#' then go cs true else c :: cs

/-- A number in decimal digits, with blanks allowed around and, where the flags say so, between
them. -/
def readNumber? (f : Flags) (cs : List Char) : Option (Nat × List Char) :=
  go cs.length (cs.dropWhile Text.isBlank) []
where
  go : Nat → List Char → List Char → Option (Nat × List Char)
    | fuel + 1, c :: cs, seen =>
      if c.isDigit then go fuel (skipBlanks f cs) (c :: seen) else finish (c :: cs) seen
    | _, cs, seen => finish cs seen
  finish (cs seen : List Char) : Option (Nat × List Char) :=
    let n := seen.reverse.foldl (fun n c => 10 * n + (c.toNat - '0'.toNat)) 0
    if seen.isEmpty || Word.bound32 ≤ n then none
    else some (n, skipBlanks f (cs.dropWhile Text.isBlank))

/-! ## Escapes -/

/-- What a backslash introduces. -/
inductive Escape where
  /-- A character; `byte` tells that it was written as two hexadecimal digits. -/
  | char (c : Char) (byte : Bool)
  | named (c : Named) (negated : Bool)
  | property (members : CodePoints) (negated : Bool)
  | look (condition : Look)

/-- The value of a hexadecimal digit of either case. -/
def hexDigit? (c : Char) : Option Nat :=
  if c.isDigit then some (c.toNat - '0'.toNat)
  else if 'a' ≤ c ∧ c ≤ 'f' then some (c.toNat - 'a'.toNat + 10)
  else if 'A' ≤ c ∧ c ≤ 'F' then some (c.toNat - 'A'.toNat + 10)
  else none

/-- The character with the given number. -/
def charOf? (n : Nat) : Option Char :=
  if n.isValidChar then some (Char.ofNat n) else none

/-- A fixed count of hexadecimal digits. -/
def readHexDigits? (f : Flags) : Nat → Nat → List Char → Option (Char × List Char)
  | 0, n, cs => (charOf? n).map fun c => (c, cs)
  | _ + 1, _, [] => none
  | count + 1, n, c :: cs => do
    let d ← hexDigit? c
    readHexDigits? f count (16 * n + d) (skipBlanks f cs)

/-- Hexadecimal digits up to a closing brace. -/
def readHexBrace? (f : Flags) : Nat → Option Nat → List Char → Option (Char × List Char)
  | fuel + 1, n, c :: cs =>
    if c = '\x7d' then do
      let c ← charOf? (← n)
      return (c, skipBlanks f cs)
    else do
      let d ← hexDigit? c
      let n := 16 * n.getD 0 + d
      if Word.bound32 ≤ n then none else readHexBrace? f fuel (some n) (skipBlanks f cs)
  | _, _, _ => none

/-- A character written by its number, after the letter that says so. -/
def readHex? (f : Flags) (kind : Char) (cs : List Char) : Option (Escape × List Char) :=
  match skipBlanks f cs with
  | '\x7b' :: cs => (readHexBrace? f cs.length none (skipBlanks f cs)).map fun (c, cs) =>
      (.char c false, cs)
  | cs =>
    let count := if kind = 'x' then 2 else if kind = 'u' then 4 else 8
    (readHexDigits? f count 0 cs).map fun (c, cs) => (.char c (kind == 'x'), cs)

/-- The characters up to a closing brace. -/
def readBraced? (f : Flags) : Nat → List Char → List Char → Option (List Char × List Char)
  | fuel + 1, c :: cs, seen =>
    if c = '\x7d' then some (seen.reverse, cs) else readBraced? f fuel (skipBlanks f cs) (c :: seen)
  | _, _, _ => none

/-- The parts of a list around the first place where `sep` stands. -/
def cutAt? (sep : List Char) : List Char → Option (List Char × List Char)
  | [] => none
  | c :: cs =>
    if sep.isPrefixOf (c :: cs) then some ([], (c :: cs).drop sep.length)
    else (cutAt? sep cs).map fun (a, b) => (c :: a, b)

/-- The members of the property that a text between braces names, and whether it is negated. -/
def propertyOf? (name : List Char) : Option (CodePoints × Bool) :=
  match cutAt? ['!', '='] name with
  | some (p, v) => (CodePoints.valued? p v).map fun s => (s, true)
  | none =>
    match cutAt? [':'] name with
    | some (p, v) => (CodePoints.valued? p v).map fun s => (s, false)
    | none =>
      match cutAt? ['='] name with
      | some (p, v) => (CodePoints.valued? p v).map fun s => (s, false)
      | none => (CodePoints.named? name).map fun s => (s, false)

/-- A property, after the letter that says so. -/
def readProperty? (f : Flags) (negated : Bool) (cs : List Char) : Option (Escape × List Char) :=
  match skipBlanks f cs with
  | '\x7b' :: cs => do
    let (name, cs) ← readBraced? f (cs.length + 1) (skipBlanks f cs) []
    let (s, unequal) ← propertyOf? name
    return (.property s (negated != unequal), cs)
  | c :: cs =>
    if c = '\\' then none
    else do
      let s ← CodePoints.named? [c]
      return (.property s negated, skipBlanks f cs)
  | [] => none

/-- The characters that mean something in a pattern. -/
def isMeta (c : Char) : Bool :=
  ['\\', '.', '+', '*', '?', '(', ')', '|', '[', ']', '\x7b', '\x7d', '^', '$', '#', '&', '-',
    '~'].contains c

/-- Whether a backslash before the character makes it stand for itself. -/
def isEscapable (c : Char) : Bool :=
  isMeta c || (c.toNat < 0x80 && !c.isAlphanum && c != '<' && c != '>')

/-- The characters of a word condition's name, up to what cannot belong to it. -/
def readWordName (f : Flags) : Nat → List Char → List Char → List Char × List Char
  | fuel + 1, c :: cs, seen =>
    if c.isAlpha || c = '-' then readWordName f fuel (skipBlanks f cs) (c :: seen)
    else (seen.reverse, c :: cs)
  | _, cs, seen => (seen.reverse, cs)

/-- A word condition written with a name in braces. A brace that begins no name is left alone: it is
a count of repetitions. -/
def readWordLook? (f : Flags) (ascii : Bool) (cs : List Char) : Option (Escape × List Char) :=
  match cs with
  | '\x7b' :: rest =>
    match skipBlanks f rest with
    | [] => none
    | c :: rest =>
      if c.isAlpha || c = '-' then
        let (name, rest) := readWordName f (rest.length + 1) (c :: rest) []
        match rest with
        | '\x7d' :: rest =>
          match String.ofList name with
          | "start" => some (.look (.wordStart ascii), rest)
          | "end" => some (.look (.wordFinish ascii), rest)
          | "start-half" => some (.look (.wordStartHalf ascii), rest)
          | "end-half" => some (.look (.wordFinishHalf ascii), rest)
          | _ => none
        | _ => none
      else some (.look (.wordBoundary ascii), cs)
  | _ => some (.look (.wordBoundary ascii), cs)

/-- What follows a backslash. -/
def readEscape? (f : Flags) : List Char → Option (Escape × List Char)
  | [] => none
  | c :: cs =>
    let ascii := !f.unicode
    if c.isDigit then none
    else if c = 'x' || c = 'u' || c = 'U' then readHex? f c cs
    else if c = 'p' || c = 'P' then readProperty? f (c == 'P') cs
    else if isEscapable c then some (.char c false, cs)
    else match c with
      | 'd' => some (.named .digit false, cs)
      | 'D' => some (.named .digit true, cs)
      | 's' => some (.named .space false, cs)
      | 'S' => some (.named .space true, cs)
      | 'w' => some (.named .word false, cs)
      | 'W' => some (.named .word true, cs)
      | 'a' => some (.char '\x07' false, cs)
      | 'f' => some (.char '\x0c' false, cs)
      | 't' => some (.char '\t' false, cs)
      | 'n' => some (.char '\n' false, cs)
      | 'r' => some (.char '\r' false, cs)
      | 'v' => some (.char '\x0b' false, cs)
      | 'A' => some (.look .start, cs)
      | 'z' => some (.look .finish, cs)
      | 'b' => readWordLook? f ascii cs
      | 'B' => some (.look (.noWordBoundary ascii), cs)
      | '<' => some (.look (.wordStart ascii), cs)
      | '>' => some (.look (.wordFinish ascii), cs)
      | _ => none

/-- The members of an escaped class. -/
def classOf? (f : Flags) : Escape → Option CodePoints
  | .named c negated => f.negated? negated (c.members f.unicode)
  | .property s negated => if f.unicode then f.class? negated s else none
  | _ => none

/-! ## Classes between brackets -/

/-- The set operations within a class. -/
inductive SetOp where
  | inter
  | diff
  | symmDiff
  deriving DecidableEq, Repr

/-- The result of a set operation; case variants are added to both sides first. -/
def SetOp.apply (f : Flags) (op : SetOp) (a b : CodePoints) : CodePoints :=
  let a := f.fold a
  let b := f.fold b
  match op with
  | .inter => a.inter b
  | .diff => a.diff b
  | .symmDiff => a.symmDiff b

/-- A part of a class under construction: its members, how many items it has, and how deeply the
classes in it are nested. -/
structure ClassPart where
  members : CodePoints := CodePoints.empty
  items : Nat := 0
  depth : Nat := 0

/-- A part with one more item. -/
def ClassPart.add (p : ClassPart) (s : CodePoints) (depth : Nat) : ClassPart :=
  { members := p.members.union s, items := p.items + 1, depth := max p.depth depth }

/-- The nesting depth of a finished part: a union of several items is one level of its own. -/
def ClassPart.height (p : ClassPart) : Nat := if p.items ≤ 1 then p.depth else p.depth + 1

/-- A class that has been opened: the operation that waits for its right side, with its left side,
and what it was opened in. -/
structure OpenClass where
  negated : Bool
  outer : ClassPart
  waiting : Option (SetOp × ClassPart) := none

/-- The part that results when an operation waits for the given right side. -/
def OpenClass.settle (f : Flags) (o : OpenClass) (right : ClassPart) : ClassPart :=
  match o.waiting with
  | none => { right with depth := right.height, items := 1 }
  | some (op, left) =>
    { members := op.apply f left.members right.members
      items := 1
      depth := max left.depth right.height + 1 }

/-- An item of a class that may begin or end a range. -/
inductive ClassItem where
  | char (n : Nat)
  | set (s : CodePoints)

/-- The number that a character has in a class. Without the flag for the whole standard a class is
made of characters of ASCII. -/
def memberOf? (f : Flags) (c : Char) : Option Nat :=
  if f.unicode || c.toNat < 0x80 then some c.toNat else none

/-- Reads one item of a class. -/
def readClassItem? (f : Flags) : List Char → Option (ClassItem × List Char)
  | [] => none
  | '\\' :: cs => do
    let (e, cs) ← readEscape? f cs
    match e with
    | .char c _ => return (.char (← memberOf? f c), cs)
    | .look _ => none
    | e => return (.set (← classOf? f e), cs)
  | c :: cs => (memberOf? f c).map fun n => (.char n, cs)

/-- Reads an item or a range. A hyphen before the closing bracket or before another hyphen makes no
range. -/
def readClassRange? (f : Flags) (cs : List Char) : Option (CodePoints × List Char) := do
  let (first, cs) ← readClassItem? f cs
  let cs := skipBlanks f cs
  let alone : CodePoints := match first with
    | .char n => .single n
    | .set s => s
  match cs with
  | [] => none
  | '-' :: rest =>
    match skipBlanks f rest with
    | ']' :: _ => return (alone, cs)
    | '-' :: _ => return (alone, cs)
    | [] => none
    | rest =>
      let (second, rest) ← readClassItem? f rest
      match first, second with
      | .char a, .char b => if a ≤ b then return (⟨[(a, b)]⟩, rest) else none
      | _, _ => none
  | _ => return (alone, cs)

/-- Reads a class of ASCII between colons, after the opening bracket; nothing if there is none. -/
def readAsciiClass? (f : Flags) (cs : List Char) : Option (Option (CodePoints × List Char)) :=
  match cs with
  | ':' :: cs =>
    let (negated, cs) := match cs with
      | '^' :: cs => (true, cs)
      | cs => (false, cs)
    let name := cs.takeWhile (· != ':')
    match cs.drop name.length, asciiClass? (String.ofList name) with
    | ':' :: ']' :: rest, some s => (f.class? negated s).map fun s => some (s, rest)
    | _, _ => some none
  | _ => some none

/-- Hyphens at the beginning of a class stand for themselves. -/
def leadingHyphens (f : Flags) : Nat → List Char → ClassPart → List Char × ClassPart
  | fuel + 1, '-' :: cs, p =>
    leadingHyphens f fuel (skipBlanks f cs) (p.add (.single '-'.toNat) 0)
  | _, cs, p => (cs, p)

/-- Reads the opening of a class, after the bracket: whether it is negated, and the hyphens or the
closing bracket that stand for themselves at its beginning. -/
def readClassOpening (f : Flags) (cs : List Char) : Bool × ClassPart × List Char :=
  let (negated, cs) := match skipBlanks f cs with
    | '^' :: cs => (true, skipBlanks f cs)
    | cs => (false, cs)
  let (cs, part) := leadingHyphens f cs.length cs {}
  match part.items, cs with
  | 0, ']' :: cs => (negated, part.add (.single ']'.toNat) 0, skipBlanks f cs)
  | _, cs => (negated, part, cs)

/-- Reads the rest of a class, given the classes that are open, innermost first, and the part that is
being read. -/
def readClassLoop? (f : Flags) :
    Nat → List OpenClass → ClassPart → List Char → Option (CodePoints × Nat × List Char)
  | 0, _, _, _ => none
  | _ + 1, [], _, _ => none
  | fuel + 1, o :: opened, part, cs =>
    match skipBlanks f cs with
    | [] => none
    | '[' :: cs => do
      match ← readAsciiClass? f cs with
      | some (s, cs) => readClassLoop? f fuel (o :: opened) (part.add s 0) cs
      | none =>
        let (negated, inner, cs) := readClassOpening f cs
        readClassLoop? f fuel ({ negated, outer := part } :: o :: opened) inner cs
    | ']' :: cs => do
      let whole := o.settle f part
      let s ← f.class? o.negated whole.members
      match opened with
      | [] => return (s, whole.depth + 1, cs)
      | _ => readClassLoop? f fuel opened (o.outer.add s (whole.depth + 1)) cs
    | '&' :: '&' :: cs =>
      readClassLoop? f fuel ({ o with waiting := some (.inter, o.settle f part) } :: opened) {} cs
    | '-' :: '-' :: cs =>
      readClassLoop? f fuel ({ o with waiting := some (.diff, o.settle f part) } :: opened) {} cs
    | '~' :: '~' :: cs =>
      readClassLoop? f fuel ({ o with waiting := some (.symmDiff, o.settle f part) } :: opened) {} cs
    | cs => do
      let (s, cs) ← readClassRange? f cs
      readClassLoop? f fuel (o :: opened) (part.add s 0) cs

/-- Reads a class after its opening bracket: its members and how deeply it is nested. -/
def readClass? (f : Flags) (cs : List Char) : Option (CodePoints × Nat × List Char) :=
  let (negated, part, rest) := readClassOpening f cs
  readClassLoop? f (cs.length + 1) [{ negated, outer := {} }] part rest

/-! ## Groups -/

/-- Reads flags up to the character that ends them. A flag may be given once, and a hyphen, which
turns off the flags after it, must be followed by one. -/
def readFlags? : List Char → Bool → List Flag → Flags → Option (Flags × List Char)
  | [], _, _, _ => none
  | c :: cs, negated, seen, f =>
    if c = ':' || c = ')' then some (f, c :: cs)
    else if c = '-' then
      match negated, cs with
      | true, _ => none
      | false, [] => none
      | false, d :: _ => if d = ':' || d = ')' then none else readFlags? cs true seen f
    else do
      let flag ← Flag.ofChar? c
      if seen.contains flag then none else readFlags? cs negated (flag :: seen) (f.set (!negated) flag)

/-- Whether a character may stand in the name of a group. -/
def isNameChar (first : Bool) (c : Char) : Bool :=
  c = '_' ||
    if first then CodePoints.alphabetic.contains c.toNat
    else CodePoints.alphabetic.contains c.toNat
      || (CodePoints.inCategories ["Nd", "Nl", "No"]).contains c.toNat
      || c = '.' || c = '[' || c = ']'

/-- Reads the name of a group, up to the closing angle bracket. -/
def readGroupName? (cs : List Char) : Option (String × List Char) :=
  let name := cs.takeWhile (· != '>')
  match name, cs.drop name.length with
  | first :: others, '>' :: rest =>
    if isNameChar true first && others.all (isNameChar false) then some (String.ofList name, rest)
    else none
  | _, _ => none

end Turnstile.Pattern
