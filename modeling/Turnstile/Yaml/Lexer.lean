import Turnstile.Yaml.Scalar

/-!
# From text to tokens

The text is read from left to right. The columns of the open block collections are kept on a stack, and
so is, for each open flow collection, the token that would become a key if a colon followed.

* `Lexer`: the state of the reading.
* `Lexer.step?`: reads what comes next.
* `Token.ofText?`: the tokens of a text, or nothing if a rule is broken.
-/

namespace Turnstile.Yaml

/-- A token that becomes a key if a colon follows it on the same line, not too far away. -/
structure PossibleKey where
  position : Nat
  index : Nat
  line : Nat
  column : Nat
  /-- No other reading of the token is allowed here. -/
  required : Bool

/-- The state of the reading. -/
structure Lexer where
  cursor : Cursor
  tokens : Array Token := #[]
  /-- The columns of the open block collections, innermost first. -/
  indents : List Nat := []
  /-- Whether content must stand behind the column of the innermost block collection, although none
  deeper was opened. -/
  padded : Bool := false
  keyAllowed : Bool := true
  key : Option PossibleKey := none
  /-- The possible keys outside the open flow collections, innermost first. -/
  outerKeys : List (Option PossibleKey) := []
  /-- Where the last quoted scalar ended. -/
  quoteEnd : Nat := 0

/-- Characters after which a token can no longer be a key. -/
def keyReach : Nat := 1024

/-- Open flow collections that the lenient reading bears. -/
def flowLimit : Nat := 255

namespace Lexer

/-- Whether a flow collection is open. -/
def inFlow (l : Lexer) : Bool := !l.outerKeys.isEmpty

/-- The least column in which the content of the innermost block collection may stand. -/
def contentColumn (l : Lexer) : Nat :=
  match l.indents with
  | [] => 0
  | n :: _ => n + 1

/-- The least column in which a token may stand in a flow collection. -/
def leastColumn (l : Lexer) : Nat :=
  match l.indents with
  | [] => 0
  | n :: _ => if l.padded then n + 1 else n

/-- Asks for content behind the column of the innermost block collection, if there is one. -/
def pad (d : Dialect) (l : Lexer) : Lexer :=
  if d = .lenient && !l.inFlow && !l.indents.isEmpty then { l with padded := true } else l

/-- Adds a token. -/
def push (l : Lexer) (t : Token) : Lexer := { l with tokens := l.tokens.push t }

/-- Puts a token before the one at a position. -/
def insert (l : Lexer) (position : Nat) (t : Token) : Lexer :=
  { l with tokens := l.tokens.extract 0 position ++ #[t] ++ l.tokens.extract position l.tokens.size }

/-- Goes on at another place. -/
def moveTo (l : Lexer) (c : Cursor) : Lexer := { l with cursor := c }

/-! ## Block collections -/

/-- Closes the block collections that are deeper than a column. -/
def closeBeyond (l : Lexer) (column : Nat) : Lexer :=
  if l.inFlow then l
  else
    let deeper := l.indents.takeWhile (column < ·)
    let padded := l.padded && deeper.isEmpty && l.indents.head?.any (· < column)
    { l with
      padded
      indents := l.indents.drop deeper.length
      tokens := l.tokens ++ Array.replicate deeper.length Token.blockEnd }

/-- Closes all block collections. -/
def closeAll (l : Lexer) : Lexer :=
  if l.inFlow then l
  else
    { l with
      indents := []
      padded := false
      tokens := l.tokens ++ Array.replicate l.indents.length Token.blockEnd }

/-- Opens a block collection at a column if it is deeper than those that are open; its first token is
put at a position. -/
def openBlock (l : Lexer) (column position : Nat) (t : Token) : Lexer :=
  if l.inFlow then l
  else if l.indents.head?.any (column ≤ ·) then { l with padded := false }
  else { l.insert position t with indents := column :: l.indents, padded := false }

/-! ## Keys -/

/-- Gives up keys that are out of reach; nothing if one of them was required. In the lenient reading
nothing is out of reach in a flow collection. -/
def dropStaleKeys? (d : Dialect) (l : Lexer) : Option Lexer := do
  let refresh (k : Option PossibleKey) : Option (Option PossibleKey) :=
    match k with
    | none => some none
    | some k =>
      if (d = .strict || !l.inFlow)
          && (k.line < l.cursor.line || k.index + keyReach < l.cursor.index) then
        if k.required then none else some none
      else some (some k)
  return { l with key := ← refresh l.key, outerKeys := ← l.outerKeys.mapM refresh }

/-- Gives up the possible key; nothing if it was required. -/
def dropKey? (l : Lexer) : Option Lexer :=
  if l.key.any (·.required) then none else some { l with key := none }

/-- Notes that the next token may be a key. -/
def noteKey? (l : Lexer) : Option Lexer :=
  if l.keyAllowed then do
    let c := l.cursor
    let l ← l.dropKey?
    let aligned := l.indents.head? = some c.column
    return { l with
      key := some {
        position := l.tokens.size, index := c.index, line := c.line, column := c.column
        required := aligned && !l.inFlow && !l.padded } }
  else some l

/-- Says whether a key may come next. -/
def allowKey (l : Lexer) (allowed : Bool) : Lexer := { l with keyAllowed := allowed }

/-! ## Blanks -/

/-- Steps over blanks within a line. Where a key may begin, the strict reading stops at a tab. In the
lenient one a tab may not take the place of an indentation before something else. -/
def skipBlanks? (d : Dialect) (l : Lexer) : Option Cursor :=
  match d with
  | .strict =>
    let c := if l.cursor.index == 0 && l.cursor.rest.head? = some '\ufeff' then l.cursor.drop 1
      else l.cursor
    let tabs := l.inFlow || !l.keyAllowed
    some (c.dropWhile fun x => x == ' ' || (tabs && x == '\t'))
  | .lenient =>
    let atStart := l.cursor.column == 0
    let c := l.cursor.dropWhile (· == ' ')
    let misplaced := atStart && c.rest.head? = some '\t' && !l.indents.isEmpty
      && c.column < l.leastColumn
    let c := c.dropBlanks
    if misplaced && !d.endsLine (c.dropComment d).rest then none else some c

/-- Steps over blanks, comments and line ends up to the next token. -/
def skip? (d : Dialect) : Nat → Lexer → Option Lexer
  | 0, l => some l
  | fuel + 1, l =>
    match l.skipBlanks? d with
    | none => none
    | some c =>
      let c := c.dropComment d
      if c.rest.head?.any d.isBreak then
        skip? d fuel { l with cursor := (c.readBreak d).2, keyAllowed := l.keyAllowed || !l.inFlow }
      else some (l.moveTo c)

/-! ## Tags -/

/-- A character of a tag. Brackets and commas belong to it inside angle brackets, and everywhere in the
lenient reading. -/
def isTagChar (d : Dialect) (wide : Bool) (c : Char) : Bool :=
  isNameChar c || ";/?:@&=+$.!~*'()".toList.contains c
    || ((wide || d = .lenient) && (c == ',' || c == '[' || c == ']'))

/-- Reads a character written as its octets, each a percent sign and two hexadecimal digits. -/
def readOctets? (cs : List Char) : Option (Char × Nat) := do
  let octet (cs : List Char) : Option Nat :=
    match cs with
    | '%' :: a :: b :: _ => hexNumber? [a, b]
    | _ => none
  let first ← octet cs
  let (width, bits) ← (if first < 0x80 then some (1, first)
    else if first / 0x20 = 6 then some (2, first % 0x20)
    else if first / 0x10 = 14 then some (3, first % 0x10)
    else if first / 0x08 = 30 then some (4, first % 0x08)
    else none)
  let n ← (List.range (width - 1)).foldlM (fun n k => do
    let o ← octet (cs.drop (3 * (k + 1)))
    if o / 0x40 = 2 then return 64 * n + o % 0x40 else none) bits
  return (Char.ofNat n, 3 * width)

/-- Reads the characters of a tag. -/
def readTagChars? (d : Dialect) (wide : Bool) : Nat → List Char → Cursor → Option (List Char × Cursor)
  | 0, _, _ => none
  | fuel + 1, text, c =>
    match c.rest with
    | [] => some (text, c)
    | x :: _ =>
      if x == '%' then
        match readOctets? c.rest with
        | none => none
        | some (y, n) => readTagChars? d wide fuel (text ++ [y]) (c.drop n)
      else if isTagChar d wide x then readTagChars? d wide fuel (text ++ [x]) (c.drop 1)
      else some (text, c)

/-- Reads the end of a tag, or one between angle brackets; it may not be empty. -/
def readSuffix? (d : Dialect) (wide : Bool) (c : Cursor) : Option (String × Cursor) := do
  let (text, c) ← readTagChars? d wide (c.rest.length + 1) [] c
  if text.isEmpty then none else return (String.ofList text, c)

/-- Reads the handle with which a tag may begin: an exclamation mark, or a name between two. -/
def readHandle? (c : Cursor) : Option (List Char × Cursor) :=
  match c.rest with
  | '!' :: _ =>
    let (name, c) := (c.drop 1).takeWhile isNameChar
    if c.rest.head? = some '!' then some ('!' :: name ++ ['!'], c.drop 1)
    else some ('!' :: name, c)
  | _ => none

/-- Reads a tag. -/
def readTag? (d : Dialect) (flow : Bool) (c : Cursor) : Option (Token × Cursor) := do
  let (tag, c) ← (match c.rest with
    | '!' :: '<' :: _ => do
      let (suffix, c) ← readSuffix? d true (c.drop 2)
      if c.rest.head? = some '>' then some (Token.tag "" suffix, c.drop 1) else none
    | _ => do
      let (handle, c) ← readHandle? c
      if 2 ≤ handle.length ∧ handle.getLast? = some '!' then
        let (suffix, c) ← readSuffix? d false c
        return (Token.tag (String.ofList handle) suffix, c)
      else
        let (text, c) ← readTagChars? d false (c.rest.length + 1) (handle.drop 1) c
        if text.isEmpty then return (Token.tag "" "!", c)
        else return (Token.tag "!" (String.ofList text), c))
  let ended := d.endsWord c.rest
    || (d = .strict && flow && c.rest.head? = some ',')
  if ended then return (tag, c) else none

/-! ## Directives -/

/-- Reads a part of a version. -/
def readVersionNumber? (c : Cursor) : Option (Nat × Cursor) :=
  let (digits, c) := c.takeWhile Char.isDigit
  if digits.isEmpty || 9 < digits.length then none
  else some (digits.foldl (fun n x => 10 * n + (x.toNat - '0'.toNat)) 0, c)

/-- Reads a directive, up to the next line. -/
def readDirective? (d : Dialect) (c : Cursor) : Option (Token × Cursor) := do
  let (name, c) := (c.drop 1).takeWhile isNameChar
  if name.isEmpty || !d.endsWord c.rest then none
  else
    let (t, c) ← (if name = "YAML".toList then do
        let (major, c) ← readVersionNumber? c.dropBlanks
        if c.rest.head? ≠ some '.' then none
        else
          let (minor, c) ← readVersionNumber? (c.drop 1)
          return (Token.version major minor, c)
      else if name = "TAG".toList then do
        let (handle, c) ← readHandle? c.dropBlanks
        if handle ≠ ['!'] ∧ (handle.length < 2 ∨ handle.getLast? ≠ some '!') then none
        else if !c.rest.head?.any isBlank then none
        else
          let (start, c) ← readSuffix? d true c.dropBlanks
          if d.endsWord c.rest then return (Token.tagHandle (String.ofList handle) start, c) else none
      else if d = .lenient then return (Token.tagHandle "" "", c.dropLine d)
      else none)
    return (t, ← c.finishLine? d)

/-! ## Tokens -/

/-- Reads a directive. -/
def directive? (d : Dialect) (l : Lexer) : Option Lexer := do
  let l := (← l.closeAll.dropKey?).allowKey false
  let (t, c) ← readDirective? d l.cursor
  return (l.push t).moveTo c

/-- Reads the mark at which a document begins or ends. -/
def documentMark? (t : Token) (l : Lexer) : Option Lexer := do
  let l := (← l.closeAll.dropKey?).allowKey false
  return (l.push t).moveTo (l.cursor.drop 3)

/-- Reads an opening bracket. -/
def openFlow? (d : Dialect) (t : Token) (l : Lexer) : Option Lexer := do
  let l := (← l.noteKey?).pad d
  if d = .lenient && flowLimit ≤ l.outerKeys.length then none
  else
    let l := { l with outerKeys := l.key :: l.outerKeys, key := none, keyAllowed := true }
    return (l.push t).moveTo (l.cursor.drop 1)

/-- Reads a closing bracket. -/
def closeFlow? (t : Token) (l : Lexer) : Option Lexer := do
  let l ← l.dropKey?
  let l := match l.outerKeys with
    | [] => l
    | k :: ks => { l with key := k, outerKeys := ks }
  return ((l.allowKey false).push t).moveTo (l.cursor.drop 1)

/-- Reads the comma between two entries. -/
def flowEntry? (l : Lexer) : Option Lexer := do
  let l := (← l.dropKey?).allowKey true
  return (l.push .flowEntry).moveTo (l.cursor.drop 1)

/-- Reads the hyphen before an entry. -/
def blockEntry? (d : Dialect) (l : Lexer) : Option Lexer := do
  if l.inFlow || !l.keyAllowed then none
  else
    let l := l.openBlock l.cursor.column l.tokens.size .blockSequenceStart
    let next := ((l.cursor.drop 1).dropBlanks.dropComment d).rest
    let l := if next.head?.any (fun x => d.isBreak x || isFlowChar x) then l.pad d else l
    let l := (← l.dropKey?).allowKey true
    return (l.push .blockEntry).moveTo (l.cursor.drop 1)

/-- Reads the question mark before a key. -/
def key? (l : Lexer) : Option Lexer := do
  if !l.inFlow && !l.keyAllowed then none
  else
    let l := l.openBlock l.cursor.column l.tokens.size .blockMappingStart
    let l := (← l.dropKey?).allowKey !l.inFlow
    return (l.push .key).moveTo (l.cursor.drop 1)

/-- Reads the colon before a value. What could have been a key becomes one. -/
def value? (d : Dialect) (l : Lexer) : Option Lexer := do
  let (blanks, c) := (l.cursor.drop 1).takeWhile isBlank
  let tabsOnly := !blanks.isEmpty && blanks.all (· == '\t')
  if d = .lenient && tabsOnly && c.rest.head?.any isNameChar then none
  let l ← (match l.key with
    | some k =>
      let l := l.insert k.position .key
      let l := l.openBlock k.column k.position .blockMappingStart
      some { l with key := none, keyAllowed := false }
    | none =>
      if l.inFlow then some (l.allowKey false)
      else if !l.keyAllowed then none
      else some ((l.openBlock l.cursor.column l.tokens.size .blockMappingStart).allowKey true))
  return ((l.pad d).push .value).moveTo (l.cursor.drop 1)

/-- Reads an anchor or an alias. -/
def anchor? (d : Dialect) (t : String → Token) (l : Lexer) : Option Lexer := do
  let l := (← l.noteKey?).allowKey false
  let (name, c) := (l.cursor.drop 1).takeWhile d.isAnchorChar
  let followed := c.rest.head?.any fun x => "?:,]\x7d%@\x60".toList.contains x
  if name.isEmpty || !(d.endsWord c.rest || followed) then none
  else return (l.push (t (String.ofList name))).moveTo c

/-- Reads a tag. -/
def tag? (d : Dialect) (l : Lexer) : Option Lexer := do
  let l := (← l.noteKey?).allowKey false
  let (t, c) ← readTag? d l.inFlow l.cursor
  return (l.push t).moveTo c

/-- Reads a block scalar. -/
def block? (d : Dialect) (literal : Bool) (l : Lexer) : Option Lexer := do
  let l := { (← l.dropKey?).allowKey true with padded := false }
  let (text, c) ← readBlock? d literal l.contentColumn (l.cursor.drop 1)
  return (l.push (.scalar (if literal then .literal else .folded) text)).moveTo c

/-- Reads a quoted scalar. -/
def quoted? (d : Dialect) (single : Bool) (l : Lexer) : Option Lexer := do
  let l := (← l.noteKey?).allowKey false
  let (text, c) ← readQuoted? d single l.leastColumn (l.cursor.drop 1)
  let l := l.push (.scalar (if single then .singleQuoted else .doubleQuoted) text)
  return { l with cursor := c, quoteEnd := c.index }

/-- Reads a plain scalar. -/
def plain? (d : Dialect) (l : Lexer) : Option Lexer := do
  let l := { (← l.noteKey?).allowKey false with padded := false }
  if d = .lenient && l.inFlow && l.cursor.column < l.contentColumn then none
  let (text, broken, c) ← readPlain? d l.inFlow l.contentColumn l.cursor
  return ((l.push (.scalar .plain text)).allowKey broken).moveTo c

/-- Whether a colon here stands before a value. -/
def atValue (d : Dialect) (l : Lexer) (next : List Char) : Bool :=
  d.endsWord next
    || (l.inFlow && (d = .strict || next.head?.any isFlowChar || l.cursor.index = l.quoteEnd))

/-- Whether a plain scalar may begin here. -/
def atPlain (d : Dialect) (l : Lexer) (c : Char) (next : List Char) : Bool :=
  match d with
  | .lenient => !(c == '%' || c == '@' || c == '\x60')
  | .strict =>
    if c == '-' then !next.head?.any isBlank
    else if c == '?' || c == ':' then !l.inFlow && !d.endsWord next
    else !(d.endsWord [c] || isFlowChar c || "#&*!|>'\"%@\x60".toList.contains c)

/-- Reads the token that begins with a character. -/
def token? (d : Dialect) (l : Lexer) (c : Char) (next : List Char) : Option Lexer :=
  if l.cursor.column = 0 && c = '%' then l.directive? d
  else if l.cursor.atDocumentMark d then
    l.documentMark? (if c = '-' then .documentStart else .documentEnd)
  else if c = '[' then l.openFlow? d .flowSequenceStart
  else if c = '\x7b' then l.openFlow? d .flowMappingStart
  else if c = ']' then l.closeFlow? .flowSequenceEnd
  else if c = '\x7d' then l.closeFlow? .flowMappingEnd
  else if c = ',' then l.flowEntry?
  else if c = '-' && d.endsWord next then l.blockEntry? d
  else if c = '?' && ((d = .strict && l.inFlow) || d.endsWord next) then l.key?
  else if c = ':' && l.atValue d next then l.value? d
  else if c = '*' then l.anchor? d .alias
  else if c = '&' then l.anchor? d .anchor
  else if c = '!' then l.tag? d
  else if c = '|' && !l.inFlow then l.block? d true
  else if c = '>' && !l.inFlow then l.block? d false
  else if c = '\'' then l.quoted? d true
  else if c = '"' then l.quoted? d false
  else if l.atPlain d c next then l.plain? d
  else none

/-- Reads what comes next; the flag tells that the text is at its end. -/
def step? (d : Dialect) (l : Lexer) : Option (Bool × Lexer) := do
  let l ← (← skip? d (l.cursor.rest.length + 1) l).dropStaleKeys? d
  let l := l.closeBeyond l.cursor.column
  match l.cursor.rest with
  | [] => return (true, (← l.closeAll.dropKey?))
  | c :: next =>
    if d = .lenient && l.inFlow && l.cursor.column < l.leastColumn then none
    else return (false, ← l.token? d c next)

/-- Reads up to the end. -/
def run? (d : Dialect) : Nat → Lexer → Option (Array Token)
  | 0, _ => none
  | fuel + 1, l =>
    match l.step? d with
    | none => none
    | some (true, l) => some l.tokens
    | some (false, l) => run? d fuel l

end Lexer

/-- The tokens of a text, or nothing if it breaks a rule. -/
def Token.ofText? (d : Dialect) (s : String) : Option (List Token) :=
  let cs := s.toList
  let cs := match d with
    | .strict => if cs.all isAllowed then some cs else none
    | .lenient => some (cs.takeWhile (· ≠ '\x00'))
  cs.bind fun cs => (Lexer.run? d (cs.length + 2) { cursor := { rest := cs } }).map Array.toList

end Turnstile.Yaml
