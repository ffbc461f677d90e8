import Turnstile.Yaml.Token

/-!
# Scalars in a text

Readers for the five styles in which a scalar is written. Each takes a cursor at the scalar and returns
its text with the cursor behind it, or nothing if a rule is broken.

* `Gap`: the blanks and line ends between two words, and what they stand for.
* `readPlain?`, `readQuoted?`, `readBlock?`: the styles.
-/

namespace Turnstile.Yaml

/-! ## Gaps -/

/-- Blanks and line ends between two words. Blanks count only as long as no line has ended. -/
structure Gap where
  blanks : List Char := []
  broken : Bool := false
  firstBreak : List Char := []
  laterBreaks : List Char := []

/-- The text that a gap stands for: a single line end is a space, and of several the first is
dropped. -/
def Gap.text (g : Gap) : List Char :=
  if !g.broken then g.blanks
  else if g.firstBreak = ['\n'] then
    if g.laterBreaks.isEmpty then [' '] else g.laterBreaks
  else g.firstBreak ++ g.laterBreaks

/-- Reads on in a gap. Below the column `tabsFrom`, tabs may not follow a line end; the lenient reading
lets them stand on a line of their own. -/
def readGap? (d : Dialect) (tabsFrom : Nat) : Nat → Gap → Cursor → Option (Gap × Cursor)
  | 0, _, _ => none
  | fuel + 1, g, c =>
    match c.rest with
    | [] => some (g, c)
    | x :: _ =>
      if isBlank x then
        let blankLine := d = .lenient && d.endsLine c.dropBlanks.rest
        if g.broken && x == '\t' && c.column < tabsFrom && !blankLine then none
        else
          let g := if g.broken then g else { g with blanks := g.blanks ++ [x] }
          readGap? d tabsFrom fuel g (c.drop 1)
      else if d.isBreak x then
        let (text, c) := c.readBreak d
        let g := if g.broken then { g with laterBreaks := g.laterBreaks ++ text }
          else { broken := true, firstBreak := text }
        readGap? d tabsFrom fuel g c
      else some (g, c)

/-! ## Plain scalars -/

/-- The length of the word of a plain scalar with which the characters begin. -/
def plainWordLength? (d : Dialect) (flow : Bool) : List Char → Option Nat
  | [] => some 0
  | c :: cs =>
    let next := cs.head?
    if isBlank c || d.isBreak c then some 0
    else if flow && d == .strict && c == ':' && next.any (fun x => isFlowChar x || x == '?') then none
    else if c == ':' && (d.endsWord cs || (flow && next.any isFlowChar)) then some 0
    else if flow && isFlowChar c then some 0
    else (plainWordLength? d flow cs).map (· + 1)

/-- Reads a plain scalar; `indent` is the least column in which it may go on. The flag tells whether a
line has ended after its last word. -/
def readPlain? (d : Dialect) (flow : Bool) (indent : Nat) (c : Cursor) :
    Option (String × Bool × Cursor) :=
  go (c.rest.length + 1) [] {} c
where
  go : Nat → List Char → Gap → Cursor → Option (String × Bool × Cursor)
    | 0, _, _, _ => none
    | fuel + 1, text, gap, c => do
      if c.atDocumentMark d || c.rest.head? = some '#' then finish text gap c
      else
        let n ← plainWordLength? d flow c.rest
        let word := c.rest.take n
        let c := c.drop n
        let (text, gap) := if n = 0 then (text, gap) else (text ++ gap.text ++ word, {})
        match c.rest with
        | [] => finish text gap c
        | x :: _ =>
          if !(isBlank x || d.isBreak x) then finish text gap c
          else
            let (gap, c) ← readGap? d indent (c.rest.length + 1) gap c
            if !flow && c.column < indent then finish text gap c else go fuel text gap c
  finish (text : List Char) (gap : Gap) (c : Cursor) : Option (String × Bool × Cursor) :=
    some (String.ofList text, gap.broken, c)

/-! ## Quoted scalars -/

/-- The value of a hexadecimal digit. -/
def hexValue? (c : Char) : Option Nat :=
  if c.isDigit then some (c.toNat - '0'.toNat)
  else if 'a' ≤ c ∧ c ≤ 'f' then some (c.toNat - 'a'.toNat + 10)
  else if 'A' ≤ c ∧ c ≤ 'F' then some (c.toNat - 'A'.toNat + 10)
  else none

/-- The number that a run of hexadecimal digits stands for. -/
def hexNumber? (cs : List Char) : Option Nat :=
  cs.foldlM (fun n c => (hexValue? c).map (16 * n + ·)) 0

/-- What an escape stands for: a character, or one whose number follows in so many digits. -/
inductive Escaped where
  | char (c : Char)
  | digits (count : Nat)

/-- The escapes of a double-quoted scalar, by the character after the backslash. -/
def escaped? (c : Char) : Option Escaped :=
  match c with
  | '0' => some (.char '\x00')
  | 'a' => some (.char '\x07')
  | 'b' => some (.char '\x08')
  | 't' => some (.char '\t')
  | '\t' => some (.char '\t')
  | 'n' => some (.char '\n')
  | 'v' => some (.char '\x0b')
  | 'f' => some (.char '\x0c')
  | 'r' => some (.char '\r')
  | 'e' => some (.char '\x1b')
  | ' ' => some (.char ' ')
  | '"' => some (.char '"')
  | '/' => some (.char '/')
  | '\\' => some (.char '\\')
  | 'N' => some (.char '\u0085')
  | '_' => some (.char '\u00a0')
  | 'L' => some (.char '\u2028')
  | 'P' => some (.char '\u2029')
  | 'x' => some (.digits 2)
  | 'u' => some (.digits 4)
  | 'U' => some (.digits 8)
  | _ => none

/-- Reads the character of an escape, from behind the backslash. -/
def readEscape? (c : Cursor) : Option (Char × Cursor) :=
  match c.rest with
  | [] => none
  | x :: cs => do
    match ← escaped? x with
    | .char y => return (y, c.drop 1)
    | .digits count =>
      let ds := cs.take count
      if ds.length < count then none
      else
        let n ← hexNumber? ds
        if n.isValidChar then return (Char.ofNat n, c.drop (1 + count)) else none

/-- Reads the characters of a quoted scalar up to a blank, a line end or the closing quote. The flag
tells that the line ended behind a backslash. -/
def readQuotedWord? (d : Dialect) (single : Bool) :
    Nat → List Char → Cursor → Option (List Char × Bool × Cursor)
  | 0, _, _ => none
  | fuel + 1, text, c =>
    match c.rest with
    | [] => some (text, false, c)
    | x :: cs =>
      if isBlank x || d.isBreak x then some (text, false, c)
      else if single && x == '\'' then
        if cs.head? = some '\'' then readQuotedWord? d single fuel (text ++ ['\'']) (c.drop 2)
        else some (text, false, c)
      else if !single && x == '"' then some (text, false, c)
      else if !single && x == '\\' then
        if cs.head?.any d.isBreak then some (text, true, ((c.drop 1).readBreak d).2)
        else
          match readEscape? (c.drop 1) with
          | none => none
          | some (y, c) => readQuotedWord? d single fuel (text ++ [y]) c
      else readQuotedWord? d single fuel (text ++ [x]) (c.drop 1)

/-- Reads a quoted scalar, from behind the opening quote to behind the closing one. In the lenient
reading its lines may not begin before the column `indent`. -/
def readQuoted? (d : Dialect) (single : Bool) (indent : Nat) (c : Cursor) : Option (String × Cursor) :=
  go (c.rest.length + 1) [] c
where
  go : Nat → List Char → Cursor → Option (String × Cursor)
    | 0, _, _ => none
    | fuel + 1, text, c =>
      if c.atDocumentMark d || c.rest.isEmpty || (d = .lenient && c.column < indent) then none
      else do
        let (text, broken, c) ← readQuotedWord? d single (c.rest.length + 1) text c
        if !broken && c.rest.head? = some (if single then '\'' else '"') then
          return (String.ofList text, c.drop 1)
        else
          let (gap, c) ← readGap? d 0 (c.rest.length + 1) { broken } c
          go fuel (text ++ gap.text) c

/-! ## Block scalars -/

/-- What becomes of the line ends behind a block scalar. -/
inductive Chomping where
  | strip
  | clip
  | keep
  deriving DecidableEq

/-- The indicator of chomping with which the characters begin. -/
def chomping? : List Char → Option Chomping
  | '+' :: _ => some .keep
  | '-' :: _ => some .strip
  | _ => none

/-- The indicator of an indentation with which the characters begin: a digit that is not zero. -/
def increment? : List Char → Option Nat
  | c :: _ => if c.isDigit then some (c.toNat - '0'.toNat) else none
  | [] => none

/-- Reads the indicators behind a block scalar's first character, in either order. -/
def readIndicators? (c : Cursor) : Option (Chomping × Option Nat × Cursor) :=
  match chomping? c.rest with
  | some chomping =>
    let c := c.drop 1
    match increment? c.rest with
    | some 0 => none
    | some n => some (chomping, some n, c.drop 1)
    | none => some (chomping, none, c)
  | none =>
    match increment? c.rest with
    | some 0 => none
    | some n =>
      let c := c.drop 1
      match chomping? c.rest with
      | some chomping => some (chomping, some n, c.drop 1)
      | none => some (.clip, some n, c)
    | none => some (.clip, none, c)

/-- Reads the indentation and the empty lines before a line of a block scalar; `indent` is nothing as
long as it is to be found out. Returns the line ends and the deepest column that was reached. -/
def readEmptyLines? (d : Dialect) (indent : Option Nat) :
    Nat → List Char → Nat → Cursor → Option (List Char × Nat × Cursor)
  | 0, _, _, _ => none
  | fuel + 1, breaks, deepest, c =>
    let spaces := (c.rest.takeWhile (· == ' ')).length
    let c := c.drop (match indent with
      | none => spaces
      | some n => min spaces (n - c.column))
    let deepest := max deepest c.column
    let within := indent.all (c.column < ·)
    match c.rest with
    | [] => some (breaks, deepest, c)
    | x :: _ =>
      if within && x == '\t' then none
      else if d.isBreak x then
        let (text, c) := c.readBreak d
        readEmptyLines? d indent fuel (breaks ++ text) deepest c
      else some (breaks, deepest, c)

/-- The line ends between two lines of a block scalar, and whether the earlier began with a blank. -/
structure BlockGap where
  lastBreak : List Char := []
  emptyLines : List Char := []
  blankBefore : Bool := false

/-- The text that the gap before a line stands for. In the folded style a single line end between lines
that begin with no blank is a space. -/
def BlockGap.text (g : BlockGap) (literal blankAfter : Bool) : List Char :=
  if !literal && g.lastBreak == ['\n'] && !g.blankBefore && !blankAfter then
    if g.emptyLines.isEmpty then [' '] else g.emptyLines
  else g.lastBreak ++ g.emptyLines

/-- Reads a block scalar, from behind its first character; `indent` is the least column of its
lines. -/
def readBlock? (d : Dialect) (literal : Bool) (indent : Nat) (c : Cursor) :
    Option (String × Cursor) := do
  let (chomping, increment, c) ← readIndicators? c
  let c ← c.finishLine? d
  let fuel := c.rest.length + 1
  let known := increment.map (indent - 1 + ·)
  let (breaks, deepest, c) ← readEmptyLines? d known fuel [] 0 c
  let column := known.getD (max (max deepest indent) 1)
  go chomping column fuel [] { emptyLines := breaks } c
where
  go (chomping : Chomping) (column : Nat) :
      Nat → List Char → BlockGap → Cursor → Option (String × Cursor)
    | 0, _, _, _ => none
    | fuel + 1, text, gap, c =>
      if c.column ≠ column || c.rest.isEmpty then
        let tail := (if chomping = .strip then [] else gap.lastBreak)
          ++ (if chomping = .keep then gap.emptyLines else [])
        some (String.ofList (text ++ tail), c)
      else do
        let blank := c.rest.head?.any isBlank
        let text := text ++ gap.text literal blank
        let (line, c) := c.takeWhile fun x => !d.isBreak x
        let (lastBreak, c) := c.readBreak d
        let (breaks, _, c) ← readEmptyLines? d (some column) (c.rest.length + 1) [] 0 c
        go chomping column fuel (text ++ line)
          { lastBreak, emptyLines := breaks, blankBefore := blank } c

end Turnstile.Yaml
