/-!
# A place in a document's text

Two readings of the notation are supported. They agree on what most documents mean and differ at the
edges: on what ends a line, which characters are allowed, and how forgiving some rules are.

* `Dialect`: which reading.
* `Cursor`: the characters that are left, and where in the text they begin.
* `Cursor.readBreak`, `Cursor.dropBlanks`: steps over the text.
-/

namespace Turnstile.Yaml

/-- A reading of the notation. -/
inductive Dialect where
  /-- Keeps to the letter of version 1.1; also Unicode's own line ends end a line. -/
  | strict
  /-- Ignores what it does not know, and ends the text at the first null character. -/
  | lenient
  deriving DecidableEq, Repr

/-! ## Characters -/

/-- A space or a tab. -/
def isBlank (c : Char) : Bool := c == ' ' || c == '\t'

/-- A character that ends a line. -/
def Dialect.isBreak (d : Dialect) (c : Char) : Bool :=
  c == '\n' || c == '\r'
    || (d == .strict && (c == '\u0085' || c == '\u2028' || c == '\u2029'))

/-- A character of a name: an ASCII letter, a digit, a hyphen or an underscore. -/
def isNameChar (c : Char) : Bool := c.isAlphanum || c == '-' || c == '_'

/-- A bracket, a brace or the comma of a flow collection. -/
def isFlowChar (c : Char) : Bool :=
  c == ',' || c == '[' || c == ']' || c == '\x7b' || c == '\x7d'

/-- Whether a character may stand in a document at all. -/
def isAllowed (c : Char) : Bool :=
  let n := c.toNat
  n == 0x09 || n == 0x0a || n == 0x0d || (0x20 ≤ n && n ≤ 0x7e) || n == 0x85
    || (0xa0 ≤ n && n ≤ 0xfffd) || 0x10000 ≤ n

/-- Whether a blank, a line end or the end of the text comes first. -/
def Dialect.endsWord (d : Dialect) : List Char → Bool
  | [] => true
  | c :: _ => isBlank c || d.isBreak c

/-- A character of an anchor's name. The lenient reading takes all that is visible and no part of a
flow collection. -/
def Dialect.isAnchorChar (d : Dialect) (c : Char) : Bool :=
  match d with
  | .strict => isNameChar c
  | .lenient => !isBlank c && !d.isBreak c && !isFlowChar c && c != '\ufeff'

/-- Whether a line end or the end of the text comes first. -/
def Dialect.endsLine (d : Dialect) : List Char → Bool
  | [] => true
  | c :: _ => d.isBreak c

/-! ## Cursors -/

/-- The characters that are left, with the number of characters and lines before them and the column
in which they begin. -/
structure Cursor where
  rest : List Char
  index : Nat := 0
  line : Nat := 0
  column : Nat := 0

namespace Cursor

/-- Steps over characters that end no line. -/
def drop (c : Cursor) (n : Nat) : Cursor :=
  { c with rest := c.rest.drop n, index := c.index + n, column := c.column + n }

/-- Steps over the characters that satisfy a test and end no line, and returns them. -/
def takeWhile (c : Cursor) (p : Char → Bool) : List Char × Cursor :=
  let taken := c.rest.takeWhile p
  (taken, c.drop taken.length)

/-- Steps over the characters that satisfy a test and end no line. -/
def dropWhile (c : Cursor) (p : Char → Bool) : Cursor := (c.takeWhile p).2

/-- Steps over spaces and tabs. -/
def dropBlanks (c : Cursor) : Cursor := c.dropWhile isBlank

/-- Steps over the rest of the line. -/
def dropLine (c : Cursor) (d : Dialect) : Cursor := c.dropWhile fun x => !d.isBreak x

/-- Steps over a comment, if one begins here. -/
def dropComment (c : Cursor) (d : Dialect) : Cursor :=
  if c.rest.head? = some '#' then c.dropLine d else c

/-- Steps over a line end of so many characters. -/
def newLine (c : Cursor) (length : Nat) : Cursor :=
  { rest := c.rest.drop length, index := c.index + length, line := c.line + 1, column := 0 }

/-- Steps over a line end, if there is one, and returns what it stands for in a text. -/
def readBreak (c : Cursor) (d : Dialect) : List Char × Cursor :=
  match c.rest with
  | '\r' :: '\n' :: _ => (['\n'], c.newLine 2)
  | '\n' :: _ => (['\n'], c.newLine 1)
  | '\r' :: _ => (['\n'], c.newLine 1)
  | x :: _ =>
    if d.isBreak x then ([if x = '\u0085' then '\n' else x], c.newLine 1) else ([], c)
  | [] => ([], c)

/-- Whether a line of three hyphens or three dots begins here, which separates documents. -/
def atDocumentMark (c : Cursor) (d : Dialect) : Bool :=
  c.column == 0 &&
    (match c.rest with
    | '-' :: '-' :: '-' :: rest => d.endsWord rest
    | '.' :: '.' :: '.' :: rest => d.endsWord rest
    | _ => false)

/-- Steps over blanks and a comment up to the next line; nothing if something else is there. -/
def finishLine? (c : Cursor) (d : Dialect) : Option Cursor :=
  let c := c.dropBlanks.dropComment d
  if d.endsLine c.rest then some (c.readBreak d).2 else none

end Cursor

end Turnstile.Yaml
