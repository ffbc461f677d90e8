import Turnstile.Pattern.Reader

/-!
# Reading a pattern

`Expr.ofPattern?` reads a whole pattern. The reader walks over the text once, with the groups that are
open on a stack, and resolves flags as it goes: a flag holds from where it is set to the end of its
group, through all branches that follow.

A pattern is refused when its text is no pattern, when it is nested more deeply than `depthLimit`, or
when its automaton would take more than `costLimit` bytes.
-/

namespace Turnstile.Pattern

/-- How deeply a pattern may be nested. -/
def depthLimit : Nat := 250

/-- How many bytes the automaton of a pattern may take. -/
def costLimit : Nat := 10485760

/-- A finished part of a pattern and how deeply it is nested. A repetition may follow a part unless
the part only sets flags. -/
structure Piece where
  expr : Expr
  depth : Nat := 0
  repeatable : Bool := true

/-- Pieces one after the other, the last one first. -/
def Piece.sequence (reversed : List Piece) : Piece :=
  match reversed with
  | [p] => p
  | ps =>
    { expr := .sequence (ps.reverse.map Piece.expr)
      depth := match ps with
        | [] => 0
        | ps => ps.foldl (fun d p => max d p.depth) 0 + 1 }

/-- Branches to choose from, the last one first. -/
def Piece.choice (reversed : List Piece) : Piece :=
  match reversed with
  | [] => { expr := .empty }
  | [p] => p
  | last :: earlier =>
    { expr := earlier.foldl (fun e p => .either p.expr e) last.expr
      depth := reversed.foldl (fun d p => max d p.depth) 0 + 1 }

/-- What has been read of a group: the branches before the current one and the pieces of the current
one, both with the last first. -/
structure Partial where
  branches : List Piece := []
  pieces : List Piece := []

/-- A group that has been opened: the flags and the pieces to go on with after it. -/
structure OpenGroup where
  flags : Flags
  outer : Partial

/-- The state of the reader. -/
structure State where
  flags : Flags := {}
  current : Partial := {}
  opened : List OpenGroup := []
  names : List String := []

namespace State

/-- Adds a piece at the end. -/
def push (s : State) (p : Piece) : State :=
  { s with current.pieces := p :: s.current.pieces }

/-- The whole of the group being read. -/
def whole (s : State) : Piece :=
  match s.current.branches with
  | [] => Piece.sequence s.current.pieces
  | branches => Piece.choice (Piece.sequence s.current.pieces :: branches)

/-- Begins the next branch. -/
def nextBranch (s : State) : State :=
  { s with current :=
      { branches := Piece.sequence s.current.pieces :: s.current.branches } }

/-- Opens a group in which the given flags hold. -/
def openGroup (s : State) (flags : Flags) : State :=
  { s with flags, current := {}, opened := { flags := s.flags, outer := s.current } :: s.opened }

/-- Closes the innermost group. -/
def closeGroup? (s : State) : Option State :=
  match s.opened with
  | [] => none
  | o :: opened =>
    let p := s.whole
    some ({ s with flags := o.flags, current := o.outer, opened }.push
      { expr := .group p.expr, depth := p.depth + 1 })

/-- Puts the last piece under a repetition. -/
def repeated? (s : State) (least : Nat) (most : Option Nat) (greedy : Bool) : Option State :=
  match s.current.pieces with
  | [] => none
  | p :: ps =>
    if p.repeatable then
      some { s with current.pieces :=
        { expr := .repeated least most (greedy != s.flags.swapGreed) p.expr, depth := p.depth + 1 }
          :: ps }
    else none

end State

/-! ## Steps -/

/-- The expression of a character. -/
def charExpr (f : Flags) (c : Char) : Expr := .oneOf (f.fold (.single c.toNat))

/-- The expression of an escape. A byte beyond ASCII is no character of its own. -/
def escapeExpr? (f : Flags) : Escape → Option Expr
  | .char c byte =>
    if byte && !f.unicode && 0x80 ≤ c.toNat then none else some (charExpr f c)
  | .look l => some (.look l)
  | e => (classOf? f e).map .oneOf

/-- Whether a repetition sign is followed by the sign for as few rounds as possible. -/
def readLazy : List Char → Bool × List Char
  | '?' :: cs => (true, cs)
  | cs => (false, cs)

/-- Reads a count of repetitions after its opening brace: the least and the greatest number. -/
def readCount? (f : Flags) (cs : List Char) : Option (Nat × Option Nat × List Char) := do
  let (least, cs) ← readNumber? f (skipBlanks f cs)
  match cs with
  | '\x7d' :: cs => return (least, some least, cs)
  | ',' :: cs =>
    match skipBlanks f cs with
    | '\x7d' :: cs => return (least, none, cs)
    | cs =>
      let (most, cs) ← readNumber? f cs
      match cs with
      | '\x7d' :: cs => if least ≤ most then return (least, some most, cs) else none
      | _ => none
  | _ => none

/-- Reads what follows an opening parenthesis. -/
def readGroup? (s : State) (cs : List Char) : Option (State × List Char) :=
  let cs := skipBlanks s.flags cs
  let named (cs : List Char) : Option (State × List Char) := do
    let (name, cs) ← readGroupName? cs
    if s.names.contains name then none
    else return ({ s with names := name :: s.names }.openGroup s.flags, cs)
  match cs with
  | '?' :: '=' :: _ => none
  | '?' :: '!' :: _ => none
  | '?' :: '<' :: '=' :: _ => none
  | '?' :: '<' :: '!' :: _ => none
  | '?' :: 'P' :: '<' :: cs => named cs
  | '?' :: '<' :: cs => named cs
  | '?' :: ')' :: _ => none
  | '?' :: cs => do
    let (flags, cs) ← readFlags? cs false [] s.flags
    match cs with
    | ')' :: cs =>
      return ({ s with flags }.push { expr := .empty, repeatable := false }, cs)
    | _ :: cs => return (s.openGroup flags, cs)
    | [] => none
  | cs => some (s.openGroup s.flags, cs)

/-- Reads one piece, the sign of a repetition, or the beginning or end of a group or a branch. -/
def step? (s : State) (c : Char) (cs : List Char) : Option (State × List Char) :=
  let f := s.flags
  let sign (least : Nat) (most : Option Nat) : Option (State × List Char) :=
    let (isLazy, cs) := readLazy cs
    (s.repeated? least most (!isLazy)).map fun s => (s, cs)
  let piece (e : Expr) : Option (State × List Char) := some (s.push { expr := e }, cs)
  match c with
  | '(' => readGroup? s cs
  | ')' => s.closeGroup?.map fun s => (s, cs)
  | '|' => some (s.nextBranch, cs)
  | '[' => (readClass? f cs).map fun (set, depth, cs) => (s.push { expr := .oneOf set, depth }, cs)
  | '?' => sign 0 (some 1)
  | '*' => sign 0 none
  | '+' => sign 1 none
  | '\x7b' => do
    let (least, most, cs) ← readCount? f cs
    let (isLazy, cs) := readLazy (skipBlanks f cs)
    return (← s.repeated? least most (!isLazy), cs)
  | '\\' => do
    let (e, cs) ← readEscape? f cs
    return (s.push { expr := ← escapeExpr? f e }, cs)
  | '.' => f.dot?.map fun set => (s.push { expr := .oneOf set }, cs)
  | '^' =>
    piece (.look (if !f.multiLine then .start
      else if f.lineReturn then .startLineReturn else .startLine))
  | '$' =>
    piece (.look (if !f.multiLine then .finish
      else if f.lineReturn then .finishLineReturn else .finishLine))
  | c => piece (charExpr f c)

/-- Reads the rest of a pattern. Every step takes a character, so that the length of the pattern
bounds their number. -/
def readLoop? : Nat → State → List Char → Option Piece
  | 0, _, _ => none
  | fuel + 1, s, cs =>
    match skipBlanks s.flags cs with
    | [] => if s.opened.isEmpty then some s.whole else none
    | c :: cs => do
      let (s, cs) ← step? s c cs
      readLoop? fuel s cs

/-- Reads a pattern. -/
def Expr.ofPattern? (text : String) : Option Expr := do
  let cs := text.toList
  let p ← readLoop? (cs.length + 1) {} cs
  if p.depth ≤ depthLimit ∧ p.expr.cost ≤ costLimit then some p.expr else none

end Turnstile.Pattern
