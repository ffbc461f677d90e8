import Turnstile.Text.Property

/-!
# Pattern expressions

What a pattern says once its spelling (flags, escapes, named classes) is resolved: which characters,
which positions, in which order of preference.

* `Look`: conditions on a position between two characters.
* `Expr`: the expressions, and `Expr.nullable`, whether one may match without taking a character.
* `Expr.cost`: the size of the automaton of an expression, which bounds what is accepted.
-/

namespace Turnstile.Pattern

/-! ## Positions -/

/-- A condition on the position between two characters. The word conditions come for words of the
whole standard and for words of ASCII. -/
inductive Look where
  | start
  | finish
  | startLine
  | finishLine
  | startLineReturn
  | finishLineReturn
  | wordBoundary (ascii : Bool)
  | noWordBoundary (ascii : Bool)
  | wordStart (ascii : Bool)
  | wordFinish (ascii : Bool)
  | wordStartHalf (ascii : Bool)
  | wordFinishHalf (ascii : Bool)
  deriving DecidableEq, Repr

/-- The characters of words within ASCII. -/
def asciiWord : CodePoints := ⟨[(0x30, 0x39), (0x41, 0x5a), (0x5f, 0x5f), (0x61, 0x7a)]⟩

/-- Whether a neighbour of a position is there and belongs to a word. -/
def inWord (ascii : Bool) : Option Char → Bool
  | none => false
  | some c =>
    if c.toNat < 0x80 ∨ ascii then asciiWord.contains c.toNat else CodePoints.word.contains c.toNat

/-- Whether the condition holds between the two neighbours of a position. -/
def Look.holds (before after : Option Char) : Look → Bool
  | .start => before.isNone
  | .finish => after.isNone
  | .startLine => before.isNone || before == some '\n'
  | .finishLine => after.isNone || after == some '\n'
  | .startLineReturn =>
    before.isNone || before == some '\n' || (before == some '\r' && after != some '\n')
  | .finishLineReturn =>
    after.isNone || after == some '\r' || (after == some '\n' && before != some '\r')
  | .wordBoundary ascii => inWord ascii before != inWord ascii after
  | .noWordBoundary ascii => inWord ascii before == inWord ascii after
  | .wordStart ascii => !inWord ascii before && inWord ascii after
  | .wordFinish ascii => inWord ascii before && !inWord ascii after
  | .wordStartHalf ascii => !inWord ascii before
  | .wordFinishHalf ascii => !inWord ascii after

/-! ## Expressions -/

/-- A pattern expression. Of two ways to match, `either` prefers its left side, and `repeated`
prefers more rounds when it is greedy and fewer when it is not. -/
inductive Expr where
  | empty
  | oneOf (set : CodePoints)
  | look (condition : Look)
  | both (first second : Expr)
  | either (first second : Expr)
  | repeated (least : Nat) (most : Option Nat) (greedy : Bool) (body : Expr)
  | group (body : Expr)
  deriving Repr

namespace Expr

/-- One given character. -/
def char (c : Char) : Expr := .oneOf (.single c.toNat)

/-- Expressions one after the other. -/
def sequence : List Expr → Expr
  | [] => .empty
  | [e] => e
  | e :: es => .both e (sequence es)

/-- Whether the expression may match without taking a character. -/
def nullable : Expr → Bool
  | .empty => true
  | .oneOf _ => false
  | .look _ => true
  | .both a b => a.nullable && b.nullable
  | .either a b => a.nullable || b.nullable
  | .repeated least _ _ e => least == 0 || e.nullable
  | .group e => e.nullable

/-- Bytes that one state of an automaton takes up. -/
def stateSize : Nat := 32

/-- Bytes for the states that read one character of the set. Sets beyond ASCII are read byte by byte,
with a handful of states for each range. -/
def setCost (s : CodePoints) : Nat :=
  match s.ranges with
  | [(a, b)] =>
    if a = b then
      stateSize * (if a < 0x80 then 1 else if a < 0x800 then 2 else if a < 0x10000 then 3 else 4)
    else if b < 0x80 then 2 * stateSize + 8
    else 400 + 2 * stateSize
  | rs => if s.within 0x7f then 2 * stateSize + 8 * rs.length else 400 + 2 * stateSize * rs.length

/-- Bytes for the automaton of an expression. -/
def cost : Expr → Nat
  | .empty => stateSize
  | .oneOf s => setCost s
  | .look _ => stateSize
  | .both a b => a.cost + b.cost
  | .either a b => a.cost + b.cost + stateSize + 8
  | .repeated least most _ e =>
    match most with
    | none => max 1 least * e.cost + 2 * stateSize
    | some most => least * e.cost + (most - least) * (e.cost + stateSize + 8) + stateSize
  | .group e => e.cost + 2 * stateSize

end Expr

end Turnstile.Pattern
