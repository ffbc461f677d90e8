import Turnstile.Pattern.Expr

/-!
# Automata of patterns

An expression becomes a program: instructions that refer to one another by position. The program is
laid out from its end, so that whatever follows an instruction is already there; only the instruction
that closes a loop is reserved first and filled in afterwards.

A loop whose body may match nothing is entered through an instruction of its own: the body is tried
once before the loop is left, which keeps the order of preference.
-/

namespace Turnstile.Pattern

/-- An instruction. `split` goes on at two places and prefers the first. -/
inductive Instr where
  | take (set : CodePoints) (next : Nat)
  | look (condition : Look) (next : Nat)
  | split (first second : Nat)
  | accept
  deriving Repr

/-- The instructions of a program. -/
abbrev Code := Array Instr

namespace Code

/-- Adds an instruction and gives its position. -/
def emit (code : Code) (i : Instr) : Nat × Code := (code.size, code.push i)

/-- The instruction of a choice between going on with a loop and leaving it. -/
def branch (greedy : Bool) (stay leave : Nat) : Instr :=
  if greedy then .split stay leave else .split leave stay

/-- Lays out `count` copies of a body. -/
def copies (body : Nat → Code → Nat × Code) : Nat → Nat → Code → Nat × Code
  | 0, next, code => (next, code)
  | count + 1, next, code =>
    let (next, code) := body next code
    copies body count next code

/-- Lays out up to `count` copies of a body, any of which may be the last. -/
def upTo (body : Nat → Code → Nat × Code) (greedy : Bool) (leave : Nat) : Nat → Code → Nat × Code
  | 0, code => (leave, code)
  | count + 1, code =>
    let (inner, code) := upTo body greedy leave count code
    let (start, code) := body inner code
    code.emit (branch greedy start leave)

/-- Lays out a body that repeats at least once. -/
def loop (body : Nat → Code → Nat × Code) (greedy : Bool) (next : Nat) (code : Code) : Nat × Code :=
  let (again, code) := code.emit .accept
  let (start, code) := body again code
  (start, code.setIfInBounds again (branch greedy start next))

/-- Lays out an expression in front of the instruction at `next`; gives where it begins. -/
def layOut : Expr → Nat → Code → Nat × Code
  | .empty, next, code => (next, code)
  | .oneOf set, next, code => code.emit (.take set next)
  | .look l, next, code => code.emit (.look l next)
  | .both a b, next, code =>
    let (next, code) := layOut b next code
    layOut a next code
  | .either a b, next, code =>
    let (second, code) := layOut b next code
    let (first, code) := layOut a next code
    code.emit (.split first second)
  | .group e, next, code => layOut e next code
  | .repeated least (some most) greedy e, next, code =>
    let (next, code) := upTo (layOut e) greedy next (most - least) code
    copies (layOut e) least next code
  | .repeated least none greedy e, next, code =>
    if least = 0 ∧ !e.nullable then
      let (again, code) := code.emit .accept
      let (start, code) := layOut e again code
      (again, code.setIfInBounds again (branch greedy start next))
    else
      let (start, code) := loop (layOut e) greedy next code
      if least = 0 then code.emit (branch greedy start next)
      else copies (layOut e) (least - 1) start code

end Code

/-- A program and where it starts. -/
structure Program where
  code : Code
  start : Nat
  deriving Repr

/-- The program of an expression. -/
def Program.ofExpr (e : Expr) : Program :=
  let (accept, code) := Code.emit #[] .accept
  let (start, code) := Code.layOut e accept code
  ⟨code, start⟩

end Turnstile.Pattern
