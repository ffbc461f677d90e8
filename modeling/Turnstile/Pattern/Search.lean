import Turnstile.Pattern.Program

/-!
# Searching with a program

All ways to match are followed at once, in order of preference: a list of threads, each waiting at an
instruction that takes a character, moves over the text one character at a time. The leftmost start
wins, and among the matches from there the most preferred one.

`Program.find?` gives the number of bytes of that match.
-/

namespace Turnstile.Pattern

/-- A way to match: where it began, in bytes, and the instruction it has come to. -/
structure Thread where
  start : Nat
  pc : Nat

/-- Threads in order of preference, and the instructions that have been visited at this position. -/
structure Threads where
  list : Array Thread
  visited : Array Bool

namespace Program

/-- No threads. -/
def noThreads (p : Program) : Threads := ⟨#[], Array.replicate p.code.size false⟩

/-- Follows the instructions that take no character from those on the stack, and adds the ones where
a thread comes to rest. Each instruction is visited once, and puts at most two on the stack. -/
def settle (p : Program) (before after : Option Char) (start : Nat) :
    Nat → List Nat → Threads → Threads
  | 0, _, ts => ts
  | _ + 1, [], ts => ts
  | fuel + 1, pc :: stack, ts =>
    if ts.visited.getD pc true then settle p before after start fuel stack ts
    else
      let ts := { ts with visited := ts.visited.setIfInBounds pc true }
      match p.code[pc]? with
      | some (.split first second) => settle p before after start fuel (first :: second :: stack) ts
      | some (.look l next) =>
        if l.holds before after then settle p before after start fuel (next :: stack) ts
        else settle p before after start fuel stack ts
      | some _ =>
        settle p before after start fuel stack { ts with list := ts.list.push ⟨start, pc⟩ }
      | none => settle p before after start fuel stack ts

/-- Adds a thread at an instruction. -/
def add (p : Program) (before after : Option Char) (start pc : Nat) (ts : Threads) : Threads :=
  settle p before after start (2 * p.code.size + 1) [pc] ts

/-- The length of the most preferred match that is complete at byte `pos`, and the threads that are
preferred to it. -/
def accepted (p : Program) (pos : Nat) (ts : List Thread) : Option Nat × List Thread :=
  match ts with
  | [] => (none, [])
  | t :: ts =>
    match p.code[t.pc]? with
    | some .accept => (some (pos - t.start), [])
    | _ =>
      let (found, preferred) := accepted p pos ts
      (found, t :: preferred)

/-- Searches the rest of a text from byte `pos`. The threads are at rest at this position. -/
def findFrom (p : Program) (pos : Nat) (before : Option Char) (ts : Threads) (best : Option Nat) :
    List Char → Option Nat
  | [] =>
    let ts := if best.isNone then p.add before none pos p.start ts else ts
    match accepted p pos ts.list.toList with
    | (some n, _) => some n
    | (none, _) => best
  | c :: cs =>
    let ts := if best.isNone then p.add before (some c) pos p.start ts else ts
    let (found, preferred) := accepted p pos ts.list.toList
    let best := if found.isSome then found else best
    if best.isSome ∧ preferred.isEmpty then best
    else
      let pos := pos + c.utf8Size
      let moved := preferred.foldl (fun ts t =>
        match p.code[t.pc]? with
        | some (.take set next) =>
          if set.contains c.toNat then p.add (some c) cs.head? t.start next ts else ts
        | _ => ts) p.noThreads
      findFrom p pos (some c) moved best cs

/-- The number of bytes of the leftmost match in a text, if there is one. -/
def find? (p : Program) (text : String) : Option Nat :=
  findFrom p 0 none p.noThreads none text.toList

end Program

end Turnstile.Pattern
