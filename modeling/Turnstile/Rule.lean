import Turnstile.Text.Quoted

/-!
# Rules

A rule picks out methods by their full names: the equal name, every name that begins with a text, or
every name in which a pattern is found. Where several rules match, the kind of rule and the length of
the match decide which of them is the most specific.

A pattern comes down to a function from texts to match lengths, and it is a compiler of patterns that
makes that function of a text or refuses it. Nothing here says which patterns there are.

* `Matcher`, `PatternCompiler`: patterns in use, and what makes them.
* `Rule.length?`: the length of a rule's match in bytes.
* `Rank`: what matches are compared by, and `Rank.beats`, the comparison.
-/

namespace Turnstile

/-- A pattern in use: its text, and the number of bytes of the leftmost match in a given text. -/
structure Matcher where
  source : String
  find? : String → Option Nat

/-- A compiler of patterns: the matcher of a pattern, unless the pattern is no good. -/
abbrev PatternCompiler := String → Option Matcher

/-- The kinds of rules, from the most to the least specific. -/
inductive RuleKind where
  | exact
  | beginning
  | pattern
  deriving DecidableEq, Repr

/-- The place of a kind among the kinds; the least comes first. -/
def RuleKind.place : RuleKind → Nat
  | .exact => 0
  | .beginning => 1
  | .pattern => 2

/-- A rule over full method names. -/
inductive Rule where
  | exact (name : String)
  | beginning (text : String)
  | pattern (matcher : Matcher)

namespace Rule

/-- The kind of a rule. -/
def kind : Rule → RuleKind
  | .exact _ => .exact
  | .beginning _ => .beginning
  | .pattern _ => .pattern

/-- The length of the rule's match in bytes: that of its own text, or that of what the pattern
found. -/
def length? (method : String) : Rule → Option Nat
  | .exact name => if method = name then some name.utf8ByteSize else none
  | .beginning text =>
    if text.toList.isPrefixOf method.toList then some text.utf8ByteSize else none
  | .pattern m => m.find? method

end Rule

/-- What matches are compared by. -/
structure Rank where
  kind : RuleKind
  length : Nat
  deriving DecidableEq, Repr

/-- Whether the first match is more specific: its kind comes first, or is the same and the match is
longer. -/
def Rank.beats (a b : Rank) : Bool :=
  a.kind.place < b.kind.place || (a.kind == b.kind && b.length < a.length)

/-- The rank of a rule's match, if it matches. -/
def Rule.rank? (method : String) (r : Rule) : Option Rank :=
  (r.length? method).map fun n => ⟨r.kind, n⟩

/-- Nothing beats itself. -/
theorem Rank.beats_irrefl (a : Rank) : a.beats a = false := by simp [beats]

end Turnstile
