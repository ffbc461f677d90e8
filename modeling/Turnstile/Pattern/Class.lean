import Turnstile.Pattern.Expr
import Turnstile.Text.CaseFold

/-!
# Flags and character classes of patterns

The flags in force at a point of a pattern, and the classes that have names of their own. A class must
not reach beyond ASCII where the flag for the whole standard is off.
-/

namespace Turnstile.Pattern

/-- The flags in force at some point of a pattern. -/
structure Flags where
  ignoreCase : Bool := false
  multiLine : Bool := false
  dotNewline : Bool := false
  swapGreed : Bool := false
  lineReturn : Bool := false
  ignoreBlanks : Bool := false
  unicode : Bool := true
  deriving DecidableEq, Repr

/-- The flags that can be set within a pattern. -/
inductive Flag where
  | ignoreCase
  | multiLine
  | dotNewline
  | swapGreed
  | lineReturn
  | ignoreBlanks
  | unicode
  deriving DecidableEq, Repr

/-- The flag with the given letter. -/
def Flag.ofChar? : Char → Option Flag
  | 'i' => some .ignoreCase
  | 'm' => some .multiLine
  | 's' => some .dotNewline
  | 'U' => some .swapGreed
  | 'R' => some .lineReturn
  | 'x' => some .ignoreBlanks
  | 'u' => some .unicode
  | _ => none

/-- The flags with one of them changed. -/
def Flags.set (f : Flags) (value : Bool) : Flag → Flags
  | .ignoreCase => { f with ignoreCase := value }
  | .multiLine => { f with multiLine := value }
  | .dotNewline => { f with dotNewline := value }
  | .swapGreed => { f with swapGreed := value }
  | .lineReturn => { f with lineReturn := value }
  | .ignoreBlanks => { f with ignoreBlanks := value }
  | .unicode => { f with unicode := value }

/-- A set with the case variants that the flags ask for. -/
def Flags.fold (f : Flags) (s : CodePoints) : CodePoints :=
  if f.ignoreCase then if f.unicode then s.foldClosed else s.foldClosedAscii else s

/-- The complement of a set where it is asked for. Without the flag for the whole standard a class
may hold ASCII alone, whatever bytes it is the complement of. -/
def Flags.negated? (f : Flags) (negated : Bool) (s : CodePoints) : Option CodePoints :=
  if f.unicode then some (if negated then s.complement else s)
  else
    let s := if negated then s.complementBytes else s
    if s.within 0x7f then some s else none

/-- A set with its case variants, or the complement of that. -/
def Flags.class? (f : Flags) (negated : Bool) (s : CodePoints) : Option CodePoints :=
  f.negated? negated (f.fold s)

/-! ## Classes with names -/

/-- The classes written as one escaped letter. -/
inductive Named where
  | digit
  | space
  | word
  deriving DecidableEq, Repr

/-- The members of a class with a one-letter name. -/
def Named.members (unicode : Bool) : Named → CodePoints
  | .digit => if unicode then CodePoints.decimalDigit else ⟨[(0x30, 0x39)]⟩
  | .space => if unicode then CodePoints.whiteSpace else ⟨[(0x9, 0xd), (0x20, 0x20)]⟩
  | .word => if unicode then CodePoints.word else asciiWord

/-- The members of a class of ASCII written between colons. -/
def asciiClass? (name : String) : Option CodePoints :=
  (table.find? fun row => row.1 = name).map fun row => CodePoints.ofRows [row.2]
where
  /-- Names and members of the classes. -/
  table : List (String × String) := [
    ("alnum", "30-39 41-5A 61-7A"), ("alpha", "41-5A 61-7A"), ("ascii", "0-7F"),
    ("blank", "9 20"), ("cntrl", "0-1F 7F"), ("digit", "30-39"), ("graph", "21-7E"),
    ("lower", "61-7A"), ("print", "20-7E"), ("punct", "21-2F 3A-40 5B-60 7B-7E"),
    ("space", "9-D 20"), ("upper", "41-5A"), ("word", "30-39 41-5A 5F 61-7A"),
    ("xdigit", "30-39 41-46 61-66")]

/-- What the dot stands for. -/
def Flags.dot? (f : Flags) : Option CodePoints :=
  if !f.unicode then none
  else if f.dotNewline then some CodePoints.all
  else if f.lineReturn then some (CodePoints.ofRows ["A D"]).complement
  else some (CodePoints.ofRows ["A"]).complement

end Turnstile.Pattern
