import Turnstile.Text.Blank
import Turnstile.Word

/-!
# Layers of values

Values from several sources, later ones laid over earlier ones. A source gives values under paths, and a
table that is laid over a table is merged with it; anything else takes the place of what was there.

* `Value`: what a source may give.
* `Path`: where it goes; `Path.ofText?` reads one.
* `Value.assign`, `Value.put?`: laying a value over others.
-/

namespace Turnstile

/-- A value from a source. -/
inductive Value where
  | null
  | bool (b : Bool)
  | int (n : Int)
  | float (x : Float)
  | text (s : String)
  | array (items : List Value)
  | table (entries : List (String × Value))
  deriving Inhabited

/-- Where a value goes. -/
inductive Path where
  | name (name : String)
  | child (parent : Path) (name : String)
  | item (parent : Path) (index : Int)
  deriving DecidableEq, Repr

/-! ## Reading paths -/

namespace Path

/-- A character of a name in a path. -/
def isNameChar (c : Char) : Bool := c.isAlphanum || c == ' ' || c == '_' || c == '-'

/-- A whole number with an optional minus and spaces around. -/
def index? (cs : List Char) : Option (Int × List Char) :=
  let cs := cs.dropWhile (fun c => c == ' ' || c == '\t')
  let (negative, cs) := match cs with
    | '-' :: cs => (true, cs)
    | cs => (false, cs)
  let digits := cs.takeWhile Char.isDigit
  let rest := (cs.dropWhile Char.isDigit).dropWhile (fun c => c == ' ' || c == '\t')
  let n : Int := digits.foldl (fun n c => 10 * n + (c.toNat - '0'.toNat)) 0
  let n := if negative then -n else n
  if digits.isEmpty || !Word.holds n then none else some (n, rest)

/-- Reads the steps that follow a path. -/
def steps? : Nat → Path → List Char → Option Path
  | _, p, [] => some p
  | 0, _, _ => none
  | fuel + 1, p, '.' :: cs =>
    let name := cs.takeWhile isNameChar
    if name.isEmpty then none
    else steps? fuel (.child p (String.ofList name)) (cs.dropWhile isNameChar)
  | fuel + 1, p, '[' :: cs =>
    match index? cs with
    | some (n, ']' :: rest) => steps? fuel (.item p n) rest
    | _ => none
  | _, _, _ => none

/-- Reads a path: a name, and then names behind dots and numbers in brackets. -/
def ofText? (s : String) : Option Path :=
  let cs := s.toList
  let name := cs.takeWhile isNameChar
  if name.isEmpty then none
  else steps? cs.length (.name (String.ofList name)) (cs.dropWhile isNameChar)

end Path

/-! ## Tables -/

namespace Value

/-- Small letters in place of capitals. Of the characters outside ASCII only the sign for kelvin has a
small letter within it. -/
def lowerKey (s : String) : String := s.map fun c => if c = '\u212a' then 'k' else c.toLower

/-- The entries of a table; anything else has none. -/
def entries : Value → List (String × Value)
  | .table es => es
  | _ => []

/-- The items of an array; anything else has none. -/
def items : Value → List Value
  | .array xs => xs
  | _ => []

/-- Changes the entry of a name, or adds it. -/
def modifyNamed? (f : Value → Option Value) (name : String) :
    List (String × Value) → Option (List (String × Value))
  | [] => (f .null).map fun v => [(name, v)]
  | (n, v) :: es =>
    if n = name then (f v).map fun v => (n, v) :: es
    else (modifyNamed? f name es).map fun es => (n, v) :: es

mutual

/-- Lays a value over the entry of a table. What is no table becomes one. -/
def assign (name : String) : Value → Value → Value
  | .table incoming, root =>
    let es := root.entries
    let target := (es.lookup (lowerKey name)).getD (.table [])
    .table (((lowerKey name, assignAll incoming target)) ::
      es.filter fun e => e.1 ≠ lowerKey name)
  | v, root => .table ((lowerKey name, v) :: root.entries.filter fun e => e.1 ≠ lowerKey name)

/-- Lays the entries of a table over a value. -/
def assignAll : List (String × Value) → Value → Value
  | [], root => root
  | (name, v) :: es, root => assignAll es (assign name v root)

end

/-! ## Paths -/

/-- The place of an index in an array of a length, counted from the end if it is negative; none if there
is no such place. -/
def placeOf? (index : Int) (length : Nat) : Option Nat :=
  if 0 ≤ index then some index.toNat
  else if index.natAbs ≤ length then some (length - index.natAbs) else none

/-- Changes an item of an array, which grows if it has to. -/
def modifyItem? (f : Value → Option Value) (index : Int) (xs : List Value) : Option (List Value) := do
  let k ← placeOf? index xs.length
  let xs := xs ++ List.replicate (k + 1 - xs.length) Value.null
  let v ← f (xs.getD k .null)
  return xs.set k v

/-- Changes the value at a path. Tables and arrays are made on the way where there are none. -/
def modify? (f : Value → Option Value) : Path → Value → Option Value
  | .name name, root => (modifyNamed? f (lowerKey name) root.entries).map .table
  | .child p name, root =>
    modify? (fun v => (modifyNamed? f (lowerKey name) v.entries).map .table) p root
  | .item p index, root => modify? (fun v => (modifyItem? f index v.items).map .array) p root

/-- Lays a value over what is at a path; none if an index counts from too far behind the end. -/
def put? (v : Value) : Path → Value → Option Value
  | .name name, root => some (assign name v root)
  | .child p name, root => modify? (fun parent => some (assign name v parent)) p root
  | .item p index, root =>
    modify? (fun parent => (modifyItem? (fun _ => some v) index parent.items).map .array) p root

/-- Lays a value over what is at a path that is written out. A text that is no path is a name. -/
def putText? (key : String) (v root : Value) : Option Value :=
  v.put? ((Path.ofText? key).getD (.name key)) root

end Value

end Turnstile
