/-!
# Methods

The method of a call: its full name, such as `/package.Service/Method`, and whether it streams. The
name splits at its last slash; slashes at the beginning do not count.
-/

namespace Turnstile

/-- The method that a call invokes. -/
structure Method where
  fullName : String
  streaming : Bool
  deriving DecidableEq, Repr

namespace Method

/-- A method of one reply. -/
def unary (fullName : String) : Method := ⟨fullName, false⟩

/-- A method of a stream of replies. -/
def stream (fullName : String) : Method := ⟨fullName, true⟩

/-- The parts before and after the last slash; all is after it when there is none. -/
def cutLast (cs : List Char) : List Char × List Char :=
  let after := (cs.reverse.takeWhile (· ≠ '/')).reverse
  (cs.take (cs.length - after.length - 1), after)

/-- The name without the slashes at its beginning. -/
def bareName (m : Method) : List Char := m.fullName.toList.dropWhile (· = '/')

/-- The package and service of the name. -/
def service (m : Method) : String := String.ofList (cutLast m.bareName).1

/-- The name within the service. -/
def name (m : Method) : String := String.ofList (cutLast m.bareName).2

end Method

end Turnstile
