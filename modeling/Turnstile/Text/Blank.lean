import Turnstile.Text.Property

/-!
# Blanks at the ends of a text

White space is that of the standard, not the few blanks of ASCII.
-/

namespace Turnstile.Text

/-- Whether a character is white space. -/
def isBlank (c : Char) : Bool := CodePoints.whiteSpace.contains c.toNat

/-- The text without the white space at its ends. -/
def trim (s : String) : String :=
  String.ofList ((s.toList.dropWhile isBlank).reverse.dropWhile isBlank).reverse

/-- Every blank that core knows is one. -/
theorem isBlank_of_isWhitespace (c : Char) (h : c.isWhitespace = true) : isBlank c = true := by
  simp only [Char.isWhitespace, Bool.or_eq_true, decide_eq_true_eq, or_assoc] at h
  rcases h with rfl | rfl | rfl | rfl <;> decide

/-- The small letters of ASCII in place of its capitals. -/
def lowerAscii (s : String) : String := s.map Char.toLower

end Turnstile.Text
