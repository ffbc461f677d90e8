import Turnstile.Text.Age
import Turnstile.Text.Category
import Turnstile.Text.Contributory
import Turnstile.Text.Extension
import Turnstile.Text.Script
import Turnstile.Text.Segment
import Turnstile.Text.Trait

/-!
# Properties of code points by name

Names are compared loosely: case, blanks, hyphens, underscores and a leading `is` do not count. A bare
name is looked for among the binary properties, then the general categories, then the scripts.

* `CodePoints.named?`: the members of a property that has a bare name.
* `CodePoints.valued?`: the members of a property given as a name and a value.
-/

namespace Turnstile.CodePoints

/-- The form of a property name that comparisons use. One name begins with `is` itself. -/
def looseName (name : List Char) : String :=
  let (stripped, was) := match name with
    | i :: s :: rest => if i.toLower = 'i' ∧ s.toLower = 's' then (rest, true) else (name, false)
    | _ => (name, false)
  let kept := stripped.filter fun c => c ≠ ' ' && c ≠ '_' && c ≠ '-' && c.toNat < 0x80
  let loose := String.ofList (kept.map Char.toLower)
  if was && loose = "c" then "isc" else loose

/-- The members of the table row that has the given loose name. -/
def rowNamed? (table : List (List String × List String)) (name : String) : Option CodePoints :=
  (table.find? fun row => row.1.any fun n => looseName n.toList = name).map fun row => ofRows row.2

/-- The members of all rows whose first name is listed. -/
def rowsNamed (table : List (List String × List String)) (names : List String) : CodePoints :=
  ofRows ((table.filter fun row => names.any fun n => row.1.head? = some n).flatMap Prod.snd)

/-! ## General categories -/

/-- The categories that have a common first letter or a name of their own, as loose names and
members. -/
def categoryGroups : List (List String × List String) := [
  (["l", "letter"], ["Ll", "Lm", "Lo", "Lt", "Lu"]),
  (["lc", "casedletter"], ["Ll", "Lt", "Lu"]),
  (["m", "mark", "combiningmark"], ["Mc", "Me", "Mn"]),
  (["n", "number"], ["Nd", "Nl", "No"]),
  (["p", "punct", "punctuation"], ["Pc", "Pd", "Pe", "Pf", "Pi", "Po", "Ps"]),
  (["s", "symbol"], ["Sc", "Sk", "Sm", "So"]),
  (["z", "separator"], ["Zl", "Zp", "Zs"])]

/-- The code points that have been given a meaning or set aside for private use. -/
def assigned : CodePoints := ofRows (categories.flatMap Prod.snd)

/-- The members of a general category, or of a group of them. -/
def category? (name : String) : Option CodePoints :=
  match categoryGroups.find? fun group => group.1.contains name with
  | some group => some (rowsNamed categories group.2)
  | none =>
    if name = "any" then some all
    else if name = "assigned" then some assigned
    else if name = "ascii" then some ⟨[(0, 0x7f)]⟩
    else if name = "cn" ∨ name = "unassigned" then some assigned.complement
    else if name = "c" ∨ name = "other" then
      some ((rowsNamed categories ["Cc", "Cf", "Co"]).union assigned.complement)
    else rowNamed? categories name

/-- The members of some general categories. -/
def inCategories (names : List String) : CodePoints := rowsNamed categories names

/-! ## Binary properties -/

/-- The white space of the standard. -/
def whiteSpace : CodePoints :=
  ⟨[(0x9, 0xd), (0x20, 0x20), (0x85, 0x85), (0xa0, 0xa0), (0x1680, 0x1680), (0x2000, 0x200a),
    (0x2028, 0x2029), (0x202f, 0x202f), (0x205f, 0x205f), (0x3000, 0x3000)]⟩

/-- Letters, letter-like numbers and what else spells words. -/
def alphabetic : CodePoints :=
  (inCategories ["Ll", "Lm", "Lo", "Lt", "Lu", "Nl"]).union
    (rowsNamed contributory ["Other_Alphabetic"])

/-- Small letters and what looks like them. -/
def lowercase : CodePoints :=
  (inCategories ["Ll"]).union (rowsNamed contributory ["Other_Lowercase"])

/-- Capital letters and what looks like them. -/
def uppercase : CodePoints :=
  (inCategories ["Lu"]).union (rowsNamed contributory ["Other_Uppercase"])

/-- The joiners. -/
def joinControl : CodePoints := ⟨[(0x200c, 0x200d)]⟩

/-- The digits of decimal systems. -/
def decimalDigit : CodePoints := inCategories ["Nd"]

/-- What words are made of: letters, marks, decimal digits, connectors and joiners. -/
def word : CodePoints :=
  (alphabetic.union (inCategories ["Mc", "Me", "Mn", "Nd", "Pc"])).union joinControl

/-- What extends the character before it. -/
def graphemeExtend : CodePoints :=
  (inCategories ["Me", "Mn"]).union (rowsNamed contributory ["Other_Grapheme_Extend"])

/-- What can begin an identifier. -/
def identifierStart : CodePoints :=
  ((inCategories ["Ll", "Lm", "Lo", "Lt", "Lu", "Nl"]).union
    (ofRows ["1885-1886 2118 212E 309B-309C"])).diff (ofRows ["2E2F"])

/-- What can continue an identifier. -/
def identifierContinue : CodePoints :=
  (identifierStart.union (inCategories ["Mc", "Mn", "Nd", "Pc"])).union
    (ofRows ["B7 387 1369-1371 19DA"])

/-- What can spell identifiers, but not after compatibility mappings. -/
def decomposing : CodePoints :=
  ofRows ["37A 309B-309C FC5E-FC63 FDFA-FDFB FE70-FE7E/2"]

/-- What is passed over when the letters around a letter are looked at for its case. -/
def caseIgnorable : CodePoints :=
  (inCategories ["Cf", "Lm", "Me", "Mn", "Sk"]).union
    (rowsNamed wordBreaks ["MB", "ML", "SQ"])

/-- What a grapheme may be built on. -/
def graphemeBase : CodePoints :=
  assigned.diff ((inCategories ["Cc", "Cf", "Co", "Zl", "Zp"]).union graphemeExtend)

/-- The members of a binary property. -/
def binary? (name : String) : Option CodePoints :=
  if name = "alphabetic" ∨ name = "alpha" then some alphabetic
  else if name = "lowercase" ∨ name = "lower" then some lowercase
  else if name = "uppercase" ∨ name = "upper" then some uppercase
  else if name = "cased" then some ((lowercase.union uppercase).union (inCategories ["Lt"]))
  else if name = "whitespace" ∨ name = "wspace" ∨ name = "space" then some whiteSpace
  else if name = "asciihexdigit" ∨ name = "ahex" then some (ofRows ["30-39 41-46 61-66"])
  else if name = "hexdigit" ∨ name = "hex" then
    some (ofRows ["30-39 41-46 61-66 FF10-FF19 FF21-FF26 FF41-FF46"])
  else if name = "joincontrol" ∨ name = "joinc" then some joinControl
  else if name = "graphemeextend" ∨ name = "grext" then some graphemeExtend
  else if name = "idstart" ∨ name = "ids" then some identifierStart
  else if name = "idcontinue" ∨ name = "idc" then some identifierContinue
  else if name = "xidstart" ∨ name = "xids" then
    some (identifierStart.diff (decomposing.union (ofRows ["E33 EB3 FF9E-FF9F"])))
  else if name = "xidcontinue" ∨ name = "xidc" then some (identifierContinue.diff decomposing)
  else if name = "math" then
    some ((inCategories ["Sm"]).union (rowsNamed contributory ["Other_Math"]))
  else if name = "caseignorable" ∨ name = "ci" then some caseIgnorable
  else if name = "graphemebase" ∨ name = "grbase" then some graphemeBase
  else
    match rowNamed? contributory name with
    | some s => some s
    | none => rowNamed? traits name

/-! ## Look-up -/

/-- The members of a script. -/
def script? (name : String) : Option CodePoints :=
  if name = "zzzz" ∨ name = "unknown" then
    some (ofRows (scripts.flatMap Prod.snd)).complement
  else rowNamed? scripts name

/-- What a script is used with: its members and extensions without those that are used with other
scripts only. -/
def scriptExtension? (name : String) : Option CodePoints :=
  (script? name).map fun members =>
    match scripts.find? fun row => row.1.any fun n => looseName n.toList = name with
    | none => members
    | some row =>
      let short := row.1.take 1
      (members.diff (rowsNamed foreign short)).union (rowsNamed extensions short)

/-- What was assigned in a version of the standard or before. -/
def assignedBy? (version : String) : Option CodePoints :=
  let named (row : List String × List String) : Bool :=
    row.1.any fun n => looseName n.toList = version
  let k := ages.findIdx named
  if k < ages.length then some (ofRows ((ages.take (k + 1)).flatMap Prod.snd)) else none

/-- What a value in the segmentation into graphemes belongs to. Syllables with a final consonant are
those that are not without. -/
def graphemeBreak? (value : String) : Option CodePoints :=
  if value = "lvt" then
    some ((⟨[(0xac00, 0xd7a3)]⟩ : CodePoints).diff (rowsNamed graphemeBreaks ["LV"]))
  else rowNamed? graphemeBreaks value

/-- The members of the property with a bare name. -/
def named? (name : List Char) : Option CodePoints :=
  let name := looseName name
  match binary? name with
  | some s => some s
  | none =>
    match category? name with
    | some s => some s
    | none => script? name

/-- The members of a property that takes values. -/
def valued? (property value : List Char) : Option CodePoints :=
  let property := looseName property
  let value := looseName value
  if property = "gc" ∨ property = "generalcategory" then category? value
  else if property = "sc" ∨ property = "script" then script? value
  else if property = "scx" ∨ property = "scriptextensions" then scriptExtension? value
  else if property = "age" then assignedBy? value
  else if property = "gcb" ∨ property = "graphemeclusterbreak" then graphemeBreak? value
  else if property = "wb" ∨ property = "wordbreak" then rowNamed? wordBreaks value
  else if property = "sb" ∨ property = "sentencebreak" then rowNamed? sentenceBreaks value
  else none

end Turnstile.CodePoints
