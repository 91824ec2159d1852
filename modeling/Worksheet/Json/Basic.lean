/-!
# JSON values

A JSON value as it is written. Members of an object keep their order and may repeat a name, and a
numeral keeps its digits, so that what a value means is left to those who read it.
-/

set_option autoImplicit false
set_option relaxedAutoImplicit false

namespace Worksheet

namespace Json

/-- A numeral. -/
structure Numeral where
  /-- Whether it begins with a minus sign. -/
  negative : Bool
  /-- The digits before the point. -/
  whole : List Char
  /-- The digits after the point, if there is a point. -/
  fraction : Option (List Char)
  /-- The power of ten, if there is one: whether it is negative, and its digits. -/
  power : Option (Bool × List Char)
deriving DecidableEq, Repr

end Json

/-- A JSON value. Strings, and so the names of members, are `none` when their escapes do not make up
whole characters. -/
inductive Json where
  /-- The null value. -/
  | null
  /-- A truth value. -/
  | bool (truth : Bool)
  /-- A numeral. -/
  | number (numeral : Json.Numeral)
  /-- A string. -/
  | string (text : Option String)
  /-- An array. -/
  | array (items : List Json)
  /-- An object, by names and values. -/
  | object (members : List (Option String × Json))

namespace Json

/-- A string of whole characters. -/
def ofString (text : String) : Json := string (some text)

/-- An object whose names have whole characters. -/
def ofMembers (members : List (String × Json)) : Json :=
  object (members.map fun member ↦ (some member.1, member.2))

/-- A whole number. -/
def ofNat (value : Nat) : Json := number ⟨false, Nat.toDigits 10 value, none, none⟩

end Json

end Worksheet
