import PinTypes.Number.Integer
import PinTypes.Number.Double

/-!
# `PinTypes.Json.Basic` — JSON values

A number is a whole number that 64 bits can hold, signed or unsigned, or else a finite double; `2` and
`2.0` are different values. An object is the list of its members. Objects that were read have their
members in order of their names, each name once; `Json.canonical` brings any value into that form.

## Contents
- **Numbers.** `Json.Number`, `Number.int64?`, `Number.toDouble`.
- **Values.** `Json`, `Json.ofInt64`, `Json.ofDouble`, `Json.depth`.
- **Members.** `Json.place`, `Json.member?`.
- **Canonical form.** `Json.canonical`.
-/

namespace PinTypes

open Number (toInt64?)

/-! ## Numbers -/

/-- Whether a whole number fits into 64 bits, signed or unsigned. -/
def Json.IntegerRange (n : Int) : Prop := -Number.int64Limit ≤ n ∧ n < Number.nat64Limit

instance (n : Int) : Decidable (Json.IntegerRange n) := inferInstanceAs (Decidable (_ ∧ _))

/-- A JSON number. -/
inductive Json.Number where
  | integer (n : Int) (inRange : Json.IntegerRange n)
  | float (x : Double.Finite)
deriving DecidableEq

/-- The number as 64 signed bits, if it is written as a whole number and fits. -/
def Json.Number.int64? : Json.Number → Option Int64
  | .integer n _ => toInt64? n
  | .float _ => none

/-- The nearest double. -/
def Json.Number.toDouble : Json.Number → Double
  | .integer n _ => Double.ofInt n
  | .float x => .finite x

/-! ## Values -/

/-- A JSON value. -/
inductive Json where
  | null
  | bool (b : Bool)
  | number (n : Json.Number)
  | string (s : String)
  | array (items : List Json)
  | object (members : List (String × Json))

namespace Json

instance : Inhabited Json := ⟨null⟩

/-- A whole number of 64 signed bits. -/
def ofInt64 (i : Int64) : Json :=
  .number (.integer i.toInt ⟨Int64.le_toInt i, Int.lt_trans (Int64.toInt_lt i) (by decide)⟩)

/-- A natural number; one beyond 64 bits becomes a double, and null if even that is infinite. -/
def ofNat (n : Nat) : Json :=
  if h : IntegerRange n then .number (.integer n h)
  else match Double.ofInt n with
    | .finite x => .number (.float x)
    | _ => .null

/-- A double; null stands for all that is not finite. -/
def ofDouble : Double → Json
  | .finite x => .number (.float x)
  | _ => .null

mutual

/-- How deep arrays and objects are nested. -/
def depth : Json → Nat
  | .array items => itemsDepth items + 1
  | .object members => membersDepth members + 1
  | _ => 0

/-- The greatest depth of the items. -/
def itemsDepth : List Json → Nat
  | [] => 0
  | x :: xs => max (depth x) (itemsDepth xs)

/-- The greatest depth of the members' values. -/
def membersDepth : List (String × Json) → Nat
  | [] => 0
  | (_, x) :: ms => max (depth x) (membersDepth ms)

end

/-! ## Members -/

/-- Puts a member in its place among members in order of their names, unless the name is there. -/
def place (name : String) (value : Json) : List (String × Json) → List (String × Json)
  | [] => [(name, value)]
  | m :: ms =>
    if name < m.1 then (name, value) :: m :: ms
    else if name = m.1 then m :: ms
    else m :: place name value ms

/-- The value of the member of that name, if there is one. -/
def member? (members : List (String × Json)) (name : String) : Option Json :=
  (members.find? (·.1 == name)).map (·.2)

/-! ## Canonical form -/

mutual

/-- The value with the members of each object in order of their names. Of members of one name the last
    is kept. -/
def canonical : Json → Json
  | .array items => .array (canonicalItems items)
  | .object members => .object (canonicalMembers members)
  | x => x

/-- Each item in canonical form. -/
def canonicalItems : List Json → List Json
  | [] => []
  | x :: xs => canonical x :: canonicalItems xs

/-- The members in order of their names, with values in canonical form. -/
def canonicalMembers : List (String × Json) → List (String × Json)
  | [] => []
  | (name, x) :: ms => place name (canonical x) (canonicalMembers ms)

end

end Json

end PinTypes
