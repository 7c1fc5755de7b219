/-!
# JSON values

A `Json` value keeps what a reader saw and a writer must reproduce: numbers as their literal
text, and object members in order, duplicates included. Objects written from records list
their fields in declaration order; objects written from maps list their keys sorted.
-/

namespace SailSim

/-- A JSON value. -/
inductive Json where
  | null
  | bool (b : Bool)
  /-- A number, as its literal text. -/
  | number (literal : String)
  | string (s : String)
  | array (items : List Json)
  /-- An object: its members in order. -/
  | object (members : List (String × Json))
  deriving Repr, BEq, Inhabited

namespace Json

/-- The member values under `key`, compared exactly, the last one winning. -/
def find? (j : Json) (key : String) : Option Json :=
  match j with
  | .object ms => (ms.reverse.find? (·.1 == key)).map (·.2)
  | _ => none

/-- The kind of a value as decoding errors name it. -/
def kindName : Json → String
  | .null => "null"
  | .bool _ => "bool"
  | .number _ => "number"
  | .string _ => "string"
  | .array _ => "array"
  | .object _ => "object"

/-- A number from a natural number. -/
def nat (n : Nat) : Json := .number (toString n)

/-- A number from an integer. -/
def int (n : Int) : Json := .number (toString n)

mutual

/-- The value with `f` applied to every string in it, object keys left alone. -/
def mapStrings (f : String → String) : Json → Json
  | .string s => .string (f s)
  | .array xs => .array (mapStringsItems f xs)
  | .object ms => .object (mapStringsMembers f ms)
  | j => j

/-- Items with `f` applied to every string in them. -/
def mapStringsItems (f : String → String) : List Json → List Json
  | [] => []
  | x :: xs => mapStrings f x :: mapStringsItems f xs

/-- Members with `f` applied to every string in their values. -/
def mapStringsMembers (f : String → String) : List (String × Json) → List (String × Json)
  | [] => []
  | (k, v) :: ms => (k, mapStrings f v) :: mapStringsMembers f ms

end

mutual

/-- Whether some string of the value, or some key of its objects, contains `t`. -/
def mentions (t : String) : Json → Bool
  | .string s => (s.splitOn t).length > 1
  | .array xs => mentionsItems t xs
  | .object ms => mentionsMembers t ms
  | _ => false

/-- Whether some item mentions `t`. -/
def mentionsItems (t : String) : List Json → Bool
  | [] => false
  | x :: xs => mentions t x || mentionsItems t xs

/-- Whether some key or value of the members mentions `t`. -/
def mentionsMembers (t : String) : List (String × Json) → Bool
  | [] => false
  | (k, v) :: ms => (k.splitOn t).length > 1 || mentions t v || mentionsMembers t ms

end

/-- An object with its keys sorted. -/
def sortedObject (ms : List (String × Json)) : Json :=
  .object (ms.mergeSort fun a b => decide (a.1 ≤ b.1))

end Json

end SailSim
