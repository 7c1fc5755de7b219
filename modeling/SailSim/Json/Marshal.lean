import SailSim.Json.Write
import SailSim.Json.Read
import SailSim.Text.ReadFloat

/-!
# Writing records as JSON

Records are written as objects with their members in declaration order, numbers in the
shortest form that reads back, and strings escaped for HTML. A float that is not finite has no
JSON form: writing one fails with `json: unsupported value: NaN` (or `+Inf`, `-Inf`), and the
first such member in writing order is the one reported.

A value read back generically keeps only what a generic value can hold: numbers become binary64
floats, and objects become maps, their keys sorted and the last of repeated keys kept.
-/

namespace SailSim.Json

/-- A value written, or why it cannot be. -/
abbrev Encoded := Except String Json

/-- A float, refused when it is not finite. -/
def finite (x : Float) : Encoded :=
  if x.isNaN || x.isInf then .error ("json: unsupported value: " ++ FloatStyle.general.render x)
  else .ok (float x)

/-- An object of members written in order; the first failing member fails the object. -/
def members (ms : List (String × Encoded)) : Encoded := do
  let vs ← ms.mapM fun (k, v) => do pure (k, ← v)
  pure (.object vs)

/-- A list of written items. -/
def items (xs : List Encoded) : Encoded := do
  pure (.array (← xs.mapM id))

/-- The members of an object as a map: sorted by key, the last of repeated keys kept. -/
def mapMembers (ms : List (String × Json)) : List (String × Json) :=
  let kept := ms.foldl (fun acc (k, v) => (acc.filter (·.1 != k)) ++ [(k, v)]) []
  kept.mergeSort fun a b => decide (a.1 ≤ b.1)

mutual

/-- A value as a generic value reads it: numbers as binary64, objects as sorted maps. A number
too large for binary64 cannot be read. -/
def generic : Json → Except String Json
  | .number lit => match Text.readFloat lit with
    | .ok x => .ok (float x)
    | .error _ => .error ("json: cannot unmarshal number " ++ lit ++ " into Go value of type float64")
  | .array xs => .array <$> genericItems xs
  | .object ms => (fun ms => .object (mapMembers ms)) <$> genericMembers ms
  | j => .ok j

/-- Items read generically. -/
def genericItems : List Json → Except String (List Json)
  | [] => .ok []
  | x :: xs => do pure ((← generic x) :: (← genericItems xs))

/-- Members read generically. -/
def genericMembers : List (String × Json) → Except String (List (String × Json))
  | [] => .ok []
  | (k, v) :: ms => do pure ((k, ← generic v) :: (← genericMembers ms))

end

end SailSim.Json
