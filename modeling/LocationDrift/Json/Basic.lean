import LocationDrift.Text.Basic
import LocationDrift.Json.Binary64

/-!
# JSON values

A JSON value as a reader of the format produces it: integers stay exact and unbounded, a number
with a fraction or an exponent is a binary64 value, strings are code-point texts (lone surrogates
kept), and an object is a list of fields in order of first appearance, each key once.
-/

namespace LocationDrift

/-- A JSON value. -/
inductive Json where
  | null
  | bool (b : Bool)
  | int (n : Int)
  | float (x : Binary64)
  | str (s : Text)
  | arr (items : List Json)
  | obj (fields : List (Text × Json))
deriving Inhabited, Repr

namespace Json

/-- The value of a field, if the object has it. -/
def field? (fields : List (Text × Json)) (key : Text) : Option Json :=
  (fields.find? (·.1 == key)).map (·.2)

/-- The value of a field named by a string. -/
def get? (j : Json) (key : String) : Option Json :=
  match j with
  | obj fields => field? fields (Text.ofString key)
  | _ => none

/-- Set a field: a key already present keeps its place and takes the new value. -/
def setField (fields : List (Text × Json)) (key : Text) (v : Json) : List (Text × Json) :=
  if fields.any (·.1 == key) then fields.map fun kv => if kv.1 == key then (key, v) else kv
  else fields ++ [(key, v)]

/-- A string value given as a Lean string. -/
def ofString (s : String) : Json := str (Text.ofString s)

/-- An object whose keys are given as Lean strings. -/
def object (fields : List (String × Json)) : Json :=
  obj (fields.map fun kv => (Text.ofString kv.1, kv.2))

/-- The value, or `null` when absent. -/
def ofOption {α : Type} (f : α → Json) : Option α → Json
  | some a => f a
  | none => null

mutual

/-- Apply `f` to every string value, and to every key when `onKeys`. -/
def mapText (f : Text → Text) (onKeys : Bool) : Json → Json
  | str s => str (f s)
  | arr vs => arr (mapTextItems f onKeys vs)
  | obj fs => obj (mapTextFields f onKeys fs)
  | j => j

/-- `mapText` on each item. -/
def mapTextItems (f : Text → Text) (onKeys : Bool) : List Json → List Json
  | [] => []
  | v :: vs => mapText f onKeys v :: mapTextItems f onKeys vs

/-- `mapText` on each field. -/
def mapTextFields (f : Text → Text) (onKeys : Bool) : List (Text × Json) → List (Text × Json)
  | [] => []
  | (k, v) :: kvs => ((if onKeys then f k else k), mapText f onKeys v) :: mapTextFields f onKeys kvs

end

end Json

end LocationDrift
