import RStepper.Json.Double
import RStepper.Text.Lines

/-!
JSON values. The fields of an object keep the order in which they were given, and may repeat, until
the value is put in order: then each key has its last value and the keys are sorted.
-/

namespace RStepper

inductive Json where
  | null
  | bool (value : Bool)
  | int (value : Int)
  | real (value : Json.Double)
  | str (value : String)
  | arr (items : List Json)
  | obj (fields : List (String × Json))
  deriving Repr, Inhabited

namespace Json

/-- Sets a field of sorted fields; a field with the same key is replaced. -/
def insertField (key : String) (value : Json) : List (String × Json) → List (String × Json)
  | [] => [(key, value)]
  | (other, held) :: rest =>
    if key < other then (key, value) :: (other, held) :: rest
    else if key = other then (key, value) :: rest
    else (other, held) :: insertField key value rest

mutual
/-- The value with sorted keys throughout, of equal keys the last. -/
def ordered : Json → Json
  | .arr items => .arr (orderedItems items)
  | .obj fields => .obj (orderedFields fields)
  | value => value

def orderedItems : List Json → List Json
  | [] => []
  | item :: rest => item.ordered :: orderedItems rest

def orderedFields : List (String × Json) → List (String × Json)
  | [] => []
  | (key, value) :: rest =>
    let later := orderedFields rest
    if later.any (·.1 == key) then later else insertField key value.ordered later
end

def object (fields : List (String × Json)) : Json :=
  .obj (orderedFields fields)

def ofOption (render : α → Json) (value : Option α) : Json :=
  value.elim .null render

def field? (value : Json) (key : String) : Option Json :=
  match value with
  | .obj fields => (fields.find? (·.1 == key)).map (·.2)
  | _ => none

def string? : Json → Option String
  | .str value => some value
  | _ => none

def items? : Json → Option (List Json)
  | .arr items => some items
  | _ => none

def int? : Json → Option Int
  | .int value => some value
  | _ => none

def bool? : Json → Option Bool
  | .bool value => some value
  | _ => none

/-- A counter: a whole number from zero, within 64 bits. -/
def counter? : Json → Option Nat
  | .int value => if 0 ≤ value ∧ value < Text.wordLimit then some value.toNat else none
  | _ => none

end Json
end RStepper
