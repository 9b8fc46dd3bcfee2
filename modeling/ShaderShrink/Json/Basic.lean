import ShaderShrink.Number.Double

/-!
# JSON values

Whole numbers and doubles are different values.  The fields of an object keep the order in which
their names first appeared, and each name appears once.
-/

namespace ShaderShrink

/-- A JSON value. -/
inductive Json where
  | null
  | bool (value : Bool)
  | int (value : Int)
  | double (value : Double)
  | str (value : String)
  | arr (items : List Json)
  | obj (fields : List (String × Json))
  deriving Repr, BEq, Inhabited

namespace Json

/-- The fields with `value` under `name`: in the place of the field of that name, or at the end. -/
def setField (name : String) (value : Json) : List (String × Json) → List (String × Json)
  | [] => [(name, value)]
  | (other, old) :: rest =>
    if other = name then (name, value) :: rest else (other, old) :: setField name value rest

/-- The value of a field. -/
def field? (name : String) (fields : List (String × Json)) : Option Json :=
  (fields.find? fun field => field.1 = name).map (·.2)

mutual

/-- The greatest number of containers inside each other. -/
def depth : Json → Nat
  | .arr items => 1 + itemsDepth items
  | .obj fields => 1 + fieldsDepth fields
  | _ => 0

/-- The greatest depth of an item. -/
def itemsDepth : List Json → Nat
  | [] => 0
  | item :: items => Nat.max item.depth (itemsDepth items)

/-- The greatest depth of a field's value. -/
def fieldsDepth : List (String × Json) → Nat
  | [] => 0
  | (_, value) :: fields => Nat.max value.depth (fieldsDepth fields)

end

/-- A field that was just set is found again. -/
theorem field?_setField_self (name : String) (value : Json) (fields : List (String × Json)) :
    field? name (setField name value fields) = some value := by
  induction fields with
  | nil => simp [setField, field?]
  | cons head rest ih =>
    obtain ⟨other, old⟩ := head
    by_cases same : other = name
    · simp [setField, field?, same]
    · simpa [setField, field?, same] using ih

end Json

end ShaderShrink
