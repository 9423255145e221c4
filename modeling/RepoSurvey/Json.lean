/-!
# JSON values

The value type of route hints, configuration echoes and every result the
program prints. Fields keep the order in which they were added. A real number
is kept as a double and apart from the integers, because the two are written
differently.
-/

namespace RepoSurvey

/-- A JSON value. -/
inductive Json where
  | null
  | bool (value : Bool)
  | int (value : Int)
  | real (value : Float)
  | str (value : String)
  | arr (items : List Json)
  | obj (fields : List (String × Json))
  deriving Inhabited

namespace Json

/-- The field `key` of an object. -/
def field? (fields : List (String × Json)) (key : String) : Option Json :=
  (fields.find? fun entry => entry.1 == key).map (·.2)

/-- A list of strings. -/
def strings (items : List String) : Json :=
  .arr (items.map .str)

/-- A natural number. -/
def nat (n : Nat) : Json :=
  .int n

/-- A value that may be missing. -/
def ofOption {α : Type} (f : α → Json) : Option α → Json
  | some a => f a
  | none => .null

/-- An object whose values are all made by `f`. -/
def table {α : Type} (f : α → Json) (entries : List (String × α)) : Json :=
  .obj (entries.map fun (k, v) => (k, f v))

/-- An object without its null fields. -/
def dropNulls (fields : List (String × Json)) : List (String × Json) :=
  fields.filter fun
    | (_, .null) => false
    | _ => true

end Json

end RepoSurvey
