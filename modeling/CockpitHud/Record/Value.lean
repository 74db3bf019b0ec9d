namespace CockpitHud.Record

mutual

inductive Shape where
  /-- A natural number of 64 bits. -/
  | unsigned
  | decimal
  | flag
  | text
  /-- One of a few names. -/
  | word (choices : List String)
  | optional (shape : Shape)
  | list (shape : Shape)
  | pair (first second : Shape)
  | record (name : String) (fields : Fields)

/-- The fields of a record. Fields with other names are passed over. -/
inductive Fields where
  | nil
  | cons (name : String) (shape : Shape) (rest : Fields)

end

def Fields.ofList : List (String × Shape) → Fields
  | [] => .nil
  | (name, shape) :: rest => .cons name shape (ofList rest)

inductive Value where
  | unsigned (value : UInt64)
  | decimal (value : Float)
  | flag (value : Bool)
  | text (value : String)
  | absent
  | present (value : Value)
  | list (values : List Value)
  | record (fields : List (String × Value))

namespace Value

def asId? : Value → Option UInt64
  | .unsigned value => some value
  | _ => none

def asFloat? : Value → Option Float
  | .decimal value => some value
  | _ => none

def asFlag? : Value → Option Bool
  | .flag value => some value
  | _ => none

def asText? : Value → Option String
  | .text value => some value
  | _ => none

def asList? : Value → Option (List Value)
  | .list values => some values
  | _ => none

def asOptional? : Value → Option (Option Value)
  | .absent => some none
  | .present value => some (some value)
  | _ => none

def field? (value : Value) (name : String) : Option Value :=
  match value with
  | .record fields => fields.lookup name
  | _ => none

def required {α : Type} (value : Value) (name : String) (as? : Value → Option α) : Option α :=
  (value.field? name).bind as?

def optional {α : Type} (value : Value) (name : String) (as? : Value → Option α) (missing : α) :
    Option α :=
  match value.field? name with
  | none => some missing
  | some given => as? given

def listOf? {α : Type} (as? : Value → Option α) (value : Value) : Option (List α) :=
  value.asList?.bind (·.mapM as?)

end Value

end CockpitHud.Record
