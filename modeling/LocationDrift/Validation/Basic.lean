import LocationDrift.Json.Shown

/-!
# Checking documents against models

A model reads a JSON object field by field and reports every field that fails, in the order the
model declares its fields, each failure with the path from the document's root to the value
(object keys and list positions), its kind, and the value itself.

**Fields.** A field is found under its alias first and under its own name second; a failure
inside it is reported under the key that was found, a missing field under the alias. Unknown
keys are ignored.

**Collecting.** `Checked.zip` runs both checks and keeps both lists of failures, so a model
reports all of its bad fields at once, depth first.

**The report (`Violation.reportAll`).** A first line counts the failures and names the model
checked; then each failure gives its path on a line of its own, none for the document itself, and
an indented line with what was wrong, its error code, the value as it is shown in messages (cut
to its first and last 25 bytes when longer than 50) and the name of the value's type.
-/

namespace LocationDrift

/-- One step of the path to a value inside a document. -/
inductive PathStep where
  | key (name : Text)
  | index (i : Nat)
deriving DecidableEq, Repr, Inhabited

/-- What was wrong with a value. Where the message depends on more than the kind, the kind
carries it. -/
inductive ViolationKind where
  | missing
  | stringType
  | intType
  | intParsing
  | intParsingSize
  | intFromFloat
  | finiteNumber
  | boolType
  | boolParsing
  /-- No object where the model named `model` reads one. -/
  | modelType (model : String)
  | tupleType
  | datetimeType
  /-- A value that no date and time is read from, and why. -/
  | datetimeParsing (why : String)
  /-- A text that is neither a date and time nor a date, and why it is no date. -/
  | datetimeFromDateParsing (why : String)
  /-- A value the model's own check refuses, with what the check says. -/
  | valueError (why : Text)
deriving DecidableEq, Repr, Inhabited

namespace ViolationKind

/-- The error code of each kind. -/
def code : ViolationKind → String
  | missing => "missing"
  | stringType => "string_type"
  | intType => "int_type"
  | intParsing => "int_parsing"
  | intParsingSize => "int_parsing_size"
  | intFromFloat => "int_from_float"
  | finiteNumber => "finite_number"
  | boolType => "bool_type"
  | boolParsing => "bool_parsing"
  | modelType _ => "model_type"
  | tupleType => "tuple_type"
  | datetimeType => "datetime_type"
  | datetimeParsing _ => "datetime_parsing"
  | datetimeFromDateParsing _ => "datetime_from_date_parsing"
  | valueError _ => "value_error"

/-- What a report says of each kind. -/
def message : ViolationKind → Text
  | missing => Text.ofString "Field required"
  | stringType => Text.ofString "Input should be a valid string"
  | intType => Text.ofString "Input should be a valid integer"
  | intParsing => Text.ofString "Input should be a valid integer, unable to parse string as an integer"
  | intParsingSize =>
    Text.ofString "Unable to parse input string as an integer, exceeded maximum size"
  | intFromFloat =>
    Text.ofString "Input should be a valid integer, got a number with a fractional part"
  | finiteNumber => Text.ofString "Input should be a finite number"
  | boolType => Text.ofString "Input should be a valid boolean"
  | boolParsing => Text.ofString "Input should be a valid boolean, unable to interpret input"
  | modelType model =>
    Text.ofString ("Input should be a valid dictionary or instance of " ++ model)
  | tupleType => Text.ofString "Input should be a valid tuple"
  | datetimeType => Text.ofString "Input should be a valid datetime"
  | datetimeParsing why => Text.ofString ("Input should be a valid datetime, " ++ why)
  | datetimeFromDateParsing why =>
    Text.ofString ("Input should be a valid datetime or date, " ++ why)
  | valueError why => Text.ofString "Value error, " ++ why

end ViolationKind

/-- A failed value: where it is, what was wrong, and the value. -/
structure Violation where
  loc : List PathStep
  kind : ViolationKind
  input : Json
deriving Repr, Inhabited

/-- The name of the type of a value, as reports give it. -/
def Json.typeName : Json → String
  | null => "NoneType"
  | bool _ => "bool"
  | int _ => "int"
  | float _ => "float"
  | str _ => "str"
  | arr _ => "list"
  | obj _ => "dict"

namespace Text

/-- The longest start of a text of at most `n` UTF-8 bytes. -/
def takeBytes (n : Nat) : Text → Text
  | [] => []
  | c :: rest =>
    if utf8Size [c] ≤ n then c :: takeBytes (n - utf8Size [c]) rest else []

/-- A text of more than 50 UTF-8 bytes cut to its first and its last 25, around `...`. -/
def cut (t : Text) : Text :=
  if utf8Size t ≤ 50 then t
  else takeBytes 25 t ++ ofString "..." ++ (takeBytes 25 t.reverse).reverse

end Text

namespace Violation

/-- The text of one step of a path. -/
def stepText : PathStep → Text
  | .key name => name
  | .index i => Text.ofNat i

/-- The report of one failure: its path on a line of its own unless it is the document itself,
then what was wrong, with the error code, the value and the name of its type. -/
def report (v : Violation) : Text :=
  (if v.loc.isEmpty then [] else Text.intercalate [46] (v.loc.map stepText) ++ [10]) ++
    Text.ofString "  " ++ v.kind.message ++ Text.ofString (" [type=" ++ v.kind.code ++
      ", input_value=") ++ Text.cut v.input.shownText ++
    Text.ofString (", input_type=" ++ v.input.typeName ++ "]")

/-- The report of the failures of the model named `model`: how many there are, then each. -/
def reportAll (model : String) (vs : List Violation) : Text :=
  Text.ofString (toString vs.length ++ " validation error" ++
    (if vs.length = 1 then "" else "s") ++ " for " ++ model) ++
    (vs.map fun v => [10] ++ report v).flatten

end Violation

/-- The result of checking: a value, or every failure found. -/
abbrev Checked (α : Type) := Except (List Violation) α

namespace Checked

/-- A failure of one kind at the value `input` itself. -/
def fail {α : Type} (kind : ViolationKind) (input : Json) : Checked α := .error [⟨[], kind, input⟩]

/-- Both checks, keeping the failures of both. -/
def zip {α β : Type} (a : Checked α) (b : Checked β) : Checked (α × β) :=
  match a, b with
  | .ok x, .ok y => .ok (x, y)
  | .error e, .ok _ => .error e
  | .ok _, .error e => .error e
  | .error e₁, .error e₂ => .error (e₁ ++ e₂)

/-- Put a step in front of every failure's path. -/
def under {α : Type} (step : PathStep) (c : Checked α) : Checked α :=
  match c with
  | .ok x => .ok x
  | .error es => .error (es.map fun v => { v with loc := step :: v.loc })

end Checked

/-- A check of a JSON value. -/
abbrev Decoder (α : Type) := Json → Checked α

/-- A field of a model: its document key and its own name. -/
structure FieldName where
  key : String
  name : String

namespace FieldName

/-- The field's value and the key it was found under: the document key first, then the name. -/
def find? (f : FieldName) (fields : List (Text × Json)) : Option (Text × Json) :=
  match Json.field? fields (Text.ofString f.key) with
  | some v => some (Text.ofString f.key, v)
  | none => (Json.field? fields (Text.ofString f.name)).map fun v => (Text.ofString f.name, v)

end FieldName

namespace Decoder

/-- A field that must be present. -/
def required {α : Type} (fields : List (Text × Json)) (f : FieldName) (d : Decoder α) : Checked α :=
  match f.find? fields with
  | some (key, v) => Checked.under (.key key) (d v)
  | none => .error [⟨[.key (Text.ofString f.key)], .missing, .obj fields⟩]

/-- A field with a default for when it is absent. -/
def withDefault {α : Type} (fields : List (Text × Json)) (f : FieldName) (default : α)
    (d : Decoder α) : Checked α :=
  match f.find? fields with
  | some (key, v) => Checked.under (.key key) (d v)
  | none => .ok default

/-- A value that may be `null`. -/
def nullable {α : Type} (d : Decoder α) : Decoder (Option α)
  | .null => .ok none
  | v => (d v).map some

/-- An optional field: absent or `null` is none. -/
def optional {α : Type} (fields : List (Text × Json)) (f : FieldName) (d : Decoder α) :
    Checked (Option α) :=
  withDefault fields f none (nullable d)

/-- A JSON object read by the model named `name`. -/
def model {α : Type} (name : String) (read : List (Text × Json) → Checked α) : Decoder α
  | .obj fields => read fields
  | v => Checked.fail (.modelType name) v

/-- Items of a list, each checked, failures under their positions. -/
def items {α : Type} (d : Decoder α) : Nat → List Json → Checked (List α)
  | _, [] => .ok []
  | i, v :: vs => ((Checked.under (.index i) (d v)).zip (items d (i + 1) vs)).map
      fun (x, xs) => x :: xs

/-- A sequence: a JSON array whose items are checked. -/
def sequence {α : Type} (d : Decoder α) : Decoder (List α)
  | .arr vs => items d 0 vs
  | v => Checked.fail .tupleType v

end Decoder

end LocationDrift
