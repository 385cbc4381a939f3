import StaleBuild.Text.Basic
import StaleBuild.Toml.Table

/-!
Reading TOML values into records. A record is written as a table of its fields or as a list of
their values in declaration order. In a table the fields are read in document order and the first
one that is unknown or holds a value of another kind is the offence; a missing field is noticed
behind all of them. In a list the values are read in order and values behind the last field count
for nothing.
-/

namespace StaleBuild.Toml

/-- Why a value has not the shape of a record. -/
inductive ShapeError where
  | unknownField (name : String) (known : List String)
  | missingField (name : String)
  | invalidType (found : Toml) (expected : String)
  /-- A list ends before the field with this index. -/
  | invalidLength (index : Nat) (record : String) (fields : Nat)
deriving DecidableEq

/-- A name between grave accents. -/
def ticked (s : String) : String := "`" ++ s ++ "`"

/-- The kind of a value, with the value where it is a plain one. -/
def described : Toml → String
  | .text s => "string " ++ Text.quoted s
  | .integer n => "integer " ++ ticked (toString n)
  | .float x => "floating point " ++ ticked x.shown
  | .boolean b => "boolean " ++ ticked (if b then "true" else "false")
  | .moment => "map"
  | .list _ => "sequence"
  | .table _ => "map"

/-- The names that would have been right. -/
def alternatives : List String → String
  | [a] => ticked a
  | [a, b] => ticked a ++ " or " ++ ticked b
  | names => "one of " ++ ", ".intercalate (names.map ticked)

/-- The text of an offence. -/
def ShapeError.message : ShapeError → String
  | .unknownField name known => "unknown field " ++ ticked name ++ ", expected " ++ alternatives known
  | .missingField name => "missing field " ++ ticked name
  | .invalidType found expected => "invalid type: " ++ described found ++ ", expected " ++ expected
  | .invalidLength index record fields =>
    "invalid length " ++ toString index ++ ", expected " ++ record ++ " with " ++ toString fields ++
      (if fields = 1 then " element" else " elements")

/-- A text; `expected` is what the reader is told to expect. -/
def asText (expected : String) : Toml → Except ShapeError String
  | .text s => .ok s
  | v => .error (.invalidType v expected)

/-- A list whose items are read alike. -/
def asList {α : Type} (item : Toml → Except ShapeError α) : Toml → Except ShapeError (List α)
  | .list items => items.mapM item
  | v => .error (.invalidType v "a sequence")

/-- How a record is read: its name, its fields in declaration order, the record in which nothing is
given, how a value is assigned to a field, whether a field may be missing at the end of a list, and
which field a table has to give. -/
structure Record (α : Type) where
  name : String
  fields : List String
  blank : α
  assign : α → String → Toml → Except ShapeError α
  mayEnd : String → Bool
  /-- The first field that is still missing and has to be there. -/
  lacks : α → Option String

namespace Record

variable {α : Type}

/-- The words for a record among what is expected. -/
def title (r : Record α) : String := "struct " ++ r.name

/-- Read the fields of a table behind those already read. -/
def ofFields (r : Record α) : α → List (String × Toml) → Except ShapeError α
  | a, [] =>
    match r.lacks a with
    | some name => .error (.missingField name)
    | none => .ok a
  | a, (name, v) :: rest =>
    if r.fields.contains name then
      match r.assign a name v with
      | .ok a => ofFields r a rest
      | .error e => .error e
    else .error (.unknownField name r.fields)

/-- Read the values of a list for the fields that are left; `index` counts those before. -/
def ofItems (r : Record α) : Nat → List String → α → List Toml → Except ShapeError α
  | _, [], a, _ => .ok a
  | index, name :: names, a, [] =>
    if r.mayEnd name then ofItems r (index + 1) names a []
    else .error (.invalidLength index r.title r.fields.length)
  | index, name :: names, a, v :: rest =>
    match r.assign a name v with
    | .ok a => ofItems r (index + 1) names a rest
    | .error e => .error e

/-- The name under which a moment presents itself where a record is expected. -/
def momentField : String := "$__toml_private_datetime"

/-- Read a value as a record. -/
def read (r : Record α) : Toml → Except ShapeError α
  | .table fields => r.ofFields r.blank fields
  | .list items => r.ofItems 0 r.fields r.blank items
  | .moment => .error (.unknownField momentField r.fields)
  | v => .error (.invalidType v r.title)

end Record

end StaleBuild.Toml
