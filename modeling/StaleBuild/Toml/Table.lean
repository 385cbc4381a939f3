import StaleBuild.Decimal.Binary64

/-!
TOML values, and tables under construction. A table keeps its fields in the order in which the
document defines them, a table that a header opens counting from where the header stands.

TOML lets a document fill a table from several places, by headers and by
keys with full stops, but define nothing twice. So a table remembers how it came into being:

- by a header of its own, which may come once;
- because it lies above a table with a header; its own header may still come, and moves it behind
  the fields defined so far;
- by a key with full stops; only further such keys may add to it.

A value, an inline table or a list of values is closed.
-/

namespace StaleBuild

/-- A TOML value. -/
inductive Toml where
  | text (s : String)
  | integer (n : Int)
  | float (x : Decimal.Binary64)
  | boolean (b : Bool)
  /-- A date, a time of day, or both; which one matters to nobody here. -/
  | moment
  | list (items : List Toml)
  | table (fields : List (String × Toml))

namespace Toml

mutual

/-- Whether two values are the same. -/
def same : Toml → Toml → Bool
  | .text s, .text t => s = t
  | .integer m, .integer n => m = n
  | .float x, .float y => x = y
  | .boolean b, .boolean c => b = c
  | .moment, .moment => true
  | .list items, .list others => sameItems items others
  | .table fields, .table others => sameFields fields others
  | _, _ => false

def sameItems : List Toml → List Toml → Bool
  | [], [] => true
  | v :: rest, w :: others => same v w && sameItems rest others
  | _, _ => false

def sameFields : List (String × Toml) → List (String × Toml) → Bool
  | [], [] => true
  | (name, v) :: rest, (other, w) :: others =>
    name = other && same v w && sameFields rest others
  | _, _ => false

end

-- by recursion over the first value and what it is made of
mutual

theorem same_iff : ∀ {a b : Toml}, a.same b = true ↔ a = b
  | .text s, b => by cases b <;> simp [same]
  | .integer n, b => by cases b <;> simp [same]
  | .float x, b => by cases b <;> simp [same]
  | .boolean c, b => by cases b <;> simp [same]
  | .moment, b => by cases b <;> simp [same]
  | .list items, b => by cases b <;> simp [same, sameItems_iff]
  | .table fields, b => by cases b <;> simp [same, sameFields_iff]

theorem sameItems_iff : ∀ {a b : List Toml}, sameItems a b = true ↔ a = b
  | [], b => by cases b <;> simp [sameItems]
  | v :: rest, b => by cases b <;> simp [sameItems, same_iff (a := v), sameItems_iff (a := rest)]

theorem sameFields_iff : ∀ {a b : List (String × Toml)}, sameFields a b = true ↔ a = b
  | [], b => by cases b <;> simp [sameFields]
  | (name, v) :: rest, b => by
    cases b with
    | nil => simp [sameFields]
    | cons first others =>
      simp [sameFields, same_iff (a := v), sameFields_iff (a := rest), Prod.ext_iff]

end

instance : DecidableEq Toml := fun _ _ => decidable_of_iff _ same_iff

/-- How a table came into being. -/
inductive Origin where
  | header
  | implied
  | dotted
deriving DecidableEq

/-- Whether nothing has opened a table itself. -/
def Origin.isImplicit : Origin → Bool
  | .header => false
  | _ => true

/-- What a name stands for in a table under construction. -/
inductive Draft where
  | value (v : Toml)
  | table (origin : Origin) (fields : List (String × Draft))
  /-- The tables of a header in double brackets, each with its fields. -/
  | tables (items : List (List (String × Draft)))

/-- The fields of a table under construction. -/
abbrev Fields := List (String × Draft)

namespace Fields

/-- What a name stands for. -/
def draft? (fields : Fields) (name : String) : Option Draft :=
  (List.find? (fun f => f.1 = name) fields).map Prod.snd

/-- The fields with another draft for a name, in the same place. -/
def replace (fields : Fields) (name : String) (d : Draft) : Fields :=
  List.map (fun f => if f.1 = name then (name, d) else f) fields

/-- The fields without a name. -/
def without (fields : Fields) (name : String) : Fields := List.filter (fun f => f.1 ≠ name) fields

/-- Add a field behind the others; refused if the name is taken. -/
def define (fields : Fields) (name : String) (d : Draft) : Option Fields :=
  match fields.draft? name with
  | some _ => none
  | none => some (fields ++ [(name, d)])

end Fields

/-- Change the table that a path leads to. Tables on the way that are missing are made, with the
given origin; of tables in a list the last one is meant. A path that keys spell (`origin` dotted)
does not enter a table with a header. -/
def changeAt (origin : Origin) (change : Origin → Fields → Option Fields) :
    List String → Origin → Fields → Option Fields
  | [], own, fields => change own fields
  | name :: path, _, fields =>
    match fields.draft? name with
    | none =>
      (changeAt origin change path origin []).map fun inner =>
        fields ++ [(name, .table origin inner)]
    | some (.value _) => none
    | some (.table own inner) =>
      if origin = .dotted ∧ !own.isImplicit then none
      else (changeAt origin change path own inner).map fun inner =>
        fields.replace name (.table own inner)
    | some (.tables items) =>
      match items.getLast? with
      | none => none
      | some last =>
        (changeAt origin change path .header last).map fun inner =>
          fields.replace name (.tables (items.dropLast ++ [inner]))

/-- Define what a key stands for. A key with full stops adds only to tables that such keys made. -/
def defineKey (fields : Fields) (path : List String) (name : String) (v : Toml) : Option Fields :=
  changeAt .dotted
    (fun own inner =>
      if (own = .dotted) = (path = []) then none else inner.define name (.value v))
    path .header fields

mutual

/-- The finished value of a draft. -/
def Draft.finish : Draft → Toml
  | .value v => v
  | .table _ fields => .table (finishFields fields)
  | .tables items => .list (finishItems items)

def finishFields : List (String × Draft) → List (String × Toml)
  | [] => []
  | (name, d) :: rest => (name, d.finish) :: finishFields rest

def finishItems : List (List (String × Draft)) → List Toml
  | [] => []
  | fields :: rest => .table (finishFields fields) :: finishItems rest

end

/-! ## Headers -/

/-- A document under construction: what is finished, and the table that is being filled. -/
structure Drafting where
  root : Fields
  /-- The table being filled; no path means the root. -/
  path : List String
  /-- Whether the table is one of a list. -/
  listed : Bool
  fields : Fields

namespace Drafting

/-- The empty document. -/
def start : Drafting := ⟨[], [], false, []⟩

/-- Put the finished table where its header says. -/
def close (d : Drafting) : Option Fields :=
  match d.path.getLast? with
  | none => some d.fields
  | some name =>
    changeAt .implied
      (fun _ parent =>
        if d.listed then
          match parent.draft? name with
          | none => some (parent ++ [(name, .tables [d.fields])])
          | some (.tables items) => some (parent.replace name (.tables (items ++ [d.fields])))
          | some _ => none
        else parent.define name (.table .header d.fields))
      d.path.dropLast .header d.root

/-- What a header finds at its path: the fields of a table that is still open for it, which the
table takes over, or nothing. A table with a header, a table made by keys, and a value refuse. -/
def claim (parent : Fields) (name : String) : Option Fields :=
  match parent.draft? name with
  | none => some []
  | some (.table .implied inner) => some inner
  | some _ => none

/-- Begin the table of a header. -/
def openTable (d : Drafting) (path : List String) : Option Drafting := do
  let root ← d.close
  let name ← path.getLast?
  let above := path.dropLast
  -- the fields that the table takes over are read off before they are taken out
  let mark : Origin → Fields → Option Fields := fun _ parent =>
    (claim parent name).map fun _ => parent.without name
  let rest ← changeAt .implied mark above .header root
  return ⟨rest, path, false, (fieldsAt root above).bind (claim · name) |>.getD []⟩
where
  /-- The fields of the table that a path leads to. -/
  fieldsAt (fields : Fields) : List String → Option Fields
    | [] => some fields
    | name :: path =>
      match fields.draft? name with
      | some (.table _ inner) => fieldsAt inner path
      | some (.tables items) => items.getLast?.bind fun last => fieldsAt last path
      | _ => none

/-- Begin a table of the list that a header in double brackets names. -/
def openListed (d : Drafting) (path : List String) : Option Drafting := do
  let root ← d.close
  let name ← path.getLast?
  let check : Origin → Fields → Option Fields := fun _ parent =>
    match parent.draft? name with
    | none => some parent
    | some (.tables _) => some parent
    | some _ => none
  let root ← changeAt .implied check path.dropLast .header root
  return ⟨root, path, true, []⟩

/-- Define what a key stands for in the table being filled. -/
def define (d : Drafting) (path : List String) (name : String) (v : Toml) : Option Drafting :=
  (defineKey d.fields path name v).map fun fields => { d with fields }

/-- The finished document. -/
def finish (d : Drafting) : Option Toml := d.close.map fun root => .table (finishFields root)

end Drafting

end Toml

end StaleBuild
