import StaleBuild.Toml.Number
import StaleBuild.Toml.Table

/-!
Reading TOML documents. A document is a sequence of lines: blank ones, comments, headers, and keys
with values. Lists and inline tables nest to a limited depth; every call reads a character or goes
deeper, so twice the length of the text bounds the recursion.
-/

namespace StaleBuild.Toml

/-- The fields of an inline table. -/
def inlineTable? (pairs : List (List String × Toml)) : Option Toml :=
  let add (fields : Option Fields) (pair : List String × Toml) : Option Fields := do
    let fields ← fields
    let name ← pair.1.getLast?
    defineKey fields pair.1.dropLast name pair.2
  (pairs.foldl add (some [])).map fun fields => .table (finishFields fields)

mutual

/-- A value, nested no deeper than `depth`. -/
def readValue : Nat → Nat → Reader Toml
  | 0, _, _ => none
  | fuel + 1, depth, cs =>
    match cs with
    | '[' :: rest =>
      if depth = 0 then none
      else (readItems fuel (depth - 1) rest).map fun (items, rest) => (.list items, rest)
    | '\x7b' :: rest =>
      if depth = 0 then none
      else match skipSpaces rest with
        | '\x7d' :: rest => some (.table [], rest)
        | _ => do
          let (pairs, rest) ← readPairs fuel (depth - 1) rest
          return (← inlineTable? pairs, rest)
    | '"' :: _ => (string? cs).map fun (s, rest) => (.text (String.ofList s), rest)
    | '\'' :: _ => (string? cs).map fun (s, rest) => (.text (String.ofList s), rest)
    | _ =>
      let (word, rest) := takeWord cs
      (wordValue? word).map fun v => (v, rest)

/-- The rest of a list behind its bracket or a comma. -/
def readItems : Nat → Nat → Reader (List Toml)
  | 0, _, _ => none
  | fuel + 1, depth, cs =>
    match skipFiller false cs with
    | none => none
    | some (']' :: rest) => some ([], rest)
    | some cs => do
      let (v, rest) ← readValue fuel depth cs
      match ← skipFiller false rest with
      | ',' :: rest =>
        let (more, rest) ← readItems fuel depth rest
        return (v :: more, rest)
      | ']' :: rest => return ([v], rest)
      | _ => none

/-- The rest of an inline table that is not empty. -/
def readPairs : Nat → Nat → Reader (List (List String × Toml))
  | 0, _, _ => none
  | fuel + 1, depth, cs => do
    let (path, rest) ← key cs
    let '=' :: rest := rest | none
    let (v, rest) ← readValue fuel depth (skipSpaces rest)
    match skipSpaces rest with
    | ',' :: rest =>
      let (more, rest) ← readPairs fuel depth rest
      return ((path, v) :: more, rest)
    | '\x7d' :: rest => return ([(path, v)], rest)
    | _ => none

end

/-- The fuel that a text needs. -/
def fuelFor (cs : List Char) : Nat := 2 * cs.length + 2

/-- A line with a key and its value. -/
def readDefinition (d : Drafting) (cs : List Char) : Option (Drafting × List Char) := do
  let (path, rest) ← key cs
  let '=' :: rest := rest | none
  let rest := skipSpaces rest
  let (v, rest) ← readValue (fuelFor rest) (depthLimit - 1) rest
  let rest ← lineEnd rest
  let name ← path.getLast?
  return (← d.define path.dropLast name v, rest)

/-- A line with a header. -/
def readHeader (d : Drafting) (cs : List Char) : Option (Drafting × List Char) :=
  match cs with
  | '[' :: '[' :: rest => do
    let (path, rest) ← key rest
    let ']' :: ']' :: rest := rest | none
    let rest ← lineEnd rest
    return (← d.openListed path, rest)
  | '[' :: rest => do
    let (path, rest) ← key rest
    let ']' :: rest := rest | none
    let rest ← lineEnd rest
    return (← d.openTable path, rest)
  | _ => none

/-- The lines of a document; each takes a character at least. -/
def readLines : Nat → Drafting → List Char → Option Drafting
  | 0, _, _ => none
  | fuel + 1, d, cs =>
    match skipFiller false cs with
    | none => none
    | some [] => some d
    | some ('[' :: rest) => (readHeader d ('[' :: rest)).bind fun (d, rest) => readLines fuel d rest
    | some cs => (readDefinition d cs).bind fun (d, rest) => readLines fuel d rest

/-- A byte order mark in front of a document does not belong to it. -/
def withoutMark : List Char → List Char
  | c :: rest => if c = '\uFEFF' then rest else c :: rest
  | [] => []

/-- Read a document, always a table. -/
def read (s : String) : Option Toml :=
  let cs := withoutMark s.toList
  (readLines (cs.length + 1) .start cs).bind Drafting.finish

end StaleBuild.Toml
