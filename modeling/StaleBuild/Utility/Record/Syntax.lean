import StaleBuild.Regex.Basic

/-!
Programs that go through records: rules with patterns and actions, functions, statements and expressions.

They serve the running program only.
-/

namespace StaleBuild.Utility.Record

open Host (Str)

/-- An operator between two values. -/
inductive Operator where
  | add
  | subtract
  | multiply
  | divide
  | modulo
  | power
  deriving DecidableEq

/-- A way to compare two values. -/
inductive Comparison where
  | less
  | lessOrEqual
  | equal
  | different
  | greater
  | greaterOrEqual
  deriving DecidableEq

mutual

/-- An expression. -/
inductive Expr where
  | number (x : Float)
  | text (s : Str)
  | regex (source : Str) (e : Regex.Expr)
  | variable (name : String)
  | field (e : Expr)
  | element (array : String) (subscripts : List Expr)
  | assign (target : Expr) (operator : Option Operator) (value : Expr)
  | conditional (test yes no : Expr)
  | both (a b : Expr)
  | either (a b : Expr)
  | negation (e : Expr)
  | negative (e : Expr)
  | positive (e : Expr)
  | member (subscripts : List Expr) (array : String)
  | matching (negated : Bool) (e pattern : Expr)
  | compare (c : Comparison) (a b : Expr)
  | concat (a b : Expr)
  | calculate (o : Operator) (a b : Expr)
  /-- Count a place up or down; whether the new value counts. -/
  | step (target : Expr) (up new : Bool)
  | call (name : String) (args : List Expr)
  | builtin (name : String) (args : List Expr)
  /-- Read a record: from the input, from a file or from a command. -/
  | getline (target : Option Expr) (source : Source)
  | group (e : Expr)

/-- Where a record is read from. -/
inductive Source where
  | input
  | file (e : Expr)
  | command (e : Expr)

end

/-- Where output goes. -/
inductive Destination where
  | standard
  | file (e : Expr)
  | append (e : Expr)
  | command (e : Expr)

/-- A statement. -/
inductive Statement where
  | expression (e : Expr)
  | print (args : List Expr) (sink : Destination)
  | printf (args : List Expr) (sink : Destination)
  | choice (test : Expr) (yes no : List Statement)
  | loop (test : Expr) (body : List Statement)
  | loopAfter (body : List Statement) (test : Expr)
  | counting (first : List Statement) (test : Option Expr) (next body : List Statement)
  | each (name array : String) (body : List Statement)
  | block (body : List Statement)
  | next
  | nextFile
  | exit (status : Option Expr)
  | giveBack (value : Option Expr)
  | break
  | continue
  | delete (array : String) (subscripts : List Expr)

/-- When an action is done. -/
inductive Pattern where
  | first
  | last
  | always
  | holds (e : Expr)
  /-- From a record for which one holds to one for which another holds. -/
  | range (a b : Expr)

/-- A pattern with its action; without one the record is printed. -/
structure Rule where
  pattern : Pattern
  action : Option (List Statement)

/-- A function. -/
structure Function where
  name : String
  parameters : List String
  body : List Statement

/-- A program. -/
structure Script where
  rules : List Rule
  functions : List Function

end StaleBuild.Utility.Record
