/-!
Programs of a script language of objects, in which blocks are told by how far lines are indented.

They serve the running program only.
-/

namespace StaleBuild.Utility.Snippet

/-- A text in characters. A byte that no character was read of is kept as a character above all others. -/
abbrev Text := List Char

/-- What is calculated of two values. -/
inductive Operator where
  | add
  | sub
  | mul
  | div
  | floorDiv
  | mod
  | pow
  | shiftLeft
  | shiftRight
  | bitAnd
  | bitOr
  | bitXor
deriving DecidableEq

/-- The sign of an operator. -/
def Operator.sign : Operator → String
  | .add => "+"
  | .sub => "-"
  | .mul => "*"
  | .div => "/"
  | .floorDiv => "//"
  | .mod => "%"
  | .pow => "** or pow()"
  | .shiftLeft => "<<"
  | .shiftRight => ">>"
  | .bitAnd => "&"
  | .bitOr => "|"
  | .bitXor => "^"

/-- How two values are compared. -/
inductive Relation where
  | eq
  | ne
  | lt
  | le
  | gt
  | ge
  | same
  | notSame
  | isIn
  | notIn
deriving DecidableEq

/-- What is made of the values of a loop in an expression. -/
inductive Shape where
  | list
  | set
  | dict
  | generator

mutual

/-- An expression. -/
inductive Expr where
  | nothing
  | truth (b : Bool)
  | whole (n : Int)
  | real (x : Float)
  | text (s : Text)
  | bytes (s : Text)
  | ellipsis
  /-- A text with values in it. -/
  | joined (parts : List Part)
  | name (s : String)
  | attribute (e : Expr) (name : String)
  | item (e i : Expr)
  | slice (a b step : Option Expr)
  | call (f : Expr) (args : List Argument)
  | tuple (es : List Expr)
  | list (es : List Expr)
  | set (es : List Expr)
  /-- Keys and values; a value without a key is a table whose pairs are taken over. -/
  | dict (pairs : List (Option Expr × Expr))
  | negate (e : Expr)
  | plus (e : Expr)
  | invert (e : Expr)
  | not (e : Expr)
  | binary (op : Operator) (a b : Expr)
  | compare (a : Expr) (rest : List (Relation × Expr))
  | both (a b : Expr)
  | either (a b : Expr)
  | choice (condition a b : Expr)
  | lambda (ps : List Parameter) (body : Expr)
  /-- A loop in an expression; a dict has keys besides the values. -/
  | each (shape : Shape) (key : Option Expr) (value : Expr) (clauses : List Clause)
  | spread (e : Expr)
  | binding (name : String) (e : Expr)

/-- A part of a text with values in it. -/
inductive Part where
  | literal (s : Text)
  | value (e : Expr) (conversion : Option Char) (format : List Part)

/-- An argument of a call: with its keyword, and with the number of stars before it. -/
inductive Argument where
  | mk (keyword : Option String) (stars : Nat) (e : Expr)

/-- A parameter of a function; stars take what is left over. -/
inductive Parameter where
  | mk (name : String) (default? : Option Expr) (stars : Nat)

/-- A part of a loop in an expression. -/
inductive Clause where
  | source (target e : Expr)
  | guard (e : Expr)

end

/-- What an import makes known: the path of names, and the name for it. -/
structure Import where
  path : List String
  alias? : Option String

mutual

/-- A statement with its line. -/
inductive Statement where
  | mk (line : Nat) (kind : Kind)

/-- The kinds of statements. -/
inductive Kind where
  | expr (e : Expr)
  | assign (targets : List Expr) (e : Expr)
  | augment (target : Expr) (op : Operator) (e : Expr)
  | delete (targets : List Expr)
  | pass
  | leave
  | again
  | give (e : Option Expr)
  | raise (e cause : Option Expr)
  | load (imports : List Import)
  | loadFrom (path : List String) (names : List (String × Option String))
  | choose (condition : Expr) (yes no : List Statement)
  | loop (condition : Expr) (body last : List Statement)
  | each (target e : Expr) (body last : List Statement)
  | function (name : String) (ps : List Parameter) (body : List Statement)
  | derive (name : String) (bases : List Expr) (body : List Statement)
  | using (items : List (Expr × Option Expr)) (body : List Statement)
  | attempt (body : List Statement) (handlers : List Handler) (good finish : List Statement)
  | shared (names : List String)
  | check (e : Expr) (message : Option Expr)

/-- What is done about exceptions of a class. -/
inductive Handler where
  | mk (kind : Option Expr) (name : Option String) (body : List Statement)

end

/-- A fault in the text of a program: its class, what is wrong, and where. -/
structure Fault where
  kind : String
  words : String
  line : Nat
  column : Nat
  width : Nat

end StaleBuild.Utility.Snippet
