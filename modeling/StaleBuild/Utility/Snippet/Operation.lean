import StaleBuild.Utility.Snippet.Machine

/-!
What is calculated of values: operators, comparisons, and the items of sequences and tables.
-/

namespace StaleBuild.Utility.Snippet

/-! ## Operators -/

/-- A whole number whose bits are those that two numbers make. -/
def bitwise (f : Nat → Nat → Nat) (a b : Int) : Int :=
  -- enough bits for both numbers and the sign
  let width := max a.natAbs.log2 b.natAbs.log2 + 2
  let size : Int := 2 ^ width
  let bits (n : Int) : Nat := (n % size).toNat
  let r : Int := f (bits a) (bits b)
  let r := r % size
  if r < size / 2 then r else r - size

/-- Repeat a sequence. -/
def repeated {α : Type} (n : Int) (s : List α) : List α := (List.replicate n.toNat s).flatten

/-- A calculation with real numbers. -/
def realOperation (op : Operator) (x y : Float) : Run (Option Val) := do
  let real (z : Float) : Run (Option Val) := return some (.real z)
  match op with
  | .add => real (x + y)
  | .sub => real (x - y)
  | .mul => real (x * y)
  | .div => do
    if y == 0 then raise "ZeroDivisionError" "float division by zero"
    real (x / y)
  | .floorDiv => do
    if y == 0 then raise "ZeroDivisionError" "float floor division by zero"
    real (x / y).floor
  | .mod => do
    if y == 0 then raise "ZeroDivisionError" "float modulo"
    real (x - y * (x / y).floor)
  | .pow => real (x.pow y)
  | _ => return none

/-- A calculation with whole numbers. -/
def wholeOperation (op : Operator) (m n : Int) : Run Val := do
  match op with
  | .add => return .whole (m + n)
  | .sub => return .whole (m - n)
  | .mul => return .whole (m * n)
  | .div => do
    if n = 0 then raise "ZeroDivisionError" "division by zero"
    return .real (Float.ofInt m / Float.ofInt n)
  | .floorDiv => do
    if n = 0 then raise "ZeroDivisionError" "integer division or modulo by zero"
    return .whole (Int.fdiv m n)
  | .mod => do
    if n = 0 then raise "ZeroDivisionError" "integer modulo by zero"
    return .whole (Int.fmod m n)
  | .pow =>
    if n < 0 then return .real ((Float.ofInt m).pow (Float.ofInt n))
    else return .whole (m ^ (min n.toNat 100000))
  | .shiftLeft => return .whole (m * 2 ^ (min n.toNat 100000))
  | .shiftRight => return .whole (Int.fdiv m (2 ^ n.toNat))
  | .bitAnd => return .whole (bitwise (· &&& ·) m n)
  | .bitOr => return .whole (bitwise (· ||| ·) m n)
  | .bitXor => return .whole (bitwise (· ^^^ ·) m n)

/-- Calculate with two values. -/
def calculate (op : Operator) (sign : String) (a b : Val) : Run Val := do
  let store := (← get).store
  let unsupported : Run Val := raise "TypeError" ("unsupported operand type(s) for " ++ sign ++ ": '" ++
    kindOf store a ++ "' and '" ++ kindOf store b ++ "'")
  let concatenated (name : String) : Run Val := raise "TypeError" ("can only concatenate " ++ name ++
    " (not \"" ++ kindOf store b ++ "\") to " ++ name)
  match a, op, b with
  | .text s, .mod, v => do
    let table? := match v with
      | .ref id => match store[id]? with
        | some (.dict pairs) => some pairs
        | _ => none
      | _ => none
    let args := match v with
      | .tuple vs => vs
      | v => [v]
    return .text (← orRaise (percent store table? (s.length + 1) s args))
  | .text s, .add, .text t => return .text (s ++ t)
  | .text _, .add, _ => concatenated "str"
  | .bytes s, .add, .bytes t => return .bytes (s ++ t)
  | .tuple s, .add, .tuple t => return .tuple (s ++ t)
  | .tuple _, .add, _ => concatenated "tuple"
  | .text s, .mul, v => match whole? v with
    | some n => return .text (repeated n s)
    | none => unfit "can't multiply sequence by non-int of type '" v "'"
  | .bytes s, .mul, .whole n => return .bytes (repeated n s)
  | .tuple s, .mul, .whole n => return .tuple (repeated n s)
  | .whole n, .mul, .text s => return .text (repeated n s)
  | .whole n, .mul, .tuple s => return .tuple (repeated n s)
  | .whole n, .mul, .ref id => match store[id]? with
    | some (.list vs) => newList (repeated n vs.toList)
    | _ => unsupported
  | .ref i, op, b => do
    match store[i]?, op, (← object? b) with
    | some (.list s), .add, some (.list t) => newList (s ++ t).toList
    | some (.list _), .add, _ => concatenated "list"
    | some (.list s), .mul, _ => match whole? b with
      | some n => newList (repeated n s.toList)
      | none => unfit "can't multiply sequence by non-int of type '" b "'"
    | some (.set s), .bitOr, some (.set t) => alloc (.set (t.foldl (withMember store) s))
    | some (.set s), .bitAnd, some (.set t) => alloc (.set (s.filter fun v => t.any (equal store v)))
    | some (.set s), .sub, some (.set t) => alloc (.set (s.filter fun v => !t.any (equal store v)))
    | some (.set s), .bitXor, some (.set t) =>
      alloc (.set (s.filter (fun v => !t.any (equal store v)) ++ t.filter fun v => !s.any (equal store v)))
    | some (.dict s), .bitOr, some (.dict t) =>
      alloc (.dict (t.foldl (fun ps p => insert store ps p.1 p.2) s))
    | some (.record "PosixPath" [(n, .text s)]), .div, _ => do
      let t := textOf (← pathOf b)
      let path := if t.head? = some '/' then t else Host.pathJoin (if s = ['.'] then [] else s) t
      alloc (.record "PosixPath" [(n, .text path)])
    | _, _, _ => unsupported
  | a, op, b => match whole? a, whole? b with
    | some m, some n => wholeOperation op m n
    | _, _ => match real? a, real? b with
      | some x, some y => do
        match ← realOperation op x y with
        | some v => return v
        | none => unsupported
      | _, _ => unsupported

/-! ## Comparisons -/

/-- Whether a value is in another one. -/
def isIn (a b : Val) : Run Bool := do
  let store := (← get).store
  match b with
  | .text t => match a with
    | .text s => return Host.contains s t
    | a => unfit "'in <string>' requires string as left operand, not " a ""
  | .bytes t => match a with
    | .bytes s => return Host.contains s t
    | a => return t.any fun c => equal store a (.whole c.toNat)
  | .ref id => match store[id]? with
    | some (.dict pairs) => return (lookup store pairs a).isSome
    | _ => return (← valuesOf b).any (equal store a)
  | .whole _ => unfit "argument of type '" b "' is not iterable"
  | .nothing => unfit "argument of type '" b "' is not iterable"
  | b => return (← valuesOf b).any (equal store a)

/-- The sign of a relation. -/
def Relation.sign : Relation → String
  | .lt => "<"
  | .le => "<="
  | .gt => ">"
  | .ge => ">="
  | _ => "=="

/-- Compare two values. -/
def holds (r : Relation) (a b : Val) : Run Bool := do
  let store := (← get).store
  match r with
  | .eq => return equal store a b
  | .ne => return !equal store a b
  | .same => return same store a b
  | .notSame => return !same store a b
  | .isIn => isIn a b
  | .notIn => return !(← isIn a b)
  | r =>
    match store.depth |> (order? store · a b) with
    | none => raise "TypeError" ("'" ++ r.sign ++ "' not supported between instances of '" ++ kindOf store a ++
        "' and '" ++ kindOf store b ++ "'")
    | some o => match r with
      | .lt => return o = .lt
      | .le => return o ≠ .gt
      | .gt => return o = .gt
      | _ => return o ≠ .lt

/-- Values in order; equal ones stay as they are. -/
def sorted (vs : List (Val × Val)) : Run (List (Val × Val)) := do
  let store := (← get).store
  let depth := store.depth
  -- all pairs of neighbours must have an order
  match (vs.zip vs.tail).find? fun p => (order? store depth p.2.1 p.1.1).isNone with
  | some (a, b) => raise "TypeError" ("'<' not supported between instances of '" ++ kindOf store b.1 ++ "' and '" ++
      kindOf store a.1 ++ "'")
  | none => return vs.mergeSort fun a b => order? store depth a.1 b.1 != some .gt

/-! ## Items -/

/-- The item of a value. -/
def item (v i : Val) : Run Val := do
  let store := (← get).store
  let at? (name : String) (vs : Array Val) : Run Val := do
    match whole? i with
    | none => raise "TypeError" (name ++ " indices must be integers or slices, not " ++ kindOf store i)
    | some n => match (place? vs.size n).bind fun k => vs[k]? with
      | some v => return v
      | none => raise "IndexError" (name ++ " index out of range")
  match v with
  | .text s => match whole? i with
    | some _ => at? "string" (s.toArray.map fun c => .text [c])
    | none => raise "TypeError" ("string indices must be integers, not '" ++ kindOf store i ++ "'")
  | .bytes s => at? "index" (s.toArray.map fun c => .whole c.toNat)
  | .tuple vs => at? "tuple" vs.toArray
  | .range a b step => at? "range object" (rangeValues a b step).toArray
  | .ref id => match store[id]? with
    | some (.list vs) => at? "list" vs
    | some (.dict pairs) => do
      hashable i
      match lookup store pairs i with
      | some v => return v
      | none => raiseWith "KeyError" [i]
    | some (.record _ fields) => at? "tuple" (fields.map Prod.snd).toArray
    | _ => unfit "'" v "' object is not subscriptable"
  | .kind _ => return v
  | v => unfit "'" v "' object is not subscriptable"

/-- A part of a sequence. -/
def part (v : Val) (a b step : Option Int) : Run Val := do
  if step = some 0 then raise "ValueError" "slice step cannot be zero"
  match v with
  | .text s => return .text (sliced s a b step)
  | .bytes s => return .bytes (sliced s a b step)
  | .tuple vs => return .tuple (sliced vs a b step)
  | .range x y z => newList (sliced (rangeValues x y z) a b step)
  | v => match ← object? v with
    | some (.list vs) => newList (sliced vs.toList a b step)
    | _ => unfit "'" v "' object is not subscriptable"

/-- Give an item another value. -/
def setItem (v i new : Val) : Run Unit := do
  match v with
  | .ref id => do
    match (← get).store[id]? with
    | some (.list vs) =>
      match place? vs.size (← wholeOf i) with
      | some k => setObject id (.list (vs.setIfInBounds k new))
      | none => raise "IndexError" "list assignment index out of range"
    | some (.dict pairs) =>
      hashable i
      setObject id (.dict (insert (← get).store pairs i new))
    | _ => unfit "'" v "' object does not support item assignment"
  | v => unfit "'" v "' object does not support item assignment"

/-- Put other values in the place of a part of a list. -/
def setPart (v : Val) (a b : Option Int) (new : List Val) : Run Unit := do
  match v, ← object? v with
  | .ref id, some (.list vs) =>
    let places := sliceIndices vs.size a b none
    let start (x : Int) : Nat := if x < 0 then (x + (vs.size : Int)).toNat else min x.toNat vs.size
    let first := places.headD ((a.map start).getD 0)
    let vs := vs.toList
    setObject id (.list (vs.take first ++ new ++ vs.drop (first + places.length)).toArray)
  | v, _ => unfit "'" v "' object does not support item assignment"

/-- Take an item out. -/
def removeItem (v i : Val) : Run Unit := do
  match v with
  | .ref id => do
    match (← get).store[id]? with
    | some (.list vs) =>
      match place? vs.size (← wholeOf i) with
      | some k => setObject id (.list (vs.toList.eraseIdx k).toArray)
      | none => raise "IndexError" "list assignment index out of range"
    | some (.dict pairs) =>
      let store := (← get).store
      match lookup store pairs i with
      | some _ => setObject id (.dict (pairs.filter fun p => !equal store p.1 i))
      | none => raiseWith "KeyError" [i]
    | _ => unfit "'" v "' object doesn't support item deletion"
  | v => unfit "'" v "' object doesn't support item deletion"

end StaleBuild.Utility.Snippet
