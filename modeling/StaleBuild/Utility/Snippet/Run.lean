import StaleBuild.Utility.Snippet.Library
import StaleBuild.Utility.Snippet.Reader

/-!
Running a program. A bound on the steps, which no program reaches, makes the running end.
-/

namespace StaleBuild.Utility.Snippet

open Host (Str str)

/-- How a statement ends. -/
inductive Flow where
  | next
  | leave
  | again
  | give (v : Val)

/-- More steps than a program takes. -/
def plenty : Nat := 1000000000000000000

/-- How many functions can wait for others to end. -/
def deepest : Nat := 998

/-- The methods of a value. -/
def methodsOf (v : Val) : Run (List String) := do
  match v with
  | .text _ => return textMethods
  | .bytes _ => return textMethods
  | v => match ← object? v with
    | some (.list _) => return listMethods
    | some (.dict _) => return dictMethods
    | some (.set _) => return setMethods
    | some (.stream _) => return streamMethods
    | some (.record "PosixPath" _) => return pathMethods
    | _ => return []

/-- An attribute of a value. -/
def memberOf (v : Val) (name : String) : Run Val := do
  let m ← get
  let missing : Run Val := raise "AttributeError" ("'" ++ kindOf m.store v ++ "' object has no attribute '" ++ name ++ "'")
  match v with
  | .library lib => match libraryMember? lib name with
    | some v => return v
    | none => raise "AttributeError" ("module '" ++ lib ++ "' has no attribute '" ++ name ++ "'")
  | .kind k =>
    if name = "__name__" || name = "__qualname__" then return .text k.toList
    else if k = "pathlib.Path" && (name = "cwd" || name = "home") then return .builtin "os.getcwd"
    else if k = "str" || k = "dict" || k = "bytes" then return .builtin (k ++ "!" ++ name)
    else raise "AttributeError" ("type object '" ++ k ++ "' has no attribute '" ++ name ++ "'")
  | v =>
    if name = "__class__" then return .kind (kindOf m.store v)
    match ← object? v with
    | some (.exception kind args) => match name, args with
      | "args", _ => return .tuple args
      | "code", _ => return args.headD .nothing
      | "errno", n :: _ => return n
      | "strerror", _ :: s :: _ => return s
      | "filename", _ :: _ :: f :: _ => return f
      | "returncode", n :: _ => if kind = "subprocess.CalledProcessError" then return n else missing
      | "cmd", _ :: c :: _ => return c
      | _, _ => missing
    | some (.function f) => if name = "__name__" then return .text f.name.toList else missing
    | some (.stream s) => match name with
      | "name" => return s.name
      | "mode" => return .text s.mode.toList
      | "closed" => return .truth s.isClosed
      | "buffer" => alloc (.stream { s with mode := s.mode ++ "b" })
      | "encoding" => return .text "utf-8".toList
      | name => if streamMethods.contains name then return .method v name else missing
    | some (.record "PosixPath" [(_, .text t)]) => match pathAttribute? t name with
      | some r => r
      | none => if pathMethods.contains name then return .method v name else missing
    | some (.record _ fields) => match fields.find? fun f => f.1 = name with
      | some (_, x) => return x
      | none => missing
    | _ => if (← methodsOf v).contains name then return .method v name else missing

/-- A name that no program gave a value. -/
def known? (m : Machine) (name : String) : Option Val :=
  if builtins.contains name then some (.builtin name)
  else if classes.contains name then some (.kind name)
  else match name with
    | "__name__" => some (.text "__main__".toList)
    | "__file__" => some (.text (textOf m.call.name))
    | "IOError" => some (.kind "OSError")
    | "EnvironmentError" => some (.kind "OSError")
    | "BaseException" => some (.kind name)
    | _ => if m.kinds.any fun k => k.1 = name then some (.kind name) else none

/-- Whether a function has all it needs, and the values of its parameters. -/
def parametersFor (f : Closure) (g : Given) : Run (List (String × Val)) := do
  let rec place : List (String × Option Val × Nat) → List Val → List (String × Val) → Bool → Run (List (String × Val))
    | [], args, _, _ => do
      if !args.isEmpty then
        let most := (f.parameters.filter fun p => p.2.2 = 0).length
        let given := g.args.length
        raise "TypeError" (f.name ++ "() takes " ++ toString most ++ " positional argument" ++
          (if most = 1 then "" else "s") ++ " but " ++ toString given ++ (if given = 1 then " was" else " were") ++ " given")
      return []
    | (name, usual, stars) :: rest, args, named, onlyNamed => do
      if stars = 2 then
        let t ← alloc (.dict (named.map fun n => (Val.text n.1.toList, n.2)))
        return (name, t) :: (← place rest args [] true)
      else if stars = 1 then
        if name.isEmpty then place rest args named true
        else return (name, .tuple args) :: (← place rest [] named true)
      else match args, onlyNamed, named.find? fun n => n.1 = name with
        | a :: more, false, _ => return (name, a) :: (← place rest more named false)
        | _, _, some (_, v) => do
          return (name, v) :: (← place rest args (named.filter fun n => n.1 ≠ name) onlyNamed)
        | _, _, none => match usual with
          | some v => return (name, v) :: (← place rest args named onlyNamed)
          | none => return ("", .text name.toList) :: (← place rest args named onlyNamed)
  match g.named.find? fun n => !(f.parameters.any fun p => p.1 = n.1 || p.2.2 = 2) with
  | some (n, _) => raise "TypeError" (f.name ++ "() got an unexpected keyword argument '" ++ n ++ "'")
  | none => pure ()
  let given ← place f.parameters g.args g.named false
  let isBehindStar (name : Text) : Bool :=
    ((f.parameters.takeWhile fun p => p.1.toList ≠ name).any fun p => p.2.2 = 1)
  let absent := given.filterMap fun p => match p with
    | ("", .text n) => some n
    | _ => none
  let (only, plain) := absent.partition isBehindStar
  let missing := (if plain.isEmpty then only else plain).map fun n => '\'' :: n ++ ['\'']
  if !missing.isEmpty then
    let words := match missing.reverse with
      | [a] => a
      | [b, a] => a ++ " and ".toList ++ b
      | b :: more => Host.joinWith [',', ' '] more.reverse ++ ", and ".toList ++ b
      | [] => []
    raise "TypeError" (f.name ++ "() missing " ++ toString missing.length ++ (if plain.isEmpty then " required keyword-only argument" else " required positional argument") ++
      (if missing.length = 1 then "" else "s") ++ ": " ++ String.ofList words)
  return given

/-- The fields of a text with braces, each with its name and its form. -/
def bracedFields : Nat → Text → Run (List (Text × Option (Text × Option Char × Text)))
  | 0, _ => return []
  | fuel + 1, s => do
    let (front, rest) := Read.literalEnd false s
    match rest with
    | [] => return [(front, none)]
    | c :: more =>
      if c ≠ Char.ofNat 0x7b then raise "ValueError" "Single '\x7d' encountered in format string"
      let inner := more.takeWhile (· ≠ Char.ofNat 0x7d)
      if inner.length = more.length then raise "ValueError" "expected '\x7d' before end of string"
      let (name, form) := Host.cut ':' inner
      let (name, conversion) := match Host.cut '!' name with
        | (n, some [k]) => (n, some k)
        | _ => (name, none)
      return (front, some (name, conversion, form.getD [])) :: (← bracedFields fuel (more.drop (inner.length + 1)))

/-- A value in a field. -/
def inField (conversion : Option Char) (form : Text) (v : Val) : Run Text := do
  let store := (← get).store
  let v ← match conversion, v with
    | some 'r', v => pure (Val.text (repr store v))
    | some 's', v => construct "str" ⟨[v], []⟩
    | some _, v => pure (Val.text (repr store v))
    | none, v => match ← object? v with
      | some (.record "PosixPath" [(_, t)]) => pure t
      | _ => pure v
  orRaise (formatted store form v)

/-- A text whose fields with braces are filled with values. -/
def braced (s : Text) (g : Given) : Run Val := do
  let mut out : Text := []
  let mut next := 0
  for (front, field) in ← bracedFields (s.length + 1) s do
    out := out ++ front
    match field with
    | none => pure ()
    | some (name, conversion, form) =>
      let (base, rest) := (name.takeWhile (fun c => c ≠ '.' && c ≠ '['), name.dropWhile fun c => c ≠ '.' && c ≠ '[')
      let v ← if base.isEmpty then do
          match g.args[next]? with
          | some v => pure v
          | none => raise "IndexError" ("Replacement index " ++ toString next ++ " out of range for positional args tuple")
        else match Host.natural? base with
          | some n => match g.args[n]? with
            | some v => pure v
            | none => raise "IndexError" ("Replacement index " ++ toString n ++ " out of range for positional args tuple")
          | none => match g.named.find? fun n => n.1.toList = base with
            | some (_, v) => pure v
            | none => raiseWith "KeyError" [.text base]
      if base.isEmpty then next := next + 1
      let v ← match rest with
        | '.' :: n => memberOf v (String.ofList n)
        | '[' :: n => do
          let key := n.takeWhile (· ≠ ']')
          item v (match Host.natural? key with
            | some k => .whole k
            | none => .text key)
        | _ => pure v
      out := out ++ (← inField conversion form v)
  return .text out

/-- Values for the targets of an assignment, where one target can take what the others leave. -/
def unpacked (targets : List Expr) (v : Val) : Run (List Val) := do
  let vs ← match v with
    | .whole _ => unfit "cannot unpack non-iterable " v " object"
    | .nothing => raise "TypeError" "cannot unpack non-iterable NoneType object"
    | v => valuesOf v
  let isStar : Expr → Bool := fun e => match e with
    | .spread _ => true
    | _ => false
  let count := targets.length
  match targets.findIdx? isStar with
  | none => do
    if vs.length < count then
      raise "ValueError" ("not enough values to unpack (expected " ++ toString count ++ ", got " ++ toString vs.length ++ ")")
    if count < vs.length then raise "ValueError" ("too many values to unpack (expected " ++ toString count ++ ")")
    return vs
  | some i => do
    if vs.length + 1 < count then
      raise "ValueError" ("not enough values to unpack (expected at least " ++ toString (count - 1) ++ ", got " ++
        toString vs.length ++ ")")
    let taken := vs.length + 1 - count
    let middle ← newList ((vs.drop i).take taken)
    return vs.take i ++ middle :: vs.drop (i + taken)

/-- Do something with other scopes to look names up in. -/
def insideOf {α : Type} (scopes : List Nat) (body : Run α) : Run α := do
  let before := (← get).inside
  modify fun m => { m with inside := scopes }
  try
    let a ← body
    modify fun m => { m with inside := before }
    return a
  catch e =>
    modify fun m => { m with inside := before }
    throw e

/-- Whether an exception is one that a handler takes. -/
def handles (kind v : Val) : Run Bool := do
  match kind with
  | .tuple _ => isInstance v kind
  | .kind _ => isInstance v kind
  | _ => raise "TypeError" "catching classes that do not inherit from BaseException is not allowed"

/-- Make names known that an import asks for. -/
def load (i : Import) : Run Unit := do
  let path := ".".intercalate i.path
  let base := i.path.headD ""
  if !(libraries.contains path) then
    if libraries.contains base && 1 < i.path.length then
      raise "ModuleNotFoundError" ("No module named '" ++ path ++ "'; '" ++ base ++ "' is not a package")
    raise "ModuleNotFoundError" ("No module named '" ++ (if libraries.contains base then path else base) ++ "'")
  match i.alias? with
  | some n => assignName n (.library path)
  | none => assignName base (.library base)

/-- Make names of a library known. -/
def loadFrom (path : List String) (names : List (String × Option String)) : Run Unit := do
  let lib := ".".intercalate path
  if !(libraries.contains lib) then raise "ModuleNotFoundError" ("No module named '" ++ path.headD "" ++ "'")
  for (n, other) in names do
    if lib = "__future__" || lib = "typing" then assignName (other.getD n) .nothing
    else if n = "*" then
      for f in (functions.find? fun f => f.1 = lib).map Prod.snd |>.getD [] do
        assignName f (.builtin (lib ++ "." ++ f))
    else match libraryMember? lib n with
      | some v => assignName (other.getD n) v
      | none =>
        if lib = "os" && n = "path" then assignName (other.getD n) (.library "os.path")
        else raise "ImportError" ("cannot import name '" ++ n ++ "' from '" ++ lib ++ "' (/usr/lib/python3.11/" ++ lib ++ ".py)")

mutual

/-- The value of an expression. -/
def eval : Nat → Expr → Run Val
  | 0, _ => raise "RecursionError" "maximum recursion depth exceeded"
  | fuel + 1, e => do
    match e with
    | .nothing => return .nothing
    | .truth b => return .truth b
    | .whole n => return .whole n
    | .real x => return .real x
    | .text s => return .text s
    | .bytes s => return .bytes s
    | .ellipsis => return .ellipsis
    | .joined ps => return .text (← filledParts fuel ps)
    | .name n => match ← valueOf? n with
      | some v => return v
      | none => match known? (← get) n with
        | some v => return v
        | none => raise "NameError" ("name '" ++ n ++ "' is not defined")
    | .attribute e n => memberOf (← eval fuel e) n
    | .item e i => do
      let v ← eval fuel e
      match i with
      | .slice a b step => part v (← bound fuel a) (← bound fuel b) (← bound fuel step)
      | i => do
        let i ← eval fuel i
        match v with
        | .ref id =>
          if id = environmentId then
            try item v i catch r => throw { r with trace := (679, "__getitem__") :: r.trace }
          else item v i
        | v => item v i
    | .slice .. => return .nothing
    | .call f args => do
      let line := (← get).line
      let f ← eval fuel f
      let g ← given fuel args
      let v ← call fuel f g
      modify fun m => { m with line }
      return v
    | .tuple es => return .tuple (← evalAll fuel es)
    | .list es => newList (← evalAll fuel es)
    | .set es => construct "set" ⟨[.tuple (← evalAll fuel es)], []⟩
    | .dict ps => alloc (.dict (← tableOf fuel ps []))
    | .negate e => match ← eval fuel e with
      | .real x => return .real (-x)
      | v => match whole? v with
        | some n => return .whole (-n)
        | none => unfit "bad operand type for unary -: '" v "'"
    | .plus e => match ← eval fuel e with
      | .real x => return .real x
      | v => match whole? v with
        | some n => return .whole n
        | none => unfit "bad operand type for unary +: '" v "'"
    | .invert e => match ← eval fuel e with
      | v => match whole? v with
        | some n => return .whole (-n - 1)
        | none => unfit "bad operand type for unary ~: '" v "'"
    | .not e => return .truth (!(← truth (← eval fuel e)))
    | .binary op a b => do
      let x ← eval fuel a
      let y ← eval fuel b
      calculate op op.sign x y
    | .compare a rest => compare fuel (← eval fuel a) rest
    | .both a b => do
      let v ← eval fuel a
      if ← truth v then eval fuel b else return v
    | .either a b => do
      let v ← eval fuel a
      if ← truth v then return v else eval fuel b
    | .choice c a b => do
      if ← truth (← eval fuel c) then eval fuel a else eval fuel b
    | .lambda ps body => do
      let ps ← usualValues fuel ps
      alloc (.function ⟨"<lambda>", ps, [.mk (← get).line (.give (some body))], (← get).inside⟩)
    | .each shape key value clauses => do
      let scope ← newScope []
      let kept ← newList []
      let keep (v : Val) : Run Unit := do
        match kept, ← object? kept with
        | .ref id, some (.list vs) => setObject id (.list (vs.push v))
        | _, _ => pure ()
      insideOf (scope :: (← get).inside) (loops fuel clauses (do
        match key with
        | some k => do
          let k ← eval fuel k
          keep (.tuple [k, ← eval fuel value])
        | none => keep (← eval fuel value)))
      let vs ← valuesOf kept
      match shape with
      | .list => newList vs
      | .set => construct "set" ⟨[.tuple vs], []⟩
      | .dict => construct "dict" ⟨[.tuple vs], []⟩
      | .generator => alloc (.iterator vs)
    | .spread _ => raise "SyntaxError" "can't use starred expression here"
    | .binding n e => do
      let v ← eval fuel e
      assignName n v
      return v

/-- The values of expressions, where some give several. -/
def evalAll : Nat → List Expr → Run (List Val)
  | 0, _ => return []
  | _, [] => return []
  | fuel + 1, .spread e :: rest => do
    let vs ← valuesOf (← eval fuel e)
    return vs ++ (← evalAll fuel rest)
  | fuel + 1, e :: rest => do
    let v ← eval fuel e
    return v :: (← evalAll fuel rest)

/-- The pairs of a table. -/
def tableOf : Nat → List (Option Expr × Expr) → List (Val × Val) → Run (List (Val × Val))
  | 0, _, out => return out
  | _, [], out => return out
  | fuel + 1, (key, e) :: rest, out => do
    match key with
    | some k => do
      let k ← eval fuel k
      hashable k
      let v ← eval fuel e
      tableOf fuel rest (insert (← get).store out k v)
    | none => do
      let ps ← pairsOf (← eval fuel e)
      let store := (← get).store
      tableOf fuel rest (ps.foldl (fun out p => insert store out p.1 p.2) out)

/-- The bound of a part of a sequence. -/
def bound : Nat → Option Expr → Run (Option Int)
  | 0, _ => return none
  | _, none => return none
  | fuel + 1, some e => do
    match ← eval fuel e with
    | .nothing => return none
    | v => match whole? v with
      | some n => return some n
      | none => raise "TypeError" "slice indices must be integers or None or have an __index__ method"

/-- Comparisons in a row, up to the first one that does not hold. -/
def compare : Nat → Val → List (Relation × Expr) → Run Val
  | 0, _, _ => return .truth false
  | _, _, [] => return .truth true
  | fuel + 1, a, (r, e) :: rest => do
    let b ← eval fuel e
    if ← holds r a b then compare fuel b rest else return .truth false

/-- The text of parts with values in them. -/
def filledParts : Nat → List Part → Run Text
  | 0, _ => return []
  | _, [] => return []
  | fuel + 1, .literal s :: rest => return s ++ (← filledParts fuel rest)
  | fuel + 1, .value e conversion form :: rest => do
    let v ← eval fuel e
    let form ← filledParts fuel form
    let t ← inField conversion form v
    return t ++ (← filledParts fuel rest)

/-- The arguments of a call. -/
def given : Nat → List Argument → Run Given
  | 0, _ => return ⟨[], []⟩
  | _, [] => return ⟨[], []⟩
  | fuel + 1, .mk keyword stars e :: rest => do
    let v ← eval fuel e
    let more : Given ← if stars = 1 then do
        pure ⟨← valuesOf v, []⟩
      else if stars = 2 then do
        pure ⟨[], (← pairsOf v).filterMap fun p => match p.1 with
          | .text s => some (String.ofList s, p.2)
          | _ => none⟩
      else match keyword with
        | some k => pure ⟨[], [(k, v)]⟩
        | none => pure ⟨[v], []⟩
    let others ← given fuel rest
    return ⟨more.args ++ others.args, more.named ++ others.named⟩

/-- The parameters of a function with the values they have if none is given. -/
def usualValues : Nat → List Parameter → Run (List (String × Option Val × Nat))
  | 0, _ => return []
  | _, [] => return []
  | fuel + 1, .mk name usual stars :: rest => do
    let v ← match usual with
      | some e => do pure (some (← eval fuel e))
      | none => pure none
    return (name, v, stars) :: (← usualValues fuel rest)

/-- Go through the loops of a loop in an expression. -/
def loops : Nat → List Clause → Run Unit → Run Unit
  | 0, _, _ => return ()
  | _, [], body => body
  | fuel + 1, .guard e :: rest, body => do
    if ← truth (← eval fuel e) then loops fuel rest body
  | fuel + 1, .source target e :: rest, body => do
    for v in ← valuesOf (← eval fuel e) do
      assign fuel target v
      loops fuel rest body

/-- Call a value. -/
def call : Nat → Val → Given → Run Val
  | 0, _, _ => raise "RecursionError" "maximum recursion depth exceeded"
  | fuel + 1, f, g => do
    match f with
    | .kind k => construct k g
    | .method v name => do
      match v with
      | .text s => if name = "format" then braced s g else textMethod .text s name g
      | .bytes s => textMethod .bytes s name g
      | .ref id => do
        match (← get).store[id]? with
        | some (.list vs) =>
          if name = "sort" then
            setObject id (.list (← arranged fuel vs.toList g).toArray)
            return .nothing
          else listMethod id vs name g
        | some (.dict pairs) => dictMethod id pairs name g
        | some (.set vs) => setMethod id vs name g
        | some (.stream s) => streamMethod id s name g
        | some (.record _ [(_, .text t)]) => pathMethod v t name g
        | _ => return .nothing
      | _ => return .nothing
    | .builtin name => builtinCall fuel name g
    | .ref id => do
      match (← get).store[id]? with
      | some (.function c) => do
        let m ← get
        if deepest < m.depth then raise "RecursionError" "maximum recursion depth exceeded"
        let bindings ← parametersFor c g
        let scope ← newScope bindings
        modify fun m => { m with depth := m.depth + 1 }
        let line := m.line
        try
          let flow ← insideOf (scope :: c.scopes) (block fuel c.body)
          modify fun m => { m with depth := m.depth - 1, line }
          match flow with
          | .give v => return v
          | _ => return .nothing
        catch r =>
          let inner := (← get).line
          modify fun m => { m with depth := m.depth - 1, line }
          throw { r with trace := (inner, c.name) :: r.trace }
      | _ => unfit "'" f "' object is not callable"
    | f => unfit "'" f "' object is not callable"

/-- Values in order. -/
def arranged : Nat → List Val → Given → Run (List Val)
  | 0, vs, _ => return vs
  | fuel + 1, vs, g => do
    let key := (g.named.find? fun n => n.1 = "key").map Prod.snd
    let keyed ← withKeys fuel key vs
    let down ← match g.named.find? fun n => n.1 = "reverse" with
      | some (_, v) => truth v
      | none => pure false
    if down then return ((← sorted keyed.reverse).reverse).map Prod.snd
    return (← sorted keyed).map Prod.snd

/-- Values with what they are compared by. -/
def withKeys : Nat → Option Val → List Val → Run (List (Val × Val))
  | 0, _, _ => return []
  | _, _, [] => return []
  | fuel + 1, key, v :: rest => do
    let k ← match key with
      | none => pure v
      | some .nothing => pure v
      | some f => call fuel f ⟨[v], []⟩
    return (k, v) :: (← withKeys fuel key rest)

/-- Call a function that needs no definition. -/
def builtinCall : Nat → String → Given → Run Val
  | 0, _, _ => return .nothing
  | fuel + 1, name, g => do
    match name, g.args with
    | "sorted", v :: _ => newList (← arranged fuel (← valuesOf v) g)
    | "map", f :: rest => do
      let all ← rest.mapM valuesOf
      let count := (all.map List.length).foldl min ((all.map List.length).headD 0)
      let mut out : List Val := []
      for i in List.range count do
        let v ← call fuel f ⟨all.filterMap fun vs => vs[i]?, []⟩
        out := v :: out
      alloc (.iterator out.reverse)
    | "filter", [f, v] => do
      let mut out : List Val := []
      for x in ← valuesOf v do
        let keeps ← match f with
          | .nothing => truth x
          | f => truth (← call fuel f ⟨[x], []⟩)
        if keeps then out := x :: out
      alloc (.iterator out.reverse)
    | "min", args => extremeOf fuel .lt name args g
    | "max", args => extremeOf fuel .gt name args g
    | "getattr", v :: .text n :: rest => do
      match rest with
      | [] => memberOf v (String.ofList n)
      | d :: _ => try memberOf v (String.ofList n) catch _ => return d
    | "hasattr", [v, .text n] => do
      try
        let _ ← memberOf v (String.ofList n)
        return .truth true
      catch _ => return .truth false
    | name, args =>
      match Host.cut '!' name.toList with
      | (_, some m) => match args with
        | v :: rest => call fuel (.method v (String.ofList m)) { g with args := rest }
        | [] => raise "TypeError" "unbound method needs an argument"
      | (_, none) =>
        match name.splitOn "." with
        | [n] => builtin n g
        | ["os", "path", n] => libraryFunction "os.path" n g
        | [lib, n] => libraryFunction lib n g
        | _ => builtin name g

/-- The greatest or the least of values. -/
def extremeOf : Nat → Ordering → String → List Val → Given → Run Val
  | 0, _, _, _, _ => return .nothing
  | fuel + 1, wanted, name, args, g => do
    let vs ← match args with
      | [v] => valuesOf v
      | [] => raise "TypeError" (name ++ " expected at least 1 argument, got 0")
      | vs => pure vs
    let key := (g.named.find? fun n => n.1 = "key").map Prod.snd
    match ← extreme wanted (← withKeys fuel key vs), g.named.find? fun n => n.1 = "default" with
    | some v, _ => return v
    | none, some (_, d) => return d
    | none, none => raise "ValueError" (name ++ "() arg is an empty sequence")

/-- Give the target of an assignment its value. -/
def assign : Nat → Expr → Val → Run Unit
  | 0, _, _ => return ()
  | fuel + 1, target, v => do
    match target with
    | .name n => assignName n v
    | .item e (.slice a b _) => do
      let l ← eval fuel e
      setPart l (← bound fuel a) (← bound fuel b) (← valuesOf v)
    | .item e i => do
      let l ← eval fuel e
      setItem l (← eval fuel i) v
    | .attribute e n => do
      match ← eval fuel e with
      | .library "sys" =>
        -- a stream takes the place of another one
        match n, ← object? v with
        | "stdout", some o => setObject outputId o
        | "stderr", some o => setObject errorsId o
        | "stdin", some o => setObject inputId o
        | _, _ => pure ()
      | .ref id => match (← get).store[id]? with
        | some (.record k fields) =>
          setObject id (.record k (fields.filter (fun f => f.1 ≠ n) ++ [(n, v)]))
        | _ => unfit "'" (.ref id) ("' object has no attribute '" ++ n ++ "'")
      | _ => pure ()
    | .tuple ts => assignAll fuel ts (← unpacked ts v)
    | .list ts => assignAll fuel ts (← unpacked ts v)
    | .spread t => assign fuel t v
    | _ => raise "SyntaxError" "cannot assign to expression"

def assignAll : Nat → List Expr → List Val → Run Unit
  | 0, _, _ => return ()
  | fuel + 1, t :: ts, v :: vs => do
    assign fuel t v
    assignAll fuel ts vs
  | _, _, _ => return ()

/-- Run statements one after another. -/
def block : Nat → List Statement → Run Flow
  | 0, _ => return .next
  | _, [] => return .next
  | fuel + 1, s :: rest => do
    match ← statement fuel s with
    | .next => block fuel rest
    | flow => return flow

/-- Run a statement. -/
def statement : Nat → Statement → Run Flow
  | 0, _ => return .next
  | fuel + 1, .mk line kind => do
    modify fun m => { m with line }
    match kind with
    | .expr e => do
      let _ ← eval fuel e
      return .next
    | .assign targets e => do
      let v ← eval fuel e
      for t in targets do
        assign fuel t v
      return .next
    | .augment target op e => do
      let a ← eval fuel target
      let b ← eval fuel e
      match op, a, ← object? a with
      | .add, .ref id, some (.list vs) => setObject id (.list (vs ++ (← valuesOf b).toArray))
      | _, _, _ => assign fuel target (← calculate op (op.sign.takeWhile (· ≠ ' ') |>.toString |> (· ++ "=")) a b)
      return .next
    | .delete targets => do
      deleteAll fuel targets
      return .next
    | .pass => return .next
    | .leave => return .leave
    | .again => return .again
    | .give none => return .give .nothing
    | .give (some e) => return .give (← eval fuel e)
    | .raise none _ => do
      match (← get).handled with
      | (line, r) :: _ => do
        modify fun m => { m with line }
        throw r
      | [] => raise "RuntimeError" "No active exception to reraise"
    | .raise (some e) cause => do
      let v ← match ← eval fuel e with
        | .kind k => do
          if !isBelow (← get).kinds 20 k "BaseException" then
            raise "TypeError" "exceptions must derive from BaseException"
          alloc (.exception k [])
        | v => pure v
      match v, ← object? v with
      | .ref id, some (.exception _ _) => do
        match cause with
        | none => noteHandled v
        | some c => do
          let c ← eval fuel c
          match ← object? c, (← get).handled with
          | some (.exception _ _), (line, r) :: _ =>
            modify fun m => { m with before := (id, line, r, true) :: m.before }
          | some (.exception _ _), [] => modify fun m => { m with before := (id, 0, ⟨c, []⟩, true) :: m.before }
          | _, _ => pure ()
        throw ⟨v, []⟩
      | _, _ => raise "TypeError" "exceptions must derive from BaseException"
    | .load imports => do
      for i in imports do
        load i
      return .next
    | .loadFrom path names => do
      loadFrom path names
      return .next
    | .choose c yes no => do
      if ← truth (← eval fuel c) then block fuel yes else block fuel no
    | .loop c body last => whileTrue fuel c body last
    | .each target e body last => forEach fuel target (← valuesOf (← eval fuel e)) body last
    | .function name ps body => do
      let ps ← usualValues fuel ps
      let f ← alloc (.function ⟨name, ps, body, (← get).inside⟩)
      assignName name f
      return .next
    | .derive name bases _ => do
      let above ← evalAll fuel bases
      let base := match above with
        | .kind k :: _ => k
        | _ => "object"
      modify fun m => { m with kinds := (name, base) :: m.kinds }
      assignName name (.kind name)
      return .next
    | .using items body => closing fuel items body
    | .attempt body handlers good finish => do
      let r ← try
          let flow ← block fuel body
          match flow with
          | .next => pure (Except.ok (← block fuel good))
          | flow => pure (Except.ok flow)
        catch r => handled fuel r handlers
      let flow ← block fuel finish
      match flow, r with
      | .next, .ok flow => return flow
      | .next, .error r => throw r
      | flow, _ => return flow
    | .shared names => do
      modify fun m => { m with
        scopes := m.scopes.modify (m.inside.headD 0) fun s => { s with outer := names ++ s.outer } }
      return .next
    | .check e message => do
      if !(← truth (← eval fuel e)) then
        match message with
        | some w => raiseWith "AssertionError" [← eval fuel w]
        | none => raiseWith "AssertionError" []
      return .next

/-- Take names and items out. -/
def deleteAll : Nat → List Expr → Run Unit
  | 0, _ => return ()
  | _, [] => return ()
  | fuel + 1, t :: rest => do
    match t with
    | .name n => do
      if (← valueOf? n).isNone then raise "NameError" ("name '" ++ n ++ "' is not defined")
      modify fun m => { m with
        scopes := m.scopes.modify (m.inside.headD 0) fun s => { s with bindings := s.bindings.erase n } }
    | .item e i => do
      let l ← eval fuel e
      removeItem l (← eval fuel i)
    | .tuple ts => deleteAll fuel ts
    | _ => pure ()
    deleteAll fuel rest

/-- Run statements as long as a condition holds. -/
def whileTrue : Nat → Expr → List Statement → List Statement → Run Flow
  | 0, _, _, _ => return .next
  | fuel + 1, c, body, last => do
    if ← truth (← eval fuel c) then
      match ← block fuel body with
      | .leave => return .next
      | .give v => return .give v
      | _ => whileTrue fuel c body last
    else block fuel last

/-- Run statements for each of several values. -/
def forEach : Nat → Expr → List Val → List Statement → List Statement → Run Flow
  | 0, _, _, _, _ => return .next
  | fuel + 1, _, [], _, last => block fuel last
  | fuel + 1, target, v :: rest, body, last => do
    assign fuel target v
    match ← block fuel body with
    | .leave => return .next
    | .give v => return .give v
    | _ => forEach fuel target rest body last

/-- Run statements with files that are closed at the end. -/
def closing : Nat → List (Expr × Option Expr) → List Statement → Run Flow
  | 0, _, _ => return .next
  | fuel + 1, [], body => block fuel body
  | fuel + 1, (e, target) :: rest, body => do
    let v ← eval fuel e
    match v, ← object? v with
    | .ref id, some (.stream s) => do
      match target with
      | some t => assign fuel t v
      | none => pure ()
      try
        let flow ← closing fuel rest body
        setObject id (.stream { s with isClosed := true })
        return flow
      catch r =>
        setObject id (.stream { s with isClosed := true })
        throw r
    | v, _ => unfit "'" v "' object does not support the context manager protocol"

/-- Let the first handler that takes an exception take it. -/
def handled : Nat → Raised → List Handler → Run (Except Raised Flow)
  | 0, r, _ => return .error r
  | _, r, [] => return .error r
  | fuel + 1, r, .mk kind name body :: rest => do
    let line := (← get).line
    let takes ← match kind with
      | none => pure true
      | some e => do handles (← eval fuel e) r.value
    if !takes then handled fuel r rest
    else
      match name with
      | some n => assignName n r.value
      | none => pure ()
      modify fun m => { m with handled := (line, r) :: m.handled }
      try
        let flow ← block fuel body
        modify fun m => { m with handled := m.handled.tail }
        return .ok flow
      catch r =>
        modify fun m => { m with handled := m.handled.tail }
        return .error r

end

end StaleBuild.Utility.Snippet
