import StaleBuild.Utility.Snippet.Operation

/-!
What can be asked of texts, lists, tables, sets and files by the names of their methods.
-/

namespace StaleBuild.Utility.Snippet

open Host (Str str)

/-- The arguments of a call. -/
structure Given where
  args : List Val
  named : List (String × Val)

/-- An argument by its place or its keyword. -/
def Given.at? (g : Given) (i : Nat) (keyword : String) : Option Val :=
  g.args[i]? <|> (g.named.find? fun n => n.1 = keyword).map Prod.snd

/-- An argument that is not `None`. -/
def Given.some? (g : Given) (i : Nat) (keyword : String) : Option Val :=
  match g.at? i keyword with
  | some .nothing => none
  | v => v

/-! ## Texts -/

/-- The place of a text in another one, from a place on. -/
def findFrom (part : Text) : Nat → Text → Option Nat
  | i, [] => if part.isEmpty then some i else none
  | i, c :: rest => if part.isPrefixOf (c :: rest) then some i else findFrom part (i + 1) rest

/-- The last place of a text in another one. -/
def findLast (part s : Text) : Option Nat :=
  (List.range (s.length + 1)).reverse.find? fun i => part.isPrefixOf (s.drop i)

/-- The parts of a text between others. -/
def partsBetween (mark : Text) : Nat → Nat → Text → List Text
  | 0, _, s => [s]
  | _, 0, s => [s]
  | fuel + 1, most + 1, s =>
    match findFrom mark 0 s with
    | some i => s.take i :: partsBetween mark fuel most (s.drop (i + mark.length))
    | none => [s]

/-- The words of a text, at most so many before the rest. -/
def wordsWithin : Nat → Nat → Text → List Text
  | 0, _, _ => []
  | fuel + 1, most, s =>
    let s := s.dropWhile Host.isSpace
    if s.isEmpty then []
    else if most = 0 then [Host.dropEnd Host.isSpace s]
    else
      let w := s.takeWhile fun c => !Host.isSpace c
      w :: wordsWithin fuel (most - 1) (s.drop w.length)

/-- A text with a part replaced, at most so many times. -/
def replaced (old new : Text) (most : Nat) (s : Text) : Text :=
  if old.isEmpty then
    let shown := (s.zipIdx.flatMap fun (c, i) => if i < most then new ++ [c] else [c])
    if s.length < most then shown ++ new else shown
  else Host.joinWith new (partsBetween old (s.length + 1) most s)

/-- How often a text is in another one. -/
def occurrences (part s : Text) : Nat :=
  if part.isEmpty then s.length + 1 else (partsBetween part (s.length + 1) (s.length + 1) s).length - 1

/-- The lines of a text, with or without their ends. -/
def linesWith (keeps : Bool) (s : Text) : List Text :=
  (Host.splitLines s).map fun l => if keeps then l else
    let l := Host.chomp l
    if l.getLast? = some '\r' then l.dropLast else l

/-- A text with the first letter of each word in upper case. -/
def titled : Bool → Text → Text
  | _, [] => []
  | inWord, c :: rest =>
    (if inWord then c.toLower else c.toUpper) :: titled c.isAlpha rest

/-- A word with a sign of its own in front, filled up with zeros. -/
def zeroFilled (width : Nat) (s : Text) : Text :=
  let missing := List.replicate (width - s.length) '0'
  match s with
  | '-' :: rest => '-' :: missing ++ rest
  | '+' :: rest => '+' :: missing ++ rest
  | s => missing ++ s

/-- A text filled up to a width. -/
def filled (left right : Nat → Nat) (width : Nat) (fill : Char) (s : Text) : Text :=
  let missing := width - s.length
  List.replicate (left missing) fill ++ s ++ List.replicate (right missing) fill

/-- The names of the methods of texts. -/
def textMethods : List String :=
  ["join", "split", "rsplit", "strip", "lstrip", "rstrip", "replace", "startswith", "endswith", "upper", "lower",
    "title", "capitalize", "swapcase", "find", "rfind", "index", "count", "splitlines", "isdigit", "isalpha",
    "isalnum", "isspace", "isupper", "islower", "isnumeric", "isidentifier", "zfill", "ljust", "rjust", "center",
    "encode", "partition", "rpartition", "removeprefix", "removesuffix", "format", "decode", "hex", "casefold",
    "expandtabs"]

/-- A method of a text; `wrap` makes a value of a text, since bytes have the same methods. -/
def textMethod (wrap : Text → Val) (s : Text) (name : String) (g : Given) : Run Val := do
  let plain (v : Val) : Run Text := do
    match v with
    | .text t => return t
    | .bytes t => return t
    | v => unfit "must be str, not " v ""
  let first : Run Text := do
    match g.args with
    | v :: _ => plain v
    | [] => raise "TypeError" (name ++ "() takes at least 1 argument (0 given)")
  let count (i : Nat) (keyword : String) : Run Nat := do
    match g.at? i keyword with
    | some v => do
      let n ← wholeOf v
      return if n < 0 then s.length + 1 else n.toNat
    | none => return s.length + 1
  let blank : Run (Char → Bool) := do
    match g.some? 0 "chars" with
    | some v => do
      let t ← plain v
      return t.contains
    | none => return Host.isSpace
  let fill : Run Char := do
    match g.at? 1 "fillchar" with
    | some v => return (← plain v).headD ' '
    | none => return ' '
  let width : Run Nat := do
    match g.args with
    | v :: _ => return (← wholeOf v).toNat
    | [] => return 0
  let affixes : Run (List Text) := do
    match g.args with
    | .tuple vs :: _ => vs.mapM plain
    | v :: _ => do
      match v with
      | .text t => return [t]
      | .bytes t => return [t]
      | v => unfit (name ++ " first arg must be str or a tuple of str, not ") v ""
    | [] => raise "TypeError" (name ++ "() takes at least 1 argument (0 given)")
  let truthOf (b : Bool) : Run Val := return .truth b
  let text (t : Text) : Run Val := return wrap t
  let index (o : Option Nat) : Run Val := return .whole (match o with
    | some n => n
    | none => -1)
  let cased := s.any Char.isAlpha
  match name with
  | "join" => do
    match g.args with
    | [v] =>
      let vs ← valuesOf v
      match vs.zipIdx.find? fun (x, _) => (bytesOf? x).isNone with
      | some (x, i) => unfit ("sequence item " ++ toString i ++ ": expected str instance, ") x " found"
      | none => text (Host.joinWith s (← vs.mapM plain))
    | _ => raise "TypeError" ("str.join() takes exactly one argument (" ++ toString g.args.length ++ " given)")
  | "split" =>
    let most ← count 1 "maxsplit"
    match g.some? 0 "sep" with
    | none => newList ((wordsWithin (s.length + 1) most s).map wrap)
    | some v => do
      let mark ← plain v
      if mark.isEmpty then raise "ValueError" "empty separator"
      newList ((partsBetween mark (s.length + 1) most s).map wrap)
  | "rsplit" =>
    let most ← count 1 "maxsplit"
    match g.some? 0 "sep" with
    | none => newList (((wordsWithin (s.length + 1) most s.reverse).map List.reverse).reverse.map wrap)
    | some v => do
      let mark ← plain v
      if mark.isEmpty then raise "ValueError" "empty separator"
      newList (((partsBetween mark.reverse (s.length + 1) most s.reverse).map List.reverse).reverse.map wrap)
  | "strip" => text (Host.trimBy (← blank) s)
  | "lstrip" => text (s.dropWhile (← blank))
  | "rstrip" => text (Host.dropEnd (← blank) s)
  | "replace" => match g.args with
    | a :: b :: _ => text (replaced (← plain a) (← plain b) (← count 2 "count") s)
    | _ => raise "TypeError" ("replace expected at least 2 arguments, got " ++ toString g.args.length)
  | "startswith" => truthOf ((← affixes).any fun p => p.isPrefixOf s)
  | "endswith" => truthOf ((← affixes).any fun p => p.isSuffixOf s)
  | "removeprefix" => do
    let p ← first
    text (if p.isPrefixOf s then s.drop p.length else s)
  | "removesuffix" => do
    let p ← first
    text (if p.isSuffixOf s then s.take (s.length - p.length) else s)
  | "upper" => text (s.map Char.toUpper)
  | "lower" => text (s.map Char.toLower)
  | "casefold" => text (s.map Char.toLower)
  | "title" => text (titled false s)
  | "capitalize" => text ((s.take 1).map Char.toUpper ++ (s.drop 1).map Char.toLower)
  | "swapcase" => text (s.map fun c => if c.isUpper then c.toLower else c.toUpper)
  | "find" => index (findFrom (← first) 0 s)
  | "rfind" => index (findLast (← first) s)
  | "index" => do
    match findFrom (← first) 0 s with
    | some i => return .whole i
    | none => raise "ValueError" "substring not found"
  | "count" => return .whole (occurrences (← first) s)
  | "splitlines" => do
    let keeps ← match g.at? 0 "keepends" with
      | some v => truth v
      | none => pure false
    newList ((linesWith keeps s).map wrap)
  | "isdigit" => truthOf (!s.isEmpty && s.all Char.isDigit)
  | "isnumeric" => truthOf (!s.isEmpty && s.all Char.isDigit)
  | "isalpha" => truthOf (!s.isEmpty && s.all fun c => c.isAlpha || 127 < c.toNat)
  | "isalnum" => truthOf (!s.isEmpty && s.all fun c => c.isAlphanum || 127 < c.toNat)
  | "isspace" => truthOf (!s.isEmpty && s.all Host.isSpace)
  | "isupper" => truthOf (cased && s.all fun c => !c.isLower)
  | "islower" => truthOf (cased && s.all fun c => !c.isUpper)
  | "isidentifier" => truthOf (Host.isName s)
  | "zfill" => text (zeroFilled (← width) s)
  | "ljust" => text (filled (fun _ => 0) id (← width) (← fill) s)
  | "rjust" => text (filled id (fun _ => 0) (← width) (← fill) s)
  | "center" => do
    let w ← width
    let odd := w % 2
    text (filled (fun n => (n + n % 2 * odd) / 2) (fun n => n - (n + n % 2 * odd) / 2) w (← fill) s)
  | "expandtabs" => text (s.flatMap fun c => if c = '\t' then List.replicate 8 ' ' else [c])
  | "encode" => return .bytes (strOf s)
  | "decode" => return .text (textOf s)
  | "hex" => return .text (s.flatMap fun c => sixteens 2 c.toNat)
  | "partition" => do
    let mark ← first
    match findFrom mark 0 s with
    | some i => return .tuple [wrap (s.take i), wrap mark, wrap (s.drop (i + mark.length))]
    | none => return .tuple [wrap s, wrap [], wrap []]
  | "rpartition" => do
    let mark ← first
    match findLast mark s with
    | some i => return .tuple [wrap (s.take i), wrap mark, wrap (s.drop (i + mark.length))]
    | none => return .tuple [wrap [], wrap [], wrap s]
  | _ => raise "AttributeError" ("'str' object has no attribute '" ++ name ++ "'")

/-! ## Lists, tables and sets -/

def listMethods : List String :=
  ["append", "extend", "insert", "pop", "remove", "sort", "reverse", "index", "count", "clear", "copy"]

/-- A method of a list, other than sorting. -/
def listMethod (id : Nat) (vs : Array Val) (name : String) (g : Given) : Run Val := do
  let store := (← get).store
  let put (vs : Array Val) : Run Val := do
    setObject id (.list vs)
    return .nothing
  let one : Run Val := do
    match g.args with
    | [v] => return v
    | args => raise "TypeError" ("list." ++ name ++ "() takes exactly one argument (" ++ toString args.length ++ " given)")
  match name with
  | "append" => put (vs.push (← one))
  | "extend" => put (vs ++ (← valuesOf (← one)).toArray)
  | "insert" => match g.args with
    | [i, v] => do
      let n ← wholeOf i
      let k : Nat := if n < 0 then (n + (vs.size : Int)).toNat else min n.toNat vs.size
      put ((vs.toList.take k ++ v :: vs.toList.drop k).toArray)
    | _ => raise "TypeError" ("insert expected 2 arguments, got " ++ toString g.args.length)
  | "pop" => do
    if vs.isEmpty then raise "IndexError" "pop from empty list"
    let i ← match g.args with
      | v :: _ => wholeOf v
      | [] => pure (-1)
    match (place? vs.size i).bind fun k => (vs[k]?).map fun v => (k, v) with
    | some (k, v) => do
      let _ ← put (vs.toList.eraseIdx k).toArray
      return v
    | none => raise "IndexError" "pop index out of range"
  | "remove" => do
    let v ← one
    match vs.toList.findIdx? (equal store v) with
    | some k => put (vs.toList.eraseIdx k).toArray
    | none => raise "ValueError" "list.remove(x): x not in list"
  | "reverse" => put vs.reverse
  | "index" => do
    let v ← one
    match vs.toList.findIdx? (equal store v) with
    | some k => return .whole k
    | none => raise "ValueError" (String.ofList (← reprOf v) ++ " is not in list")
  | "count" => do
    let v ← one
    return .whole (vs.toList.countP (equal store v))
  | "clear" => put #[]
  | "copy" => newList vs.toList
  | _ => raise "AttributeError" ("'list' object has no attribute '" ++ name ++ "'")

def dictMethods : List String :=
  ["keys", "values", "items", "get", "pop", "setdefault", "update", "clear", "copy"]

/-- A method of a table. -/
def dictMethod (id : Nat) (pairs : List (Val × Val)) (name : String) (g : Given) : Run Val := do
  let store := (← get).store
  let put (pairs : List (Val × Val)) : Run Val := do
    setObject id (.dict pairs)
    return .nothing
  match name, g.args with
  | "keys", _ => newList (pairs.map Prod.fst)
  | "values", _ => newList (pairs.map Prod.snd)
  | "items", _ => newList (pairs.map fun p => .tuple [p.1, p.2])
  | "get", k :: rest => return (lookup store pairs k).getD (rest.headD .nothing)
  | "pop", k :: rest => do
    match lookup store pairs k, rest with
    | some v, _ => do
      let _ ← put (pairs.filter fun p => !equal store p.1 k)
      return v
    | none, v :: _ => return v
    | none, [] => raiseWith "KeyError" [k]
  | "setdefault", k :: rest => do
    match lookup store pairs k with
    | some v => return v
    | none => do
      let v := rest.headD .nothing
      let _ ← put (insert store pairs k v)
      return v
  | "update", args => do
    let more ← args.mapM pairsOf
    let named := g.named.map fun n => (Val.text n.1.toList, n.2)
    put ((more.flatten ++ named).foldl (fun ps p => insert store ps p.1 p.2) pairs)
  | "clear", _ => put []
  | "copy", _ => alloc (.dict pairs)
  | _, args => raise "TypeError" (name ++ " expected at least 1 argument, got " ++ toString args.length)

def setMethods : List String :=
  ["add", "remove", "discard", "union", "intersection", "difference", "update", "clear", "copy", "issubset",
    "issuperset", "pop"]

/-- A method of a set. -/
def setMethod (id : Nat) (vs : List Val) (name : String) (g : Given) : Run Val := do
  let store := (← get).store
  let put (vs : List Val) : Run Val := do
    setObject id (.set vs)
    return .nothing
  match name, g.args with
  | "add", [v] => do
    hashable v
    put (withMember store vs v)
  | "remove", [v] => do
    if !vs.any (equal store v) then raiseWith "KeyError" [v]
    put (vs.filter fun w => !equal store w v)
  | "discard", [v] => put (vs.filter fun w => !equal store w v)
  | "pop", [] => match vs with
    | v :: rest => do
      let _ ← put rest
      return v
    | [] => raise "KeyError" "pop from an empty set"
  | "union", args => do
    let more ← args.mapM valuesOf
    alloc (.set (more.flatten.foldl (withMember store) vs))
  | "update", args => do
    let more ← args.mapM valuesOf
    put (more.flatten.foldl (withMember store) vs)
  | "intersection", [v] => do
    let ws ← valuesOf v
    alloc (.set (vs.filter fun x => ws.any (equal store x)))
  | "difference", [v] => do
    let ws ← valuesOf v
    alloc (.set (vs.filter fun x => !ws.any (equal store x)))
  | "issubset", [v] => do
    let ws ← valuesOf v
    return .truth (vs.all fun x => ws.any (equal store x))
  | "issuperset", [v] => do
    let ws ← valuesOf v
    return .truth (ws.all fun x => vs.any (equal store x))
  | "clear", _ => put []
  | "copy", _ => alloc (.set vs)
  | _, args => raise "TypeError" ("set." ++ name ++ "() takes exactly one argument (" ++ toString args.length ++ " given)")

/-! ## Files -/

def streamMethods : List String :=
  ["read", "readline", "readlines", "write", "writelines", "close", "flush", "fileno", "isatty", "__enter__",
    "__exit__", "readable", "writable", "seek", "tell", "reconfigure"]

/-- The bytes that are written for a value. -/
def writtenOf (s : Stream) (v : Val) : Run Str := do
  match v with
  | .text t =>
    if s.mode.contains 'b' then raise "TypeError" "a bytes-like object is required, not 'str'"
    return strOf t
  | .bytes t =>
    if !s.mode.contains 'b' then raise "TypeError" "write() argument must be str, not bytes"
    return t
  | v =>
    if s.mode.contains 'b' then unfit "a bytes-like object is required, not '" v "'"
    else unfit "write() argument must be str, not " v ""

/-- A method of a file. -/
def streamMethod (id : Nat) (s : Stream) (name : String) (g : Given) : Run Val := do
  if s.isClosed && name ≠ "close" then raise "ValueError" "I/O operation on closed file."
  let leave (rest : Str) : Run Unit := setObject id (.stream { s with rest := some rest })
  match name with
  | "read" => do
    let text ← remaining id s
    match g.some? 0 "size" with
    | some v => do
      let n ← wholeOf v
      let some := if n < 0 then text.length
        else if s.mode.contains 'b' then n.toNat else ((Host.characters text).take n.toNat).flatten.length
      leave (text.drop some)
      return valueFor s (text.take some)
    | none => do
      leave []
      return valueFor s text
  | "readline" => do
    let text ← remaining id s
    let line := (Host.splitLines text).headD []
    leave (text.drop line.length)
    return valueFor s line
  | "readlines" => do
    let text ← remaining id s
    leave []
    newList ((Host.splitLines text).map (valueFor s))
  | "write" => match g.args with
    | [v] => do
      let text ← writtenOf s v
      writeTo s text
      return .whole (match v with
        | .text t => t.length
        | _ => text.length)
    | args => raise "TypeError" ("TextIOWrapper.write() takes exactly one argument (" ++ toString args.length ++ " given)")
  | "writelines" => match g.args with
    | [v] => do
      for x in ← valuesOf v do
        writeTo s (← writtenOf s x)
      return .nothing
    | _ => raise "TypeError" "writelines() takes exactly one argument (0 given)"
  | "close" => do
    setObject id (.stream { s with isClosed := true })
    return .nothing
  | "flush" => do
    match s.channel with
    | .output => do
      let _ ← onHost Act.flush
    | _ => pure ()
    return .nothing
  | "fileno" => return .whole (match s.channel with
    | .input => 0
    | .output => 1
    | .errors => 2
    | .file _ => 3)
  | "isatty" => return .truth false
  | "readable" => return .truth (s.mode.contains 'r')
  | "writable" => return .truth (!s.mode.contains 'r')
  | "__enter__" => return .ref id
  | _ => return .nothing

end StaleBuild.Utility.Snippet
