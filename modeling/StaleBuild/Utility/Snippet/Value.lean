import Std.Data.HashMap
import StaleBuild.Decimal.Dyadic
import StaleBuild.Utility.Snippet.Lexeme

/-!
Values of programs. What can be changed lies in a store and is known by its number there; all else is
the value itself. Tables and sets keep the order in which things came into them.
-/

namespace StaleBuild.Utility.Snippet

/-- A value. -/
inductive Val where
  | nothing
  | truth (b : Bool)
  | whole (n : Int)
  | real (x : Float)
  | text (s : Text)
  | bytes (s : Text)
  | ellipsis
  | tuple (vs : List Val)
  | range (a b step : Int)
  /-- A thing in the store. -/
  | ref (id : Nat)
  | builtin (name : String)
  | method (self : Val) (name : String)
  | library (name : String)
  | kind (name : String)
deriving Inhabited

/-- A function that a program defines: its parameters with the values they have if none is given, and the
numbers of stars before them. -/
structure Closure where
  name : String
  parameters : List (String × Option Val × Nat)
  body : List Statement
  scopes : List Nat

/-- Where a file leads. -/
inductive Channel where
  | input
  | output
  | errors
  | file (n : Nat)

/-- An open file. -/
structure Stream where
  name : Val
  mode : String
  channel : Channel
  isClosed : Bool
  /-- What has been read and not been asked for. -/
  rest : Option Text

/-- A thing in the store. -/
inductive Object where
  | list (vs : Array Val)
  | dict (pairs : List (Val × Val))
  | set (vs : List Val)
  | function (f : Closure)
  | stream (s : Stream)
  | iterator (rest : List Val)
  | exception (kind : String) (args : List Val)
  | record (kind : String) (fields : List (String × Val))

abbrev Store := Array Object

/-! ## Classes -/

/-- The classes of exceptions that there are, each with the one above it. -/
def exceptionKinds : List (String × String) :=
  [("SystemExit", "BaseException"), ("KeyboardInterrupt", "BaseException"), ("Exception", "BaseException"),
    ("ArithmeticError", "Exception"), ("ZeroDivisionError", "ArithmeticError"),
    ("OverflowError", "ArithmeticError"), ("AssertionError", "Exception"), ("AttributeError", "Exception"),
    ("EOFError", "Exception"), ("ImportError", "Exception"), ("ModuleNotFoundError", "ImportError"),
    ("LookupError", "Exception"), ("IndexError", "LookupError"), ("KeyError", "LookupError"),
    ("NameError", "Exception"), ("UnboundLocalError", "NameError"), ("OSError", "Exception"),
    ("FileNotFoundError", "OSError"), ("FileExistsError", "OSError"), ("IsADirectoryError", "OSError"),
    ("NotADirectoryError", "OSError"), ("PermissionError", "OSError"), ("BrokenPipeError", "OSError"),
    ("ProcessLookupError", "OSError"), ("TimeoutError", "OSError"), ("RuntimeError", "Exception"),
    ("NotImplementedError", "RuntimeError"), ("RecursionError", "RuntimeError"),
    ("StopIteration", "Exception"), ("TypeError", "Exception"), ("ValueError", "Exception"),
    ("UnicodeDecodeError", "ValueError"), ("UnicodeEncodeError", "ValueError"), ("Warning", "Exception"),
    ("MemoryError", "Exception"), ("BufferError", "Exception")]

/-- Whether a class is another one or below it. -/
def isBelow (kinds : List (String × String)) : Nat → String → String → Bool
  | 0, _, _ => false
  | fuel + 1, a, b => a = b || match kinds.find? fun k => k.1 = a with
    | some (_, above) => isBelow kinds fuel above b
    | none => false

/-- The name of the class of a value. -/
def kindOf (store : Store) : Val → String
  | .nothing => "NoneType"
  | .truth _ => "bool"
  | .whole _ => "int"
  | .real _ => "float"
  | .text _ => "str"
  | .bytes _ => "bytes"
  | .ellipsis => "ellipsis"
  | .tuple _ => "tuple"
  | .range .. => "range"
  | .builtin _ => "builtin_function_or_method"
  | .method .. => "builtin_function_or_method"
  | .library _ => "module"
  | .kind _ => "type"
  | .ref id => match store[id]? with
    | some (.list _) => "list"
    | some (.dict _) => "dict"
    | some (.set _) => "set"
    | some (.function _) => "function"
    | some (.stream s) => if s.mode.contains 'b' then "_io.BufferedReader" else "_io.TextIOWrapper"
    | some (.iterator _) => "generator"
    | some (.exception k _) => k
    | some (.record k _) => k
    | none => "object"

/-! ## Texts of values -/

/-- The byte that a character stands for that was read of no character. -/
def strayByte? (c : Char) : Option Nat := if 0x10FF00 ≤ c.toNat then some (c.toNat - 0x10FF00) else none

/-- Bytes in characters. -/
def textOf (s : Host.Str) : Text :=
  (Host.characters s).flatMap fun group =>
    match Utf8.decode? (Host.toBytes group) with
    | some t => t.toList
    | none => group.map fun c => Char.ofNat (0x10FF00 + c.toNat)

/-- Characters in bytes. -/
def strOf (s : Text) : Host.Str :=
  s.flatMap fun c => match strayByte? c with
    | some b => [Char.ofNat b]
    | none => Host.str c.toString

/-- A number in sixteens of a width. -/
def sixteens (width n : Nat) : Text :=
  let digits := Host.digitsIn 16 n
  List.replicate (width - digits.length) '0' ++ digits

/-- A character as it is shown between marks. -/
def shownChar (mark : Char) (isBytes : Bool) (c : Char) : Text :=
  let n := c.toNat
  if c = '\\' || c = mark then ['\\', c]
  else if c = '\n' then ['\\', 'n']
  else if c = '\r' then ['\\', 'r']
  else if c = '\t' then ['\\', 't']
  else if n < 32 || (127 ≤ n && n ≤ 160) || n = 173 || (isBytes && 127 < n) then '\\' :: 'x' :: sixteens 2 n
  else match strayByte? c with
    | some b => "\\udc".toList ++ sixteens 2 b
    | none => [c]

/-- A text between marks. -/
def quoted (isBytes : Bool) (s : Text) : Text :=
  let mark := if s.contains '\'' && !s.contains '"' then '"' else '\''
  (if isBytes then ['b'] else []) ++ mark :: s.flatMap (shownChar mark isBytes) ++ [mark]

/-- The shortest digits that a real number is read of, with a point or an exponent. -/
def realText (x : Float) : Text :=
  match Decimal.Binary64.ofFloat x with
  | .notANumber => "nan".toList
  | .infinite negative => (if negative then "-inf" else "inf").toList
  | .finite negative m q =>
    let sign : Text := if negative then ['-'] else []
    if m = 0 then sign ++ "0.0".toList
    else
      let (digits, power) := Decimal.shortest m q
      let ds := Nat.toDigits 10 digits
      let ds := Host.dropEnd (· = '0') ds
      let power := power + ((Nat.toDigits 10 digits).length - ds.length : Nat)
      -- the place of the point behind the first digit
      let e : Int := (ds.length : Int) - 1 + power
      if e < -4 || 16 ≤ e then
        let es := Host.decimal (if e < 0 then -e else e)
        sign ++ ds.take 1 ++ (if 1 < ds.length then '.' :: ds.drop 1 else []) ++ 'e' ::
          (if e < 0 then '-' else '+') :: (if es.length < 2 then '0' :: es else es)
      else if e < 0 then sign ++ "0.".toList ++ List.replicate ((-e).toNat - 1) '0' ++ ds
      else
        let whole := e.toNat + 1
        let front := ds.take whole ++ List.replicate (whole - ds.length) '0'
        let back := ds.drop whole
        sign ++ front ++ '.' :: (if back.isEmpty then ['0'] else back)

mutual

/-- A value as a program writes it. -/
def shown (store : Store) : Nat → Val → Text
  | 0, _ => "...".toList
  | _ + 1, .nothing => "None".toList
  | _ + 1, .truth b => (if b then "True" else "False").toList
  | _ + 1, .whole n => Host.decimal n
  | _ + 1, .real x => realText x
  | _ + 1, .text s => quoted false s
  | _ + 1, .bytes s => quoted true s
  | _ + 1, .ellipsis => "Ellipsis".toList
  | fuel + 1, .tuple vs =>
    match vs with
    | [v] => '(' :: shown store fuel v ++ [',', ')']
    | vs => '(' :: shownAll store fuel vs ++ [')']
  | _ + 1, .range a b step =>
    "range(".toList ++ Host.decimal a ++ [',', ' '] ++ Host.decimal b ++
      (if step = 1 then [] else [',', ' '] ++ Host.decimal step) ++ [')']
  | _ + 1, .builtin name => ("<built-in function " ++ name ++ ">").toList
  | _ + 1, .method v name =>
    ("<built-in method " ++ name ++ " of " ++ kindOf store v ++ " object at 0x7f0000000000>").toList
  | _ + 1, .library name => ("<module '" ++ name ++ "' (built-in)>").toList
  | _ + 1, .kind name => ("<class '" ++ name ++ "'>").toList
  | fuel + 1, .ref id => match store[id]? with
    | some (.list vs) => '[' :: shownAll store fuel vs.toList ++ [']']
    | some (.dict pairs) => Char.ofNat 0x7b :: shownPairs store fuel pairs ++ [Char.ofNat 0x7d]
    | some (.set []) => "set()".toList
    | some (.set vs) => Char.ofNat 0x7b :: shownAll store fuel vs ++ [Char.ofNat 0x7d]
    | some (.function f) => ("<function " ++ f.name ++ " at 0x7f0000000000>").toList
    | some (.exception kind args) =>
      kind.toList ++ '(' :: shownAll store fuel args ++ [')']
    | some (.stream s) =>
      "<_io.TextIOWrapper name=".toList ++ shown store fuel s.name ++ (" mode='" ++ s.mode ++ "' encoding='utf-8'>").toList
    | some (.record "PosixPath" [(_, .text s)]) => "PosixPath(".toList ++ quoted false s ++ [')']
    | some (.record kind fields) => kind.toList ++ '(' :: shownFields store fuel fields ++ [')']
    | some (.iterator _) => "<generator object <genexpr> at 0x7f0000000000>".toList
    | none => []

/-- Values with commas between them. -/
def shownAll (store : Store) : Nat → List Val → Text
  | 0, _ => []
  | _ + 1, [] => []
  | fuel + 1, [v] => shown store fuel v
  | fuel + 1, v :: w :: rest => shown store fuel v ++ [',', ' '] ++ shownAll store fuel (w :: rest)

def shownPairs (store : Store) : Nat → List (Val × Val) → Text
  | 0, _ => []
  | _ + 1, [] => []
  | fuel + 1, (k, v) :: rest =>
    shown store fuel k ++ [':', ' '] ++ shown store fuel v ++
      (if rest.isEmpty then [] else [',', ' '] ++ shownPairs store fuel rest)

def shownFields (store : Store) : Nat → List (String × Val) → Text
  | 0, _ => []
  | _ + 1, [] => []
  | fuel + 1, (k, v) :: rest =>
    k.toList ++ '=' :: shown store fuel v ++
      (if rest.isEmpty then [] else [',', ' '] ++ shownFields store fuel rest)

end

/-- How deep showing goes: as many steps as there are things to show. -/
def Store.depth (store : Store) : Nat :=
  store.foldl (fun n o => n + match o with
    | .list vs => vs.size
    | .dict pairs => pairs.length
    | .set vs => vs.length
    | _ => 1) 100000

/-- A value as a program writes it. -/
def repr (store : Store) (v : Val) : Text := shown store store.depth v

/-- The words of an exception. -/
def exceptionText (store : Store) (kind : String) (args : List Val) : Text :=
  match args with
  | [] => []
  | [.text s] => if kind = "KeyError" then quoted false s else s
  | [v] => repr store v
  | .whole n :: .text words :: names =>
    if isBelow exceptionKinds 9 kind "OSError" then
      "[Errno ".toList ++ Host.decimal n ++ ']' :: ' ' :: words ++
        (if names.isEmpty then [] else ':' :: ' ' :: Host.joinWith " -> ".toList (names.map (repr store)))
    else repr store (.tuple args)
  | _ => repr store (.tuple args)

/-- A value as a text. -/
def display (store : Store) (v : Val) : Text :=
  match v with
  | .text s => s
  | .ref id => match store[id]? with
    | some (.exception kind args) => exceptionText store kind args
    | _ => repr store v
  | v => repr store v

/-! ## Truth and order -/

/-- Whether a value counts as true. -/
def isTrue (store : Store) : Val → Bool
  | .nothing => false
  | .truth b => b
  | .whole n => n ≠ 0
  | .real x => !(x == 0)
  | .text s => !s.isEmpty
  | .bytes s => !s.isEmpty
  | .tuple vs => !vs.isEmpty
  | .range a b step => if 0 < step then a < b else b < a
  | .ref id => match store[id]? with
    | some (.list vs) => !vs.isEmpty
    | some (.dict pairs) => !pairs.isEmpty
    | some (.set vs) => !vs.isEmpty
    | _ => true
  | _ => true

/-- The whole number that a value is. -/
def whole? : Val → Option Int
  | .whole n => some n
  | .truth b => some (if b then 1 else 0)
  | _ => none

/-- The real number that a value is or stands for. -/
def real? : Val → Option Float
  | .real x => some x
  | v => (whole? v).map Float.ofInt

mutual

/-- Whether values are equal. -/
def isEqual (store : Store) : Nat → Val → Val → Bool
  | 0, _, _ => false
  | _ + 1, .nothing, .nothing => true
  | _ + 1, .ellipsis, .ellipsis => true
  | _ + 1, .text a, .text b => a = b
  | _ + 1, .bytes a, .bytes b => a = b
  | fuel + 1, .tuple a, .tuple b => areEqual store fuel a b
  | _ + 1, .range a b c, .range x y z => a = x && b = y && c = z
  | _ + 1, .builtin a, .builtin b => a = b
  | _ + 1, .library a, .library b => a = b
  | _ + 1, .kind a, .kind b => a = b
  | fuel + 1, .ref i, .ref j =>
    i = j || match store[i]?, store[j]? with
      | some (.list a), some (.list b) => areEqual store fuel a.toList b.toList
      | some (.dict a), some (.dict b) => a.length = b.length && pairsIn store fuel a b
      | some (.set a), some (.set b) => a.length = b.length && areIn store fuel a b
      | _, _ => false
  | _ + 1, a, b => match whole? a, whole? b with
    | some a, some b => a = b
    | _, _ => match real? a, real? b with
      | some a, some b => a == b
      | _, _ => false

def areEqual (store : Store) : Nat → List Val → List Val → Bool
  | 0, _, _ => false
  | _ + 1, [], [] => true
  | fuel + 1, a :: as, b :: bs => isEqual store fuel a b && areEqual store fuel as bs
  | _ + 1, _, _ => false

/-- Whether a value is among others. -/
def isAmong (store : Store) : Nat → Val → List Val → Bool
  | 0, _, _ => false
  | _ + 1, _, [] => false
  | fuel + 1, v, w :: rest => isEqual store fuel v w || isAmong store fuel v rest

def areIn (store : Store) : Nat → List Val → List Val → Bool
  | 0, _, _ => false
  | _ + 1, [], _ => true
  | fuel + 1, a :: as, bs => isAmong store fuel a bs && areIn store fuel as bs

def isPairAmong (store : Store) : Nat → Val × Val → List (Val × Val) → Bool
  | 0, _, _ => false
  | _ + 1, _, [] => false
  | fuel + 1, p, q :: rest =>
    (isEqual store fuel p.1 q.1 && isEqual store fuel p.2 q.2) || isPairAmong store fuel p rest

def pairsIn (store : Store) : Nat → List (Val × Val) → List (Val × Val) → Bool
  | 0, _, _ => false
  | _ + 1, [], _ => true
  | fuel + 1, p :: ps, qs => isPairAmong store fuel p qs && pairsIn store fuel ps qs

end

/-- Whether two values are equal. -/
def equal (store : Store) (a b : Val) : Bool := isEqual store store.depth a b

/-- Whether values are one and the same. -/
def same (store : Store) (a b : Val) : Bool :=
  match a, b with
  | .ref i, .ref j => i = j
  | a, b => kindOf store a = kindOf store b && equal store a b

/-- Compare values that have an order. -/
def order? (store : Store) : Nat → Val → Val → Option Ordering
  | 0, _, _ => none
  | fuel + 1, a, b =>
    let lists (as bs : List Val) : Option Ordering :=
      let rec go : Nat → List Val → List Val → Option Ordering
        | 0, _, _ => none
        | _, [], [] => some .eq
        | _, [], _ => some .lt
        | _, _, [] => some .gt
        | n + 1, x :: xs, y :: ys =>
          if isEqual store (store.depth) x y then go n xs ys else order? store fuel x y
      go (as.length + 1) as bs
    let texts (s t : Text) : Option Ordering := some (Ord.compare (s.map Char.toNat) (t.map Char.toNat))
    match a, b with
    | .text s, .text t => texts s t
    | .bytes s, .bytes t => texts s t
    | .tuple as, .tuple bs => lists as bs
    | .ref i, .ref j => match store[i]?, store[j]? with
      | some (.list as), some (.list bs) => lists as.toList bs.toList
      | _, _ => none
    | a, b => match whole? a, whole? b with
      | some m, some n => some (Ord.compare m n)
      | _, _ => match real? a, real? b with
        | some x, some y => some (if x < y then .lt else if x == y then .eq else .gt)
        | _, _ => none

/-! ## Tables -/

/-- The value of a key. -/
def lookup (store : Store) (pairs : List (Val × Val)) (k : Val) : Option Val :=
  (pairs.find? fun p => equal store p.1 k).map Prod.snd

/-- The pairs with another value of a key, which comes last if it is new. -/
def insert (store : Store) (pairs : List (Val × Val)) (k v : Val) : List (Val × Val) :=
  if pairs.any fun p => equal store p.1 k then
    pairs.map fun p => if equal store p.1 k then (p.1, v) else p
  else pairs ++ [(k, v)]

/-- A set with one more value. -/
def withMember (store : Store) (vs : List Val) (v : Val) : List Val :=
  if vs.any fun w => equal store w v then vs else vs ++ [v]

/-! ## Sequences -/

/-- The numbers of a range. -/
def rangeValues (a b step : Int) : List Val :=
  let count : Nat :=
    if 0 < step then ((b - a + step - 1) / step).toNat
    else if step < 0 then ((a - b - step - 1) / (-step)).toNat
    else 0
  (List.range count).map fun (i : Nat) => .whole (a + step * (i : Int))

/-- The places of a part of a sequence. -/
def sliceIndices (length : Nat) (a b step : Option Int) : List Nat :=
  let step := step.getD 1
  let n : Int := length
  let clamp (x low high : Int) : Int := if x < low then low else if high < x then high else x
  let settle (x : Int) (low high : Int) : Int := clamp (if x < 0 then x + n else x) low high
  if 0 < step then
    let first := (a.map fun x => settle x 0 n).getD 0
    let last := (b.map fun x => settle x 0 n).getD n
    (rangeValues first last step).filterMap fun v => (whole? v).map Int.toNat
  else
    let first := (a.map fun x => settle x (-1) (n - 1)).getD (n - 1)
    let last := (b.map fun x => settle x (-1) (n - 1)).getD (-1)
    (rangeValues first last step).filterMap fun v => (whole? v).map Int.toNat

/-- A part of a sequence. -/
def sliced {α : Type} (vs : List α) (a b step : Option Int) : List α :=
  let all := vs.toArray
  (sliceIndices all.size a b step).filterMap fun i => all[i]?

/-- The place in a sequence that a number stands for. -/
def place? (length : Nat) (i : Int) : Option Nat :=
  let j := if i < 0 then i + length else i
  if 0 ≤ j ∧ j < length then some j.toNat else none

end StaleBuild.Utility.Snippet
