import StaleBuild.Utility.Snippet.Value

/-!
Values in texts by a form: how wide a field is, what fills it, and how a number is written.
-/

namespace StaleBuild.Utility.Snippet

/-- A fault that is raised: the class of the exception and its words. -/
abbrev Fallible := Except (String × String)

/-- The form of a field. -/
structure Form where
  fill : Char
  /-- Where the value stands in the field: at `<`, `>`, `^`, or behind its sign at `=`. -/
  align : Option Char
  sign : Char
  isAlternate : Bool
  width : Nat
  grouping : Option Char
  precision : Option Nat
  kind : Option Char

namespace Form

def isAlign (c : Char) : Bool := c = '<' || c = '>' || c = '^' || c = '='

/-- The form that a text spells. -/
def read (s : Text) : Fallible Form :=
  let (fill, align, s) := match s with
    | f :: a :: rest => if isAlign a then (f, some a, rest) else if isAlign f then (' ', some f, a :: rest) else (' ', none, s)
    | [f] => if isAlign f then (' ', some f, []) else (' ', none, s)
    | [] => (' ', none, [])
  let (sign, s) := match s with
    | c :: rest => if c = '+' || c = '-' || c = ' ' then (c, rest) else ('-', s)
    | [] => ('-', [])
  let (alt, s) := match s with
    | '#' :: rest => (true, rest)
    | s => (false, s)
  let (zero, s) := match s with
    | '0' :: rest => (true, rest)
    | s => (false, s)
  let digits := s.takeWhile Char.isDigit
  let s := s.drop digits.length
  let (grouping, s) := match s with
    | ',' :: rest => (some ',', rest)
    | '_' :: rest => (some '_', rest)
    | s => (none, s)
  let (precision, s) := match s with
    | '.' :: rest =>
      let ds := rest.takeWhile Char.isDigit
      (some (number 10 ds), rest.drop ds.length)
    | s => (none, s)
  let fill := if zero && align.isNone then '0' else fill
  let align := if zero && align.isNone then some '=' else align
  let form (kind : Option Char) : Form := ⟨fill, align, sign, alt, number 10 digits, grouping, precision, kind⟩
  match s with
  | [] => .ok (form none)
  | [k] => .ok (form (some k))
  | _ => .error ("ValueError", "Invalid format specifier")

/-- A text in a field; `usual` is where it stands if the form does not say. -/
def placed (f : Form) (usual : Char) (sign body : Text) : Text :=
  let missing := f.width - sign.length - body.length
  let pad (n : Nat) : Text := List.replicate n f.fill
  match f.align.getD usual with
  | '<' => sign ++ body ++ pad missing
  | '^' => pad (missing / 2) ++ sign ++ body ++ pad (missing - missing / 2)
  | '=' => sign ++ pad missing ++ body
  | _ => pad missing ++ sign ++ body

/-- Digits in groups. -/
def grouped (mark : Char) (size : Nat) (digits : Text) : Text :=
  ((digits.reverse.zipIdx.flatMap fun (d, i) => if 0 < i && i % size = 0 then [mark, d] else [d])).reverse

/-- The sign that is written. -/
def signText (f : Form) (negative : Bool) : Text :=
  if negative then ['-'] else if f.sign = '-' then [] else [f.sign]

/-- A whole number in a field. -/
def whole (f : Form) (n : Int) (kind : Char) : Text :=
  let base : Nat := match kind with
    | 'x' => 16
    | 'X' => 16
    | 'o' => 8
    | 'b' => 2
    | _ => 10
  let digits := Nat.toDigits base n.natAbs
  let digits := if kind = 'X' then digits.map Char.toUpper else digits
  let digits := match f.grouping with
    | some mark => grouped mark (if base = 10 then 3 else 4) digits
    | none => digits
  let front : Text := if f.isAlternate && base ≠ 10 then ['0', kind] else []
  f.placed '>' (f.signText (n < 0) ++ front) digits

/-- A real number in a field. -/
def real (f : Form) (x : Float) (kind : Option Char) : Text :=
  let upper := kind.any Char.isUpper
  let raise (s : Text) : Text := if upper then s.map Char.toUpper else s
  match Decimal.Binary64.ofFloat x with
  | .notANumber => f.placed '>' (f.signText false) (raise "nan".toList)
  | .infinite negative => f.placed '>' (f.signText negative) (raise "inf".toList)
  | .finite negative m q =>
    let (num, den) := Decimal.scaled 2 m 1 q
    let places := f.precision.getD 6
    let body : Text := match kind.map Char.toLower with
      | some 'f' => Decimal.Dyadic.fixed places f.isAlternate num den
      | some '%' => Decimal.Dyadic.fixed places f.isAlternate (num * 100) den ++ ['%']
      | some 'e' => Decimal.Dyadic.scientific places f.isAlternate 'e' num den
      | some 'g' => Decimal.Dyadic.general places f.isAlternate 'e' num den
      | _ => match f.precision with
        | some p =>
          let s := Decimal.Dyadic.general p false 'e' num den
          if s.contains '.' || s.contains 'e' then s else s ++ ['.', '0']
        | none => realText (if negative then -x else x)
    let body := match f.grouping with
      | some mark =>
        let front := body.takeWhile Char.isDigit
        grouped mark 3 front ++ body.drop front.length
      | none => body
    f.placed '>' (f.signText negative) (raise body)

/-- A text in a field. -/
def text (f : Form) (s : Text) : Text :=
  f.placed '<' [] (match f.precision with
    | some n => s.take n
    | none => s)

end Form

/-- A value in the form that a text spells. -/
def formatted (store : Store) (spec : Text) (v : Val) : Fallible Text := do
  if spec.isEmpty then return display store v
  let f ← Form.read spec
  let unknown (k : Char) : Fallible Text := .error ("ValueError",
    "Unknown format code '" ++ k.toString ++ "' for object of type '" ++ kindOf store v ++ "'")
  let isRealKind (k : Char) : Bool := "eEfFgG%".toList.contains k
  let whole (n : Int) : Fallible Text :=
    match f.kind with
    | none => .ok (f.whole n 'd')
    | some 'n' => .ok (f.whole n 'd')
    | some 'c' => .ok (f.placed '<' [] [Char.ofNat n.toNat])
    | some k =>
      if "dxXob".toList.contains k then .ok (f.whole n k)
      else if isRealKind k then .ok (f.real (Float.ofInt n) (some k))
      else unknown k
  match v with
  | .whole n => whole n
  | .truth b => match f.kind with
    | none => return f.text (display store v)
    | _ => whole (if b then 1 else 0)
  | .real x => match f.kind with
    | none => return f.real x none
    | some k => if isRealKind k then return f.real x (some k) else unknown k
  | .text s => match f.kind with
    | none => return f.text s
    | some 's' => return f.text s
    | some k => unknown k
  | _ => .error ("TypeError", "unsupported format string passed to " ++ kindOf store v ++ ".__format__")

/-! ## Forms with percent signs -/

/-- A field of a text with percent signs: the key, the marks, the width, the precision and the kind. -/
structure Percent where
  key : Option Text
  marks : Text
  width : Option (Option Nat)
  precision : Option (Option Nat)
  kind : Option Char

/-- Read a field behind its percent sign. -/
def Percent.read (s : Text) : Percent × Text :=
  let (key, s) := match s with
    | '(' :: rest =>
      let k := rest.takeWhile (· ≠ ')')
      (some k, rest.drop (k.length + 1))
    | s => (none, s)
  let marks := s.takeWhile fun c => "-+ #0".toList.contains c
  let s := s.drop marks.length
  let count (s : Text) : Option (Option Nat) × Text := match s with
    | '*' :: rest => (some none, rest)
    | s =>
      let ds := s.takeWhile Char.isDigit
      (if ds.isEmpty then none else some (some (number 10 ds)), s.drop ds.length)
  let (width, s) := count s
  let (precision, s) := match s with
    | '.' :: rest =>
      let (p, rest) := count rest
      (some (p.getD (some 0)), rest)
    | s => (none, s)
  match s with
  | k :: rest => (⟨key, marks, width, precision, some k⟩, rest)
  | [] => (⟨key, marks, width, precision, none⟩, [])

/-- A value in a field with a percent sign. -/
def Percent.shown (store : Store) (p : Percent) (width precision : Option Nat) (k : Char) (v : Val) :
    Fallible Text :=
  let has (c : Char) : Bool := p.marks.contains c
  let f : Form := ⟨if has '0' && !has '-' then '0' else ' ',
    some (if has '-' then '<' else if has '0' then '=' else '>'),
    if has '+' then '+' else if has ' ' then ' ' else '-', has '#', width.getD 0, none, precision, none⟩
  let plain : Form := { f with fill := ' ', align := some (if has '-' then '<' else '>') }
  let needs : Fallible Text :=
    .error ("TypeError", "%" ++ k.toString ++ " format: a real number is required, not " ++ kindOf store v)
  match k with
  | 's' => .ok (plain.text (display store v))
  | 'r' => .ok (plain.text (repr store v))
  | 'a' => .ok (plain.text (repr store v))
  | 'c' => match v with
    | .text s => .ok (plain.text s)
    | v => match whole? v with
      | some n => .ok (plain.text [Char.ofNat n.toNat])
      | none => .error ("TypeError", "%c requires int or char")
  | k =>
    if "diuxXo".toList.contains k then
      let kind := if "diu".toList.contains k then 'd' else k
      match whole? v, v with
      | some n, _ => .ok (f.whole n kind)
      | none, .real x =>
        if kind = 'd' then .ok (f.whole ((Decimal.Binary64.ofFloat x).whole?.getD 0) 'd')
        else .error ("TypeError", "%" ++ k.toString ++ " format: an integer is required, not float")
      | none, _ => if kind = 'd' then needs else
        .error ("TypeError", "%" ++ k.toString ++ " format: an integer is required, not " ++ kindOf store v)
    else if "eEfFgG".toList.contains k then
      match real? v with
      | some x => .ok (f.real x (some k))
      | none => .error ("TypeError", "must be real number, not " ++ kindOf store v)
    else .error ("ValueError", "unsupported format character '" ++ k.toString ++ "'")

/-- A text whose fields with percent signs are filled with values; `table?` is where keys are looked up. -/
def percent (store : Store) (table? : Option (List (Val × Val))) : Nat → Text → List Val → Fallible Text
  | 0, _, _ => .ok []
  | _, [], rest =>
    if rest.isEmpty || table?.isSome then .ok []
    else .error ("TypeError", "not all arguments converted during string formatting")
  | fuel + 1, '%' :: '%' :: s, args => return '%' :: (← percent store table? fuel s args)
  | fuel + 1, '%' :: s, args => do
    let (p, s) := Percent.read s
    let few : Fallible (Val × List Val) := .error ("TypeError", "not enough arguments for format string")
    let next (args : List Val) : Fallible (Val × List Val) := match args with
      | a :: rest => .ok (a, rest)
      | [] => few
    let count (c : Option (Option Nat)) (args : List Val) : Fallible (Option Nat × List Val) := match c with
      | none => .ok (none, args)
      | some (some n) => .ok (some n, args)
      | some none => do
        let (v, args) ← next args
        return ((whole? v).map Int.toNat, args)
    let k ← match p.kind with
      | some k => pure k
      | none => .error ("ValueError", "incomplete format")
    let (width, args) ← count p.width args
    let (precision, args) ← count p.precision args
    let (v, args) ← match p.key, table? with
      | some key, some table => match lookup store table (.text key) with
        | some v => pure (v, args)
        | none => .error ("KeyError", String.ofList key)
      | some _, none => .error ("TypeError", "format requires a mapping")
      | none, _ => next args
    let front ← p.shown store width precision k v
    return front ++ (← percent store table? fuel s args)
  | fuel + 1, c :: s, args => return c :: (← percent store table? fuel s args)

end StaleBuild.Utility.Snippet
