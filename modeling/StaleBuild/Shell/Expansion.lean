import StaleBuild.Shell.Arithmetic
import StaleBuild.Shell.Field
import StaleBuild.Shell.Requote

/-!
Expanding words: parameters, commands, arithmetic and home directories give way to texts. Commands
are run by whoever runs commands, so that is handed in.
-/

namespace StaleBuild.Shell

open Host (Str str)

/-- What expansion needs of whoever runs commands. -/
structure Hooks where
  /-- What a command writes. -/
  capture : Cmd → Sh Str
  /-- The name of a file that stands for what a command writes or reads. -/
  connect : Bool → Cmd → Sh Str

namespace Expansion

/-- How a word is expanded. -/
structure Setting where
  /-- What comes out of an expansion is split into fields. -/
  splits : Bool
  /-- The characters of the word itself are split too. -/
  splitsAll : Bool
  /-- The word is the value of an assignment. -/
  assigns : Bool

/-- For the words of a command. -/
def Setting.words : Setting := ⟨true, false, false⟩

/-- For a text that stays whole. -/
def Setting.whole : Setting := ⟨false, false, false⟩

/-- For a value that is assigned. -/
def Setting.value : Setting := ⟨false, false, true⟩

/-! ## Values of parameters -/

/-- What a parameter stands for. -/
inductive Got where
  | unset
  | one (s : Str)
  /-- Several texts, which become one between quotation marks if `joined`. -/
  | many (l : List Str) (joined : Bool)

/-- The values that the extended dialect gives to some names. -/
def dynamic? (s : State) (name : Str) : Option Value :=
  let number (n : Nat) : Option Value := some (.text (Host.decimal n))
  match Host.word name with
  | "LINENO" => number s.line
  | "SECONDS" => number 0
  | "RANDOM" => number ((s.host.clock.toNat / 1000 * 1103515245 + 12345) / 65536 % 32768)
  | "BASHPID" => number s.host.process.pid
  | "UID" => number 0
  | "EUID" => number 0
  | "BASH_SUBSHELL" => number (if s.isPart then 1 else 0)
  | "BASH_VERSION" => some (.text (str "5.2.15(1)-release"))
  | "HOSTTYPE" => some (.text (str "x86_64"))
  | "OSTYPE" => some (.text (str "linux-gnu"))
  | "PIPESTATUS" => some (.items (s.states.zipIdx.map fun (n, i) => (i, Host.decimal n)))
  | "FUNCNAME" => if s.calls = [] then none else
    some (.items ((s.calls ++ [str "main"]).zipIdx.map fun (n, i) => (i, n)))
  | _ => none

/-- The value of a variable. -/
def valueOf? (s : State) (name : Str) : Option Value :=
  match (s.binding name).bind Variable.value with
  | some v => some v
  | none => if s.dialect = .extended then dynamic? s name else none

/-- What a parameter without an index stands for. -/
def parameter (s : State) (name : Str) : Got :=
  let number (n : Nat) : Got := .one (Host.decimal n)
  match name with
  | ['@'] => .many s.args false
  | ['*'] => .many s.args true
  | ['#'] => number s.args.length
  | ['?'] => number s.status
  | ['$'] => number s.pid
  | ['-'] => .one s.letters
  | ['!'] => match s.lastJob with
    | some pid => number pid
    | none => .unset
  | ['0'] => .one s.name
  | c :: _ =>
    if c.isDigit then
      match (Host.natural? name).bind fun n => if n = 0 then some s.name else s.args[n - 1]? with
      | some a => .one a
      | none => .unset
    else match (valueOf? s name).bind Value.single? with
      | some t => .one t
      | none => .unset
  | [] => .unset

/-- An item of an array. -/
def item? (v : Value) (key : Str) : Sh (Option Str) := do
  match v with
  | .table l => return (l.find? fun e => e.1 = key).map Prod.snd
  | v => do
    let n ← Arithmetic.workOut key
    let l : List (Nat × Str) := match v with
      | .items l => l
      | .text t => [(0, t)]
      | .table _ => []
    let n := if n < 0 then ((l.getLast?.map fun e => (e.1 : Int) + 1).getD 0) + n else n
    return (l.find? fun e => (e.1 : Int) = n).map Prod.snd

/-- What a parameter with an index stands for. -/
def indexed (name key : Str) : Sh Got := do
  match valueOf? (← get) name with
  | none => return if key = ['@'] then .many [] false else if key = ['*'] then .many [] true else .unset
  | some v =>
    if key = ['@'] then return .many v.all false
    else if key = ['*'] then return .many v.all true
    else match ← item? v key with
      | some t => return .one t
      | none => return .unset

/-! ## Pieces -/

/-- Texts with gaps between them. -/
def spread (quoted splits : Bool) : List Str → List Piece
  | [] => []
  | [s] => [.text s quoted splits]
  | s :: rest => .text s quoted splits :: .gap :: spread quoted splits rest

/-- The text between joined parameters: the first separator of fields. -/
def joint (s : State) : Str :=
  match s.text? (str "IFS") with
  | some ifs => ifs.take 1
  | none => [' ']

/-- The pieces that a value gives. -/
def piecesOf (s : State) (set : Setting) (quoted : Bool) : Got → List Piece
  | .unset => [.text [] quoted (set.splits && !quoted)]
  | .one t => [.text t quoted (set.splits && !quoted)]
  | .many l joined =>
    if quoted && joined then [.text (Host.joinWith (joint s) l) true false]
    else if !set.splits then
      [.text (Host.joinWith (if joined || s.dialect = .basic then joint s else [' ']) l) quoted false]
    else spread quoted (!quoted) l

/-- Whether a value is not set, or is empty where that counts. -/
def isMissing (colon : Bool) : Got → Bool
  | .unset => true
  | .one t => colon && t = []
  | .many l _ => l = [] || (colon && l.all (· = []))

/-- A home directory. -/
def home? (s : State) (user : Str) : Option Str :=
  if user = [] then s.text? (str "HOME")
  else if user = str "root" then some (str "/root")
  else if user = ['+'] && s.dialect = .extended then s.text? (str "PWD")
  else if user = ['-'] && s.dialect = .extended then s.text? (str "OLDPWD")
  else none

/-- The pieces of characters of the word itself where a home directory may start. -/
def tilde (s : State) (set : Setting) (t : Str) : List Piece :=
  match t with
  | '~' :: rest =>
    let user := rest.takeWhile fun c => c ≠ '/' && !(set.assigns && c = ':')
    match home? s user with
    | some h => [.text h true false, .text (rest.drop user.length) false set.splitsAll]
    | none => [.text t false set.splitsAll]
  | t => [.text t false set.splitsAll]

/-- The pieces of unquoted characters of the word itself. -/
def characters (s : State) (set : Setting) (isFirst isLast : Bool) (t : Str) : List Piece :=
  -- a name of a user that goes on with something else is none
  let ends (t : Str) : Bool := isLast || t.any fun c => c = '/' || (set.assigns && c = ':')
  if set.assigns then
    let parts := Host.splitOn ':' t
    let pieces := parts.zipIdx.map fun (p, i) =>
      if (i ≠ 0 || isFirst) && (i + 1 ≠ parts.length || ends p) then tilde s set p
      else [.text p false set.splitsAll]
    match pieces with
    | [] => []
    | first :: more => first ++ more.flatMap fun ps => .text [':'] false set.splitsAll :: ps
  else if isFirst && ends t then tilde s set t
  else [.text t false set.splitsAll]

/-! ## Actions -/

/-- A text as code points where these are the characters. -/
def decoded (d : Dialect) (t : Str) : Str :=
  if d = .basic || t.all (fun c => c.toNat < 128) then t else Utf8.decodeLossyChars (Host.toBytes t)

/-- Code points as a text. -/
def encoded (d : Dialect) (t : Str) : Str :=
  if d = .basic || t.all (fun c => c.toNat < 128) then t else Host.ofBytes (Utf8.encodeChars t)

/-- Glyphs as code points where these are the characters. -/
def decodedGlyphs (d : Dialect) (gs : List Glyph) : List Glyph :=
  if d = .basic || gs.all (fun g => g.char.toNat < 128) then gs
  else
    let rec runs : Nat → List Glyph → List Glyph
      | 0, _ => []
      | _, [] => []
      | fuel + 1, g :: rest =>
        let same := rest.takeWhile fun h => h.isLiteral = g.isLiteral
        (decoded d ((g :: same).map Glyph.char)).map (fun c => ⟨c, g.isLiteral⟩) ++
          runs fuel (rest.drop same.length)
    runs (gs.length + 1) gs

/-- Change each text of a value. -/
def Got.map (f : Str → Str) : Got → Got
  | .unset => .unset
  | .one t => .one (f t)
  | .many l joined => .many (l.map f) joined

/-- How many there are of a value's texts, or of the characters of its only one. -/
def sizeOf (d : Dialect) : Got → Nat
  | .unset => 0
  | .one t => (decoded d t).length
  | .many l _ => l.length

/-- The part of a list from one place on, with so many members; both may count from the end. -/
def sliced {α : Type} (l : List α) (start : Int) (length : Option Int) : List α :=
  let n : Int := l.length
  let start := if start < 0 then n + start else start
  if start < 0 || n < start then []
  else
    let rest := l.drop start.toNat
    match length with
    | none => rest
    | some k => if k < 0 then rest.take ((rest.length : Int) + k).toNat else rest.take k.toNat

/-- The words of a replacement, in which an unquoted ampersand stands for what was found. -/
def filled (gs : List Glyph) (found : Str) : Str := gs.flatMap fun g =>
  if g.char = '&' && !g.isLiteral then found else [g.char]

/-- A text with matches replaced. -/
def replaced (place : Char) (p : Pattern) (new : List Glyph) (t : Str) : Str :=
  match place with
  | '#' =>
    match Pattern.longestStart? p t with
    | some n => filled new (t.take n) ++ t.drop n
    | none => t
  | '%' =>
    let kept := Pattern.dropEnd true p t
    if kept.length = t.length && !p.accepts [] then t else kept ++ filled new (t.drop kept.length)
  | c => if p.isEmpty then t else Pattern.replace p (c = '/') (filled new) (t.length + 1) t

/-- A text with the case of characters changed that a pattern accepts. -/
def recased (upper all : Bool) (p : Pattern) (t : Str) : Str :=
  let change (c : Char) : Char :=
    if p.isEmpty || p.accepts [c] then
      Char.ofNat (if upper then Host.Case.upperCode c.toNat else Host.Case.lowerCode c.toNat)
    else c
  if all then t.map change
  else match t with
    | c :: rest => change c :: rest
    | [] => []

/-- A text changed as a letter says. -/
def transformed (letter : Char) (t : Str) : Str :=
  match letter with
  | 'Q' => Requote.single t
  | 'U' => recased true true [] t
  | 'L' => recased false true [] t
  | 'u' => recased true false [] t
  | _ => t

/-- Complain that a parameter is not set. -/
def refuseUnset {α : Type} (name : Str) : Sh α := do
  if ← Sh.isExtended then Sh.refuse 127 (name ++ str ": unbound variable")
  else Sh.refuse 2 (name ++ str ": parameter not set")

/-- Complain that an expansion is none. -/
def refuseBad {α : Type} (name : Str) : Sh α := do
  if ← Sh.isExtended then Sh.refuse 1 (name ++ str ": bad substitution")
  else Sh.refuse 2 (str "Bad substitution")

/-- Split the output of a command off the line breaks at its end. -/
def output (t : Str) : Str := Host.dropEnd (· = '\n') (t.filter (· ≠ '\x00'))

/-- The pieces of a part, given a way to expand the words inside of it. -/
def part (h : Hooks) (inner : Setting → Word → Sh (List Piece)) (set : Setting)
    (isFirst isLast : Bool) : Part → Sh (List Piece)
  | .literal true t => return [.text t true false]
  | .literal false t => return characters (← get) set isFirst isLast t
  | .command quoted body => do
    return [.text (output (← h.capture body)) quoted (set.splits && !quoted)]
  | .process reads body => return [.text (← h.connect reads body) true false]
  | .arithmetic quoted e => do
    let text := Piece.join (← inner .whole e)
    return [.text (Host.decimal (← Arithmetic.workOut text)) quoted (set.splits && !quoted)]
  | .parameter quoted name index action => do
    let text (w : Word) : Sh Str := return Piece.join (← inner .whole w)
    let pattern (w : Word) : Sh Pattern := do
      let d := (← get).dialect
      return Pattern.ofGlyphs (d = .extended) (decodedGlyphs d (Piece.glyphs (← inner .whole w)))
    let key ← match index with
      | none => pure none
      | some w => pure (some (← text w))
    let got (name : Str) (key : Option Str) : Sh Got := do
      match key with
      | none => return parameter (← get) name
      | some k => indexed name k
    let shown (g : Got) : Sh (List Piece) := return piecesOf (← get) set quoted g
    let demanded (g : Got) : Sh Got := do
      match g with
      | .unset => if (← get).options.demandsValues then refuseUnset name else return g
      | g => return g
    let onTexts (f : Str → Str) (g : Got) : Sh Got := do
      let d := (← get).dialect
      return g.map fun t => encoded d (f (decoded d t))
    let rec act (g : Got) : Action → Sh (List Piece)
      | .plain => do shown (← demanded g)
      | .bad => refuseBad name
      | .length => do
        match name, index with
        | ['@'], none => shown (.one (Host.decimal (← get).args.length))
        | ['*'], none => shown (.one (Host.decimal (← get).args.length))
        | _, _ => shown (.one (Host.decimal (sizeOf (← get).dialect (← demanded g))))
      | .fallback kind colon w => do
        let missing := isMissing colon g
        let word : Sh (List Piece) :=
          inner { set with splitsAll := set.splits && !quoted } w
        match kind with
        | .use => if missing then word else shown g
        | .instead => if missing then return [.text [] quoted (set.splits && !quoted)] else word
        | .assign =>
          if !missing then shown g
          else if !Host.isName name then
            if ← Sh.isExtended then
              Sh.refuse 1 ('$' :: name ++ str ": cannot assign in this way")
            else Sh.refuse 2 (name ++ str ": bad variable name")
          else
            let t ← text w
            Arithmetic.store name key t
            shown (.one t)
        | .refuse =>
          if !missing then shown g
          else
            let extended ← Sh.isExtended
            let said := Piece.join (← inner set w)
            let words := if said ≠ [] then said
              else match extended, colon with
                | true, true => str "parameter null or not set"
                | false, true => str "parameter not set or null"
                | _, false => str "parameter not set"
            Sh.refuse (if extended then 127 else 2) (name ++ str ": " ++ words)
      | .trim atEnd longest w => do
        let p ← pattern w
        shown (← onTexts (if atEnd then Pattern.dropEnd longest p else Pattern.dropStart longest p)
          (← demanded g))
      | .replace place w new => do
        let p ← pattern w
        let new := decodedGlyphs (← get).dialect (Piece.glyphs (← inner .whole new))
        shown (← onTexts (replaced place p new) (← demanded g))
      | .recase upper all w => do
        let p ← pattern w
        shown (← onTexts (recased upper all p) (← demanded g))
      | .transform letter => do shown (← onTexts (transformed letter) (← demanded g))
      | .slice start length => do
        let s ← get
        let start ← Arithmetic.workOut (← text start)
        let length ← match length with
          | none => pure none
          | some w => pure (some (← Arithmetic.workOut (← text w)))
        match g with
        | .many l joined => do
          let l := if name = ['@'] || name = ['*'] then s.name :: l else l
          shown (.many (sliced l start length) joined)
        | g => do shown (← onTexts (fun t => sliced t start length) (← demanded g))
      | .namesLike => do
        let names := ((← get).bindings.map Prod.fst).filter name.isPrefixOf
        shown (.many (names.mergeSort fun a b => !decide (b < a)) false)
      | .indirect a => do
        if key = some ['@'] || key = some ['*'] then
          match valueOf? (← get) name with
          | some v => shown (.many v.indices (key = some ['*']))
          | none => return []
        else match ← demanded g with
          | .one target =>
            let (base, inside) := Host.cut '[' target
            act (← got base (inside.map List.dropLast)) a
          | _ => act .unset a
    act (← got name key) action

/-- The pieces of a word, with words at most so deep inside of each other. -/
def piecesWithin (h : Hooks) : Nat → Setting → Word → Sh (List Piece)
  | 0, _, _ => return []
  | depth + 1, set, w => do
    let rec go (isFirst : Bool) : Word → Sh (List Piece)
      | [] => return []
      | [p] => part h (piecesWithin h depth) set isFirst true p
      | p :: rest => do
        let ps ← part h (piecesWithin h depth) set isFirst false p
        return ps ++ (← go false rest)
    go true w

/-- The pieces of a word. -/
def pieces (h : Hooks) (set : Setting) (w : Word) : Sh (List Piece) := piecesWithin h 64 set w

/-- A word as one text. -/
def single (h : Hooks) (w : Word) : Sh Str := return Piece.join (← pieces h .whole w)

/-- The value of an assignment. -/
def value (h : Hooks) (w : Word) : Sh Str := return Piece.join (← pieces h .value w)

/-- A word as a pattern. -/
def pattern (h : Hooks) (w : Word) : Sh Pattern := do
  let gs := Piece.glyphs (← pieces h .whole w)
  let d := (← get).dialect
  return Pattern.ofGlyphs (d = .extended) (decodedGlyphs d gs)

/-! ## Braces -/

/-- A character of a word, or a part that is none. -/
inductive Atom where
  | char (c : Char) (quoted : Bool)
  | part (p : Part)

/-- A word as characters and other parts. -/
def atoms (w : Word) : List Atom := w.flatMap fun p => match p with
  | .literal quoted s => if s = [] then [.part p] else s.map fun c => .char c quoted
  | p => [.part p]

/-- Characters and other parts as a word. -/
def ofAtoms (as : List Atom) : Word := as.foldr (fun a w => match a, w with
  | .char c q, .literal q' s :: rest =>
    if q = q' && s ≠ [] then .literal q (c :: s) :: rest else .literal q [c] :: w
  | .char c q, w => .literal q [c] :: w
  | .part p, w => p :: w) []

/-- What stands between braces, split at its commas, and what follows; none if no brace closes. -/
def alternatives : Nat → List Atom → List (List Atom) → List Atom →
    Option (List (List Atom) × List Atom)
  | _, current, done, [] => let _ := (current, done); none
  | depth, current, done, a :: rest =>
    match a with
    | .char '\x7b' false => alternatives (depth + 1) (a :: current) done rest
    | .char '\x7d' false =>
      match depth with
      | 0 => some ((current.reverse :: done).reverse, rest)
      | depth + 1 => alternatives depth (a :: current) done rest
    | .char ',' false =>
      if depth = 0 then alternatives depth [] (current.reverse :: done) rest
      else alternatives depth (a :: current) done rest
    | a => alternatives depth (a :: current) done rest

/-- The numbers or letters of a range, if the text between braces is one. -/
def range? (as : List Atom) : Option (List Str) :=
  let text := as.filterMap fun a => match a with
    | .char c false => some c
    | _ => none
  if text.length ≠ as.length then none
  else
    let rec parts : Str → Str → List Str
      | [], acc => [acc.reverse]
      | '.' :: '.' :: rest, acc => acc.reverse :: parts rest []
      | c :: rest, acc => parts rest (c :: acc)
    let between (a b : Int) (step : Nat) : List Int :=
      let n := ((b - a).natAbs / (max step 1)) + 1
      (List.range n).map fun (i : Nat) =>
        if a ≤ b then a + (i * max step 1 : Nat) else a - (i * max step 1 : Nat)
    let width (a b : Str) : Nat :=
      let padded (s : Str) : Bool := match s with
        | '0' :: _ :: _ => true
        | '-' :: '0' :: _ :: _ => true
        | _ => false
      if padded a || padded b then max a.length b.length else 0
    let numbers (a b : Str) (step : Nat) : Option (List Str) := do
      let m ← Host.integer? a
      let n ← Host.integer? b
      let w := width a b
      return (between m n step).map fun i =>
        if i < 0 then '-' :: Host.padZero (w - 1) i.natAbs else Host.padZero w i.natAbs
    let letters (a b : Str) (step : Nat) : Option (List Str) :=
      match a, b with
      | [c], [d] =>
        if c.isAlpha && d.isAlpha then
          some ((between c.toNat d.toNat step).map fun i => [Char.ofNat i.toNat])
        else none
      | _, _ => none
    match parts text [] with
    | [a, b] => (numbers a b 1).orElse fun _ => letters a b 1
    | [a, b, s] => (Host.integer? s).bind fun k =>
      (numbers a b k.natAbs).orElse fun _ => letters a b k.natAbs
    | _ => none

/-- The words that a word with braces stands for. -/
def bracesWithin : Nat → List Atom → List (List Atom)
  | 0, as => [as]
  | _, [] => [[]]
  | fuel + 1, .char '\x7b' false :: rest =>
    match alternatives 0 [] [] rest with
    | some ([only], after) =>
      match range? only with
      | some texts =>
        let ends := bracesWithin fuel after
        texts.flatMap fun t => ends.map (t.map (fun c => Atom.char c false) ++ ·)
      | none => (bracesWithin fuel rest).map (.char '\x7b' false :: ·)
    | some (parts, after) =>
      let ends := bracesWithin fuel after
      parts.flatMap fun p => (bracesWithin fuel p).flatMap fun front => ends.map (front ++ ·)
    | none => (bracesWithin fuel rest).map (.char '\x7b' false :: ·)
  | fuel + 1, a :: rest => (bracesWithin fuel rest).map (a :: ·)

/-- The words that a word with braces stands for. -/
def braces (w : Word) : List Word :=
  let hasBrace := w.any fun p => match p with
    | .literal false s => s.contains '\x7b'
    | _ => false
  if hasBrace then
    let as := atoms w
    (bracesWithin (as.length + 1) as).map ofAtoms
  else [w]

/-! ## Fields -/

/-- The fields of a word. -/
def wordFields (h : Hooks) (w : Word) : Sh (List Str) := do
  match w.bare? with
  | some t =>
    if t.all fun c => c.isAlphanum || "-_./=:,+@%".toList.contains c then return [t]
  | none => pure ()
  let ps ← pieces h .words w
  let s ← get
  let fields := Field.fields s.separators ps
  if s.options.literalPatterns then return fields.map Field.text
  else return fields.flatMap (Field.names s.host.files (s.dialect = .extended))

/-- The fields of words. -/
def fields (h : Hooks) (ws : List Word) : Sh (List Str) := do
  let extended ← Sh.isExtended
  let ws := if extended then ws.flatMap braces else ws
  return (← ws.mapM (wordFields h)).flatten

end Expansion

end StaleBuild.Shell
