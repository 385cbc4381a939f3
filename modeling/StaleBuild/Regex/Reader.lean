import StaleBuild.Regex.Basic

/-!
Regular expressions as users write them, in the basic and in the extended syntax. In the basic one
brackets, braces and some operators stand behind a backslash.
-/

namespace StaleBuild.Regex

open Host (Str)

/-- Which characters are operators. -/
structure Style where
  extended : Bool
  /-- Escapes for control characters are known, and a backslash escapes in sets too. -/
  escapes : Bool
  /-- In the extended syntax, an operator with nothing to repeat is passed over and a brace that opens
  no bounds stands for itself; otherwise both are faults. -/
  loose : Bool
  /-- In the extended syntax, a closing bracket that closes nothing stands for itself. -/
  closes : Bool
  /-- In the basic syntax, what is repeated already cannot be repeated once more. -/
  once : Bool

namespace Reader

/-- Why an expression cannot be read. -/
inductive Fault where
  | bracket
  | group
  | closing
  | brace
  | content
  | order
  | size
  | trailing
  | preceding
  | reference
  | range
  | cls
deriving DecidableEq

/-- The usual words for a fault. -/
def Fault.words : Fault → String
  | .bracket => "Unmatched [, [^, [:, [., or [="
  | .group => "Unmatched ( or \\("
  | .closing => "Unmatched ) or \\)"
  | .brace => "Unmatched \\\x7b"
  | .content => "Invalid content of \\\x7b\\\x7d"
  | .order => "Invalid content of \\\x7b\\\x7d"
  | .size => "Regular expression too big"
  | .trailing => "Trailing backslash"
  | .preceding => "Invalid preceding regular expression"
  | .reference => "Invalid back reference"
  | .range => "Invalid range end"
  | .cls => "Invalid character class name"

/-- Reading: the rest of the text and the number of groups that have been opened. -/
structure Rest where
  text : Str
  groups : Nat
  /-- The groups that are complete. -/
  closed : List Nat

abbrev Reading := StateT Rest (Except Fault)

/-- The operators of an expression. -/
inductive Op where
  | char (bytes : Str)
  | any
  | opening
  | closing
  | bar
  | star
  | plus
  | option
  | brace
  | bracket
  | caret
  | dollar
  | back (n : Nat)
  | expr (e : Expr)

/-- The character of an escape. -/
def control? (c : Char) : Option Char :=
  match c with
  | 'n' => some '\n'
  | 't' => some '\t'
  | 'r' => some '\r'
  | 'f' => some '\x0c'
  | 'v' => some '\x0b'
  | 'a' => some '\x07'
  | _ => none

/-- The set of the characters of words. -/
def wordSet (negated : Bool) : Expr := .set negated [.cls (Host.str "alnum"), .range 95 95]

/-- The set of white space. -/
def spaceSet (negated : Bool) : Expr := .set negated [.cls (Host.str "space")]

/-- What stands behind a backslash. -/
def escaped (x : Style) (c : Char) : Op :=
  match c with
  | 'w' => .expr (wordSet false)
  | 'W' => .expr (wordSet true)
  | 's' => .expr (spaceSet false)
  | 'S' => .expr (spaceSet true)
  | 'b' => .expr (.place .boundary)
  | 'B' => .expr (.place .noBoundary)
  | '<' => .expr (.place .wordStart)
  | '>' => .expr (.place .wordEnd)
  | '\'' => .expr (.place .finish)
  | c =>
    if c = Char.ofNat 96 then .expr (.place .start)
    else if '1' ≤ c && c ≤ '9' then .back (c.toNat - 48)
    else if x.escapes && (control? c).isSome then .char [(control? c).getD c]
    else if x.extended then .char [c]
    else match c with
      | '(' => .opening
      | ')' => .closing
      | '\x7b' => .brace
      | '|' => .bar
      | '+' => .plus
      | '?' => .option
      | c => .char [c]

/-- What a character without a backslash stands for. -/
def plain (x : Style) (c : Char) : Option Op :=
  match c with
  | '.' => some .any
  | '*' => some .star
  | '[' => some .bracket
  | '^' => some .caret
  | '$' => some .dollar
  | c =>
    if x.extended then
      match c with
      | '(' => some .opening
      | ')' => some .closing
      | '\x7b' => some .brace
      | '|' => some .bar
      | '+' => some .plus
      | '?' => some .option
      | _ => none
    else none

/-- The next operator and the text behind it; none at the end. -/
def next? (x : Style) (s : Str) : Except Fault (Option (Op × Str)) :=
  match s with
  | [] => .ok none
  | ['\\'] => .error .trailing
  | '\\' :: c :: rest => .ok (some (escaped x c, rest))
  | c :: rest =>
    match plain x c with
    | some op => .ok (some (op, rest))
    | none =>
      let w := widthOf s
      .ok (some (.char (s.take w), s.drop w))

/-! ## Sets -/

/-- The text up to a mark of two characters, and what follows it. -/
def upTo (a b : Char) : Str → Str → Option (Str × Str)
  | _, [] => none
  | taken, c :: rest =>
    if c = a && rest.head? = some b then some (taken.reverse, rest.tail) else upTo a b (c :: taken) rest

def classNames : List String :=
  ["alpha", "digit", "alnum", "upper", "lower", "space", "blank", "punct", "print", "graph", "cntrl",
    "xdigit"]

/-- One character in a set, or a class, and what follows it. -/
def member (x : Style) (s : Str) : Except Fault (Item × Str) :=
  match s with
  | '[' :: ':' :: rest =>
    match upTo ':' ']' [] rest with
    | some (name, rest) =>
      if classNames.any fun n => n.toList = name then .ok (.cls name, rest) else .error .cls
    | none => .error .bracket
  | '[' :: '=' :: rest =>
    match upTo '=' ']' [] rest with
    | some (name, rest) => .ok (.range (codeOf name) (codeOf name), rest)
    | none => .error .bracket
  | '[' :: '.' :: rest =>
    match upTo '.' ']' [] rest with
    | some (name, rest) => .ok (.range (codeOf name) (codeOf name), rest)
    | none => .error .bracket
  | '\\' :: c :: rest =>
    let code (d : Char) : Item := .range d.toNat d.toNat
    if x.escapes && (x.extended || c = 'n' || c = 't') && (control? c).isSome then
      .ok (code ((control? c).getD c), rest)
    else if x.escapes && x.extended then .ok (code c, rest)
    else .ok (code '\\', c :: rest)
  | s =>
    let w := widthOf s
    let n := codeOf (s.take w)
    .ok (.range n n, s.drop w)

/-- The members of a set up to its closing bracket. -/
def members (x : Style) : Nat → Bool → Str → List Item → Except Fault (List Item × Str)
  | 0, _, _, _ => .error .bracket
  | fuel + 1, isFirst, s, items =>
    match s with
    | [] => .error .bracket
    | c :: rest =>
      if c = ']' && !isFirst then .ok (items.reverse, rest)
      else do
        let (item, after) ← member x s
        match item, after with
        | .range a _, '-' :: d :: more =>
          if d = ']' then members x fuel false after (item :: items)
          else
            let (last, after) ← member x (d :: more)
            match last with
            | .range b _ =>
              if b < a then .error .range
              else members x fuel false after (.range a b :: items)
            | _ => .error .range
        | _, _ => members x fuel false after (item :: items)

/-- The set behind an opening bracket. -/
def set (x : Style) (s : Str) : Except Fault (Expr × Str) :=
  let (negated, s) := match s with
    | '^' :: rest => (true, rest)
    | s => (false, s)
  (members x (s.length + 1) true s []).map fun (items, rest) => (.set negated items, rest)

/-! ## Repetitions -/

/-- So many times one behind the other. -/
def times (e : Expr) : Nat → Expr
  | 0 => .empty
  | 1 => e
  | n + 2 => .cat e (times e (n + 1))

/-- At most so many times. -/
def atMost (e : Expr) : Nat → Expr
  | 0 => .empty
  | n + 1 => .alt (.cat e (atMost e n)) .empty

/-- Between so many and so many times. -/
def repeated (e : Expr) (least : Nat) (most : Option Nat) : Expr :=
  match most with
  | none => if least = 0 then .star e else .cat (times e least) (.star e)
  | some most =>
    if least = 0 then atMost e most
    else if most = least then times e least
    else .cat (times e least) (atMost e (most - least))

/-- The largest bound. -/
def boundLimit : Nat := 32767

/-- What is wrong with bounds of which this is left: they never end, or they hold something else. -/
def spoilt (x : Style) : Str → Fault
  | [] => .brace
  | c :: rest =>
    if c = ',' || (x.extended && c = '\x7d') ||
        (!x.extended && c = '\\' && rest.head? = some '\x7d') then .content
    else spoilt x rest

/-- The bounds of a repetition behind its opening brace, and what follows the closing one. -/
def bounds (x : Style) (s : Str) : Except Fault (Nat × Option Nat × Str) :=
  let first := s.takeWhile Char.isDigit
  let after := s.drop first.length
  let closing (s : Str) : Except Fault Str :=
    if x.extended then
      match s with
      | '\x7d' :: rest => .ok rest
      | s => .error (spoilt x s)
    else match s with
      | '\\' :: '\x7d' :: rest => .ok rest
      | s => .error (spoilt x s)
  let n := Host.foldDigits 10 first
  match after with
  | ',' :: more =>
    let second := more.takeWhile Char.isDigit
    match closing (more.drop second.length) with
    | .error f => .error f
    | .ok rest =>
      if second = [] then (if boundLimit < n then .error .size else .ok (n, none, rest))
      else if Host.foldDigits 10 second < n then .error .order
      else if boundLimit < Host.foldDigits 10 second then .error .size
      else .ok (n, some (Host.foldDigits 10 second), rest)
  | after =>
    if first = [] then .error (spoilt x after)
    else match closing after with
      | .error f => .error f
      | .ok rest => if boundLimit < n then .error .size else .ok (n, some n, rest)

/-! ## Expressions -/

/-- The next operator, which is taken. -/
def take (x : Style) : Reading (Option Op) := do
  let r ← get
  match next? x r.text with
  | .error f => throw f
  | .ok none => return none
  | .ok (some (op, text)) => do
    StateT.set { r with text }
    return some op

/-- Whether an end of an expression stands next. -/
def atEnd (x : Style) (depth : Nat) (s : Str) : Bool :=
  match next? x s with
  | .ok none => true
  | .ok (some (.bar, _)) => true
  | .ok (some (.closing, _)) => 0 < depth || !x.extended
  | _ => false

/-- Repeat an expression as the operators behind it say; `isRepeated` tells that it is repeated
already. -/
def postfixes (x : Style) : Nat → Bool → Expr → Reading Expr
  | 0, _, e => return e
  | fuel + 1, isRepeated, e => do
    let r ← get
    let isRefused := x.once && !x.extended && isRepeated
    match next? x r.text with
    | .ok (some (.star, text)) => do
      if isRefused then throw .preceding
      StateT.set { r with text }
      postfixes x fuel true (.star e)
    | .ok (some (.plus, text)) => do
      StateT.set { r with text }
      postfixes x fuel true (.cat e (.star e))
    | .ok (some (.option, text)) => do
      StateT.set { r with text }
      postfixes x fuel true (.alt e .empty)
    | .ok (some (.brace, text)) =>
      if isRefused then throw .preceding
      match bounds x text with
      | .ok (least, most, text) => do
        StateT.set { r with text }
        postfixes x fuel true (repeated e least most)
      | .error f => if x.extended && x.loose && f ≠ .order && f ≠ .size then return e else throw f
    | _ => return e

/-- One branch of an expression, given a reader for what stands in brackets. -/
def branch (x : Style) (depth : Nat) (inner : Reading Expr) : Nat → Bool → List Expr → Reading (List Expr)
  | 0, _, es => return es.reverse
  | fuel + 1, isFirst, es => do
    let r ← get
    if atEnd x depth r.text then return es.reverse
    else
      let again (e : Expr) : Reading (List Expr) := do
        let n := (← get).text.length + 1
        branch x depth inner fuel false ((← postfixes x n false e) :: es)
      let place (p : Place) : Reading (List Expr) :=
        if x.extended then branch x depth inner fuel isFirst (.place p :: es)
        else branch x depth inner fuel true (.place p :: es)
      -- an operator that has nothing to repeat
      let lead (c : Char) : Reading (List Expr) :=
        if !x.extended then again (.char [c])
        else if x.loose then branch x depth inner fuel isFirst es
        else throw .preceding
      match ← take x with
      | none => return es.reverse
      | some op =>
        match op with
        | .char bytes => again (.char bytes)
        | .any => again .any
        | .expr e => again e
        | .back n =>
          if r.closed.contains n then again (.back n) else throw .reference
        | .bracket => do
          let s ← get
          match set x s.text with
          | .error f => throw f
          | .ok (e, text) => do
            StateT.set { s with text }
            again e
        | .opening => do
          let n := r.groups + 1
          modify fun s => { s with groups := n }
          let e ← inner
          match ← take x with
          | some .closing => do
            modify fun s => { s with closed := n :: s.closed }
            again (.group n e)
          | _ => throw .group
        | .closing => if x.extended && x.closes then again (.char [')']) else throw .closing
        | .caret =>
          if x.extended || isFirst then place .start else again (.char ['^'])
        | .dollar => do
          if x.extended || atEnd x depth (← get).text then place .finish else again (.char ['$'])
        | .star => lead '*'
        | .plus => lead '+'
        | .option => lead '?'
        | .brace =>
          if !x.extended && x.once then throw .preceding
          match bounds x (← get).text with
          | .error f =>
            if !x.extended || (x.loose && f ≠ .order && f ≠ .size) then again (.char ['\x7b']) else throw f
          | .ok (_, _, text) =>
            if x.extended then
              if x.loose then
                modify fun r => { r with text }
                branch x depth inner fuel isFirst es
              else throw .preceding
            else again (.char ['\x7b'])
        | .bar => return es.reverse

/-- Expressions one behind the other. -/
def joined : List Expr → Expr
  | [] => .empty
  | [e] => e
  | e :: rest => .cat e (joined rest)

/-- Alternatives, given a reader for what stands in brackets. -/
def alternatives (x : Style) (depth : Nat) (inner : Reading Expr) : Nat → Reading Expr
  | 0 => return .empty
  | fuel + 1 => do
    let n := (← get).text.length + 1
    let e := joined (← branch x depth inner n true [])
    let r ← get
    match next? x r.text with
    | .ok (some (.bar, text)) => do
      StateT.set { r with text }
      return .alt e (← alternatives x depth inner fuel)
    | _ => return e

/-- An expression with brackets at most so deep. -/
def nested (x : Style) : Nat → Nat → Reading Expr
  | 0, _ => throw .group
  | fuel + 1, depth => do
    let n := (← get).text.length + 1
    alternatives x depth (nested x fuel (depth + 1)) n

/-- Read an expression. -/
def read (x : Style) (s : Str) : Except Fault Expr :=
  match (nested x (s.length + 1) 0).run ⟨s, 0, []⟩ with
  | .error f => .error f
  | .ok (e, r) => if r.text = [] then .ok e else .error .closing

/-- The basic syntax. -/
def basic : Style := ⟨false, false, false, true, false⟩

/-- The extended syntax. -/
def extended : Style := ⟨true, false, false, true, false⟩

end Reader

end StaleBuild.Regex
