import StaleBuild.Host.Case

/-!
Regular expressions and what they match. Of all matches the leftmost one counts, and of those that
start there the longest. An expression is matched at a place by listing the places where it can end,
the preferred one first; of two ways to the same place the first one is kept, so the list is never
longer than the text.

The utilities that a command may start search by these expressions. They serve the running program, and
no theorem about builds depends on them.
-/

namespace StaleBuild

open Host (Str)

namespace Regex

/-- A member of a set of characters. -/
inductive Item where
  /-- The characters from one code to another one. -/
  | range (first last : Nat)
  | cls (name : Str)
deriving DecidableEq

/-- A condition on a place. -/
inductive Place where
  | start
  | finish
  | boundary
  | noBoundary
  | wordStart
  | wordEnd
deriving DecidableEq

/-- A regular expression. -/
inductive Expr where
  | empty
  /-- A character, as its bytes. -/
  | char (bytes : Str)
  | any
  | set (negated : Bool) (items : List Item)
  | place (p : Place)
  | cat (a b : Expr)
  | alt (a b : Expr)
  /-- Any number of times. -/
  | star (e : Expr)
  | group (n : Nat) (e : Expr)
  | back (n : Nat)
deriving Inhabited

/-- How expressions are matched. -/
structure Setting where
  ignoresCase : Bool
  /-- Line breaks in the text end lines. -/
  multiline : Bool

/-- A place in a text. -/
structure Spot where
  index : Nat
  /-- The character in front of it. -/
  before : Option Char
  rest : Str
  /-- Where groups have matched, the latest first. -/
  groups : List (Nat × Nat × Str)

namespace Spot

/-- The place so many characters further on. -/
def forward (s : Spot) (n : Nat) : Spot :=
  if n = 0 then s
  else { s with
    index := s.index + n
    before := (s.rest.take n).getLast?
    rest := s.rest.drop n }

end Spot

/-! ## Characters -/

/-- The code of a character given as its bytes. -/
def codeOf : Str → Nat
  | [c] => c.toNat
  | g => ((Utf8.decodeLossyChars (Host.toBytes g)).head?.map Char.toNat).getD 0

/-- How many bytes the first character of a text takes. -/
def widthOf (s : Str) : Nat :=
  match s with
  | [] => 0
  | c :: rest =>
    if c.toNat < 128 then 1
    else
      let w := Host.leadWidth c
      if (rest.take (w - 1)).length = w - 1 && (rest.take (w - 1)).all fun d => d.toNat / 64 = 2 then w
      else 1

/-- Whether a character belongs to words. -/
def isWordChar (c : Char) : Bool := c.isAlphanum || c = '_' || 128 ≤ c.toNat

/-- Whether a code belongs to a class. -/
def inClass (name : Str) (n : Nat) : Bool :=
  let c := Char.ofNat n
  let ascii := n < 128
  match Host.word name with
  | "alpha" => if ascii then c.isAlpha else true
  | "digit" => c.isDigit
  | "alnum" => if ascii then c.isAlphanum else true
  | "upper" => c.isUpper
  | "lower" => c.isLower
  | "space" => ascii && Host.isSpace c
  | "blank" => c = ' ' || c = '\t'
  | "punct" => ascii && 33 ≤ n && n < 127 && !c.isAlphanum
  | "print" => if ascii then 32 ≤ n && n < 127 else true
  | "graph" => if ascii then 33 ≤ n && n < 127 else true
  | "cntrl" => n < 32 || n = 127
  | "xdigit" => Host.isDigitIn 16 c && ascii
  | _ => false

/-- Whether a code is a member. -/
def Item.has (n : Nat) : Item → Bool
  | .range first last => first ≤ n && n ≤ last
  | .cls name => inClass name n

/-- Whether a set has a code. -/
def setHas (k : Setting) (negated : Bool) (items : List Item) (n : Nat) : Bool :=
  let has := items.any (Item.has n) || (k.ignoresCase && items.any (Item.has (Host.Case.otherCode n)))
  has != negated

/-- Whether a character matches another one. -/
def sameChar (k : Setting) (a b : Char) : Bool :=
  a = b || (k.ignoresCase && a.toLower = b.toLower)

/-- Whether a text starts with another one. -/
def startsWith (k : Setting) : Str → Str → Bool
  | [], _ => true
  | _ :: _, [] => false
  | a :: as, b :: bs => sameChar k a b && startsWith k as bs

/-- How many bytes an expression of one character takes at the start of a text, if it matches. -/
def single? (k : Setting) (e : Expr) (rest : Str) : Option Nat :=
  match e with
  | .char bytes =>
    if k.ignoresCase && bytes.any fun c => 128 ≤ c.toNat then
      let w := widthOf rest
      if Host.Case.lowerCode (codeOf bytes) = Host.Case.lowerCode (codeOf (rest.take w)) then some w
      else none
    else if startsWith k bytes rest then some bytes.length
    else none
  | .any =>
    match rest with
    | [] => none
    | '\n' :: _ => if k.multiline then none else some 1
    | _ :: _ => some (widthOf rest)
  | .set negated items =>
    match rest with
    | [] => none
    | _ :: _ =>
      let w := widthOf rest
      if setHas k negated items (codeOf (rest.take w)) then some w else none
  | _ => none

/-- Whether an expression stands for one character. -/
def isSingle : Expr → Bool
  | .char _ => true
  | .any => true
  | .set .. => true
  | _ => false

/-! ## Places -/

/-- Whether a condition holds at a place. -/
def holds (k : Setting) (s : Spot) : Place → Bool
  | .start => s.before.isNone || (k.multiline && s.before = some '\n')
  | .finish => s.rest = [] || (k.multiline && s.rest.head? = some '\n')
  | p =>
    let left := (s.before.map isWordChar).getD false
    let right := (s.rest.head?.map isWordChar).getD false
    match p with
    | .boundary => left != right
    | .noBoundary => left == right
    | .wordStart => !left && right
    | _ => left && !right

/-! ## Ends -/

/-- Places without those whose index is there already. -/
def distinct : List Spot → List Nat → List Spot
  | [], _ => []
  | s :: rest, seen =>
    if seen.contains s.index then distinct rest seen else s :: distinct rest (s.index :: seen)

/-- The places behind runs of one character, the longest run first. -/
def runs (k : Setting) (e : Expr) : Nat → Spot → List Spot → List Spot
  | 0, s, taken => s :: taken
  | fuel + 1, s, taken =>
    match single? k e s.rest with
    | some n => if n = 0 then s :: taken else runs k e fuel (s.forward n) (s :: taken)
    | none => s :: taken

/-- Go on from places that have not been visited, each one listed behind those reached from it. The
second list is that of the visited indices. -/
def closure (step : Spot → List Spot) : Nat → List Spot → List Nat → List Spot × List Nat
  | 0, _, seen => ([], seen)
  | _ + 1, [], seen => ([], seen)
  | fuel + 1, s :: others, seen =>
    if seen.contains s.index then closure step fuel others seen
    else
      let (reached, seen) := closure step fuel (step s) (s.index :: seen)
      let (further, seen) := closure step fuel others seen
      (reached ++ s :: further, seen)

/-- The places where an expression can end that starts at a place, the preferred one first. -/
def ends (k : Setting) : Expr → Spot → List Spot
  | .empty, s => [s]
  | .place p, s => if holds k s p then [s] else []
  | .cat a b, s => distinct ((ends k a s).flatMap fun t => ends k b t) []
  | .alt a b, s => distinct (ends k a s ++ ends k b s) []
  | .star e, s =>
    if isSingle e then runs k e (s.rest.length + 1) s []
    else (closure (ends k e) (2 * s.rest.length + 4) [s] []).1
  | .group n e, s =>
    (ends k e s).map fun t => { t with
      groups := (n, s.index, s.rest.take (t.index - s.index)) :: t.groups }
  | .back n, s =>
    match s.groups.find? fun g => g.1 = n with
    | some (_, _, text) => if startsWith k text s.rest then [s.forward text.length] else []
    | none => []
  | e, s =>
    match single? k e s.rest with
    | some n => [s.forward n]
    | none => []

/-! ## Matches -/

/-- The place that is furthest on; of equal ones the first. -/
def furthest : List Spot → Option Spot
  | [] => none
  | s :: rest =>
    match furthest rest with
    | some t => some (if s.index < t.index then t else s)
    | none => some s

/-- A match: where it starts and ends, and its groups. -/
structure Match where
  first : Nat
  last : Nat
  groups : List (Nat × Nat × Str)

namespace Match

/-- The text of a group. -/
def group (m : Match) (n : Nat) : Option Str :=
  (m.groups.find? fun g => g.1 = n).map fun g => g.2.2

end Match

/-- What has to stand at the start of each match, if that is one character. -/
def lead? : Expr → Option Char
  | .char (c :: _) => some c
  | .cat a _ => lead? a
  | .group _ e => lead? e
  | _ => none

/-- Whether an expression can only match at the start of a text. -/
def isAnchored : Expr → Bool
  | .place .start => true
  | .cat a _ => isAnchored a
  | .group _ e => isAnchored e
  | _ => false

/-- The first match at a place or behind it. -/
def searchWithin (k : Setting) (e : Expr) (lead : Option Char) : Nat → Spot → Option Match
  | 0, _ => none
  | fuel + 1, s =>
    let isPossible : Bool := match lead, s.rest with
      | some c, d :: _ => c = d
      | some _, [] => false
      | none, _ => true
    match if isPossible then furthest (ends k e s) else none with
    | some t => some ⟨s.index, t.index, t.groups⟩
    | none =>
      match s.rest with
      | [] => none
      | c :: rest =>
        if !k.multiline && isAnchored e then none
        else searchWithin k e lead fuel { s with index := s.index + 1, before := some c, rest }

/-- The first match in a text from a place on that is not its start if something is in front of it. -/
def searchFrom (k : Setting) (e : Expr) (index : Nat) (before : Option Char) (rest : Str) :
    Option Match :=
  searchWithin k e (if k.ignoresCase then none else lead? e) (rest.length + 1)
    ⟨index, before, rest, []⟩

/-- The first match in a text. -/
def search (k : Setting) (e : Expr) (s : Str) : Option Match := searchFrom k e 0 none s

/-- Whether an expression matches somewhere in a text. -/
def matches? (k : Setting) (e : Expr) (s : Str) : Bool := (search k e s).isSome

end Regex

end StaleBuild
