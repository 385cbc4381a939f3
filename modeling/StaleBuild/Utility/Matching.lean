import StaleBuild.Host.Options
import StaleBuild.Regex.Reader
import StaleBuild.Shell.Pattern

/-!
The utility `grep`, which selects lines by patterns. Lines are selected one at a time; what is written
of them, with the lines around them, comes after.
-/

namespace StaleBuild.Utility

open Host (Str str Call Program Given)

namespace Grep

/-! ## Selection -/

/-- What is looked for in a line. -/
structure Needle where
  setting : Regex.Setting
  expr : Regex.Expr
  /-- A match is bounded by characters that do not belong to words. -/
  words : Bool
  /-- A match is the whole line. -/
  lines : Bool

/-- Whether a character does not belong to a word. -/
def bounds : Option Char → Bool
  | none => true
  | some c => !Regex.isWordChar c

/-- The first match that is bounded as a word at a place or behind it. -/
def wordFrom (k : Needle) : Nat → Regex.Spot → Option (Nat × Nat)
  | 0, _ => none
  | fuel + 1, s =>
    let good (t : Regex.Spot) : Bool := bounds s.before && bounds t.rest.head?
    match Regex.furthest ((Regex.ends k.setting k.expr s).filter good) with
    | some t => some (s.index, t.index)
    | none =>
      match s.rest with
      | [] => none
      | c :: rest => wordFrom k fuel { s with index := s.index + 1, before := some c, rest }

/-- The first match in a line at a place or behind it: where it starts and ends. -/
def Needle.find (k : Needle) (text : Str) (first : Nat) : Option (Nat × Nat) :=
  let before := if first = 0 then none else text[first - 1]?
  let spot : Regex.Spot := ⟨first, before, text.drop first, []⟩
  if k.lines then
    if first = 0 && (Regex.ends k.setting k.expr spot).any fun t => t.index = text.length then
      some (0, text.length)
    else none
  else if k.words then wordFrom k (text.length + 1) spot
  else (Regex.searchFrom k.setting k.expr first before spot.rest).map fun m => (m.first, m.last)

/-- All matches that are not empty, from a place on. -/
def Needle.all (k : Needle) (line : Str) : Nat → Nat → List (Nat × Nat)
  | 0, _ => []
  | fuel + 1, first =>
    match k.find line first with
    | none => []
    | some (a, b) =>
      if a = b then (if line.length ≤ a then [] else k.all line fuel (a + 1))
      else (a, b) :: k.all line fuel b

/-- A line with its number and its place in the file. -/
structure Line where
  number : Nat
  offset : Nat
  text : Str

/-- Lines with numbers and places. -/
def numbered (mark : Char) (text : Str) : List Line :=
  let parts := Host.splitOn mark text
  let parts := if parts.getLast? = some [] then parts.dropLast else parts
  ((parts.foldl (fun (acc : List Line × Nat × Nat) s =>
    (⟨acc.2.1 + 1, acc.2.2, s⟩ :: acc.1, acc.2.1 + 1, acc.2.2 + s.length + 1)) ([], 0, 0)).1).reverse

/-! ## Writing -/

/-- How selected lines are written. -/
structure Manner where
  inverted : Bool
  count : Bool
  /-- Only names of files with, or without, selected lines. -/
  names : Option Bool
  only : Bool
  quiet : Bool
  numbers : Bool
  offsets : Bool
  zeroBehindName : Bool
  mark : Char
  most : Option Nat
  before : Nat
  after : Nat
  around : Bool
  separator : Option Str
  asText : Bool
  skipsBinary : Bool

/-- What stands in front of a line. -/
def front (m : Manner) (name : Option Str) (separator : Char) (l : Line) (offset : Nat) : Str :=
  let field (s : Str) : Str := s ++ [separator]
  (match name with
    | some n => if m.zeroBehindName then n ++ ['\x00'] else field n
    | none => []) ++
  (if m.numbers then field (Host.decimal l.number) else []) ++
  (if m.offsets then field (Host.decimal offset) else [])

/-- The written form of a selected line. -/
def chosen (m : Manner) (k : Needle) (name : Option Str) (l : Line) : Str :=
  if m.only then
    if m.inverted then []
    else (k.all l.text (l.text.length + 2) 0).flatMap fun (a, b) =>
      front m name ':' l (l.offset + a) ++ (l.text.drop a).take (b - a) ++ [m.mark]
  else front m name ':' l l.offset ++ l.text ++ [m.mark]

/-- What has been written of a file, the latest first, and how the rest goes on. -/
structure Progress where
  out : List Str
  /-- How many lines have been selected. -/
  selected : Nat
  /-- Lines in front that may still be wanted, the latest first. -/
  waiting : List Line
  /-- How many lines behind the last selected one are still wanted. -/
  owed : Nat
  /-- The number of the last line that was written. -/
  last : Nat
  isOver : Bool

/-- Go on by a line. -/
def step (m : Manner) (k : Needle) (name : Option Str) (p : Progress) (l : Line) : Progress :=
  if p.isOver then p
  else
    let isSelected := (k.find l.text 0).isSome != m.inverted
    let full := m.most.any fun n => n ≤ p.selected
    if isSelected then
      if full then { p with isOver := true }
      else
        let lead := p.waiting.reverse
        let first := (lead.head?.map Line.number).getD l.number
        let gap := if m.around && p.last ≠ 0 && p.last + 1 < first then
            (match m.separator with
              | some s => s ++ ['\n']
              | none => [])
          else []
        let led := if m.only then [] else lead.flatMap fun w => front m name '-' w w.offset ++ w.text ++ [m.mark]
        { p with
          out := (gap ++ led ++ chosen m k name l) :: p.out
          selected := p.selected + 1, waiting := [], owed := m.after, last := l.number }
    else if 0 < p.owed then
      { p with
        out := (if m.only then [] else front m name '-' l l.offset ++ l.text ++ [m.mark]) :: p.out
        owed := p.owed - 1, last := l.number }
    else { p with waiting := (l :: p.waiting).take m.before, isOver := full }

/-- Whether a text is not one of characters. -/
def isBinary (text : Str) : Bool :=
  text.contains '\x00' || (Host.characters text).any fun g => match g with
    | [c] => 128 ≤ c.toNat
    | _ => false

/-- Select lines of a text; tells whether any was selected. -/
def sieve (c : Call) (m : Manner) (k : Needle) (shown : Str) (named : Bool) (text : Str) :
    Act Bool := do
  let name := if named then some shown else none
  let binary := !m.asText && isBinary text && m.mark = '\n'
  if binary && m.skipsBinary then
    if m.count then Act.say (front { m with numbers := false, offsets := false } name ':' ⟨0, 0, []⟩ 0 ++
      str "0\n")
    return false
  else
    let p := (numbered m.mark text).foldl (step m k name) ⟨[], 0, [], 0, 0, m.most = some 0⟩
    let found := 0 < p.selected
    if m.quiet then return found
    else match m.names with
      | some wanted =>
        if found = wanted then Act.say (shown ++ [if m.zeroBehindName then '\x00' else '\n'])
        return found
      | none =>
        if m.count then
          Act.say (front { m with numbers := false, offsets := false } name ':' ⟨0, 0, []⟩ 0 ++
            Host.decimal p.selected ++ ['\n'])
        else if binary then
          if found && !(m.only && m.inverted) then
            c.warn (shown ++ str ": binary file matches")
        else p.out.reverse.forM Act.say
        return found

/-! ## Patterns -/

/-- An alternative of several expressions. -/
def anyOf : List Regex.Expr → Regex.Expr
  | [] => .set false []
  | [e] => e
  | e :: rest => .alt e (anyOf rest)

/-- A text that matches itself. -/
def literal (s : Str) : Regex.Expr :=
  ((Host.characters s).map Regex.Expr.char).foldr
    (fun e rest => match rest with
      | .empty => e
      | rest => .cat e rest) .empty

/-- Whether an expression is a class written without its brackets. -/
def isBareClass (s : Str) : Bool :=
  match s with
  | '[' :: ':' :: rest => rest.reverse.take 2 = [']', ':'] && rest.all fun c => c ≠ '['
  | _ => false

/-- The warnings about operators that have nothing to repeat; `isStart` tells that nothing stands in
front of what is left. -/
def warnings : Nat → Bool → Str → List Str
  | 0, _, _ => []
  | _, _, [] => []
  | fuel + 1, isStart, c :: rest =>
    match c with
    | '\\' => warnings fuel false rest.tail
    | '[' =>
      let inner := match rest with
        | '^' :: ']' :: more => more
        | ']' :: more => more
        | more => more
      warnings fuel false ((inner.dropWhile (· ≠ ']')).drop 1)
    | '^' => warnings fuel isStart rest
    | c =>
      if isStart && (c = '*' || c = '+' || c = '?') then
        (c :: str " at start of expression") :: warnings fuel true rest
      else if isStart && c = '\x7b' then
        match Regex.Reader.bounds Regex.Reader.extended rest with
        | .ok (_, _, rest) => str "\x7b...\x7d at start of expression" :: warnings fuel true rest
        | .error _ => warnings fuel false rest
      else warnings fuel (c = '(' || c = '|') rest

/-- An expression with digits and plain groups spelled as the extended syntax does. -/
def spelled : Str → Str
  | '\\' :: 'd' :: rest => str "[0-9]" ++ spelled rest
  | '\\' :: 'D' :: rest => str "[^0-9]" ++ spelled rest
  | '\\' :: c :: rest => '\\' :: c :: spelled rest
  | '(' :: '?' :: ':' :: rest => '(' :: spelled rest
  | c :: rest => c :: spelled rest
  | [] => []

/-! ## The program -/

/-- The hint behind a wrong call. -/
def usage (c : Call) : Str :=
  str "Usage: " ++ c.name ++ str " [OPTION]... PATTERNS [FILE]...\nTry '" ++ c.name ++
    str " --help' for more information.\n"

/-- The options. -/
def options : Host.OptionTable :=
  ⟨"0123456789A:B:C:D:EFGHILPTUVX:abcd:e:f:hiLlm:noqRrsuvwxyZz",
    [⟨"after-context", .value, 'A'⟩, ⟨"basic-regexp", .nothing, 'G'⟩,
      ⟨"before-context", .value, 'B'⟩, ⟨"binary", .nothing, 'U'⟩, ⟨"binary-files", .value, '\x03'⟩,
      ⟨"byte-offset", .nothing, 'b'⟩, ⟨"color", .maybe, '\x04'⟩, ⟨"colour", .maybe, '\x04'⟩,
      ⟨"context", .value, 'C'⟩, ⟨"count", .nothing, 'c'⟩, ⟨"devices", .value, 'D'⟩,
      ⟨"directories", .value, 'd'⟩, ⟨"dereference-recursive", .nothing, 'R'⟩,
      ⟨"exclude", .value, '\x05'⟩, ⟨"exclude-dir", .value, '\x06'⟩, ⟨"exclude-from", .value, '\x07'⟩,
      ⟨"extended-regexp", .nothing, 'E'⟩, ⟨"file", .value, 'f'⟩,
      ⟨"files-with-matches", .nothing, 'l'⟩, ⟨"files-without-match", .nothing, 'L'⟩,
      ⟨"fixed-regexp", .nothing, 'F'⟩, ⟨"fixed-strings", .nothing, 'F'⟩,
      ⟨"group-separator", .value, '\x0b'⟩, ⟨"ignore-case", .nothing, 'i'⟩,
      ⟨"include", .value, '\x0e'⟩, ⟨"initial-tab", .nothing, 'T'⟩, ⟨"invert-match", .nothing, 'v'⟩,
      ⟨"label", .value, '\x0f'⟩, ⟨"line-buffered", .nothing, 'u'⟩, ⟨"line-number", .nothing, 'n'⟩,
      ⟨"line-regexp", .nothing, 'x'⟩, ⟨"max-count", .value, 'm'⟩,
      ⟨"no-filename", .nothing, 'h'⟩, ⟨"no-group-separator", .nothing, '\x10'⟩,
      ⟨"no-ignore-case", .nothing, '\x11'⟩, ⟨"no-messages", .nothing, 's'⟩,
      ⟨"null", .nothing, 'Z'⟩, ⟨"null-data", .nothing, 'z'⟩, ⟨"only-matching", .nothing, 'o'⟩,
      ⟨"perl-regexp", .nothing, 'P'⟩, ⟨"quiet", .nothing, 'q'⟩, ⟨"recursive", .nothing, 'r'⟩,
      ⟨"regexp", .value, 'e'⟩, ⟨"silent", .nothing, 'q'⟩, ⟨"text", .nothing, 'a'⟩,
      ⟨"version", .nothing, 'V'⟩, ⟨"with-filename", .nothing, 'H'⟩, ⟨"word-regexp", .nothing, 'w'⟩,
      ⟨"help", .nothing, Call.helpLetter⟩], true⟩

/-- The files at and below a path that are to be searched, with the names that are shown. -/
def filesBelow (tree : FileTree) (g : Given) : Nat → Str → Location → List (Str × Location)
  | 0, _, _ => []
  | fuel + 1, shown, loc =>
    (tree.names loc).flatMap fun n =>
      let name := Host.ofBytes n
      let path := if shown = [] then name else Host.pathJoin shown name
      let follows := g.has 'R'
      let entry : Option (Location × Entry) :=
        match tree.get? (n :: loc) with
        | none => none
        | some e =>
          if e.node.isLink then
            if follows then
              (match ({ tree with current := loc }).lookup (Host.pathOf name) with
                | .found l e => some (l, e)
                | _ => none)
            else none
          else some (n :: loc, e)
      match entry with
      | none => []
      | some (l, e) =>
        match e.node with
        | .directory =>
          if (g.values '\x06').any fun p => Shell.Pattern.globAccepts (Host.dropEnd (· = '/') p) name then []
          else filesBelow tree g fuel path l
        | .file _ =>
          let included := g.values '\x0e'
          if ((g.values '\x05').any fun p => Shell.Pattern.globAccepts p name) ||
              (included ≠ [] && !(included.any fun p => Shell.Pattern.globAccepts p name)) then []
          else [(path, l)]
        | _ => []

end Grep

open Grep in
/-- Select lines, by basic expressions unless an option says otherwise. -/
def grep : Program := fun _ c => do
  match options.read c.args with
  | .error complaint =>
    c.warn complaint
    Act.complain (usage c)
    return 2
  | .ok g =>
    if g.has Call.helpLetter then
      Act.say (str "Usage: " ++ c.name ++ str " [OPTION]... PATTERNS [FILE]...\n")
      return 0
    if g.has 'V' then
      Act.say (c.name ++ str " (GNU grep) 3.8\n")
      return 0
    let has := g.has
    let choice (option : String) (groups : List (List String)) (value : Option Str) : Act Unit := do
      match value with
      | none => return ()
      | some v =>
        if (← c.choose option groups v).isNone then
          Act.complain (usage c)
          Act.exit 2
    choice "--directories" [["read"], ["recurse"], ["skip"]] (g.value? 'd')
    choice "--devices" [["read"], ["skip"]] (g.value? 'D')
    match g.value? '\x03' with
    | some t =>
      if !(["binary", "text", "without-match"].contains (Host.word t)) then
        c.die 2 (str "unknown binary-files type")
    | none => pure ()
    let context (o : Char) : Act (Option Nat) :=
      match g.value? o with
      | none => return none
      | some s =>
        match Host.natural? s with
        | some n => return some n
        | none => c.die 2 (s ++ str ": invalid context length argument")
    let digits : Str := (g.options.filter fun o => o.1.isDigit).map Prod.fst
    let both : Option Nat := match ← context 'C', Host.natural? digits with
      | some n, _ => some n
      | none, n => n
    let after := ((← context 'A').or both).getD 0
    let before := ((← context 'B').or both).getD 0
    let most ← match g.value? 'm' with
      | none => pure none
      | some s =>
        match Host.integer? s with
        | some n => pure (if n < 0 then none else some n.toNat)
        | none => c.die 2 (str "invalid max count")
    -- patterns
    let mut texts : List Str := g.values 'e'
    for f in g.values 'f' do
      match ← Call.readOperand f with
      | .ok t => texts := texts ++ [if t = [] then ['\x00', '\x01'] else Host.chomp t]
      | .error cause => c.die 2 (f ++ str ": " ++ Host.reason cause)
    let mut operands := g.operands
    if texts = [] then
      match operands with
      | [] =>
        Act.complain (usage c)
        Act.exit 2
      | p :: rest =>
        texts := [p]
        operands := rest
    let patterns := (texts.flatMap (Host.splitOn '\n')).filter (· ≠ ['\x00', '\x01'])
    let kind := (g.last? ['E', 'F', 'G', 'P']).getD 'G'
    let style : Regex.Style :=
      if kind = 'E' || kind = 'P' then { Regex.Reader.extended with loose := true } else Regex.Reader.basic
    let mut exprs : List Regex.Expr := []
    for p in patterns do
      if kind = 'F' then exprs := exprs ++ [literal p]
      else
        if isBareClass p then
          c.die 2 (str "character class syntax is [[:space:]], not [:space:]")
        match Regex.Reader.read style (if kind = 'P' then spelled p else p) with
        | .error fault => c.die 2 (str fault.words)
        | .ok e =>
          if kind = 'E' then (warnings (p.length + 1) true p).forM fun w => c.warn (str "warning: " ++ w)
          exprs := exprs ++ [e]
    let ignoresCase := match g.last? ['i', 'y', '\x11'] with
      | some 'i' => true
      | some 'y' => true
      | _ => false
    let needle : Needle := ⟨⟨ignoresCase, false⟩, anyOf exprs, has 'w', has 'x'⟩
    let m : Manner :=
      { inverted := has 'v'
        count := has 'c'
        names := (match g.last? ['l', 'L'] with
          | some 'l' => some true
          | some _ => some false
          | none => none)
        only := has 'o'
        quiet := has 'q'
        numbers := has 'n'
        offsets := has 'b'
        zeroBehindName := has 'Z'
        mark := if has 'z' then '\x00' else '\n'
        most
        before
        after
        around := has 'A' || has 'B' || has 'C' || digits ≠ []
        separator := if has '\x10' then none else some ((g.value? '\x0b').getD (str "--"))
        asText := has 'a' || g.value? '\x03' = some (str "text")
        skipsBinary := has 'I' || g.value? '\x03' = some (str "without-match") }
    if most = some 0 || (patterns = [[]] && m.inverted && !has 'w' && !has 'x' && m.names ≠ some false) then
      Act.exit 1
    let deep := has 'r' || has 'R' || g.value? 'd' = some (str "recurse")
    let given := if operands = [] then [if deep then ['.'] else ['-']] else operands
    let named := match g.last? ['H', 'h'] with
      | some 'H' => true
      | some _ => false
      | none => 1 < given.length || deep
    let label := (g.value? '\x0f').getD (str "(standard input)")
    let mut found := false
    let mut failed := false
    for o in given do
      let tree ← Act.tree
      let isDirectory := o ≠ ['-'] && tree.isDirectory (Host.pathOf o)
      if isDirectory && deep then
        match tree.find (Host.pathOf o) with
        | .ok (loc, _) =>
          for (shown, l) in filesBelow tree g (tree.entries.length + 1) (if operands = [] then [] else o) loc do
            match (← Act.tree).get? l with
            | some ⟨.file bytes, _, _, _⟩ =>
              if ← sieve c m needle shown named (Host.ofBytes bytes) then found := true
            | _ => pure ()
        | .error _ => pure ()
      else if isDirectory && g.value? 'd' = some (str "skip") then pure ()
      else
        match ← Call.readOperand o with
        | .error cause =>
          failed := true
          if !has 's' then c.warn (o ++ str ": " ++ Host.reason cause)
          if cause = .isADirectory && m.count && !m.quiet then
            Act.say ((if named then o ++ [':'] else []) ++ str "0\n")
        | .ok text =>
          if ← sieve c m needle (if o = ['-'] then label else o) (named && (o ≠ ['-'] || named)) text then
            found := true
      if found && m.quiet then Act.exit 0
    return if failed then 2 else if found then 0 else 1

/-- Select lines as if one more option was given first. -/
def grepWith (option : String) : Program := fun start c =>
  grep start { c with name := str "grep", args := str option :: c.args }

end StaleBuild.Utility
