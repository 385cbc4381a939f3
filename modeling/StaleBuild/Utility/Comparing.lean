import Std.Data.HashMap
import StaleBuild.Host.DateText
import StaleBuild.Host.Facts
import StaleBuild.Host.Options
import StaleBuild.Regex.Reader
import StaleBuild.Shell.Pattern
import StaleBuild.Utility.Difference

/-!
Utilities that compare files: byte by byte, and line by line.
-/

namespace StaleBuild.Utility

open Host (Str str Call Program Given)

namespace Contrast

/-- A complaint about the call, with the hint in the name of the program too. -/
def refuse {α : Type} (c : Call) (message : Str) : Act α := do
  c.warn message
  c.warn (str "Try '" ++ c.name ++ str " --help' for more information.")
  Act.exit 2

/-- A text in straight quotation marks. -/
def straight (s : Str) : Str := '\'' :: s ++ ['\'']

/-- Read the options of a program that complains in this way. -/
def given (c : Call) (letters : String) (long : List Host.LongOption) (versionWords : String) : Act Given := do
  match (⟨letters, long ++ Call.common, true⟩ : Host.OptionTable).read c.args with
  | .error complaint => refuse c complaint
  | .ok g =>
    if g.has Call.helpLetter then
      Act.say (str "Usage: " ++ c.name ++ str " [OPTION]... FILES\n")
      Act.exit 0
    else if g.has Call.versionLetter || g.has 'v' then
      Act.say (str versionWords)
      Act.exit 0
    else return g

/-! ## Bytes -/

/-- A number of bytes with a unit. -/
def byteCount? (s : Str) : Option Nat :=
  let digits := s.takeWhile Char.isDigit
  let unit : Option Nat := match Host.word (s.drop digits.length) with
    | "" => some 1
    | "k" | "K" | "KiB" => some 1024
    | "kB" | "KB" => some 1000
    | "M" | "MiB" => some (1024 ^ 2)
    | "MB" => some (1000 ^ 2)
    | "G" | "GiB" => some (1024 ^ 3)
    | "GB" => some (1000 ^ 3)
    | _ => none
  match Host.natural? digits, unit with
  | some n, some u => some (n * u)
  | _, _ => none

/-- A byte in octal digits, set to the right. -/
def octal (c : Char) : Str := Host.padLeft 3 (Nat.toDigits 8 c.toNat)

/-- A byte that can be seen. -/
def visible (c : Char) : Str :=
  let n := c.toNat
  let (high, n) : Str × Nat := if 128 ≤ n then (str "M-", n - 128) else ([], n)
  high ++ if n < 32 then ['^', Char.ofNat (n + 64)] else if n = 127 then str "^?" else [Char.ofNat n]

/-- The places where two texts differ, counted from one. -/
def differences : Nat → Str → Str → List (Nat × Char × Char)
  | n, a :: s, b :: t => if a = b then differences (n + 1) s t else (n, a, b) :: differences (n + 1) s t
  | _, _, _ => []

end Contrast

open Contrast in
/-- Compare two files byte by byte. -/
def cmp : Program := fun _ c => do
  let g ← given c "bci:ln:sv"
    [⟨"print-bytes", .nothing, 'b'⟩, ⟨"print-chars", .nothing, 'c'⟩, ⟨"ignore-initial", .value, 'i'⟩,
      ⟨"verbose", .nothing, 'l'⟩, ⟨"bytes", .value, 'n'⟩, ⟨"silent", .nothing, 's'⟩, ⟨"quiet", .nothing, 's'⟩]
    "cmp (GNU diffutils) 3.8\n"
  let count (option : String) (s : Str) : Act Nat := do
    match byteCount? s with
    | some n => return n
    | none => refuse c (str ("invalid --" ++ option ++ " value ") ++ straight s)
  let mut skips := (0, 0)
  for v in g.values 'i' do
    match Host.cut ':' v with
    | (a, none) => do
      let n ← count "ignore-initial" a
      skips := (n, n)
    | (a, some b) => skips := (← count "ignore-initial" a, ← count "ignore-initial" b)
  let mut limit : Option Nat := none
  for v in g.values 'n' do
    let n ← count "bytes" v
    limit := some (min n (limit.getD n))
  if g.has 'l' && g.has 's' then refuse c (str "options -l and -s are incompatible")
  match g.operands with
  | [] => refuse c (str "missing operand after " ++ straight c.name)
  | a :: others => do
    let b := others.headD ['-']
    match others.drop 1 with
    | [] => pure ()
    | [m] => skips := (← count "ignore-initial" m, skips.2)
    | [m, n] => skips := (← count "ignore-initial" m, ← count "ignore-initial" n)
    | _ :: _ :: extra :: _ => refuse c (str "extra operand " ++ straight extra)
    let quiet := g.has 's'
    let contents (path : Str) : Act Str := do
      match ← Call.readOperand path with
      | .ok s => return s
      | .error cause => do
        if !quiet then c.warn (path ++ str ": " ++ Host.reason cause)
        Act.exit 2
    let s ← contents a
    let t ← if a = b then pure s else contents b
    let bounded (s : Str) (n : Nat) : Str := match limit with
      | some k => (s.drop n).take k
      | none => s.drop n
    let s := bounded s skips.1
    let t := bounded t skips.2
    if s = t then return 0
    if quiet then return 1
    let all := differences 1 s t
    let showsBytes := g.has 'b' || g.has 'c'
    let width := (Host.decimal (min s.length t.length : Nat)).length
    if g.has 'l' then
      for (n, x, y) in all do
        let place := Host.padLeft width (Host.decimal (n : Nat)) ++ [' ']
        Act.say (if showsBytes then
            place ++ octal x ++ ' ' :: Host.padRight 4 (visible x) ++ ' ' :: octal y ++ ' ' :: visible y ++ ['\n']
          else place ++ octal x ++ ' ' :: octal y ++ ['\n'])
    else
      match all with
      | (n, x, y) :: _ => do
        let line := (s.take (n - 1)).count '\n' + 1
        Act.say (a ++ ' ' :: b ++ str " differ: " ++ str "byte " ++ Host.decimal (n : Nat) ++ str ", line " ++
          Host.decimal (line : Nat) ++ (if showsBytes then
            str " is " ++ octal x ++ ' ' :: visible x ++ ' ' :: octal y ++ ' ' :: visible y else []) ++ ['\n'])
        Act.exit 1
      | [] => pure ()
    if s.length ≠ t.length then
      let _ ← Act.flush
      let (name, short) := if s.length < t.length then (a, s) else (b, t)
      if short = [] then c.warn (str "EOF on " ++ name ++ str " which is empty")
      else
        let lines := short.count '\n'
        c.warn (str "EOF on " ++ name ++ str " after byte " ++ Host.decimal (short.length : Nat) ++
          (if g.has 'l' then []
          else if short.getLast? = some '\n' then str ", line " ++ Host.decimal (lines : Nat)
          else str ", in line " ++ Host.decimal (lines + 1 : Nat)))
    return 1

/-! ## Lines -/

namespace Contrast

/-- How differences are written. -/
inductive Style where
  | normal
  | unified (context : Nat)
  | context (n : Nat)
  | ed
  | numbered
  | sideBySide
  | brief

/-- How lines are compared and differences are written. -/
structure Setup where
  call : Call
  style : Style
  given : Given
  /-- The options as they are repeated in front of differences of files in directories. -/
  switches : Str
  labels : List Str
  width : Nat

def Setup.has (k : Setup) (c : Char) : Bool := k.given.has c

/-- One side of a comparison: its name, its time if it has one, and its contents if it is a file. -/
structure Side where
  name : Str
  time : Time
  lines : Array Str

/-- White space as one blank. -/
def squeezed : Bool → Str → Str
  | _, [] => []
  | inside, c :: rest =>
    if Host.isSpace c then (if inside then squeezed true rest else ' ' :: squeezed true rest)
    else c :: squeezed false rest

/-- What is compared of a line. -/
def Setup.key (k : Setup) (line : Str) : Str :=
  let loose := k.has 'w' || k.has 'b' || k.has 'Z' || k.has 'E'
  let text := if loose then Host.chomp line else line
  let text := if k.has '\x06' then
      (if text.getLast? = some '\n' && text.dropLast.getLast? = some '\r' then text.dropLast.dropLast ++ ['\n']
      else text)
    else text
  let text := if k.has 'w' then text.filter fun c => !Host.isSpace c
    else if k.has 'b' then squeezed false (Host.dropEnd Host.isSpace text)
    else if k.has 'Z' then Host.dropEnd Host.isSpace text
    else text
  if k.has 'i' then Host.toLower text else text

/-- The numbers of lines: equal ones for lines that count as equal. -/
def Setup.numbered (k : Setup) (a b : Array Str) : Array Nat × Array Nat :=
  let number (state : Std.HashMap String Nat × Array Nat) (line : Str) : Std.HashMap String Nat × Array Nat :=
    let key := String.ofList (k.key line)
    match state.1[key]? with
    | some n => (state.1, state.2.push n)
    | none => (state.1.insert key state.1.size, state.2.push state.1.size)
  let (known, xs) := a.foldl number ({}, #[])
  let (_, ys) := b.foldl number (known, #[])
  (xs, ys)

/-- Whether nothing in a place counts: only empty lines, or lines that are not looked at. -/
def Setup.isIdle (k : Setup) (patterns : List Regex.Expr) (a b : Side) (h : Difference.Hunk) : Bool :=
  let lines := (a.lines.extract h.first (h.first + h.removed)).toList ++
    (b.lines.extract h.second (h.second + h.added)).toList
  (k.has 'B' || !patterns.isEmpty) && lines.all fun l =>
    let t := Host.chomp l
    (k.has 'B' && (t = [] || ((k.has 'w' || k.has 'b' || k.has 'Z') && t.all Host.isSpace))) ||
      patterns.any fun e => Regex.matches? ⟨false, false⟩ e t

/-- A line behind a mark. -/
def marked (mark : String) (line : Str) : Str :=
  str mark ++ if line.getLast? = some '\n' then line else line ++ str "\n\\ No newline at end of file\n"

/-- Lines behind a mark. -/
def markedAll (mark : String) (s : Side) (start n : Nat) : Str :=
  ((s.lines.extract start (start + n)).toList).flatMap (marked mark)

/-- A range of lines by its first index and its length; an empty one by the line in front of it. -/
def range (start n : Nat) : Str :=
  if n = 0 then Host.decimal (start : Nat)
  else if n = 1 then Host.decimal (start + 1 : Nat)
  else Host.decimal (start + 1 : Nat) ++ ',' :: Host.decimal (start + n : Nat)

/-- What is done in a place: lines are added, removed or changed. -/
def deed (h : Difference.Hunk) : Char := if h.removed = 0 then 'a' else if h.added = 0 then 'd' else 'c'

/-- A place in the plain style. -/
def plainHunk (a b : Side) (h : Difference.Hunk) : Str :=
  range h.first h.removed ++ deed h :: range h.second h.added ++ ['\n'] ++
    markedAll "< " a h.first h.removed ++
    (if deed h = 'c' then str "---\n" else []) ++ markedAll "> " b h.second h.added

/-- Places that stand so close that their surroundings touch, together. -/
def clusters (context : Nat) : List Difference.Hunk → List (List Difference.Hunk)
  | [] => []
  | h :: rest =>
    match clusters context rest with
    | [] => [[h]]
    | (g :: gs) :: others =>
      if g.first - (h.first + h.removed) ≤ 2 * context then (h :: g :: gs) :: others
      else [h] :: (g :: gs) :: others
    | [] :: others => [h] :: others

/-- The stretches of both files that places stand in, with their surroundings: starts and ends. -/
def frame (context : Nat) (a b : Side) (hs : List Difference.Hunk) : (Nat × Nat) × (Nat × Nat) :=
  let first := hs.headD ⟨0, 0, 0, 0⟩
  let last := hs.getLast?.getD first
  ((first.first - context, min a.lines.size (last.first + last.removed + context)),
    (first.second - context, min b.lines.size (last.second + last.added + context)))

/-- A range of the unified style. -/
def unifiedRange (start stop : Nat) : Str :=
  if stop = start then Host.decimal (start : Nat) ++ str ",0"
  else if stop = start + 1 then Host.decimal (start + 1 : Nat)
  else Host.decimal (start + 1 : Nat) ++ ',' :: Host.decimal (stop - start : Nat)

/-- Lines of the unified style from an index on. -/
def unifiedBody (a b : Side) (stop : Nat) : Nat → List Difference.Hunk → Str
  | i, [] => markedAll " " a i (stop - i)
  | i, h :: rest =>
    markedAll " " a i (h.first - i) ++ markedAll "-" a h.first h.removed ++
      markedAll "+" b h.second h.added ++ unifiedBody a b stop (h.first + h.removed) rest

/-- Places in the unified style. -/
def unifiedCluster (context : Nat) (a b : Side) (hs : List Difference.Hunk) : Str :=
  let ((i, j), (k, l)) := frame context a b hs
  str "@@ -" ++ unifiedRange i j ++ str " +" ++ unifiedRange k l ++ str " @@\n" ++ unifiedBody a b j i hs

/-- A range of the style with context. -/
def contextRange (start stop : Nat) : Str :=
  if stop ≤ start + 1 then Host.decimal (stop : Nat)
  else Host.decimal (start + 1 : Nat) ++ ',' :: Host.decimal (stop : Nat)

/-- Lines of one side in the style with context. -/
def contextBody (s : Side) (place : Difference.Hunk → Nat × Nat) (mark : String) (stop : Nat) :
    Nat → List Difference.Hunk → Str
  | i, [] => markedAll "  " s i (stop - i)
  | i, h :: rest =>
    let (start, n) := place h
    markedAll "  " s i (start - i) ++
      markedAll (if h.removed ≠ 0 && h.added ≠ 0 then "! " else mark) s start n ++
      contextBody s place mark stop (start + n) rest

/-- Places in the style with context. -/
def contextCluster (context : Nat) (a b : Side) (hs : List Difference.Hunk) : Str :=
  let ((i, j), (k, l)) := frame context a b hs
  str "***************\n*** " ++ contextRange i j ++ str " ****\n" ++
    (if hs.any fun h => h.removed ≠ 0 then contextBody a (fun h => (h.first, h.removed)) "- " j i hs else []) ++
    str "--- " ++ contextRange k l ++ str " ----\n" ++
    (if hs.any fun h => h.added ≠ 0 then contextBody b (fun h => (h.second, h.added)) "+ " l k hs else [])

/-- A place as commands of a line editor. -/
def editHunk (b : Side) (h : Difference.Hunk) : Str :=
  let added := ((b.lines.extract h.second (h.second + h.added)).toList).flatMap fun l => Host.chomp l ++ ['\n']
  range h.first h.removed ++ [deed h, '\n'] ++ if h.added = 0 then [] else added ++ str ".\n"

/-- A place as numbered commands. -/
def numberedHunk (b : Side) (h : Difference.Hunk) : Str :=
  (if h.removed = 0 then [] else 'd' :: Host.decimal (h.first + 1 : Nat) ++ ' ' :: Host.decimal (h.removed : Nat) ++ ['\n']) ++
    if h.added = 0 then []
    else 'a' :: Host.decimal (h.first + h.removed : Nat) ++ ' ' :: Host.decimal (h.added : Nat) ++ ['\n'] ++
      ((b.lines.extract h.second (h.second + h.added)).toList).flatten

/-- Tabs and blanks that lead from one column to another. -/
def leading (source target : Nat) : Str :=
  let stops := target / 8 - source / 8
  if stops = 0 then Host.run (target - source) ' '
  else Host.run stops '\t' ++ Host.run (target % 8) ' '

/-- One row of the style with two columns. -/
def row (width : Nat) (left : Option Str) (mark : Char) (right : Option Str) : Str :=
  let middle := width / 2 + 5 + (if width % 2 = 1 then 1 else 0)
  let second := middle - middle % 8
  let half := min (second - 3) (width - second)
  let text (s : Str) : Str := (Host.chomp s).take half
  let breaks (s : Option Str) : Bool := s.any fun s => s.getLast? = some '\n'
  let front := (left.map text).getD []
  let sign : Char := if mark = '|' && breaks left != breaks right then (if breaks left then '/' else '\\') else mark
  let (gutter, column) : Str × Nat :=
    if mark = ' ' then ([], front.length)
    else (leading front.length ((half + second - 1) / 2) ++ [sign], (half + second - 1) / 2 + 1)
  let behind := match right with
    | none => []
    | some r => if Host.chomp r = [] then [] else leading column second ++ text r
  front ++ gutter ++ behind ++ if breaks left || breaks right then ['\n'] else []

/-- Two files in two columns. -/
def columns (k : Setup) (a b : Side) : Nat → Nat → List Difference.Hunk → Str
  | i, j, [] => same (a.lines.size - i) i j
  | i, j, h :: rest =>
    let rows := (List.range (max h.removed h.added)).flatMap fun n =>
      let left := if n < h.removed then a.lines[h.first + n]? else none
      let right := if n < h.added then b.lines[h.second + n]? else none
      row k.width left (if left.isNone then '>' else if right.isNone then '<' else '|') right
    same (h.first - i) i j ++ rows ++ columns k a b (h.first + h.removed) (h.second + h.added) rest
where
  /-- Rows of lines that are the same. -/
  same (n i j : Nat) : Str :=
    if k.has '\x07' then []
    else (List.range n).flatMap fun m =>
      if k.has '\x08' then row k.width (a.lines[i + m]?) '(' none
      else row k.width (a.lines[i + m]?) ' ' (b.lines[j + m]?)

/-- A heading with a name and a time. -/
def headed (zone : Host.DateText.Zone) (mark : String) (label : Option Str) (s : Side) : Str :=
  str mark ++ (match label with
    | some l => l
    | none => s.name ++ '\t' :: Host.DateText.written zone (str "%Y-%m-%d %H:%M:%S.%N %z") s.time) ++ ['\n']

/-- Two files that differ, in the style that is asked for. -/
def Setup.shown (k : Setup) (zone : Host.DateText.Zone) (a b : Side) (hs : List Difference.Hunk) : Str :=
  match k.style with
  | .normal => hs.flatMap (plainHunk a b)
  | .unified n =>
    headed zone "--- " k.labels[0]? a ++ headed zone "+++ " k.labels[1]? b ++
      (clusters n hs).flatMap (unifiedCluster n a b)
  | .context n =>
    headed zone "*** " k.labels[0]? a ++ headed zone "--- " k.labels[1]? b ++
      (clusters n hs).flatMap (contextCluster n a b)
  | .ed => hs.reverse.flatMap (editHunk b)
  | .numbered => hs.flatMap (numberedHunk b)
  | .sideBySide => columns k a b 0 0 hs
  | .brief => []

/-- What lies at a path, for a comparison. -/
inductive Thing where
  | absent
  | directory
  | file (text : Str) (time : Time)
  | failed (cause : FileError)

/-- Look at a path. -/
def look (path : Str) : Act Thing := do
  if path = ['-'] then
    match ← Act.readFd 0 with
    | .ok s => return .file s (← Act.now)
    | .error cause => return .failed cause
  else
    match (← Act.tree).stat (Host.pathOf path) with
    | .error .notFound => return .absent
    | .error cause => return .failed cause
    | .ok e =>
      match e.node with
      | .directory => return .directory
      | _ =>
        match ← Act.readPath path with
        | .ok s => return .file s e.modified
        | .error cause => return .failed cause

/-- The words for a kind of file. -/
def Thing.words : Thing → String
  | .directory => "directory"
  | .file [] _ => "regular empty file"
  | _ => "regular file"

/-- How many lines around a place belong to it. -/
def Style.horizon : Style → Nat
  | .unified n => n
  | .context n => n
  | _ => 0

/-- Whether a line break that is missing at the end shows. -/
def Style.isExact : Style → Bool
  | .ed => false
  | _ => true

/-- How many elements two lists agree in at their starts. -/
def common : List Str → List Str → Nat
  | a :: s, b :: t => if a = b then common s t + 1 else 0
  | _, _ => 0

/-- How many lines at both ends are not looked at, since they are the same. -/
def ends (style : Style) (a b : Side) : Nat × Nat :=
  let front := common a.lines.toList b.lines.toList - style.horizon
  let lacks (s : Side) : Bool := s.lines.back?.any fun l => l.getLast? ≠ some '\n'
  let most := min a.lines.size b.lines.size - front
  let behind := if style.isExact && lacks a != lacks b then 0
    else min most (common a.lines.toList.reverse b.lines.toList.reverse)
  (front, behind - style.horizon)

/-- The lines of a text, as far as the style keeps a missing line break. -/
def Style.lines (style : Style) (s : Str) : Array Str :=
  let all := Host.splitLines s
  (if style.isExact then all else all.map fun l => Host.chomp l ++ ['\n']).toArray

/-- Compare two texts; the status comes back. -/
def Setup.compareTexts (k : Setup) (inDirectory : Bool) (a b : Str) (s t : Str × Time) : Act Nat := do
  let identical : Act Nat := do
    if k.has 's' then Act.say (str "Files " ++ a ++ str " and " ++ b ++ str " are identical\n")
    return 0
  let isBinary (s : Str) : Bool := (s.take 4096).contains '\x00'
  let isBrief := match k.style with
    | .brief => true
    | _ => false
  if s.1 = t.1 then
    match k.style with
    | .sideBySide => do
      let side : Side := ⟨a, s.2, (Host.splitLines s.1).toArray⟩
      Act.say (columns k side side 0 0 [])
      return 0
    | _ => identical
  else if (isBinary s.1 || isBinary t.1) && !k.has 'a' then
    Act.say (str (if isBrief then "Files " else "Binary files ") ++ a ++ str " and " ++ b ++ str " differ\n")
    return if isBrief then 1 else 2
  else
    let left : Side := ⟨a, s.2, k.style.lines s.1⟩
    let right : Side := ⟨b, t.2, k.style.lines t.1⟩
    let (front, behind) := ends k.style left right
    let (xs, ys) := k.numbered left.lines right.lines
    let patterns := (k.given.values 'I').filterMap fun p =>
      match Regex.Reader.read Regex.Reader.basic p with
      | .ok e => some e
      | .error _ => none
    let hs := (Difference.hunks front behind xs ys).filter fun h => !k.isIdle patterns left right h
    if hs.isEmpty then
      match k.style with
      | .sideBySide => do
        Act.say (columns k left right 0 0 [])
        return 0
      | _ => identical
    else
      if isBrief then Act.say (str "Files " ++ a ++ str " and " ++ b ++ str " differ\n")
      else
        if inDirectory then
          Act.say (str "diff" ++ k.switches ++ ' ' :: (k.labels[0]?).getD a ++ ' ' :: (k.labels[1]?).getD b ++ ['\n'])
        let zone := Host.DateText.Zone.of (← get).process.environment
        Act.say (k.shown zone left right hs)
        if !k.style.isExact then
          let lacking := [(a, s.1), (b, t.1)].filter fun x => x.2 ≠ [] && x.2.getLast? ≠ some '\n'
          for (name, _) in lacking do
            let _ ← Act.flush
            k.call.warn (name ++ str ": No newline at end of file\n")
          if !lacking.isEmpty then return 2
      return 1

/-- Whether a name is left out in directories. -/
def Setup.leavesOut (k : Setup) (name : Str) : Bool :=
  (k.given.values 'x').any fun p => Shell.Pattern.globAccepts p name

/-- Compare what lies at two paths; the greatest status comes back. -/
def Setup.compare (k : Setup) : Nat → Nat → Str → Str → Act Nat
  | 0, _, _, _ => return 2
  | fuel + 1, depth, a, b => do
    let s ← look a
    let t ← if a = b then pure s else look b
    let complain (path : Str) (cause : FileError) : Act Unit :=
      k.call.warn (path ++ str ": " ++ Host.reason cause)
    let fills := k.has 'N'
    match s, t with
    | .absent, .absent => do
      complain a .notFound
      complain b .notFound
      return 2
    | .failed x, .failed y => do
      complain a x
      complain b y
      return 2
    | .failed x, _ => do
      complain a x
      return 2
    | _, .failed y => do
      complain b y
      return 2
    | .absent, .file text time =>
      if fills then k.compareTexts (0 < depth) a b ([], 0) (text, time)
      else do
        complain a .notFound
        return 2
    | .file text time, .absent =>
      if fills then k.compareTexts (0 < depth) a b (text, time) ([], 0)
      else do
        complain b .notFound
        return 2
    | .file x m, .file y n => k.compareTexts (0 < depth) a b (x, m) (y, n)
    | .directory, .file .. =>
      if depth = 0 then k.compare fuel depth (Host.pathJoin a (Host.baseName b)) b else mixed s t a b
    | .file .., .directory =>
      if depth = 0 then k.compare fuel depth a (Host.pathJoin b (Host.baseName a)) else mixed s t a b
    | .absent, .directory =>
      if fills then inside k fuel depth a b else do
        complain a .notFound
        return 2
    | .directory, .absent =>
      if fills then inside k fuel depth a b else do
        complain b .notFound
        return 2
    | .directory, .directory =>
      let tree ← Act.tree
      let place (p : Str) : Option Location := ((tree.find (Host.pathOf p)).toOption).map Prod.fst
      if place a = place b then return 0
      else if depth = 0 || k.has 'r' then inside k fuel depth a b
      else do
        Act.say (str "Common subdirectories: " ++ a ++ str " and " ++ b ++ ['\n'])
        return 0
where
  /-- A file beside a directory. -/
  mixed (s t : Thing) (a b : Str) : Act Nat := do
    Act.say (str "File " ++ a ++ str (" is a " ++ s.words ++ " while file ") ++ b ++
      str (" is a " ++ t.words ++ "\n"))
    return 1
  /-- Compare what lies in two directories, of which one may be missing. -/
  inside (k : Setup) : Nat → Nat → Str → Str → Act Nat
    | 0, _, _, _ => return 2
    | fuel + 1, depth, a, b => do
      let tree ← Act.tree
      let names (p : Str) : List Str := match tree.find (Host.pathOf p) with
        | .ok (loc, _) => (tree.names loc).map Host.ofBytes
        | .error _ => []
      let left := names a
      let right := names b
      let all := ((left ++ right.filter fun n => !left.contains n).filter fun n => !k.leavesOut n).mergeSort
        fun x y => decide (x ≤ y)
      let mut status := 0
      for n in all do
        let p := Host.pathJoin a n
        let q := Host.pathJoin b n
        let r ←
          if left.contains n && right.contains n || k.has 'N' then k.compare fuel (depth + 1) p q
          else do
            Act.say (str "Only in " ++ (if left.contains n then a else b) ++ str ": " ++ n ++ ['\n'])
            pure 1
        status := max status r
      return status

/-- Arguments without the operands. -/
def withoutOperands : List Str → List Str → List Str
  | [], _ => []
  | a :: rest, [] => a :: withoutOperands rest []
  | a :: rest, o :: os => if a = o then withoutOperands rest os else a :: withoutOperands rest (o :: os)

end Contrast

open Contrast in
/-- Compare two files line by line. -/
def diff : Program := fun _ c => do
  -- digits written as options say how much context there is
  let g ← given c "0123456789abBcC:dD:eEfF:hHiI:lL:nNpPqrsS:tTuU:vwW:x:X:yZ"
    [⟨"ignore-blank-lines", .nothing, 'B'⟩, ⟨"brief", .nothing, 'q'⟩, ⟨"context", .maybe, 'c'⟩,
      ⟨"ed", .nothing, 'e'⟩, ⟨"expand-tabs", .nothing, 't'⟩, ⟨"exclude", .value, 'x'⟩,
      ⟨"ignore-all-space", .nothing, 'w'⟩, ⟨"ignore-case", .nothing, 'i'⟩,
      ⟨"ignore-space-change", .nothing, 'b'⟩, ⟨"ignore-trailing-space", .nothing, 'Z'⟩,
      ⟨"ignore-tab-expansion", .nothing, 'E'⟩, ⟨"ignore-matching-lines", .value, 'I'⟩,
      ⟨"label", .value, 'L'⟩, ⟨"left-column", .nothing, '\x08'⟩, ⟨"minimal", .nothing, 'd'⟩,
      ⟨"new-file", .nothing, 'N'⟩, ⟨"normal", .nothing, '\x05'⟩, ⟨"paginate", .nothing, 'l'⟩,
      ⟨"rcs", .nothing, 'n'⟩, ⟨"recursive", .nothing, 'r'⟩, ⟨"report-identical-files", .nothing, 's'⟩,
      ⟨"show-c-function", .nothing, 'p'⟩, ⟨"side-by-side", .nothing, 'y'⟩,
      ⟨"speed-large-files", .nothing, 'H'⟩, ⟨"strip-trailing-cr", .nothing, '\x06'⟩,
      ⟨"suppress-common-lines", .nothing, '\x07'⟩, ⟨"text", .nothing, 'a'⟩, ⟨"unified", .maybe, 'u'⟩,
      ⟨"width", .value, 'W'⟩, ⟨"color", .maybe, '\x04'⟩, ⟨"no-dereference", .nothing, '\x0e'⟩]
    "diff (GNU diffutils) 3.8\n"
  let mut style : Option (Char × Nat) := none
  let mut width := 130
  for (o, v) in g.options do
    let depth (least : Nat) : Act Nat := do
      match v with
      | none => return least
      | some s =>
        match Host.natural? s with
        | some n => return n
        | none => refuse c (str "invalid context length " ++ straight s)
    let chosen : Option (Char × Nat) ← match o with
      | 'u' => do pure (some ('u', ← depth 3))
      | 'U' => do pure (some ('u', ← depth 3))
      | 'c' => do pure (some ('c', ← depth 3))
      | 'C' => do pure (some ('c', ← depth 3))
      | 'e' => pure (some ('e', 0))
      | 'n' => pure (some ('n', 0))
      | 'y' => pure (some ('y', 0))
      | '\x05' => pure (some ('o', 0))
      | 'W' =>
        match (v.bind Host.natural?) with
        | some n => do
          if n = 0 then refuse c (str "invalid width " ++ straight (v.getD []))
          width := n
          pure none
        | none => refuse c (str "invalid width " ++ straight (v.getD []))
      | _ => pure none
    match chosen, style with
    | none, _ => pure ()
    | some x, none => style := some x
    | some x, some y =>
      if x.1 = y.1 then style := some (x.1, max x.2 y.2)
      else refuse c (str "conflicting output style options")
  if style.isNone && g.has 'p' then style := some ('c', 3)
  let manner : Style :=
    if g.has 'q' then .brief
    else match style with
      | some ('u', n) => .unified n
      | some ('c', n) => .context n
      | some ('e', _) => .ed
      | some ('n', _) => .numbered
      | some ('y', _) => .sideBySide
      | _ => .normal
  let switches := (withoutOperands c.args g.operands).flatMap fun a => ' ' :: Host.Quote.ifNeeded a
  let k : Setup := ⟨c, manner, g, switches, g.values 'L', width⟩
  match g.operands with
  | [] => refuse c (str "missing operand after " ++ straight (c.args.getLast?.getD c.name))
  | [a] => refuse c (str "missing operand after " ++ straight (c.args.getLast?.getD a))
  | [a, b] => k.compare 1000 0 a b
  | _ :: _ :: extra :: _ => refuse c (str "extra operand " ++ straight extra)

end StaleBuild.Utility
