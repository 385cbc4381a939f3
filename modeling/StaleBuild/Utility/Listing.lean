import StaleBuild.Host.DateText
import StaleBuild.Host.Facts
import StaleBuild.Shell.Pattern
import StaleBuild.Utility.Copying
import StaleBuild.Utility.Ordering

/-!
Utilities that tell about files: lists of directories, single facts, the targets of links, plain paths
and the room that files take. A list is made in two steps: items are gathered and put in order, and then
they are set out in lines or in columns.
-/

namespace StaleBuild.Utility

open Host (Str str Call Program Given Facts.size Facts.room)
open Host.Quote (always beforeColon curly)

namespace Listed

/-! ## Items -/

/-- A file as it is listed. -/
structure Item where
  name : Str
  loc : Location
  entry : Entry
  /-- The target of a link that is shown as a link. -/
  target : Option Str
  /-- What the link leads to. -/
  behind : Option Entry

/-- When links are followed: never, for directories that the user names, for all that the user names, or
always. -/
inductive Follow where
  | never
  | namedDirectories
  | named
  | always
  deriving DecidableEq

/-- How items are set out. -/
inductive Format where
  | single
  | long
  | down
  | across
  | commas
  deriving DecidableEq

/-- What items are put in order by. -/
inductive Sorting where
  | name
  | nothing
  | size
  | time
  | version
  | suffix
  | width
  deriving DecidableEq

/-- How names are quoted. -/
inductive Quoting where
  | literal
  /-- As a shell reads them, only where it is needed or always; a name that needs no mark is moved so
  that it stands below those that do. -/
  | shell (always : Bool)
  /-- Between double marks, only where it is needed or always. -/
  | double (always : Bool)
  /-- With escapes alone. -/
  | escape
  /-- Between curly marks. -/
  | curly
  deriving DecidableEq

namespace Quoting

/-- The words for ways to quote names. -/
def words : List (String × Quoting) :=
  [("literal", .literal), ("shell", .shell false), ("shell-always", .shell true),
    ("shell-escape", .shell false), ("shell-escape-always", .shell true), ("c", .double true),
    ("c-maybe", .double false), ("escape", .escape), ("locale", .curly), ("clocale", .curly)]

/-- A name as it is quoted. -/
def apply (q : Quoting) (name : Str) : Str :=
  let escaped (marks : List Str) : Str := (Host.characters name).flatMap fun g =>
    if marks.contains g then '\\' :: g
    else if Host.Quote.isShown g then g else g.flatMap Host.Quote.escaped
  match q with
  | .literal => name
  | .shell true => Host.Quote.always name
  | .shell false => Host.Quote.ifNeeded name
  | .double always =>
    let text := escaped [['"'], ['\\']]
    if always || text ≠ name then '"' :: text ++ ['"'] else name
  | .escape => escaped [[' '], ['\\']]
  | .curly => Host.Quote.curly name

/-- Whether a name is marked in a way that moves those that are not. -/
def moves (q : Quoting) (name : Str) : Bool :=
  (q = .shell false || q = .double false) && q.apply name ≠ name

end Quoting

/-- How a list is made. -/
structure Manner where
  format : Format
  sorting : Sorting
  follow : Follow
  quoting : Quoting
  /-- The options by their letters. -/
  has : Char → Bool
  hidden : List Str
  /-- The mark behind a name: none, for directories, for kinds, or for kinds and programs. -/
  marks : Nat
  width : Nat
  zone : Host.DateText.Zone
  now : Time
  /-- The formats of times, for old ones and for new ones. -/
  times : Str × Str

/-- The item for a name in a directory. -/
def itemAt (m : Manner) (tree : FileTree) (named : Bool) (name : Str) : Except FileError Item :=
  let item (asLink : Bool) (loc : Location) (e : Entry) : Item :=
    match e.node with
    | .link target =>
      if asLink then
        let tree := { tree with current := loc.tail }
        ⟨name, loc, e, some (Host.ofPath target), (tree.stat target).toOption⟩
      else ⟨name, loc, e, none, none⟩
    | _ => ⟨name, loc, e, none, none⟩
  let own : Except FileError Item := (named? tree name).map fun (loc, e) => item true loc e
  let followed := tree.find (Host.pathOf name)
  match m.follow, followed with
  | .always, .ok (loc, e) => .ok (item false loc e)
  | .always, .error cause => .error cause
  | .named, .ok (loc, e) => if named then .ok (item false loc e) else own
  | .named, .error cause => if named then .error cause else own
  | .namedDirectories, .ok (loc, e) =>
    if named && e.node.isDirectory then .ok (item false loc e) else own
  | _, _ => own

/-- The part of a name behind its last dot. -/
def suffixOf (name : Str) : Str :=
  let behind := (name.reverse.takeWhile (· ≠ '.')).reverse
  if behind.length = name.length then [] else '.' :: behind

/-- Compare items. -/
def Manner.compare (m : Manner) (a b : Item) : Ordering :=
  let byName := Order.bytes a.name b.name
  let first := match m.sorting with
    | .name | .nothing => byName
    | .size => Ord.compare (Facts.size b.entry) (Facts.size a.entry)
    | .time => Ord.compare b.entry.modified a.entry.modified
    | .version => Order.versions a.name b.name
    | .suffix => Order.bytes (suffixOf a.name) (suffixOf b.name)
    | .width => Ord.compare a.name.length b.name.length
  first.then byName

/-- Put items in order. -/
def Manner.ordered (m : Manner) (items : List Item) : List Item :=
  let sorted := if m.sorting = .nothing then items
    else items.mergeSort fun a b =>
      let o := m.compare a b
      (if m.has 'r' then o.swap else o) ≠ .gt
  if m.has '\x05' then
    let isDirectory (i : Item) : Bool :=
      i.entry.node.isDirectory || i.behind.any fun e => e.node.isDirectory
    sorted.filter isDirectory ++ sorted.filter fun i => !isDirectory i
  else sorted

/-! ## Names -/

/-- The mark behind the name of a file. -/
def mark (m : Manner) (e : Entry) : Str :=
  match e.node, m.marks with
  | _, 0 => []
  | .directory, _ => ['/']
  | _, 1 => []
  | .link _, _ => ['@']
  | .special .fifo, _ => ['|']
  | .file _, 3 => if e.isExecutable then ['*'] else []
  | _, _ => []

/-- A name as options say that it is shown. -/
def Manner.shown (m : Manner) (name : Str) : Str :=
  if m.quoting = .literal && m.has 'q' then
    (Host.characters name).flatMap fun g => if Host.Quote.isShown g then g else ['?']
  else m.quoting.apply name

/-- The blank that makes up for a mark in front of other names of the list. -/
def Manner.blank (m : Manner) (all : List Item) (name : Str) : Str :=
  if m.format ≠ .single && m.format ≠ .commas && m.width ≠ 0 && !m.quoting.moves name &&
      all.any fun i => m.quoting.moves i.name then [' ']
  else []

/-- A count of bytes as options say. -/
def Manner.bytes (m : Manner) (n : Nat) : Str :=
  if m.has 'h' then Host.Facts.human n else Host.decimal n

/-- The room of a file as options say. -/
def Manner.blocks (m : Manner) (n : Nat) : Str :=
  if m.has 'h' then Host.Facts.human n else Host.decimal ((n + 1023) / 1024 : Nat)

/-- What stands in front of the names of items, for numbers and rooms. -/
def frills (m : Manner) (tree : FileTree) (items : List Item) (i : Item) : Str :=
  let number (i : Item) : Str := Host.decimal (Host.Facts.number tree i.loc i.entry)
  let blocks (i : Item) : Str := m.blocks (Facts.room i.entry)
  let widest (f : Item → Str) : Nat :=
    if m.format = .commas then 0 else (items.map fun i => (f i).length).foldl max 0
  (if m.has 'i' then Host.padLeft (widest number) (number i) ++ [' '] else []) ++
    if m.has 's' then Host.padLeft (widest blocks) (blocks i) ++ [' '] else []

/-! ## Lines -/

/-- The time of a file. -/
def Manner.time (m : Manner) (t : Time) : Str :=
  let halfYear : Time := 15778476 * Host.Calendar.second
  let recent := m.now - halfYear < t && t ≤ m.now
  Host.DateText.written m.zone (if recent then m.times.2 else m.times.1) t

/-- The lines of a long list, in columns that are wide enough for all items. -/
def longLines (m : Manner) (tree : FileTree) (all items : List Item) : List Str :=
  let owner := if m.has 'n' then ['0'] else str "root"
  let links (i : Item) : Str := Host.decimal (Host.Facts.links tree i.loc i.entry)
  let size (i : Item) : Str := m.bytes (Facts.size i.entry)
  let widest (f : Item → Str) : Nat := (all.map fun i => (f i).length).foldl max 0
  let linksWidth := widest links
  let sizeWidth := widest size
  items.map fun i =>
    let arrow : Str := match i.target with
      | some t => str " -> " ++ m.shown t ++ (i.behind.map (mark m)).getD []
      | none => mark m i.entry
    frills m tree all i ++ Host.Facts.modeLetters i.entry ++ ' ' :: Host.padLeft linksWidth (links i) ++
      (if m.has 'g' then [] else ' ' :: owner) ++
      (if m.has 'o' || m.has 'G' then [] else ' ' :: owner) ++
      ' ' :: Host.padLeft sizeWidth (size i) ++ ' ' :: m.time i.entry.modified ++
      ' ' :: m.blank all i.name ++ m.shown i.name ++ arrow

/-- Blanks from a column to another one, with tabs where they fit. -/
def indent : Nat → Nat → Nat → Str
  | 0, _, _ => []
  | fuel + 1, a, b =>
    if b ≤ a then []
    else if (a + 1) / 8 < b / 8 then '\t' :: indent fuel (a + 8 - a % 8) b
    else ' ' :: indent fuel (a + 1) b

/-- The widths of so many columns. -/
def columnWidths (across : Bool) (widths : List Nat) (columns : Nat) : List Nat :=
  let rows := (widths.length + columns - 1) / columns
  let place (n : Nat) : Nat := if across then n % columns else n / max 1 rows
  (List.range columns).map fun k =>
    (widths.zipIdx.map fun (w, n) =>
      if place n = k then (if k = columns - 1 then w else w + 2) else 0).foldl max 3

/-- Names in columns. -/
def columnLines (across : Bool) (lineWidth : Nat) (names : List Str) : List Str :=
  let width (s : Str) : Nat := (Host.characters s).length
  let widths := names.map width
  let most := max 1 (min names.length ((lineWidth + 2) / 3))
  let fits (k : Nat) : Bool := (columnWidths across widths k).foldl (· + ·) 0 < lineWidth
  let columns :=
    (((List.range most).map fun k => most - k).find? fun k => k = 1 || fits k).getD 1
  let sizes := columnWidths across widths columns
  let rows := (names.length + columns - 1) / columns
  let line (cells : List (Str × Nat)) : Str :=
    let step (acc : Str × Nat × Nat) (cell : Str × Nat) : Str × Nat × Nat :=
      let (text, ends, starts) := acc
      (text ++ indent (starts - ends) ends starts ++ cell.1, starts + width cell.1, starts + cell.2)
    (cells.foldl step ([], 0, 0)).1
  (List.range rows).map fun r =>
    line <| (List.range columns).filterMap fun k =>
      (names[if across then r * columns + k else k * rows + r]?).map fun n => (n, sizes.getD k 0)

/-- Names with commas between them, in lines of a width. -/
def commaLines (lineWidth : Nat) : Nat → Str → List Str → List Str
  | _, line, [] => [line]
  | pos, line, name :: rest =>
    let n := (Host.characters name).length
    if line = [] then commaLines lineWidth n name rest
    else if lineWidth = 0 || pos + n + 2 < lineWidth then
      commaLines lineWidth (pos + 2 + n) (line ++ str ", " ++ name) rest
    else (line ++ [',']) :: commaLines lineWidth n name rest

/-- The lines of a list of items, which are some of all items that are shown in one go. -/
def linesFor (m : Manner) (tree : FileTree) (all items : List Item) : List Str :=
  let plain (i : Item) : Str :=
    frills m tree all i ++ m.blank all i.name ++ m.shown i.name ++ mark m i.entry
  if items = [] then []
  else match m.format with
    | .single => items.map plain
    | .long => longLines m tree all items
    | .down =>
      if m.width = 0 then [Host.joinWith (str "  ") (items.map plain)]
      else columnLines false m.width (items.map plain)
    | .across =>
      if m.width = 0 then [Host.joinWith (str "  ") (items.map plain)]
      else columnLines true m.width (items.map plain)
    | .commas => commaLines m.width 0 [] (items.map plain)

/-! ## Directories -/

/-- Whether a name in a directory is listed. -/
def Manner.lists (m : Manner) (name : Str) : Bool :=
  (m.has 'a' || m.has 'A' || name.head? ≠ some '.') &&
    !(m.has 'B' && name.getLast? = some '~') && !m.hidden.any fun p => Shell.Pattern.globAccepts p name

/-- The items of a directory. -/
def itemsIn (m : Manner) (tree : FileTree) (dir : Location) : List Item :=
  let here := { tree with current := dir }
  let dots : List Str := if m.has 'a' then [['.'], ['.', '.']] else []
  let names := dots ++ ((tree.names dir).map Host.ofBytes).filter m.lists
  names.filterMap fun n => (itemAt m here false n).toOption

/-- What a directory gives, with those below it if they are wanted. -/
def directoryText (m : Manner) (tree : FileTree) : Nat → Bool → Str → Location → Str
  | 0, _, _, _ => []
  | fuel + 1, titled, name, loc =>
    let items := m.ordered (itemsIn m tree loc)
    let title := if titled then m.shown name ++ str ":\n" else []
    let total := if m.format = .long || m.has 's' then
        str "total " ++ m.blocks ((items.map fun i => Facts.room i.entry).foldl (· + ·) 0) ++ ['\n']
      else []
    let below := if m.has 'R' then
        items.flatMap fun i =>
          if i.entry.node.isDirectory && i.name ≠ ['.'] && i.name ≠ ['.', '.'] then
            '\n' :: directoryText m tree fuel true (Host.pathJoin name i.name) i.loc
          else []
      else []
    title ++ total ++ Host.unlines (linesFor m tree items items) ++ below

/-! ## Options -/

def options : Host.OptionTable :=
  ⟨"abcdfghiklmnopqrstuvw:xABCDFGHI:LNQRST:UXZ1",
    [⟨"all", .nothing, 'a'⟩, ⟨"almost-all", .nothing, 'A'⟩, ⟨"author", .nothing, '\x0e'⟩,
      ⟨"escape", .nothing, 'b'⟩, ⟨"block-size", .value, '\x03'⟩, ⟨"ignore-backups", .nothing, 'B'⟩,
      ⟨"color", .maybe, '\x04'⟩, ⟨"directory", .nothing, 'd'⟩, ⟨"dired", .nothing, 'D'⟩,
      ⟨"classify", .maybe, 'F'⟩, ⟨"file-type", .nothing, '\x06'⟩, ⟨"format", .value, '\x07'⟩,
      ⟨"full-time", .nothing, '\x10'⟩, ⟨"group-directories-first", .nothing, '\x05'⟩,
      ⟨"no-group", .nothing, 'G'⟩, ⟨"human-readable", .nothing, 'h'⟩, ⟨"si", .nothing, 'h'⟩,
      ⟨"dereference-command-line", .nothing, 'H'⟩,
      ⟨"dereference-command-line-symlink-to-dir", .nothing, '\x11'⟩, ⟨"hide", .value, '\x12'⟩,
      ⟨"hyperlink", .maybe, '\x13'⟩, ⟨"indicator-style", .value, '\x14'⟩, ⟨"inode", .nothing, 'i'⟩,
      ⟨"ignore", .value, 'I'⟩, ⟨"kibibytes", .nothing, 'k'⟩, ⟨"dereference", .nothing, 'L'⟩,
      ⟨"numeric-uid-gid", .nothing, 'n'⟩, ⟨"literal", .nothing, 'N'⟩,
      ⟨"hide-control-chars", .nothing, 'q'⟩, ⟨"show-control-chars", .nothing, '\x15'⟩,
      ⟨"quote-name", .nothing, 'Q'⟩, ⟨"quoting-style", .value, '\x16'⟩, ⟨"reverse", .nothing, 'r'⟩,
      ⟨"recursive", .nothing, 'R'⟩, ⟨"size", .nothing, 's'⟩, ⟨"sort", .value, '\x17'⟩,
      ⟨"time", .value, '\x18'⟩, ⟨"time-style", .value, '\x19'⟩, ⟨"tabsize", .value, 'T'⟩,
      ⟨"width", .value, 'w'⟩, ⟨"context", .nothing, 'Z'⟩, ⟨"zero", .nothing, '\x1a'⟩], true⟩

/-- The words for ways to put items in order. -/
def sortings : List (String × Sorting) :=
  [("none", .nothing), ("time", .time), ("size", .size), ("extension", .suffix),
    ("version", .version), ("width", .width)]

/-- The words for ways to set items out. -/
def layouts : List (List String × Format) :=
  [(["verbose", "long"], .long), (["commas"], .commas), (["horizontal", "across"], .across),
    (["vertical"], .down), (["single-column"], .single)]

/-- The last of the options that is about something. -/
def latest {α : Type} (g : Given) (f : Char → Option Str → Option α) : Option α :=
  g.options.reverse.findSome? fun o => f o.1 o.2

/-- How times are shown that a word or a format names. -/
def timesFor (style : Str) : Str × Str :=
  match style with
  | '+' :: f =>
    match Host.cut '\n' f with
    | (old, some new) => (old, new)
    | (f, none) => (f, f)
  | s =>
    match Host.word s with
    | "full-iso" => (str "%Y-%m-%d %H:%M:%S.%N %z", str "%Y-%m-%d %H:%M:%S.%N %z")
    | "long-iso" => (str "%Y-%m-%d %H:%M", str "%Y-%m-%d %H:%M")
    | "iso" => (str "%Y-%m-%d ", str "%m-%d %H:%M")
    | _ => (str "%b %e  %Y", str "%b %e %H:%M")

/-- The words for when something is done: always, never, or at a terminal. -/
def occasions : List (List String × Nat) :=
  [(["always", "yes", "force"], 1), (["never", "no", "none"], 0), (["auto", "tty", "if-tty"], 0)]

/-- How a list is made that options ask for; a wrong word ends the program. -/
def mannerOf (c : Call) (g : Given) (standard : Format) (escapes : Bool) : Act Manner := do
  let word {α : Type} (option : String) (letter : Char) (table : List (List String × α)) :
      Act (Option α) := do
    match g.value? letter with
    | none => return none
    | some v =>
      match ← c.choose option (table.map Prod.fst) v with
      | some i => return (table[i]?).map Prod.snd
      | none =>
        c.hint
        Act.exit 1
  let occasion (option : String) (letter : Char) : Act Bool := do
    if (g.options.find? fun o => o.1 = letter && o.2.isSome).isSome then
      return (← word option letter occasions) = some 1
    else return true
  let _ ← occasion "--color" '\x04'
  let _ ← occasion "--hyperlink" '\x13'
  let classifies ← occasion "--classify" 'F'
  let _ ← word "--time" '\x18' [(["atime", "access", "use"], 0), (["ctime", "status"], 1),
    (["mtime", "modification"], 2), (["birth", "creation"], 3)]
  let namedQuoting ← word "--quoting-style" '\x16' (Quoting.words.map fun q => ([q.1], q.2))
  let quoting := latest g fun letter _ => match letter with
    | 'Q' => some (Quoting.double true)
    | 'b' => some .escape
    | 'N' => some .literal
    | '\x16' => namedQuoting
    | _ => none
  let namedSorting ← word "--sort" '\x17' (sortings.map fun s => ([s.1], s.2))
  let namedFormat ← word "--format" '\x07' layouts
  let style ← word "--indicator-style" '\x14'
    [(["none"], 0), (["slash"], 1), (["file-type"], 2), (["classify"], 3)]
  let format := g.options.foldl (fun (f : Format) o => match o.1 with
    | 'l' | 'n' | 'g' | 'o' | '\x10' => .long
    | 'C' => .down
    | 'x' => .across
    | 'm' => .commas
    | '1' => if f = .long then f else .single
    | '\x07' => namedFormat.getD f
    | _ => f) standard
  let sorting := latest g fun letter _ => match letter with
    | 'S' => some Sorting.size
    | 't' => some .time
    | 'U' => some .nothing
    | 'f' => some .nothing
    | 'v' => some .version
    | 'X' => some .suffix
    | '\x17' => namedSorting
    | _ => none
  let sortsByTime := (g.has 'u' || g.has 'c') && format ≠ .long
  let marks := latest g fun letter _ => match letter with
    | 'F' => some (if classifies then 3 else 0)
    | 'p' => some 1
    | '\x06' => some 2
    | '\x14' => style
    | _ => none
  let marks := marks.getD 0
  let follow := latest g fun letter _ => match letter with
    | 'L' => some Follow.always
    | 'H' => some .named
    | '\x11' => some .namedDirectories
    | _ => none
  let width ← match g.value? 'w' with
    | none => pure 80
    | some s =>
      match Host.natural? s with
      | some n => pure n
      | none => c.die 2 (str "invalid line width: " ++ curly s)
  let now ← Act.now
  let h ← get
  return {
    format
    sorting := sorting.getD (if sortsByTime then .time else .name)
    follow := follow.getD
      (if g.has 'd' || marks = 3 || format = .long then .never else .namedDirectories)
    quoting := quoting.getD (if escapes then .escape else .literal)
    has := fun letter => g.has letter || letter = 'a' && g.has 'f'
    hidden := g.values 'I' ++ if g.has 'a' || g.has 'A' then [] else g.values '\x12'
    marks
    width
    zone := Host.DateText.Zone.of h.process.environment
    now
    times := timesFor (if g.has '\x10' then str "full-iso" else (g.value? '\x19').getD []) }

end Listed

open Listed in
/-- List files and directories. -/
def lsAs (standard : Format) (escapes : Bool) : Program := fun _ c => do
  let g ← c.read 2 options.letters options.long true
  let m ← mannerOf c g standard escapes
  let tree ← Act.tree
  let mut status := 0
  let mut items : List Item := []
  for o in (if g.operands = [] then [['.']] else g.operands) do
    match itemAt m tree true o with
    | .ok i => items := items ++ [i]
    | .error cause =>
      c.warn (str "cannot access " ++ always o ++ str ": " ++ Host.reason cause)
      status := 2
  let ordered := m.ordered items
  let isListed (i : Item) : Bool := i.entry.node.isDirectory && !g.has 'd'
  let files := ordered.filter fun i => !isListed i
  let directories := ordered.filter isListed
  Act.say (Host.unlines (linesFor m tree items files))
  let titled := files ≠ [] || 1 < g.operands.length || g.has 'R'
  let texts := directories.map fun i => directoryText m tree 200 titled i.name i.loc
  if files ≠ [] && directories ≠ [] then Act.say ['\n']
  Act.say (Host.joinWith ['\n'] texts)
  return status

/-- List files and directories, one on a line. -/
def ls : Program := lsAs .single false

/-! ## Single facts -/

namespace Fact

/-- The quoted name of a file, with the target of a link. -/
def quoted (name : Str) (e : Entry) : Str :=
  always name ++ match e.node with
    | .link target => str " -> " ++ always (Host.ofPath target)
    | _ => []

/-- A time in full. -/
def moment (zone : Host.DateText.Zone) (t : Time) : Str :=
  Host.DateText.written zone (str "%Y-%m-%d %H:%M:%S.%N %z") t

/-- What a letter stands for. -/
def value (tree : FileTree) (zone : Host.DateText.Zone) (name : Str) (loc : Location) (e : Entry)
    (letter : Char) : Str :=
  let seconds := Host.decimal (e.modified.fdiv Host.Calendar.second)
  match letter with
  | 'a' => Host.digitsIn 8 e.mode
  | 'A' => Host.Facts.modeLetters e
  | 'b' => Host.decimal (Facts.room e / 512 : Nat)
  | 'B' => str "512"
  | 'C' => ['?']
  | 'd' => str "65024"
  | 'D' => str "fe00"
  | 'f' => Host.digitsIn 16 (Host.Facts.fullMode e)
  | 'F' => Host.Facts.kindWords e
  | 'g' | 'u' | 't' | 'T' | 'r' | 'R' => ['0']
  | 'G' | 'U' => str "root"
  | 'h' => Host.decimal (Host.Facts.links tree loc e)
  | 'i' => Host.decimal (Host.Facts.number tree loc e)
  | 'm' => ['/']
  | 'n' => name
  | 'N' => quoted name e
  | 'o' => str "4096"
  | 's' => Host.decimal (Facts.size e)
  | 'w' | 'x' | 'y' | 'z' => moment zone e.modified
  | 'W' | 'X' | 'Y' | 'Z' => seconds
  | _ => ['?']

/-- A value set into a width, and cut to a length if it is text. -/
def fitted (flags : Str) (width : Nat) (v : Str) : Str :=
  if flags.contains '-' then Host.padRight width v
  else if flags.contains '0' then Host.run (width - v.length) '0' ++ v
  else Host.padLeft width v

/-- A format filled in; whether backslashes spell characters. -/
def filled (escapes : Bool) (value : Char → Str) : Nat → Str → Str
  | 0, _ => []
  | _, [] => []
  | fuel + 1, '%' :: rest =>
    let flags := rest.takeWhile fun c => "-+ 0#'".toList.contains c
    let rest := rest.drop flags.length
    let width := rest.takeWhile Char.isDigit
    let rest := rest.drop width.length
    let (cutTo, rest) : Option Nat × Str := match rest with
      | '.' :: r =>
        let ds := r.takeWhile Char.isDigit
        (some (Host.foldDigits 10 ds), r.drop ds.length)
      | r => (none, r)
    match rest with
    | [] => ['%']
    | '%' :: more => '%' :: filled escapes value fuel more
    | letter :: more =>
      -- letters that go in front of another one
      let (letter, more) := match letter, more with
        | 'H', c :: m => if c = 'd' || c = 'r' then (c, m) else (letter, more)
        | 'L', c :: m => if c = 'd' || c = 'r' then (c, m) else (letter, more)
        | _, _ => (letter, more)
      let v := value letter
      let v := match cutTo with
        | some n => if "AFGNUnmwxyz".toList.contains letter then v.take n else v
        | none => v
      fitted flags (min 4096 (Host.foldDigits 10 width)) v ++ filled escapes value fuel more
  | fuel + 1, '\\' :: c :: rest =>
    if escapes then
      let digits := ((c :: rest).take 3).takeWhile (Host.isDigitIn 8)
      if digits ≠ [] then
        Char.ofNat (Host.foldDigits 8 digits % 256) :: filled escapes value fuel ((c :: rest).drop digits.length)
      else
        (match c with
          | 'n' => '\n'
          | 't' => '\t'
          | 'a' => '\x07'
          | 'b' => '\x08'
          | 'e' => '\x1b'
          | 'f' => '\x0c'
          | 'r' => '\r'
          | 'v' => '\x0b'
          | c => c) :: filled escapes value fuel rest
    else '\\' :: filled escapes value fuel (c :: rest)
  | fuel + 1, c :: rest => c :: filled escapes value fuel rest

/-- The facts that are told if nobody chooses. -/
def usual : String :=
  "  File: %N\n  Size: %-10s\tBlocks: %-10b IO Block: %-6o %F\n" ++
  "Device: %Hd,%Ld\tInode: %-10i  Links: %h\n" ++
  "Access: (%04a/%10.10A)  Uid: (%5u/%8U)   Gid: (%5g/%8G)\n" ++
  "Access: %x\nModify: %y\nChange: %z\n Birth: %w\n"

end Fact

open StaleBuild.Utility.Fact in
/-- Tell facts about files. -/
def stat : Program := fun _ c => do
  let g ← c.read 1 "c:fLt"
    [⟨"dereference", .nothing, 'L'⟩, ⟨"file-system", .nothing, 'f'⟩, ⟨"format", .value, 'c'⟩,
      ⟨"printf", .value, '\x03'⟩, ⟨"terse", .nothing, 't'⟩, ⟨"cached", .value, '\x04'⟩] true
  if g.operands = [] then c.misused 1 (str "missing operand")
  let chosen := Listed.latest g fun letter v => match letter with
    | 'c' => some (false, (v.getD []) ++ ['\n'])
    | '\x03' => some (true, v.getD [])
    | _ => none
  let (escapes, format) := chosen.getD (false, str (if g.has 't' then
    "%n %s %b %f %u %g %D %i %h %t %T %X %Y %Z %W %o\n" else usual))
  let h ← get
  let zone := Host.DateText.Zone.of h.process.environment
  eachOperand g.operands fun o => do
    let tree ← Act.tree
    let found := if g.has 'L' then tree.find (Host.pathOf o) else named? tree o
    match found with
    | .error cause => reporting c (str "cannot statx " ++ always o) (.error cause)
    | .ok (loc, e) =>
      let letters (letter : Char) : Str :=
        if letter = 'N' && chosen.isNone then
          (if (match e.node with
            | .link _ => true
            | _ => false) then Host.Quote.ifNeeded o ++ (quoted o e).drop (always o).length
          else Host.Quote.ifNeeded o)
        else value tree zone o loc e letter
      Act.say (filled escapes letters (format.length + 1) format)
      return true

/-! ## Paths -/

/-- Write the targets of links, or plain paths. -/
def readlink : Program := fun _ c => do
  let g ← c.read 1 "efmnqsvz"
    [⟨"canonicalize", .nothing, 'f'⟩, ⟨"canonicalize-existing", .nothing, 'e'⟩,
      ⟨"canonicalize-missing", .nothing, 'm'⟩, ⟨"no-newline", .nothing, 'n'⟩,
      ⟨"quiet", .nothing, 'q'⟩, ⟨"silent", .nothing, 's'⟩, ⟨"verbose", .nothing, 'v'⟩,
      ⟨"zero", .nothing, 'z'⟩] true
  if g.operands = [] then c.misused 1 (str "missing operand")
  let bare := g.has 'n' && g.operands.length = 1
  if g.has 'n' && !bare then c.warn (str "ignoring --no-newline with multiple arguments")
  let tells := (Listed.latest g fun letter _ => match letter with
    | 'v' => some true
    | 'q' | 's' => some false
    | _ => none).getD false
  let presence := Listed.latest g fun letter _ => match letter with
    | 'f' => some Host.Facts.Presence.allButLast
    | 'e' => some .all
    | 'm' => some .nothing
    | _ => none
  eachOperand g.operands fun o => do
    let tree ← Act.tree
    let found : Except FileError Str := match presence with
      | some p => (Host.Facts.canonical tree p true o).map Host.Facts.pathText
      | none =>
        match named? tree o with
        | .error cause => .error cause
        | .ok (_, e) =>
          match e.node with
          | .link target => .ok (Host.ofPath target)
          | _ => .error .invalidArgument
    match found with
    | .ok s => do
      Act.say (s ++ if bare then [] else if g.has 'z' then ['\x00'] else ['\n'])
      return true
    | .error cause => do
      if tells then c.warn (beforeColon o ++ str ": " ++ Host.reason cause)
      return false

/-- Write plain paths. -/
def realpath : Program := fun _ c => do
  let g ← c.read 1 "eLmPqsz"
    [⟨"canonicalize-existing", .nothing, 'e'⟩, ⟨"canonicalize-missing", .nothing, 'm'⟩,
      ⟨"relative-to", .value, '\x03'⟩, ⟨"relative-base", .value, '\x04'⟩, ⟨"quiet", .nothing, 'q'⟩,
      ⟨"strip", .nothing, 's'⟩, ⟨"no-symlinks", .nothing, 's'⟩, ⟨"zero", .nothing, 'z'⟩,
      ⟨"logical", .nothing, 'L'⟩, ⟨"physical", .nothing, 'P'⟩] true
  if g.operands = [] then c.misused 1 (str "missing operand")
  let presence := (Listed.latest g fun letter _ => match letter with
    | 'e' => some Host.Facts.Presence.all
    | 'm' => some .nothing
    | _ => none).getD .allButLast
  let plain (o : Str) : Act (Except FileError Location) := do
    let tree ← Act.tree
    return Host.Facts.canonical tree presence (!g.has 's') o
  let base (letter : Char) : Act (Option Location) := do
    match g.value? letter with
    | none => return none
    | some d =>
      match ← plain d with
      | .error cause => c.die 1 (beforeColon d ++ str ": " ++ Host.reason cause)
      | .ok loc =>
        let tree ← Act.tree
        if presence = .all && !(tree.get? loc).any fun e => e.node.isDirectory then
          c.die 1 (beforeColon d ++ str ": " ++ Host.reason .notADirectory)
        return some loc
  let start ← base '\x03'
  let bound ← base '\x04'
  eachOperand g.operands fun o => do
    match ← plain o with
    | .ok loc =>
      let text := match start, bound with
        | none, none => Host.Facts.pathText loc
        | some s, none => wayTo s loc
        | none, some b => if b.isSuffixOf loc then wayTo b loc else Host.Facts.pathText loc
        | some s, some b =>
          if b.isSuffixOf s && b.isSuffixOf loc then wayTo s loc else Host.Facts.pathText loc
      Act.say (text ++ if g.has 'z' then ['\x00'] else ['\n'])
      return true
    | .error cause => do
      if !g.has 'q' then c.warn (beforeColon o ++ str ": " ++ Host.reason cause)
      return false

/-! ## Room -/

namespace Room

/-- A line of the report: how deep a file lies, whether it is a directory, its path and its room, with and
without what is below other directories. -/
structure Line where
  depth : Nat
  isDirectory : Bool
  path : Str
  room : Nat
  own : Nat

/-- The first location of a file, which stands for all of them. -/
def firstName (tree : FileTree) (loc : Location) (e : Entry) : Location :=
  match e.shared with
  | none => loc
  | some n => ((tree.entries.find? fun old => old.2.shared = some n).map Prod.fst).getD loc

/-- The rooms of a file and of all below it, and the files that have been counted. With `all` each file is
counted once, and else each that has several names. -/
def rooms (all : Bool) (measure : Entry → Nat) (tree : FileTree) :
    Nat → Nat → List Location → Str → Location → Entry → List Line × List Location
  | 0, _, counted, _, _, _ => ([], counted)
  | fuel + 1, depth, counted, path, loc, e =>
    if counted.contains (firstName tree loc e) then ([], counted)
    else
      let counted := if all || e.shared.isSome then firstName tree loc e :: counted else counted
      match e.node with
      | .directory =>
        let step (acc : List Line × List Location × Nat × Nat) (n : Bytes) :
            List Line × List Location × Nat × Nat :=
          let (out, counted, sum, own) := acc
          match tree.get? (n :: loc) with
          | none => acc
          | some below =>
            let (more, counted) := rooms all measure tree fuel (depth + 1) counted
              (Host.pathJoin path (Host.ofBytes n)) (n :: loc) below
            let total := (more.getLast?.map Line.room).getD 0
            (out ++ more, counted, sum + total, if below.node.isDirectory then own else own + total)
        let (out, counted, sum, own) := (tree.names loc).foldl step ([], counted, 0, 0)
        let self := measure e
        (out ++ [⟨depth, true, path, sum + self, own + self⟩], counted)
      | _ => ([⟨depth, false, path, measure e, measure e⟩], counted)

end Room

/-- Tell how much room files take. -/
def du : Program := fun _ c => do
  let g ← c.read 1 "0abd:chHklmst:xB:DLPSX:"
    [⟨"null", .nothing, '0'⟩, ⟨"all", .nothing, 'a'⟩, ⟨"apparent-size", .nothing, '\x03'⟩,
      ⟨"block-size", .value, 'B'⟩, ⟨"bytes", .nothing, 'b'⟩, ⟨"total", .nothing, 'c'⟩,
      ⟨"dereference-args", .nothing, 'D'⟩, ⟨"max-depth", .value, 'd'⟩, ⟨"exclude", .value, '\x04'⟩,
      ⟨"human-readable", .nothing, 'h'⟩, ⟨"inodes", .nothing, '\x05'⟩, ⟨"count-links", .nothing, 'l'⟩,
      ⟨"dereference", .nothing, 'L'⟩, ⟨"no-dereference", .nothing, 'P'⟩,
      ⟨"separate-dirs", .nothing, 'S'⟩, ⟨"si", .nothing, 'h'⟩, ⟨"summarize", .nothing, 's'⟩,
      ⟨"threshold", .value, 't'⟩, ⟨"one-file-system", .nothing, 'x'⟩] true
  let deepest ← match g.value? 'd' with
    | none => pure (if g.has 's' then some 0 else none)
    | some v =>
      match Host.natural? v with
      | some n => pure (some n)
      | none => c.misused 1 (str "invalid maximum depth " ++ curly v)
  if g.has 's' && g.has 'a' then
    c.misused 1 (str "cannot both summarize and show all entries")
  if g.has 's' && g.has 'd' then
    if deepest = some 0 then
      c.warn (str "warning: summarizing is the same as using --max-depth=0")
    else
      c.misused 1 (str "warning: summarizing conflicts with --max-depth=" ++
        Host.decimal (deepest.getD 0 : Nat))
  let apparent := g.has 'b' || g.has '\x03'
  let measure (e : Entry) : Nat :=
    if g.has '\x05' then 1 else if apparent then Facts.size e else Facts.room e
  let shown (n : Nat) : Str :=
    if g.has '\x05' then Host.decimal n
    else if g.has 'h' then Host.Facts.human n
    else
      let unit := if g.has 'b' then 1 else if g.has 'm' then 1048576
        else match (g.value? 'B').bind count? with
          | some u => max 1 u
          | none => 1024
      Host.decimal ((n + unit - 1) / unit : Nat)
  let line (n : Nat) (path : Str) : Act Unit :=
    Act.say (shown n ++ '\t' :: path ++ if g.has '0' then ['\x00'] else ['\n'])
  let tree ← Act.tree
  let mut status := 0
  let mut counted : List Location := []
  let mut total := 0
  for o in (if g.operands = [] then [['.']] else g.operands) do
    let found := if g.has 'L' || g.has 'D' || g.has 'H' then tree.find (Host.pathOf o) else named? tree o
    match found with
    | .error cause =>
      c.warn (str "cannot access " ++ always o ++ str ": " ++ Host.reason cause)
      status := 1
    | .ok (loc, e) =>
      let (entries, counted') := Room.rooms (1 < g.operands.length) measure tree 200 0 counted o loc e
      if !g.has 'l' then counted := counted'
      for r in entries do
        if (r.isDirectory || g.has 'a' || r.depth = 0) && deepest.all fun d => r.depth ≤ d then
          line (if g.has 'S' then r.own else r.room) r.path
      total := total + (entries.getLast?.map Room.Line.room).getD 0
  if g.has 'c' then line total (str "total")
  return status

end StaleBuild.Utility
