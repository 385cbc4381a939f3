import StaleBuild.Host.Search
import StaleBuild.Shell.Pattern
import StaleBuild.Utility.Filing
import StaleBuild.Utility.Search.Reader

/-!
Looking for files below directories: each file is asked about as it is reached, a directory before what is
in it or after that, and actions happen at once.
-/

namespace StaleBuild.Utility

open Host (Str str Call Program Starter)
open Host.Quote (curly)

namespace Search

/-- A file as it is reached. -/
structure Visit where
  path : Str
  /-- The place where the search started. -/
  start : Str
  depth : Nat
  loc : Location
  entry : Entry

/-- How far a search is. -/
structure Progress where
  status : Nat
  stopped : Bool
  pruned : Bool
  /-- The files that actions have gathered, the latest first. -/
  gathered : List (Nat × Str)

/-- A step of a search. -/
abbrev Step := StateT Progress Act

/-- What does not change in a search. -/
structure Setup where
  call : Call
  starter : Starter
  scope : Scope
  zone : Host.DateText.Zone

/-- Note that something went wrong. -/
def failing : Step Unit := modify fun p => { p with status := 1 }

/-- Complain about a file. -/
def Setup.complain (s : Setup) (path : Str) (cause : FileError) : Step Unit := do
  s.call.warn (curly path ++ str ": " ++ Host.reason cause)
  failing

/-- The last name of a path, where separators at its end do not count. -/
def lastName (path : Str) : Str := Host.baseName path

/-- The path below the place where the search started. -/
def Visit.below (v : Visit) : Str :=
  match v.path.drop v.start.length with
  | '/' :: rest => rest
  | rest => rest

/-- What stands in front of the last name of a path. -/
def Visit.directory (v : Visit) : Str :=
  let path := if v.path.all (· = '/') then v.path else Host.dropEnd (· = '/') v.path
  if path.contains '/' then
    let front := (path.reverse.dropWhile (· ≠ '/')).drop 1
    if front = [] then [] else front.reverse
  else ['.']

/-- The letter of a kind in tests. -/
def letterOf (e : Entry) : Char :=
  match e.node with
  | .file _ => 'f'
  | _ => Host.Facts.kindLetter e

/-- What a link leads to, or the file itself. -/
def Visit.behind (v : Visit) (tree : FileTree) : Option Entry :=
  match v.entry.node with
  | .link target => (({ tree with current := v.loc.tail }).stat target).toOption
  | _ => some v.entry

/-- A time in the format of a letter. -/
def timeText (zone : Host.DateText.Zone) (letter : Char) (t : Time) : Str :=
  let w (f : String) : Str := Host.DateText.written zone (str f) t
  match letter with
  | '@' => Host.decimal (t.fdiv Host.Calendar.second) ++ '.' :: w "%N" ++ ['0']
  | '+' => w "%Y-%m-%d+%H:%M:%S.%N" ++ ['0']
  | 'S' => w "%S.%N" ++ ['0']
  | 'T' => w "%H:%M:%S.%N" ++ ['0']
  | 'X' => w "%H:%M:%S.%N" ++ ['0']
  | 'c' => w "%a %b %e %H:%M:%S.%N" ++ '0' :: w " %Y"
  | l => Host.DateText.written zone ['%', l] t

/-- What a letter of a format stands for. -/
def valueOf (s : Setup) (tree : FileTree) (v : Visit) (letter : Char) : Option Str :=
  let e := v.entry
  let behind := v.behind tree
  match letter with
  | 'p' => some v.path
  | 'f' => some (lastName v.path)
  | 'h' => some v.directory
  | 'P' => some v.below
  | 'H' => some v.start
  | 's' => some (Host.decimal (Host.Facts.size e : Nat))
  | 'm' => some (Host.digitsIn 8 e.mode)
  | 'M' => some (Host.Facts.modeLetters e)
  | 'y' => some [letterOf e]
  | 'Y' => some (match behind with
    | some b => [letterOf b]
    | none => ['N'])
  | 'd' => some (Host.decimal (v.depth : Nat))
  | 'l' => some (match e.node with
    | .link target => Host.ofPath target
    | _ => [])
  | 'u' | 'g' => some (str "root")
  | 'U' | 'G' => some ['0']
  | 'n' => some (Host.decimal (Host.Facts.links tree v.loc e : Nat))
  | 'i' => some (Host.decimal (Host.Facts.number tree v.loc e : Nat))
  | 'k' => some (Host.decimal (Host.Facts.room e / 1024 : Nat))
  | 'b' => some (Host.decimal (Host.Facts.room e / 512 : Nat))
  | 't' | 'a' | 'c' => some (timeText s.zone 'c' e.modified)
  | 'D' => some (str "65024")
  | 'F' => some (str "overlay")
  | 'S' => some (str (if Host.Facts.size e = 0 then "1" else "1"))
  | '%' => some ['%']
  | _ => none

/-- A format filled in; the second part tells that nothing more is written. -/
def filled (s : Setup) (tree : FileTree) (v : Visit) : Nat → Str → Str
  | 0, _ => []
  | _, [] => []
  | fuel + 1, '\\' :: c :: rest =>
    let digits := ((c :: rest).take 3).takeWhile (Host.isDigitIn 8)
    if digits ≠ [] then
      Char.ofNat (Host.foldDigits 8 digits % 256) :: filled s tree v fuel ((c :: rest).drop digits.length)
    else match c with
      | 'a' => '\x07' :: filled s tree v fuel rest
      | 'b' => '\x08' :: filled s tree v fuel rest
      | 'c' => []
      | 'f' => '\x0c' :: filled s tree v fuel rest
      | 'n' => '\n' :: filled s tree v fuel rest
      | 'r' => '\r' :: filled s tree v fuel rest
      | 't' => '\t' :: filled s tree v fuel rest
      | 'v' => '\x0b' :: filled s tree v fuel rest
      | '\\' => '\\' :: filled s tree v fuel rest
      | c => '\\' :: c :: filled s tree v fuel rest
  | fuel + 1, '%' :: rest =>
    let flags := rest.takeWhile fun c => "-+ 0#".toList.contains c
    let behind := rest.drop flags.length
    let width := behind.takeWhile Char.isDigit
    let behind := behind.drop width.length
    let (most, behind) : Option Nat × Str := match behind with
      | '.' :: r =>
        let ds := r.takeWhile Char.isDigit
        (some (Host.foldDigits 10 ds), r.drop ds.length)
      | r => (none, r)
    let shown (x : Str) : Str :=
      let x := match most with
        | some n => x.take n
        | none => x
      let w := min 4096 (Host.foldDigits 10 width)
      if flags.contains '-' then Host.padRight w x
      else if flags.contains '0' then Host.run (w - x.length) '0' ++ x
      else Host.padLeft w x
    match behind with
    | [] => ['%']
    | letter :: more =>
      match letter, more with
      | 'T', k :: more => shown (timeText s.zone k v.entry.modified) ++ filled s tree v fuel more
      | 'A', k :: more => shown (timeText s.zone k v.entry.modified) ++ filled s tree v fuel more
      | 'C', k :: more => shown (timeText s.zone k v.entry.modified) ++ filled s tree v fuel more
      | letter, more =>
        match valueOf s tree v letter with
        | some x => shown x ++ filled s tree v fuel more
        | none => '%' :: rest.take (rest.length - more.length) ++ filled s tree v fuel more
  | fuel + 1, c :: rest => c :: filled s tree v fuel rest

/-- The directives of a format that have no meaning. -/
def unknown : Nat → Str → List Char
  | 0, _ => []
  | _, [] => []
  | fuel + 1, '\\' :: _ :: rest => unknown fuel rest
  | fuel + 1, '%' :: rest =>
    match rest.dropWhile fun c => "-+ 0#.".toList.contains c || c.isDigit with
    | [] => []
    | letter :: more =>
      if "TAC".toList.contains letter then unknown fuel (more.drop 1)
      else if "pfhPHsmMyYdluUgGnikbtacDFS%".toList.contains letter then unknown fuel more
      else letter :: unknown fuel more
  | fuel + 1, _ :: rest => unknown fuel rest

/-- The line of a long list. -/
def listLine (s : Setup) (tree : FileTree) (now : Time) (v : Visit) : Str :=
  let e := v.entry
  let recent := now - 15778476 * Host.Calendar.second < e.modified && e.modified ≤ now
  let time := Host.DateText.written s.zone (str (if recent then "%b %e %H:%M" else "%b %e  %Y")) e.modified
  let arrow := match e.node with
    | .link target => str " -> " ++ Host.ofPath target
    | _ => []
  Host.padLeft 9 (Host.decimal (Host.Facts.number tree v.loc e : Nat)) ++ ' ' ::
    Host.padLeft 6 (Host.decimal (Host.Facts.room e / 1024 : Nat)) ++ ' ' ::
    Host.Facts.modeLetters e ++ ' ' ::
    Host.padLeft 3 (Host.decimal (Host.Facts.links tree v.loc e : Nat)) ++
    str " root     root     " ++
    Host.padLeft 8 (Host.decimal (Host.Facts.size e : Nat)) ++ ' ' :: time ++ ' ' :: v.path ++ arrow ++ ['\n']

/-- Put a text out, or behind what is in a file. -/
def deliver (file : Option Str) (text : Str) : Step Unit := do
  match file with
  | none => Act.say text
  | some path =>
    if path = str "/dev/stdout" then Act.say text
    else if path = str "/dev/stderr" then Act.complain text
    else
      let _ ← (Act.writePath path text .append : Act _)

/-- Run a program for a file; in place means in the directory of the file. -/
def Setup.launch (s : Setup) (loc : Option Location) (argv : List Str) : Step (Option Nat) := do
  let _ ← (Act.flush : Act _)
  let body : Act (Except FileError ExitState) := do
    modify fun h =>
      let (file, h) := h.openNew ⟨.special .null, 0, false, true, false⟩
      let h := h.withDescriptor 0 (some file)
      match loc with
      | some loc => { h with files := { h.files with current := loc } }
      | none => h
    Host.Search.runOrScript s.starter argv
  match ← (Act.within id body : Act _) with
  | .ok e => return some e.code
  | .error cause =>
    s.call.warn (curly (argv.headD []) ++ str ": " ++ Host.reason cause)
    return none

/-- An argument with the path in place of the marks for it. -/
def marked (path : Str) : Nat → Str → Str
  | 0, s => s
  | _, [] => []
  | fuel + 1, '\x7b' :: '\x7d' :: rest => path ++ marked path fuel rest
  | fuel + 1, c :: rest => c :: marked path fuel rest

/-- The path of a file seen from its directory. -/
def Visit.inPlace (v : Visit) : Str := str "./" ++ lastName v.path

/-- Remove a file. -/
def Setup.delete (s : Setup) (v : Visit) : Step Bool := do
  if v.path = ['.'] || v.path = ['/'] then return true
  let tree ← (Act.tree : Act _)
  let failed (cause : FileError) : Step Bool := do
    s.call.warn (str "cannot delete " ++ curly v.path ++ str ": " ++ Host.reason cause)
    failing
    return false
  match tree.get? v.loc with
  | none => failed .notFound
  | some e =>
    if e.node.isDirectory && tree.names v.loc ≠ [] then failed .notEmpty
    else do
      let now ← (Act.now : Act _)
      Act.setTree ((tree.prune v.loc).touch v.loc.tail now)
      return true

/-- Whether the permissions of a file are as a test wants them. -/
def permits (bound : Char) (wanted mode : Nat) : Bool :=
  match bound with
  | '-' => mode &&& wanted = wanted
  | '/' => wanted = 0 || mode &&& wanted ≠ 0
  | _ => mode = wanted

/-- Ask a test about a file. -/
def Setup.ask (s : Setup) (v : Visit) (t : Test) : Step Bool := do
  let tree ← (Act.tree : Act _)
  let now ← (Act.now : Act _)
  let glob (ignoresCase : Bool) (pattern text : Str) : Bool :=
    if ignoresCase then Shell.Pattern.globAccepts (Host.toLower pattern) (Host.toLower text) else Shell.Pattern.globAccepts pattern text
  match t with
  | .constant b => return b
  | .name ignoresCase pattern => return glob ignoresCase pattern (lastName v.path)
  | .path ignoresCase pattern => return glob ignoresCase pattern v.path
  | .regex ignoresCase e =>
    return (Regex.ends ⟨ignoresCase, false⟩ e ⟨0, none, v.path, []⟩).any fun x => x.index = v.path.length
  | .kind behind letters =>
    let e := if behind then (v.behind tree).getD v.entry else v.entry
    return letters.contains (letterOf e)
  | .size limit unit => return limit.accepts ((Host.Facts.size v.entry + unit - 1) / unit : Nat)
  | .empty =>
    return match v.entry.node with
      | .file contents => contents.isEmpty
      | .directory => (tree.names v.loc).isEmpty
      | _ => false
  | .newer time => return decide (time < v.entry.modified)
  | .age limit unit =>
    let seconds := (now - v.entry.modified).fdiv Host.Calendar.second
    return limit.accepts (if unit = 60 then -((-seconds).fdiv 60) else seconds.fdiv unit)
  | .permission bound mode => return permits bound mode v.entry.mode
  | .owner isRoot => return isRoot
  | .ownerNumber limit => return limit.accepts 0
  | .links limit => return limit.accepts (Host.Facts.links tree v.loc v.entry : Nat)
  | .number limit => return limit.accepts (Host.Facts.number tree v.loc v.entry : Nat)
  | .same loc =>
    return decide (loc = v.loc) || (v.entry.shared.isSome &&
      (tree.get? loc).any fun e => e.shared = v.entry.shared)
  | .target ignoresCase pattern =>
    return match v.entry.node with
      | .link target => glob ignoresCase pattern (Host.ofPath target)
      | _ => false
  | .runnable =>
    let e := (v.behind tree).getD v.entry
    return e.isExecutable || e.node.isDirectory
  | .prune => do
    if !s.scope.inside then modify fun p => { p with pruned := true }
    return true
  | .quit => do
    modify fun p => { p with stopped := true }
    return true
  | .delete => s.delete v
  | .print mark file => do
    deliver file (v.path ++ mark)
    return true
  | .printf format file => do
    deliver file (filled s tree v (format.length + 1) format)
    return true
  | .list => do
    deliver none (listLine s tree now v)
    return true
  | .run argv inPlace asks =>
    let path := if inPlace then v.inPlace else v.path
    let argv := argv.map fun a => marked path (a.length + 1) a
    if asks then do
      Act.complain (str "< " ++ argv.headD [] ++ str " ... " ++ v.path ++ str " > ? ")
      return false
    else return (← s.launch (if inPlace then some v.loc.tail else none) argv) = some 0
  | .gather n argv inPlace =>
    if inPlace then do
      if (← s.launch (some v.loc.tail) (argv ++ [v.inPlace])) ≠ some 0 then failing
      return true
    else do
      modify fun p => { p with gathered := (n, v.path) :: p.gathered }
      return true

/-- Ask a query about a file. -/
def Setup.answer (s : Setup) (v : Visit) : Query → Step Bool
  | .test t => do if (← get).stopped then return false else s.ask v t
  | .negation q => return !(← s.answer v q)
  | .both a b => do if ← s.answer v a then s.answer v b else return false
  | .either a b => do if ← s.answer v a then return true else s.answer v b
  | .second a b => do
    let _ ← s.answer v a
    s.answer v b

/-- Go through a file and what is below it. -/
def Setup.visit (s : Setup) (q : Query) : Nat → List Location → Visit → Step Unit
  | 0, _, _ => return ()
  | fuel + 1, above, v => do
    if (← get).stopped then return ()
    let wanted := s.scope.least ≤ v.depth && s.scope.most.all fun n => v.depth ≤ n
    let ask : Step Unit := do
      modify fun p => { p with pruned := false }
      if wanted then
        let _ ← s.answer v q
    let loops := above.contains v.loc
    if v.entry.node.isDirectory && loops then
      s.call.warn (str "File system loop detected; " ++ curly v.path ++
        str " is part of the same file system loop as " ++ curly v.start ++ ['.'])
      failing
    else
      if !s.scope.inside then ask
      if v.entry.node.isDirectory && !(← get).pruned && (s.scope.most.all fun n => v.depth < n) &&
          !(← get).stopped then
        let tree ← (Act.tree : Act _)
        match tree.get? v.loc with
        | none => s.complain v.path .notFound
        | some _ =>
          for n in tree.names v.loc do
            let tree ← (Act.tree : Act _)
            let path := Host.pathJoin v.path (Host.ofBytes n)
            let found : Option (Location × Entry) :=
              match tree.get? (n :: v.loc) with
              | none => none
              | some e =>
                match e.node with
                | .link target =>
                  if s.scope.follows then
                    ((({ tree with current := v.loc }).find target).toOption).or (some (n :: v.loc, e))
                  else some (n :: v.loc, e)
                | _ => some (n :: v.loc, e)
            match found with
            | none => pure ()
            | some (loc, entry) =>
              s.visit q fuel (v.loc :: above) ⟨path, v.start, v.depth + 1, loc, entry⟩
      if s.scope.inside then ask

/-- The actions of a query that gather files. -/
def gatherings : Query → List (Nat × List Str)
  | .test (.gather n argv false) => [(n, argv)]
  | .test _ => []
  | .negation q => gatherings q
  | .both a b | .either a b | .second a b => gatherings a ++ gatherings b

/-- The formats of a query. -/
def formatsIn : Query → List Str
  | .test (.printf f _) => [f]
  | .test _ => []
  | .negation q => formatsIn q
  | .both a b | .either a b | .second a b => formatsIn a ++ formatsIn b

end Search

open Search in
/-- Look for files. -/
def find : Program := fun start c => do
  if c.args.contains (str "--version") || c.args.contains (str "-version") then
    Act.say (c.name ++ str " (GNU findutils) 4.9.0\n")
    return 0
  let (scope, args) := leadOptions ⟨false, false, 0, none, false, false⟩ c.args
  let places := args.takeWhile fun a => !isQueryPart true a
  let r ← readItems c (args.length + 1) true ⟨[], scope, 0, 0, []⟩ (args.drop places.length)
  match read r.items.reverse with
  | .error complaint => c.die 1 (str complaint)
  | .ok q =>
    for f in formatsIn q do
      for letter in unknown f.length f do
        c.warn (str "warning: unrecognized format directive " ++ Char.ofNat 96 :: '%' :: letter :: ['\''])
    let h ← get
    let s : Setup := ⟨c, start, r.scope, Host.DateText.Zone.of h.process.environment⟩
    let work : Step Unit := do
      for p in (if places = [] then [['.']] else places) do
        if !(← get).stopped then
          let tree ← (Act.tree : Act _)
          let own := named? tree p
          let found := if s.scope.follows || s.scope.followsNamed then
              (match tree.find (Host.pathOf p) with
                | .ok x => .ok x
                | .error _ => own)
            else own
          match found with
          | .ok (loc, entry) => s.visit q 200 [] ⟨p, p, 0, loc, entry⟩
          | .error cause => s.complain p cause
      for (n, argv) in gatherings q do
        let files := ((← get).gathered.filter fun x => x.1 = n).reverse.map Prod.snd
        if files ≠ [] then
          if (← s.launch none (argv ++ files)) ≠ some 0 then failing
    let ((), p) ← work.run ⟨0, false, false, []⟩
    return p.status

end StaleBuild.Utility
