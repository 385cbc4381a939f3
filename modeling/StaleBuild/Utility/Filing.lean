import StaleBuild.Files.Change
import StaleBuild.Host.Mode
import StaleBuild.Host.Moment
import StaleBuild.Host.Options

/-!
Utilities that make and remove files and directories, and change what is known about them. Each
operand is handled by itself; one that fails is complained about and does not keep the next from being
handled.
-/

namespace StaleBuild.Utility

open Host (Str str Call Program Given)
open Host.Quote (always curly beforeColon)

/-! ## Common steps -/

/-- Do something for each operand; the status is the worst one. -/
def eachOperand (operands : List Str) (f : Str → Act Bool) : Act Nat := do
  let mut status := 0
  for o in operands do
    if !(← f o) then status := 1
  return status

/-- Report whether something was possible; if not, complain. -/
def reporting (c : Call) (words : Str) : Except FileError Unit → Act Bool
  | .ok () => return true
  | .error cause => do
    c.warn (words ++ str ": " ++ Host.reason cause)
    return false

/-- The location of an entry that a path names, a link counting as it is. -/
def named? (tree : FileTree) (p : Str) : Except FileError (Location × Entry) :=
  match tree.lookupLink (Host.pathOf p) with
  | .found loc e => .ok (loc, e)
  | .missing .. => .error .notFound
  | .failed cause => .error cause

/-- A place that is free for a new entry. -/
def freePlace (tree : FileTree) (p : Str) : Except FileError (Location × Bytes) :=
  match tree.lookupPlace (Host.pathOf p) with
  | .found .. => .error .alreadyExists
  | .missing dir name => .ok (dir, name)
  | .failed cause => .error cause

/-- Put a new entry into its place. -/
def createAt (p : Str) (node : Node) (mode : Nat) : Act (Except FileError Unit) :=
  Act.change fun tree now => (freePlace tree p).map fun (dir, name) =>
    (tree.put (name :: dir) { Entry.new node now with mode }).touch dir now

/-- The permissions of a new entry. -/
def masked (mode : Nat) : Act Nat := return mode &&& (0o7777 - (← get).process.umask)

/-- Set the permissions of an entry. -/
def setMode (loc : Location) (mode : Nat) : Act Unit := do
  let tree ← Act.tree
  match tree.get? loc with
  | some e => Act.setTree (tree.put loc { e with mode })
  | none => return ()

/-- Set the time of an entry. -/
def setTime (loc : Location) (time : Time) : Act Unit := do Act.setTree ((← Act.tree).touch loc time)

/-! ## Times -/

/-- The time that the options of `touch` ask for: a moment, that of another file, or now. -/
def touchTime (c : Call) (g : Given) (now : Time) : Act Time := do
  let start ← match g.value? 'r' with
    | none => pure now
    | some other =>
      match (← Act.tree).stat (Host.pathOf other) with
      | .ok e => pure e.modified
      | .error cause =>
        c.die 1 (str "failed to get attributes of " ++ always other ++ str ": " ++ Host.reason cause)
  match g.value? 'd', g.value? 't' with
  | some moment, _ =>
    match Host.Moment.read? start moment with
    | some time => return time
    | none => c.die 1 (str "invalid date format " ++ curly moment)
  | none, some moment =>
    match Host.Calendar.digits? now moment with
    | some time => return time
    | none => c.die 1 (str "invalid date format " ++ curly moment)
  | none, none => return start

/-- Give files a time; those that are missing are made. -/
def touch : Program := fun _ c => do
  let g ← c.read 1 "acd:fhmr:t:"
    [⟨"date", .value, 'd'⟩, ⟨"no-create", .nothing, 'c'⟩, ⟨"no-dereference", .nothing, 'h'⟩,
      ⟨"reference", .value, 'r'⟩, ⟨"time", .value, 'm'⟩] true
  let time ← touchTime c g (← Act.now)
  if g.operands = [] then c.misused 1 (str "missing file operand")
  let times (tree : FileTree) (loc : Location) (e : Entry) : FileTree :=
    -- the time of reading is not kept
    if g.has 'a' && !g.has 'm' then tree else tree.put loc { e with modified := time }
  eachOperand g.operands fun o => do
    let tree ← Act.tree
    if o = ['-'] then return true
    let found := if g.has 'h' then named? tree o else tree.find (Host.pathOf o)
    match found with
    | .ok (loc, e) => do
      Act.setTree (times tree loc e)
      return true
    | .error cause =>
      if cause = .notFound && (g.has 'c' || g.has 'h') then
        if g.has 'c' then return true
        else reporting c (str "setting times of " ++ always o) (.error cause)
      else if o.getLast? = some '/' && cause = .notFound then
        reporting c (str "setting times of " ++ always o) (.error cause)
      else
        match tree.openForWriting (Host.pathOf o) (← Act.now) with
        | .ok (loc, tree) => do
          Act.setTree tree
          setMode loc (← masked 0o666)
          let tree ← Act.tree
          match tree.get? loc with
          | some e => Act.setTree (times tree loc e)
          | none => pure ()
          return true
        | .error cause => reporting c (str "cannot touch " ++ always o) (.error cause)

/-! ## Directories -/

/-- Make a directory and those above it that are missing, telling about each one. -/
def makeAll (c : Call) (mode : Nat) (tells : Bool) : Nat → Str → Act (Except FileError Unit)
  | 0, _ => return .error .notFound
  | fuel + 1, p => do
    let tree ← Act.tree
    if tree.isDirectory (Host.pathOf p) then return .ok ()
    let above := Host.dirName p
    if above ≠ p && above ≠ ['.'] && !tree.isDirectory (Host.pathOf above) then
      match ← makeAll c (mode ||| 0o300) tells fuel above with
      | .error cause => return .error cause
      | .ok () => pure ()
    let r ← createAt p .directory (← masked mode)
    match r with
    | .ok () => if tells then Act.say (c.name ++ str ": created directory " ++ always p ++ ['\n'])
    | .error _ => pure ()
    return r

/-- Make directories. -/
def mkdir : Program := fun _ c => do
  let g ← c.readSome 1 "m:pvZ"
    [⟨"mode", .value, 'm'⟩, ⟨"parents", .nothing, 'p'⟩, ⟨"verbose", .nothing, 'v'⟩,
      ⟨"context", .maybe, 'Z'⟩] "operand" true
  let mode ← match g.value? 'm' with
    | none => pure none
    | some m =>
      match Host.Mode.changed? (← get).process.umask true 0o777 m with
      | some n => pure (some n)
      | none => c.die 1 (str "invalid mode " ++ curly m)
  eachOperand g.operands fun o => do
    let r ← if g.has 'p' then makeAll c 0o777 (g.has 'v') (o.length + 2) o
      else do
        let r ← createAt o .directory (← masked 0o777)
        match r with
        | .ok () => if g.has 'v' then
            Act.say (c.name ++ str ": created directory " ++ always o ++ ['\n'])
        | .error _ => pure ()
        pure r
    match mode, r, (← Act.tree).find (Host.pathOf o) with
    | some m, .ok (), .ok (loc, _) => setMode loc m
    | _, _, _ => pure ()
    reporting c (str "cannot create directory " ++ curly o) r

/-- Remove an empty directory. -/
def removeEmpty (p : Str) : Act (Except FileError Unit) := do
  match named? (← Act.tree) p with
  | .error cause => return .error cause
  | .ok (loc, e) =>
    let tree ← Act.tree
    if !e.node.isDirectory then return .error .notADirectory
    else if Host.baseName p = ['.'] then return .error .invalidArgument
    else if tree.names loc ≠ [] then return .error .notEmpty
    else Act.change fun tree now => .ok ((tree.prune loc).touch loc.tail now)

/-- Remove the directories above one that has been removed. -/
def removeAbove (c : Call) (tells ignores : Bool) : Nat → Str → Act Bool
  | 0, _ => return true
  | fuel + 1, p => do
    if !p.contains '/' then return true
    let above := Host.dirName p
    if above = ['/'] || above = p then return true
    if tells then Act.say (c.name ++ str ": removing directory, " ++ always above ++ ['\n'])
    match ← removeEmpty above with
    | .ok () => removeAbove c tells ignores fuel above
    | .error cause =>
      if ignores && cause = .notEmpty then return true
      else reporting c (str "failed to remove directory " ++ always above) (.error cause)

/-- Remove empty directories. -/
def rmdir : Program := fun _ c => do
  let g ← c.readSome 1 "pv"
    [⟨"parents", .nothing, 'p'⟩, ⟨"verbose", .nothing, 'v'⟩,
      ⟨"ignore-fail-on-non-empty", .nothing, 'i'⟩] "operand" true
  eachOperand g.operands fun o => do
    if g.has 'v' then Act.say (c.name ++ str ": removing directory, " ++ always o ++ ['\n'])
    match ← removeEmpty o with
    | .ok () =>
      if g.has 'p' then removeAbove c (g.has 'v') (g.has 'i') (o.length + 1) (Host.dropEnd (· = '/') o)
      else return true
    | .error cause =>
      if g.has 'i' && cause = .notEmpty then return true
      else reporting c (str "failed to remove " ++ always o) (.error cause)

/-! ## Removing -/

/-- Take an entry out of its directory. -/
def unlinkAt (loc : Location) : Act Unit := do
  let now ← Act.now
  Act.setTree (((← Act.tree).prune loc).touch loc.tail now)

/-- Remove an entry with everything below it, telling about each. -/
def removeTree (tells : Bool) : Nat → Str → Location → Entry → Act Unit
  | 0, _, _, _ => return ()
  | fuel + 1, p, loc, e => do
    if e.node.isDirectory then
      if tells then
        let tree ← Act.tree
        for n in tree.names loc do
          match tree.get? (n :: loc) with
          | some inner => removeTree tells fuel (Host.pathJoin p (Host.ofBytes n)) (n :: loc) inner
          | none => pure ()
      unlinkAt loc
      if tells then Act.say (str "removed directory " ++ always p ++ ['\n'])
    else
      unlinkAt loc
      if tells then Act.say (str "removed " ++ always p ++ ['\n'])

/-- Remove files. -/
def rm : Program := fun _ c => do
  let g ← c.read 1 "dfiIrRv"
    [⟨"force", .nothing, 'f'⟩, ⟨"recursive", .nothing, 'r'⟩, ⟨"dir", .nothing, 'd'⟩,
      ⟨"verbose", .nothing, 'v'⟩, ⟨"interactive", .maybe, 'n'⟩, ⟨"one-file-system", .nothing, 'x'⟩,
      ⟨"no-preserve-root", .nothing, 'N'⟩, ⟨"preserve-root", .maybe, 'P'⟩] true
  if g.operands = [] && !g.has 'f' then c.misused 1 (str "missing operand")
  let deep := g.has 'r' || g.has 'R'
  eachOperand g.operands fun o => do
    let words := str "cannot remove " ++ always o
    match named? (← Act.tree) o with
    | .error cause =>
      if g.has 'f' && (cause = .notFound || cause = .notADirectory) then return true
      else reporting c words (.error cause)
    | .ok (loc, e) =>
      let last := Host.baseName o
      if deep && e.node.isDirectory && (last = ['.'] || last = ['.', '.']) then
        c.warn (str "refusing to remove '.' or '..' directory: skipping " ++ always o)
        return false
      else if deep && loc = [] && !g.has 'N' then
        c.warn (str "it is dangerous to operate recursively on " ++ always o ++
          if o = ['/'] then [] else str " (same as '/')")
        c.warn (str "use --no-preserve-root to override this failsafe")
        return false
      else if e.node.isDirectory && !deep then
        if g.has 'd' then
          match ← removeEmpty o with
          | .ok () =>
            if g.has 'v' then Act.say (str "removed directory " ++ always o ++ ['\n'])
            return true
          | .error cause => reporting c words (.error cause)
        else reporting c words (.error .isADirectory)
      else
        let depth := (← Act.tree).entries.length
        removeTree (g.has 'v') (depth + 1) o loc e
        return true

/-- Remove one entry that is no directory. -/
def unlink : Program := fun _ c => do
  let g ← c.readSome 1 "" [] "operand" true
  match g.operands with
  | [o] =>
    let r ← match named? (← Act.tree) o with
      | .error cause => pure (.error cause)
      | .ok (loc, e) =>
        if e.node.isDirectory then pure (.error .isADirectory)
        else do
          unlinkAt loc
          pure (.ok ())
    return if ← reporting c (str "cannot unlink " ++ always o) r then 0 else 1
  | _ :: extra :: _ => c.misused 1 (str "extra operand " ++ curly extra)
  | [] => return 1

/-! ## Permissions -/

/-- The permissions of an entry in words. -/
def modeWords (mode : Nat) : Str :=
  let digits := Host.digitsIn 8 mode
  Host.run (4 - digits.length) '0' ++ digits ++ str " (" ++ Host.Mode.shown mode ++ [')']

/-- The paths of an entry and of everything below it. -/
def below (tree : FileTree) : Nat → Str → Location → List (Str × Location)
  | 0, p, loc => [(p, loc)]
  | fuel + 1, p, loc =>
    (p, loc) :: match tree.get? loc with
      | some e =>
        if e.node.isDirectory then
          (tree.names loc).flatMap fun n =>
            below tree fuel (Host.pathJoin p (Host.ofBytes n)) (n :: loc)
        else []
      | none => []

/-- Change permissions. -/
def chmod : Program := fun _ c => do
  -- a change that takes permissions away looks like an option
  let isChange (a : Str) : Bool := match a with
    | '-' :: rest => rest ≠ [] && rest.all fun d => "rwxXstugo,+-=".toList.contains d
    | _ => false
  let front := c.args.takeWhile fun a => a.head? = some '-' && !isChange a && a ≠ ['-', '-']
  let rest := c.args.drop front.length
  let args := match rest with
    | a :: more => if isChange a then front ++ ['-', '-'] :: a :: more else c.args
    | [] => c.args
  let g ← { c with args }.read 1 "Rcfv"
    [⟨"recursive", .nothing, 'R'⟩, ⟨"changes", .nothing, 'c'⟩, ⟨"quiet", .nothing, 'f'⟩,
      ⟨"silent", .nothing, 'f'⟩, ⟨"verbose", .nothing, 'v'⟩, ⟨"reference", .value, 'e'⟩,
      ⟨"preserve-root", .nothing, 'p'⟩, ⟨"no-preserve-root", .nothing, 'p'⟩] true
  let (spec, files) ← match g.value? 'e', g.operands with
    | some other, files =>
      match (← Act.tree).stat (Host.pathOf other) with
      | .ok e => pure (Host.digitsIn 8 e.mode, files)
      | .error cause =>
        c.die 1 (str "failed to get attributes of " ++ always other ++ str ": " ++ Host.reason cause)
    | none, [] => c.misused 1 (str "missing operand")
    | none, spec :: files => pure (spec, files)
  if files = [] then
    c.misused 1 (if g.has 'e' then str "missing operand" else str "missing operand after " ++ curly spec)
  let mask := (← get).process.umask
  if (Host.Mode.changed? mask false 0 spec).isNone then c.misused 1 (str "invalid mode: " ++ curly spec)
  let one (shown : Str) (loc : Location) : Act Unit := do
    match (← Act.tree).get? loc with
    | none => return ()
    | some e =>
      if e.node.isLink then return ()
      let mode := (Host.Mode.changed? mask e.node.isDirectory e.mode spec).getD e.mode
      setMode loc mode
      if g.has 'v' && mode = e.mode then
        Act.say (str "mode of " ++ always shown ++ str " retained as " ++ modeWords mode ++ ['\n'])
      else if (g.has 'v' || g.has 'c') && mode ≠ e.mode then
        Act.say (str "mode of " ++ always shown ++ str " changed from " ++ modeWords e.mode ++
          str " to " ++ modeWords mode ++ ['\n'])
  eachOperand files fun o => do
    let tree ← Act.tree
    match tree.find (Host.pathOf o) with
    | .ok (loc, _) =>
      if g.has 'R' then
        for (p, l) in below tree tree.entries.length o loc do one p l
      else one o loc
      return true
    | .error cause =>
      if g.has 'f' then return false
      else if cause = .notFound && (named? tree o).toOption.isSome then
        c.warn (str "cannot operate on dangling symlink " ++ always o)
        return false
      else reporting c (str "cannot access " ++ always o) (.error cause)

/-- Give files to another user, which changes nothing that is kept here. -/
def chown (isGroup : Bool) : Program := fun _ c => do
  let g ← c.read 1 "RHLPcfhv"
    [⟨"recursive", .nothing, 'R'⟩, ⟨"changes", .nothing, 'c'⟩, ⟨"quiet", .nothing, 'f'⟩,
      ⟨"silent", .nothing, 'f'⟩, ⟨"verbose", .nothing, 'v'⟩, ⟨"reference", .value, 'e'⟩,
      ⟨"no-dereference", .nothing, 'h'⟩] true
  let files ← match g.operands with
    | [] => if g.has 'e' then c.misused 1 (str "missing operand") else c.misused 1 (str "missing operand")
    | owner :: files =>
      if g.has 'e' then pure (owner :: files)
      else if files = [] then c.misused 1 (str "missing operand after " ++ curly owner)
      else
        let known (n : Str) : Bool :=
          n = [] || ["root", "daemon", "nobody", "nogroup"].any (fun k => k.toList = n) ||
            (Host.natural? n).isSome
        let (user, group) := Host.cut ':' owner
        if isGroup then
          if !known owner then c.die 1 (str "invalid group: " ++ curly owner) else pure files
        else if !known user then c.die 1 (str "invalid user: " ++ curly owner)
        else if !known (group.getD []) then c.die 1 (str "invalid group: " ++ curly owner)
        else pure files
  eachOperand files fun o => do
    match (← Act.tree).find (Host.pathOf o) with
    | .ok _ => return true
    | .error cause =>
      if g.has 'f' then return false else reporting c (str "cannot access " ++ always o) (.error cause)

/-! ## Special files -/

/-- Make files that hand on. -/
def mkfifo : Program := fun _ c => do
  let g ← c.readSome 1 "m:Z" [⟨"mode", .value, 'm'⟩, ⟨"context", .maybe, 'Z'⟩] "operand" true
  let mode ← match g.value? 'm' with
    | none => masked 0o666
    | some m =>
      match Host.Mode.changed? 0 false 0o666 m with
      | some n => pure n
      | none => c.die 1 (str "invalid mode")
  eachOperand g.operands fun o => do
    reporting c (str "cannot create fifo " ++ always o) (← createAt o (.special .fifo) mode)

/-! ## Sizes -/

/-- A size as users write it: a number with a unit, and how it changes the size that there is. -/
def size? (s : Str) : Option (Char × Nat) :=
  let t := s.dropWhile Host.isSpace
  let (op, digits) := match t with
    | d :: rest => if "+-<>/%".toList.contains d then (d, rest.dropWhile Host.isSpace) else ('=', t)
    | [] => ('=', [])
  let number := digits.takeWhile Char.isDigit
  let unit? : Option Nat := match Host.word (digits.drop number.length) with
    | "" => some 1
    | "b" => some 512
    | "k" => some 1024
    | "K" => some 1024
    | "KiB" => some 1024
    | "KB" => some 1000
    | "kB" => some 1000
    | "M" => some (1024 ^ 2)
    | "m" => some (1024 ^ 2)
    | "MB" => some (1000 ^ 2)
    | "G" => some (1024 ^ 3)
    | _ => none
  match Host.natural? number, unit? with
  | some n, some u => some (op, n * u)
  | _, _ => none

/-- The greatest size of a file that is made here. -/
def greatestSize : Nat := 2 ^ 26

/-- Make files shorter or longer. -/
def truncate : Program := fun _ c => do
  let g ← c.read 1 "cor:s:"
    [⟨"no-create", .nothing, 'c'⟩, ⟨"io-blocks", .nothing, 'o'⟩, ⟨"reference", .value, 'r'⟩,
      ⟨"size", .value, 's'⟩] true
  if !g.has 's' && !g.has 'r' then
    c.misused 1 (str "you must specify either " ++ curly (str "--size") ++ str " or " ++
      curly (str "--reference"))
  let (op, n) ← match g.value? 's' with
    | none => pure ('=', 0)
    | some s =>
      match size? s with
      | some r => pure r
      | none => c.die 1 (str "Invalid number: " ++ curly s)
  if g.operands = [] then c.misused 1 (str "missing file operand")
  let base ← match g.value? 'r' with
    | none => pure none
    | some other =>
      match (← Act.tree).stat (Host.pathOf other) with
      | .ok e => pure (some (match e.node with
        | .file bytes => bytes.length
        | _ => 0))
      | .error cause => c.die 1 (str "cannot stat " ++ always other ++ str ": " ++ Host.reason cause)
  eachOperand g.operands fun o => do
    let tree ← Act.tree
    if g.has 'c' && !tree.isPresent (Host.pathOf o) then return true
    match ← Act.openPath o .both with
    | .error cause => reporting c (str "cannot open " ++ always o ++ str " for writing") (.error cause)
    | .ok _ =>
      let tree ← Act.tree
      match tree.find (Host.pathOf o) with
      | .ok (loc, e) =>
        match e.node with
        | .file bytes => do
          let old := base.getD bytes.length
          let new := match op with
            | '+' => old + n
            | '-' => old - n
            | '<' => min old n
            | '>' => max old n
            | '/' => if n = 0 then old else old / n * n
            | '%' => if n = 0 then old else (old + n - 1) / n * n
            | _ => if g.has 's' then n else old
          let new := min new greatestSize
          let contents := bytes.take new ++ List.replicate (new - bytes.length) 0
          if new ≠ bytes.length then Act.setTree (tree.fill loc contents (← Act.now))
          return true
        | _ =>
          reporting c (str "failed to truncate " ++ always o ++ str " at 0 bytes") (.error .invalidArgument)
      | .error cause => reporting c (str "cannot stat " ++ always o) (.error cause)

/-! ## Files with new names -/

/-- The characters of made-up names. -/
def nameLetters : Array Char := "abcdefghijklmnopqrstuvwxyzABCDEFGHIJKLMNOPQRSTUVWXYZ0123456789".toList.toArray

/-- So many made-up characters. -/
def madeUp : Nat → Nat → Str
  | 0, _ => []
  | k + 1, seed =>
    nameLetters.getD (seed % 62) 'x' :: madeUp k (seed / 62 + seed * 7919 % 1000003)

/-- Make a file or a directory with a new name. -/
def mktemp : Program := fun _ c => do
  let g ← c.read 1 "dp:qtuV"
    [⟨"directory", .nothing, 'd'⟩, ⟨"quiet", .nothing, 'q'⟩, ⟨"suffix", .value, 's'⟩,
      ⟨"tmpdir", .maybe, 'p'⟩, ⟨"dry-run", .nothing, 'u'⟩] true
  let template := g.operands.headD (str "tmp.XXXXXXXXXX")
  let holes := (template.reverse.takeWhile (· = 'X')).length
  if 1 < g.operands.length then c.misused 1 (str "too many templates")
  if holes < 3 then c.die 1 (str "too few X's in template " ++ curly template)
  let h ← get
  let name := template.take (template.length - holes) ++ madeUp holes (h.process.pid * 31 + h.opened.size * 17) ++
    (g.value? 's').getD []
  let dir := if g.has 'p' then some ((g.value? 'p').getD (str "/tmp"))
    else if g.operands = [] || g.has 't' then some (str "/tmp") else none
  let path := match dir with
    | some d => Host.pathJoin d name
    | none => name
  modify fun h => { h with nextPid := h.nextPid + 1 }
  let r ← if g.has 'u' then pure (.ok ())
    else if g.has 'd' then createAt path .directory 0o700 else createAt path (.file []) 0o600
  match r with
  | .ok () =>
    Act.say (path ++ ['\n'])
    return 0
  | .error cause =>
    c.die 1 (str (if g.has 'd' then "failed to create directory via template "
      else "failed to create file via template ") ++ curly
        (match dir with
          | some d => Host.pathJoin d template
          | none => template) ++ str ": " ++ Host.reason cause)

end StaleBuild.Utility
