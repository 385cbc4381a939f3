import StaleBuild.Host.Options

/-!
Programs that builds call by mistake, such as archivers and tools for devices: they check how they are called and
decline what they are given. A call that nothing is wrong with does nothing.
-/

namespace StaleBuild.Utility

open Host (Str str Call Program)
open Host.Quote (curly always)

/-- A program that takes at least some operands. -/
def needing (status : Nat) (letters : String) (long : List Host.LongOption) (least : Nat) (missing : String) :
    Program := fun _ c => do
  let g ← c.read status letters long true
  if least ≤ g.operands.length then return 0
  match g.operands.getLast? with
  | none => c.misused status (str missing)
  | some last => c.misused status (str "missing operand after " ++ curly last)

/-- Tell the number of the host. -/
def hostid : Program := fun _ c => do
  let g ← c.read 1 "" [] true
  match g.operands with
  | extra :: _ => c.misused 1 (str "extra operand " ++ curly extra)
  | [] => do
    Act.say (str "007f0100\n")
    return 0

/-! ## Names of files -/

/-- The characters that a name has on every host. -/
def isCommon (x : Char) : Bool := x.isAlphanum || x = '.' || x = '_' || x = '-' || x = '/'

/-- Check names of files: whether they can be used here, or on every host. -/
def pathchk : Program := fun _ c => do
  let g ← c.readSome 1 "pP" [⟨"portability", .nothing, 'a'⟩] "operand" true
  let basic := g.has 'p' || g.has 'a'
  let extra := g.has 'P' || g.has 'a'
  let mut status := 0
  for o in g.operands do
    let parts := Host.splitOn '/' o
    let tooLong (limit length : Nat) (what : String) : Str :=
      str "limit " ++ Host.decimal (limit : Nat) ++ str " exceeded by length " ++ Host.decimal (length : Nat) ++
        str (" of file name " ++ what) ++ always o
    let complaint : Option Str ←
      if extra && parts.any (fun p => p.head? = some '-') then
        pure (some (str "leading '-' in a component of file name " ++ always o))
      else if (basic || extra) && o.isEmpty then pure (some (str "empty file name"))
      else if basic then
        pure (match o.find? (fun x => !isCommon x) with
          | some x => some (str "non-portable character " ++ curly [x] ++ str " in file name " ++ always o)
          | none =>
            if 255 < o.length then some (tooLong 255 o.length "")
            else match parts.find? fun p => 14 < p.length with
              | some p => some (str "limit 14 exceeded by length " ++ Host.decimal (p.length : Nat) ++
                  str " of file name component " ++ always p)
              | none => none)
      else match (← Act.tree).stat (Host.pathOf o) with
        | .ok _ => pure none
        | .error .notFound =>
          if o.isEmpty then pure (some (always o ++ str ": " ++ Host.reason .notFound)) else pure none
        | .error cause => pure (some (Host.Quote.beforeColon o ++ str ": " ++ Host.reason cause))
    match complaint with
    | some m => do
      c.warn m
      status := 1
    | none => pure ()
  return status

/-! ## Archives -/

/-- What an archiver says of the file of an operand that it is to unpack. -/
def packed? (toOutput : Bool) (o : Str) : Act (Option Str) := do
  match (← Act.tree).find (Host.pathOf o) with
  | .error cause =>
    let shown := if (str ".gz").isSuffixOf o then o else o ++ str ".gz"
    return some (shown ++ str ": " ++ Host.reason cause)
  | .ok (_, e) =>
    if e.node.isDirectory then return some (o ++ str " is a directory -- ignored")
    else if !toOutput && !(str ".gz").isSuffixOf o then return some (o ++ str ": unknown suffix -- ignored")
    else match ← Act.readPath o with
      | .ok [] => return some (o ++ str ": unexpected end of file")
      | .ok _ => return some (o ++ str ": not in gzip format")
      | .error cause => return some (o ++ str ": " ++ Host.reason cause)

/-- Unpack files that no program has packed. `unpacks` and `toOutput` are what is done if no option says. -/
def gzip (unpacks toOutput : Bool) : Program := fun _ c => do
  let c := { c with name := str "gzip" }
  let g ← c.read 1 "ab:cdfhH?klLmMnNqrS:tvVZ123456789"
    [⟨"stdout", .nothing, 'c'⟩, ⟨"to-stdout", .nothing, 'c'⟩, ⟨"decompress", .nothing, 'd'⟩,
      ⟨"uncompress", .nothing, 'd'⟩, ⟨"force", .nothing, 'f'⟩, ⟨"keep", .nothing, 'k'⟩,
      ⟨"list", .nothing, 'l'⟩, ⟨"quiet", .nothing, 'q'⟩, ⟨"recursive", .nothing, 'r'⟩,
      ⟨"test", .nothing, 't'⟩, ⟨"verbose", .nothing, 'v'⟩, ⟨"best", .nothing, '9'⟩,
      ⟨"fast", .nothing, '1'⟩] true
  if !(unpacks || g.has 'd' || g.has 't' || g.has 'l') then return 0
  let mut status := 0
  if g.operands.isEmpty then
    match ← Act.readFd 0 with
    | .ok [] => do
      c.warn []
      c.warn (str "stdin: unexpected end of file")
    | _ => do
      c.warn []
      c.warn (str "stdin: not in gzip format")
    status := 1
  for o in g.operands do
    match ← packed? (toOutput || g.has 'c' || g.has 't') o with
    | some m => do
      c.warn m
      status := 1
    | none => pure ()
  return status

/-- Keep files in an archive, which is the input where no option says. -/
def tar : Program := fun _ c => do
  let help : Str := str "Try 'tar --help' or 'tar --usage' for more information.\n"
  let (modes, operands) : List Char × List Str := match c.args with
    | ('-' :: o) :: rest => (o, rest)
    | o :: rest => (o, rest)
    | [] => ([], [])
  let modes := modes.filter fun m => "Acdtrux".toList.contains m
  match modes with
  | [] => do
    c.warn (str "You must specify one of the '-Acdtrux', '--delete' or '--test-label' options")
    Act.complain help
    return 2
  | _ :: _ :: _ => do
    c.warn (str "You may not specify more than one '-Acdtrux', '--delete' or  '--test-label' option")
    Act.complain help
    return 2
  | [m] => do
    if ['d', 't', 'x'].contains m then
      c.warn (str "This does not look like a tar archive")
      for o in operands do
        c.warn (o ++ str ": Not found in archive")
      c.warn (str "Exiting with failure status due to previous errors")
      return 2
    return 0

/-! ## Comparing with a third file -/

/-- Compare files in a way that needs one operand after another. -/
def comparing (least most : Nat) (letters : String) : Program := fun _ c => do
  let hint {α : Type} (m : Str) : Act α := do
    c.warn m
    c.warn (str "Try '" ++ c.name ++ str " --help' for more information.")
    Act.exit 2
  match Host.OptionTable.read ⟨letters, [], true⟩ c.args with
  | .error complaint => hint complaint
  | .ok g =>
    if let extra :: _ := g.operands.drop most then hint (str "extra operand '" ++ extra ++ ['\''])
    if g.operands.length < least then
      hint (str "missing operand after '" ++ (g.operands.getLast?.getD c.name) ++ ['\''])
    return 0

/-! ## Devices -/

/-- Make a special file: a queue, since devices need more rights. -/
def mknod (mkfifo : Program) : Program := fun start c => do
  let g ← c.readSome 1 "m:Z" [⟨"mode", .value, 'm'⟩, ⟨"context", .maybe, 'Z'⟩] "operand" true
  let devices := str "Special files require major and minor device numbers.\n"
  match g.operands with
  | [one] => c.misused 1 (str "missing operand after " ++ curly one)
  | [_, kind] =>
    if kind.head? = some 'p' then
      let mode := match g.value? 'm' with
        | some m => [['-', 'm'], m]
        | none => []
      mkfifo start { c with args := mode ++ [['-', '-']] ++ g.operands.take 1 }
    else do
      c.warn (str "missing operand after " ++ curly kind)
      Act.complain devices
      c.hint
      return 1
  | _ :: kind :: extra :: _ =>
    if kind.head? = some 'p' then c.misused 1 (str "extra operand " ++ curly extra)
    else c.die 1 (g.operands.headD [] ++ str ": Operation not permitted")
  | [] => return 1

/-- Show files page by page, which is all at once without a terminal. -/
def more : Program := fun _ c => do
  let g ← c.read 1 "dflpcsun:eV" [] true
  if g.operands.isEmpty then
    c.warn (str "bad usage")
    c.hint
    return 1
  for o in g.operands do
    match (← Act.tree).find (Host.pathOf o) with
    | .error cause => c.warn (str "cannot open " ++ o ++ str ": " ++ Host.reason cause)
    | .ok (_, e) =>
      if e.node.isDirectory then Act.say (str "\n*** " ++ o ++ str ": directory ***\n\n")
      else match ← Act.readPath o with
        | .error cause => c.warn (str "cannot open " ++ o ++ str ": " ++ Host.reason cause)
        | .ok text =>
          let line := List.replicate 14 ':' ++ ['\n']
          if 1 < g.operands.length then Act.say (line ++ o ++ ['\n'] ++ line)
          Act.say text
  return 0

end StaleBuild.Utility
