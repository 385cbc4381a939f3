import StaleBuild.Utility.Filing

/-!
Utilities that give files further places: copies, moves and links. The last operand is the target; if
it is a directory, each source goes below it under its own last name.
-/

namespace StaleBuild.Utility

open Host (Str str Call Program Given)
open Host.Quote (always curly beforeColon)

/-! ## Targets -/

/-- Where a source goes whose target is a directory. -/
def placeBelow (target source : Str) : Str :=
  let name := Host.baseName source
  -- a source that is the current directory goes to the target itself
  if name = ['.', '.'] || name = ['/'] then target
  else Host.pathJoin target name

/-- The sources and the target that operands name, and whether the target holds what goes there. -/
structure Aim where
  sources : List Str
  target : Str
  below : Bool

/-- Find out about sources and target. -/
def aim (c : Call) (g : Given) (directory : Option Str) (asFile : Bool) (missing : String) : Act Aim := do
  let tree ← Act.tree
  match directory with
  | some d =>
    if g.operands = [] then c.misused 1 (str "missing file operand")
    match tree.find (Host.pathOf d) with
    | .error cause => c.die 1 (str "target directory " ++ always d ++ str ": " ++ Host.reason cause)
    | .ok (_, e) =>
      if !e.node.isDirectory then
        c.die 1 (str "target directory " ++ always d ++ str ": " ++ Host.reason .notADirectory)
      return ⟨g.operands, d, true⟩
  | none =>
    match g.operands.reverse with
    | [] => c.misused 1 (str "missing file operand")
    | [only] =>
      if missing = "" then return ⟨[only], ['.'], true⟩
      else c.misused 1 (str missing ++ always only)
    | target :: rest =>
      let sources := rest.reverse
      if asFile then
        match sources with
        | [_] => return ⟨sources, target, false⟩
        | _ => c.misused 1 (str "extra operand " ++ always (g.operands[2]?.getD []))
      else match tree.find (Host.pathOf target) with
        | .ok (_, e) =>
          if e.node.isDirectory then return ⟨sources, target, true⟩
          else if 1 < sources.length then
            c.die 1 (str "target " ++ always target ++ str ": " ++ Host.reason .notADirectory)
          else return ⟨sources, target, false⟩
        | .error cause =>
          if 1 < sources.length then
            c.die 1 (str "target " ++ always target ++ str ": " ++ Host.reason cause)
          else return ⟨sources, target, false⟩

/-- Whether two paths name the same entry. -/
def isSameEntry (tree : FileTree) (a b : Str) : Bool :=
  match named? tree a, named? tree b with
  | .ok (l, _), .ok (m, _) => l = m
  | _, _ => false

/-- Whether two entries are one file. -/
def isOneFile (tree : FileTree) (a b : Location) : Bool :=
  a = b || match tree.get? a, tree.get? b with
    | some e, some f => e.shared.isSome && e.shared = f.shared
    | _, _ => false

/-- What is done with a file that is in the way. -/
structure Backup where
  isOn : Bool
  numbered : Bool
  suffix : Str

/-- The name that a file which is in the way is kept under. -/
def Backup.nameFor (b : Backup) (tree : FileTree) (p : Str) : Str :=
  let numbered (n : Nat) : Str := p ++ str ".~" ++ Host.decimal n ++ ['~']
  let taken (s : Str) : Bool := (named? tree s).toOption.isSome
  if b.numbered then
    numbered (((List.range 1000).find? fun n => !taken (numbered (n + 1))).getD 0 + 1)
  else p ++ b.suffix

/-- The backups that options ask for. -/
def backupOf (g : Given) : Backup :=
  let control := (g.value? 'B').getD []
  ⟨(g.has 'b' || g.has 'B' || g.has 'S') && control ≠ str "none" && control ≠ str "off",
    control = str "numbered" || control = ['t'], (g.value? 'S').getD ['~']⟩

/-- Put a file that is in the way aside. -/
def putAside (b : Backup) (p : Str) : Act Unit := do
  let tree ← Act.tree
  match named? tree p, freePlace tree (b.nameFor tree p) with
  | .ok (loc, e), .ok (dir, name) =>
    Act.setTree ((tree.prune loc).put (name :: dir) e)
  | .ok (loc, e), .error _ =>
    match named? tree (b.nameFor tree p) with
    | .ok (old, _) => Act.setTree ((tree.prune loc).put old e)
    | .error _ => return ()
  | .error _, _ => return ()

/-! ## Copies -/

/-- How files are copied. -/
structure Copying where
  deep : Bool
  /-- Links are copied as links: below a directory, and where they are named. -/
  keepsLinks : Bool
  keepsNamedLinks : Bool
  keepsModes : Bool
  keepsTimes : Bool
  force : Bool
  /-- What is there stays. -/
  spares : Bool
  /-- What is there and is not older stays. -/
  updates : Bool
  tells : Bool
  links : Bool
  symbolic : Bool
  removesFirst : Bool
  attributesOnly : Bool
  backup : Backup

/-- A new number for a file at several locations. -/
def newShare (tree : FileTree) : Nat :=
  (tree.entries.filterMap fun e => e.2.shared).foldl (fun n m => max n (m + 1)) 0

/-- Let a file be at one more location. -/
def shareAt (source : Location) (dir : Location) (name : Bytes) : Act Unit := do
  let tree ← Act.tree
  let now ← Act.now
  match tree.get? source with
  | none => return ()
  | some e =>
    let e := { e with shared := some (e.shared.getD (newShare tree)) }
    Act.setTree (((tree.put source e).put (name :: dir) e).touch dir now)

/-- Tell about a copy. -/
def tell (k : Copying) (source target : Str) : Act Unit :=
  if k.tells then Act.say (always source ++ str " -> " ++ always target ++ ['\n']) else return ()

/-- Copy the contents of a file. -/
def copyFile (c : Call) (k : Copying) (target : Str) (e : Entry) (contents : Bytes) : Act Bool := do
  let cannot := str "cannot create regular file " ++ always target
  let tree ← Act.tree
  let existed := tree.isPresent (Host.pathOf target)
  if !existed && (named? tree target).toOption.isSome && !k.removesFirst then
    c.warn (str "not writing through dangling symlink " ++ always target)
    return false
  else if !existed && target.getLast? = some '/' then
    reporting c cannot (.error .notADirectory)
  else
    match ← Act.openPath target (if k.attributesOnly then .both else .write) with
    | .error cause => reporting c cannot (.error cause)
    | .ok file =>
      let mode ← if k.keepsModes then pure e.mode else masked (e.mode &&& 0o777)
      if !k.attributesOnly then
        modify fun h => match h.writeTo file (Host.ofBytes contents) with
          | .ok h => h
          | .error _ => h
      match (← Act.tree).find (Host.pathOf target) with
      | .ok (loc, f) =>
        if f.node.isFile then
          if !existed || k.keepsModes then setMode loc mode
          if k.keepsTimes then setTime loc e.modified
      | .error _ => pure ()
      return true

/-- Put a node that holds no contents into its place. -/
def copyNode (c : Call) (k : Copying) (verb : String) (target : Str) (e : Entry) : Act Bool := do
  let r ← createAt target e.node e.mode
  match r, k.keepsTimes, named? (← Act.tree) target with
  | .ok (), true, .ok (loc, _) => setTime loc e.modified
  | _, _, _ => pure ()
  reporting c (str verb ++ always target) r

/-- The last steps behind a copied directory. -/
def finishDirectory (k : Copying) (target : Str) (e : Entry) (isNew : Bool) : Act Unit := do
  match (← Act.tree).find (Host.pathOf target) with
  | .ok (loc, _) =>
    if k.keepsModes then setMode loc e.mode
    else if isNew then setMode loc (← masked (e.mode &&& 0o777))
    if k.keepsTimes then setTime loc e.modified
  | .error _ => return ()

/-- Copy one file or directory to a place. -/
def copyOne (c : Call) (k : Copying) : Nat → Bool → Str → Str → Act Bool
  | 0, _, _, _ => return false
  | fuel + 1, isNamed, source, target => do
    let tree ← Act.tree
    let keepsLink := if isNamed then k.keepsNamedLinks else k.keepsLinks
    match if keepsLink then named? tree source else tree.find (Host.pathOf source) with
    | .error cause => reporting c (str "cannot stat " ++ always source) (.error cause)
    | .ok (loc, e) =>
      if e.node.isDirectory && !k.deep then
        c.warn (str "-r not specified; omitting directory " ++ always source)
        return false
      else
        let old := if e.node.isLink || k.removesFirst then named? tree target
          else tree.find (Host.pathOf target)
        match old with
        | .error _ => go fuel loc e source target none
        | .ok (place, f) =>
          if isOneFile tree loc place && !(k.backup.isOn && !e.node.isDirectory) &&
              !e.node.isDirectory then
            if k.links then return true
            else
              c.warn (always source ++ str " and " ++ always target ++ str " are the same file")
              return false
          else if e.node.isDirectory && !f.node.isDirectory then
            c.warn (str "cannot overwrite non-directory " ++ always target ++ str " with directory " ++
              always source)
            return false
          else if !e.node.isDirectory && f.node.isDirectory then
            c.warn (str "cannot overwrite directory " ++ always target ++ str " with non-directory")
            return false
          else if !e.node.isDirectory && k.spares then return true
          else if !e.node.isDirectory && k.updates && e.modified ≤ f.modified then return true
          else
            if !e.node.isDirectory then
              if k.backup.isOn then putAside k.backup target
              else if k.removesFirst || e.node.isLink || k.symbolic ||
                  (k.links && k.force) then unlinkAt place
            go fuel loc e source target (some f)
where
  /-- Copy an entry over what is there, if that may be. -/
  go (fuel : Nat) (loc : Location) (e : Entry) (source target : Str) (old : Option Entry) : Act Bool := do
    let tree ← Act.tree
    match e.node with
    | .directory =>
      let place := match tree.lookup (Host.pathOf target) with
        | .found l _ => some l
        | .missing dir name => some (name :: dir)
        | .failed _ => none
      if (place.any fun l => loc.isSuffixOf l) then
        c.warn (str "cannot copy a directory, " ++ always source ++ str ", into itself, " ++ always target)
        return false
      else
        let isNew := old.isNone
        let made ← if isNew then createAt target .directory 0o700 else pure (.ok ())
        match made with
        | .error cause => reporting c (str "cannot create directory " ++ always target) (.error cause)
        | .ok () =>
          if isNew then tell k source target
          let mut good := true
          for n in (← Act.tree).names loc do
            let name := Host.ofBytes n
            if !(← copyOne c k fuel false (Host.pathJoin source name) (Host.pathJoin target name)) then
              good := false
          finishDirectory k target e isNew
          return good
    | .link p =>
      tell k source target
      let p := if k.symbolic then Host.pathOf source else p
      copyNode c k "cannot create symbolic link " target { e with node := .link p, mode := 0o777 }
    | .special kind =>
      tell k source target
      if k.deep then
        let mode ← masked e.mode
        copyNode c k "cannot create special file " target { e with node := .special kind, mode }
      else
        match ← Act.readPath source with
        | .ok text => copyFile c k target { e with mode := 0o666 } (Host.toBytes text)
        | .error cause => reporting c (str "cannot open " ++ always source ++ str " for reading") (.error cause)
    | .file contents =>
      if k.symbolic then
        tell k source target
        let e := { e with node := .link (Host.pathOf source), mode := 0o777 }
        copyNode c k "cannot create symbolic link " target e
      else if k.links then
        tell k source target
        match freePlace (← Act.tree) target with
        | .ok (dir, name) => do
          shareAt loc dir name
          return true
        | .error cause => reporting c (str "cannot create hard link " ++ always target ++ str " to " ++
            always source) (.error cause)
      else
        tell k source target
        copyFile c k target e contents

/-- Whether a list of things to keep names one of them. -/
def keeps (g : Given) (what : String) : Bool :=
  g.options.any fun (o, v) => o = 'K' && match v with
    | none => what = "mode" || what = "timestamps"
    | some list => (Host.splitOn ',' list).any fun w => w = str what || w = str "all"

/-- Copy files. -/
def cp : Program := fun _ c => do
  let g ← c.read 1 "abdfiHlLnprst:uvxPRS:TZ"
    [⟨"archive", .nothing, 'a'⟩, ⟨"attributes-only", .nothing, 'A'⟩, ⟨"backup", .maybe, 'B'⟩,
      ⟨"copy-contents", .nothing, 'C'⟩, ⟨"dereference", .nothing, 'L'⟩, ⟨"force", .nothing, 'f'⟩,
      ⟨"interactive", .nothing, 'i'⟩, ⟨"link", .nothing, 'l'⟩, ⟨"no-clobber", .nothing, 'n'⟩,
      ⟨"no-dereference", .nothing, 'P'⟩, ⟨"no-preserve", .value, 'k'⟩,
      ⟨"no-target-directory", .nothing, 'T'⟩, ⟨"one-file-system", .nothing, 'x'⟩,
      ⟨"parents", .nothing, 'D'⟩, ⟨"path", .nothing, 'D'⟩, ⟨"preserve", .maybe, 'K'⟩,
      ⟨"recursive", .nothing, 'r'⟩, ⟨"remove-destination", .nothing, 'E'⟩, ⟨"sparse", .value, 'W'⟩,
      ⟨"reflink", .maybe, 'F'⟩, ⟨"strip-trailing-slashes", .nothing, 'G'⟩, ⟨"suffix", .value, 'S'⟩,
      ⟨"symbolic-link", .nothing, 's'⟩, ⟨"target-directory", .value, 't'⟩, ⟨"update", .nothing, 'u'⟩,
      ⟨"verbose", .nothing, 'v'⟩] true
  let has := g.has
  let a ← aim c g (g.value? 't') (has 'T') "missing destination file operand after "
  let deep := has 'r' || has 'R' || has 'a'
  let links := match g.last? ['P', 'd', 'a', 'L', 'H'] with
    | some 'L' => (false, false)
    | some 'H' => (true, false)
    | some _ => (true, true)
    | none => (deep, deep)
  let k : Copying :=
    { deep
      keepsLinks := links.1
      keepsNamedLinks := links.2
      keepsModes := has 'p' || has 'a' || keeps g "mode"
      keepsTimes := has 'p' || has 'a' || keeps g "timestamps"
      force := has 'f'
      spares := (match g.last? ['n', 'i', 'f'] with
        | some 'n' => true
        | some 'i' => true
        | _ => false)
      updates := has 'u'
      tells := has 'v'
      links := has 'l'
      symbolic := has 's'
      removesFirst := has 'E'
      attributesOnly := has 'A'
      backup := backupOf g }
  let mut status := 0
  let mut made : List Str := []
  for s in a.sources do
    let s' := if has 'G' then Host.dropEnd (· = '/') s else s
    let target := if a.below then
        (if has 'D' then Host.pathJoin a.target s' else placeBelow a.target s')
      else a.target
    if has 'D' && a.below then
      let _ ← makeAll c 0o777 false (target.length + 2) (Host.dirName target)
    if made.contains target && (← Act.tree).isFile (Host.pathOf s') then
      c.warn (str "will not overwrite just-created " ++ always target ++ str " with " ++ always s')
      status := 1
    else
      let depth := (← Act.tree).entries.length + 2
      if !(← copyOne c k depth true s' target) then status := 1
      made := target :: made
  return status

/-! ## Moves -/

/-- The entries at and below a location, named from it. -/
def branch (tree : FileTree) (loc : Location) : List (Location × Entry) :=
  tree.entries.filterMap fun e =>
    if loc.isSuffixOf e.1 then some (e.1.take (e.1.length - loc.length), e.2) else none

/-- The tree with what is at a location moved to another one. -/
def moved (tree : FileTree) (source target : Location) (now : Time) : FileTree :=
  let entries := branch tree source
  let cleared := (tree.prune source).prune target
  let grafted := entries.foldl (fun t e => t.put (e.1 ++ target) e.2) cleared
  -- a current directory that moves goes along
  let current := if source.isSuffixOf tree.current then
      tree.current.take (tree.current.length - source.length) ++ target
    else tree.current
  { (grafted.touch source.tail now).touch target.tail now with current }

/-- Move one file or directory. -/
def moveOne (c : Call) (g : Given) (backup : Backup) (source target : Str) : Act Bool := do
  let tree ← Act.tree
  let cannot := str "cannot move " ++ always source ++ str " to " ++ always target
  match named? tree source with
  | .error cause => reporting c (str "cannot stat " ++ always source) (.error cause)
  | .ok (loc, e) =>
    let now ← Act.now
    let go (place : Location) : Act Bool := do
      Act.setTree (moved (← Act.tree) loc place now)
      if g.has 'v' then
        Act.say (str "renamed " ++ always source ++ str " -> " ++ always target ++ ['\n'])
      return true
    match tree.lookupPlace (Host.pathOf target) with
    | .failed cause => reporting c cannot (.error cause)
    | .missing dir name =>
      if e.node.isDirectory && loc.isSuffixOf (name :: dir) then
        c.warn (str "cannot move " ++ always source ++ str " to a subdirectory of itself, " ++ always target)
        return false
      else if !e.node.isDirectory && target.getLast? = some '/' then
        reporting c cannot (.error .notADirectory)
      else go (name :: dir)
    | .found place f =>
      if isOneFile tree loc place && (loc = place || !e.node.isDirectory) then
        if loc = place && e.node.isDirectory && Host.baseName source = Host.baseName target &&
            source ≠ target then
          c.warn (always source ++ str " and " ++ always target ++ str " are the same file")
          return false
        else if loc = place then
          if e.node.isDirectory then
            c.warn (str "cannot move " ++ always source ++ str " to a subdirectory of itself, " ++
              always (placeBelow target source))
          else c.warn (always source ++ str " and " ++ always target ++ str " are the same file")
          return false
        else
          unlinkAt loc
          return true
      else if g.last? ['n', 'f', 'i'] = some 'n' then return true
      else if g.has 'u' && !e.node.isDirectory && e.modified ≤ f.modified then return true
      else if e.node.isDirectory && loc.isSuffixOf place then
        c.warn (str "cannot move " ++ always source ++ str " to a subdirectory of itself, " ++ always target)
        return false
      else if backup.isOn then
        putAside backup target
        go place
      else if e.node.isDirectory && !f.node.isDirectory then
        c.warn (str "cannot overwrite non-directory " ++ always target ++ str " with directory " ++
          always source)
        return false
      else if !e.node.isDirectory && f.node.isDirectory then
        c.warn (str "cannot overwrite directory " ++ always target ++ str " with non-directory")
        return false
      else if e.node.isDirectory && tree.names place ≠ [] then
        reporting c cannot (.error .notEmpty)
      else go place

/-- Move files. -/
def mv : Program := fun _ c => do
  let g ← c.read 1 "bfint:uvS:TZ"
    [⟨"backup", .maybe, 'B'⟩, ⟨"force", .nothing, 'f'⟩, ⟨"interactive", .nothing, 'i'⟩,
      ⟨"no-clobber", .nothing, 'n'⟩, ⟨"no-target-directory", .nothing, 'T'⟩,
      ⟨"strip-trailing-slashes", .nothing, 'G'⟩, ⟨"suffix", .value, 'S'⟩,
      ⟨"target-directory", .value, 't'⟩, ⟨"update", .nothing, 'u'⟩, ⟨"verbose", .nothing, 'v'⟩] true
  let a ← aim c g (g.value? 't') (g.has 'T') "missing destination file operand after "
  eachOperand a.sources fun s =>
    moveOne c g (backupOf g) s (if a.below then placeBelow a.target s else a.target)

/-! ## Links -/

/-- The way from a directory to a location. -/
def wayTo (dir target : Location) : Str :=
  let shared := ((dir.reverse.zip target.reverse).takeWhile fun p => p.1 = p.2).length
  let ups := List.replicate (dir.length - shared) (str "..")
  let downs := (target.reverse.drop shared).map Host.ofBytes
  match ups ++ downs with
  | [] => ['.']
  | names => Host.joinWith ['/'] names

/-- Make one link. -/
def linkOne (c : Call) (g : Given) (backup : Backup) (source target : Str) : Act Bool := do
  let tree ← Act.tree
  let symbolic := g.has 's'
  let cannot := str (if symbolic then "failed to create symbolic link "
    else "failed to create hard link ") ++ always target
  let found := if g.has 'L' then tree.find (Host.pathOf source) else named? tree source
  match if symbolic then .ok none else found.map some with
  | .error cause => reporting c (str "failed to access " ++ always source) (.error cause)
  | .ok file =>
    if (file.any fun f => f.2.node.isDirectory) then
      c.warn (beforeColon source ++ str ": hard link not allowed for directory")
      return false
    else
      match named? tree target with
      | .ok (place, f) =>
        if g.has 'f' || backup.isOn || g.has 'i' then
          if !symbolic && (file.any fun x => isOneFile tree x.1 place) &&
              (Host.dropEnd (· = '/') source = Host.dropEnd (· = '/') target ||
                (file.any fun x => x.1 = place)) then
            c.warn (always source ++ str " and " ++ always target ++ str " are the same file")
            return false
          if symbolic && isSameEntry tree source target then
            c.warn (always source ++ str " and " ++ always target ++ str " are the same file")
            return false
          if f.node.isDirectory then
            c.warn (beforeColon target ++ str ": cannot overwrite directory")
            return false
          if backup.isOn then putAside backup target else if g.has 'f' then unlinkAt place
      | .error _ => pure ()
      let tree ← Act.tree
      match freePlace tree target with
      | .error cause =>
        if !symbolic && cause ≠ .alreadyExists then
          reporting c (cannot ++ str " => " ++ always source) (.error cause)
        else if symbolic && source = [] then
          reporting c (cannot ++ str " -> ''") (.error .notFound)
        else reporting c cannot (.error cause)
      | .ok (dir, name) =>
        if !symbolic && target.getLast? = some '/' then
          reporting c (cannot ++ str " => " ++ always source) (.error .notFound)
        else if symbolic && target.getLast? = some '/' then reporting c cannot (.error .notFound)
        else if symbolic && source = [] then
          reporting c (cannot ++ str " -> ''") (.error .notFound)
        else
          match file with
          | some (loc, _) => shareAt loc dir name
          | none =>
            let text := if g.has 'r' then
                match tree.lookup (Host.pathOf source) with
                | .found loc _ => wayTo dir loc
                | .missing d n => wayTo dir (n :: d)
                | .failed _ => source
              else source
            let _ ← createAt target (.link (Host.pathOf text)) 0o777
          if g.has 'v' then
            Act.say (always target ++ str (if symbolic then " -> " else " => ") ++ always source ++ ['\n'])
          return true

/-- Make links. -/
def ln : Program := fun _ c => do
  let g ← c.read 1 "bdFfiLnPrsS:t:Tv"
    [⟨"backup", .maybe, 'B'⟩, ⟨"directory", .nothing, 'd'⟩, ⟨"force", .nothing, 'f'⟩,
      ⟨"interactive", .nothing, 'i'⟩, ⟨"logical", .nothing, 'L'⟩, ⟨"no-dereference", .nothing, 'n'⟩,
      ⟨"no-target-directory", .nothing, 'T'⟩, ⟨"physical", .nothing, 'P'⟩,
      ⟨"relative", .nothing, 'r'⟩, ⟨"suffix", .value, 'S'⟩, ⟨"symbolic", .nothing, 's'⟩,
      ⟨"target-directory", .value, 't'⟩, ⟨"verbose", .nothing, 'v'⟩] true
  -- a target that is a link to a directory may count as a link
  let tree ← Act.tree
  let isLinkTarget : Bool := g.has 'n' && g.operands.length = 2 &&
    match named? tree (g.operands.getLastD []) with
    | .ok (_, e) => e.node.isLink
    | .error _ => false
  let a ← aim c g (g.value? 't') (g.has 'T' || isLinkTarget) (if g.has 'T' then
    "missing destination file operand after " else "")
  eachOperand a.sources fun s =>
    linkOne c g (backupOf g) s (if a.below then placeBelow a.target s else a.target)

/-- Let one file be at one more location. -/
def link : Program := fun _ c => do
  let g ← c.readSome 1 "" [] "operand" true
  match g.operands with
  | [source, target] =>
    let words := str "cannot create link " ++ always target ++ str " to " ++ always source
    let tree ← Act.tree
    match named? tree source, freePlace tree target with
    | .error cause, _ => return if ← reporting c words (.error cause) then 0 else 1
    | .ok _, .error cause => return if ← reporting c words (.error cause) then 0 else 1
    | .ok (loc, _), .ok (dir, name) => do
      shareAt loc dir name
      return 0
  | [only] => c.misused 1 (str "missing operand after " ++ curly only)
  | _ :: _ :: extra :: _ => c.misused 1 (str "extra operand " ++ curly extra)
  | [] => return 1

/-! ## Installing -/

/-- Copy files and set their permissions, or make directories. -/
def install : Program := fun _ c => do
  let g ← c.read 1 "bcsDdg:m:o:pt:TvS:"
    [⟨"backup", .maybe, 'B'⟩, ⟨"directory", .nothing, 'd'⟩, ⟨"group", .value, 'g'⟩,
      ⟨"mode", .value, 'm'⟩, ⟨"no-target-directory", .nothing, 'T'⟩, ⟨"owner", .value, 'o'⟩,
      ⟨"preserve-timestamps", .nothing, 'p'⟩, ⟨"target-directory", .value, 't'⟩,
      ⟨"verbose", .nothing, 'v'⟩, ⟨"suffix", .value, 'S'⟩] true
  let mode ← match g.value? 'm' with
    | none => pure 0o755
    | some m =>
      match Host.Mode.changed? 0 (g.has 'd') 0 m with
      | some n => pure n
      | none => c.die 1 (str "invalid mode " ++ curly m)
  if g.operands = [] then c.misused 1 (str "missing file operand")
  if g.has 'd' then
    eachOperand g.operands fun o => do
      let isNew := !(← Act.tree).isPresent (Host.pathOf o)
      let r ← makeAll { c with name := c.name } 0o755 false (o.length + 2) o
      match r, (← Act.tree).find (Host.pathOf o) with
      | .ok (), .ok (loc, e) =>
        if e.node.isDirectory then
          setMode loc mode
          if isNew && g.has 'v' then
            Act.say (c.name ++ str ": creating directory " ++ always o ++ ['\n'])
      | _, _ => pure ()
      reporting c (str "cannot create directory " ++ curly o) r
  else
    if g.has 'D' then
      let dir := match g.value? 't' with
        | some d => d
        | none => Host.dirName (g.operands.getLastD [])
      let _ ← makeAll c 0o755 false (dir.length + 2) dir
    let a ← aim c g (g.value? 't') (g.has 'T') "missing destination file operand after "
    let k : Copying :=
      ⟨false, false, false, false, g.has 'p', true, false, false, g.has 'v', false, false, true, false,
        backupOf g⟩
    eachOperand a.sources fun s => do
      let target := if a.below then placeBelow a.target s else a.target
      if (← Act.tree).isDirectory (Host.pathOf s) then
        c.warn (str "omitting directory " ++ always s)
        return false
      else
        let good ← copyOne c k 2 true s target
        match good, (← Act.tree).find (Host.pathOf target) with
        | true, .ok (loc, _) => setMode loc mode
        | _, _ => pure ()
        return good

end StaleBuild.Utility
