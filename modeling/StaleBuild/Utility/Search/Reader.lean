import StaleBuild.Host.Facts
import StaleBuild.Host.Moment
import StaleBuild.Host.Options
import StaleBuild.Utility.Search.Query

/-!
Reading what the user asks for: the places where the search starts, options for all of it, and the tests,
actions and operators of the query.
-/

namespace StaleBuild.Utility.Search

open Host (Str str Call)
open Host.Quote (curly)

/-- What holds for a search as a whole. -/
structure Scope where
  /-- Whether links are followed: always, or where the user names them. -/
  follows : Bool
  followsNamed : Bool
  least : Nat
  most : Option Nat
  /-- Whether what is in a directory comes before the directory. -/
  inside : Bool
  ignoresMissing : Bool

/-- Whether an argument belongs to the query; `leading` tells that no other one did so far. -/
def isQueryPart (leading : Bool) : Str → Bool
  | '-' :: _ :: _ => true
  | [')'] | [','] => !leading
  | ['('] | ['!'] => true
  | _ => false

/-- A limit that a text spells, with a sign for more or less. -/
def limit? (s : Str) : Option Limit :=
  match s with
  | '+' :: ds => (Host.natural? ds).map fun n => ⟨.above, n⟩
  | '-' :: ds => (Host.natural? ds).map fun n => ⟨.below, n⟩
  | ds => (Host.natural? ds).map fun n => ⟨.exactly, n⟩

/-- A pattern of the usual kind in the extended syntax, with brackets and bars behind backslashes. -/
def extendedOf : Bool → Str → Str
  | _, [] => []
  | true, c :: rest => c :: extendedOf (c ≠ ']') rest
  | false, '\\' :: c :: rest =>
    if "()|".toList.contains c then c :: extendedOf false rest
    else '\\' :: c :: extendedOf false rest
  | false, '[' :: ']' :: rest => '[' :: ']' :: extendedOf true rest
  | false, '[' :: '^' :: ']' :: rest => '[' :: '^' :: ']' :: extendedOf true rest
  | false, '[' :: rest => '[' :: extendedOf true rest
  | false, c :: rest =>
    if "()|\x7b\x7d".toList.contains c then '\\' :: c :: extendedOf false rest
    else c :: extendedOf false rest

/-- The kinds of regular expressions. -/
def regexKinds : List (String × Nat) :=
  [("findutils-default", 0), ("ed", 1), ("emacs", 0), ("gnu-awk", 2), ("grep", 1), ("posix-awk", 2),
    ("awk", 2), ("posix-basic", 1), ("posix-egrep", 2), ("egrep", 2), ("posix-extended", 2),
    ("posix-minimal-basic", 1), ("sed", 1)]

/-- What has been read: the query in reverse, the scope, the kind of regular expressions, how many actions
gather files, and the name of the last test. -/
structure Reading where
  items : List Item
  scope : Scope
  regexKind : Nat
  gathers : Nat
  last : Str

/-- The argument of a test. -/
def argument (c : Call) (name : Str) : List Str → Act (Str × List Str)
  | [] => c.die 1 (str "missing argument to " ++ Char.ofNat 96 :: name ++ ['\''])
  | a :: rest => return (a, rest)

/-- A limit as the argument of a test. -/
def limitOf (c : Call) (name a : Str) : Act Limit := do
  match limit? a with
  | some l => return l
  | none =>
    c.die 1 (str "invalid argument " ++ Char.ofNat 96 :: a ++ str "' to " ++ Char.ofNat 96 :: name ++ ['\''])

/-- The entry that a name denotes, which has to be there. -/
def entryOf (c : Call) (scope : Scope) (a : Str) : Act (Location × Entry) := do
  let tree ← Act.tree
  let found : Except FileError (Location × Entry) := match tree.lookupLink (Host.pathOf a) with
    | .found loc e =>
      if scope.follows || scope.followsNamed then
        (match tree.find (Host.pathOf a) with
          | .ok x => Except.ok x
          | .error _ => .ok (loc, e))
      else .ok (loc, e)
    | .missing .. => .error .notFound
    | .failed cause => .error cause
  match found with
  | .ok x => return x
  | .error cause => c.die 1 (curly a ++ str ": " ++ Host.reason cause)

/-- The command of an action, up to a mark, and what follows; whether it gathers files. -/
def command (gathers : Bool) : List Str → Option (List Str × Bool × List Str) :=
  let rec go : List Str → List Str → Option (List Str × Bool × List Str)
    | _, [] => none
    | taken, a :: rest =>
      if a = [';'] then some (taken.reverse, false, rest)
      else if a = ['+'] && gathers && taken.head? = some ['\x7b', '\x7d'] then
        some (taken.reverse, true, rest)
      else go (a :: taken) rest
  go []

/-- Make a file empty, which an action writes to. -/
def prepareFile (c : Call) (file : Str) : Act Unit := do
  match ← Act.openPath file .write with
  | .ok _ => return ()
  | .error cause => c.die 1 (curly file ++ str ": " ++ Host.reason cause)

/-- The kind letters of a test. -/
def kindLetters (c : Call) (name a : Str) : Act (List Char) := do
  let known := "bcdpfls".toList
  let rec go : Str → Act (List Char)
    | [] => return []
    | [k] =>
      if known.contains k then return [k]
      else c.die 1 (str "Unknown argument to " ++ name ++ str ": " ++ [k])
    | k :: ',' :: rest => do
      if !known.contains k then c.die 1 (str "Unknown argument to " ++ name ++ str ": " ++ [k])
      if rest = [] then
        c.die 1 (str "Last file type in list argument to " ++ name ++
          str " is missing, i.e., list is ending on: ','")
      return k :: (← go rest)
    | k :: _ => do
      if !known.contains k then c.die 1 (str "Unknown argument to " ++ name ++ str ": " ++ [k])
      c.die 1 (str "Must separate multiple arguments to " ++ name ++ str " using: ','")
  if a = [] then c.die 1 (str "Arguments to " ++ name ++ str " should contain at least one letter")
  go a

/-- A size with its unit. -/
def sizeOf (c : Call) (a : Str) : Act Test := do
  let bad (unit : Str) : Act Test :=
    c.die 1 (str "invalid -size type " ++ Char.ofNat 96 :: unit ++ ['\''])
  match a.reverse with
  | [] => c.die 1 (str "invalid null argument to -size")
  | u :: front =>
    let unit? : Option (Nat × Str) := match u with
      | 'b' => some (512, front.reverse)
      | 'c' => some (1, front.reverse)
      | 'w' => some (2, front.reverse)
      | 'k' => some (1024, front.reverse)
      | 'M' => some (1048576, front.reverse)
      | 'G' => some (1073741824, front.reverse)
      | u => if u.isDigit then some (512, a) else none
    match unit? with
    | none => bad [u]
    | some (unit, n) =>
      match limit? n with
      | some l => return .size l unit
      | none => c.die 1 (str "Invalid argument " ++ Char.ofNat 96 :: a ++ str "' to -size")

/-- Permissions as a test gives them. -/
def permissionOf (c : Call) (a : Str) : Act Test := do
  let (bound, mode) : Char × Str := match a with
    | '-' :: m => ('-', m)
    | '/' :: m => ('/', m)
    | m => ('=', m)
  match if mode.head? = some '+' then none else Host.Mode.changed? 0 false 0 mode with
  | some n => return .permission bound n
  | none => c.die 1 (str "invalid mode " ++ curly a)

/-- A number of directories. -/
def depthOf (c : Call) (name a : Str) : Act Nat := do
  match Host.natural? a with
  | some n => return n
  | none =>
    c.die 1 (str "Expected a positive decimal integer argument to " ++ name ++ str ", but got " ++ curly a)

/-- The time of a test that compares with a file or a moment. -/
def newerTime (c : Call) (scope : Scope) (name a : Str) : Act Time := do
  if name.getLast? = some 't' then
    match Host.Moment.read? (← Act.now) a with
    | some t => return t
    | none => c.die 1 (str "I cannot figure out how to interpret " ++ curly a ++ str " as a date or time")
  else return (← entryOf c scope a).2.modified

/-- Whether a name is that of a test that compares two times. -/
def comparesTimes (name : Str) : Bool :=
  match name.reverse with
  | y :: x :: front =>
    front.reverse = str "-newer" && "aBcm".toList.contains x && "aBcmt".toList.contains y
  | _ => false

/-- Read one test or operator. -/
def readItem (c : Call) (r : Reading) (name : Str) (rest : List Str) : Act (Reading × List Str) := do
  let scope := r.scope
  let given (i : Item) (rest : List Str) : Reading × List Str :=
    ({ r with items := i :: r.items, last := name }, rest)
  let test (t : Test) (rest : List Str) : Reading × List Str := given (.test t) rest
  let always (scope : Scope) (rest : List Str) : Reading × List Str :=
    ({ r with items := .test (.constant true) :: r.items, last := name, scope }, rest)
  let one (f : Str → Act Test) : Act (Reading × List Str) := do
    let (a, rest) ← argument c name rest
    return test (← f a) rest
  let words := Host.word name
  match words with
  | "(" => return given .opening rest
  | ")" => return given (.closing true) rest
  | "!" | "-not" => return given (.negation words) rest
  | "-a" | "-and" => return given (.both words) rest
  | "-o" | "-or" => return given (.either words) rest
  | "," => return given .comma rest
  | "-true" => return test (.constant true) rest
  | "-false" => return test (.constant false) rest
  | "-name" => one fun a => return .name false a
  | "-iname" => one fun a => return .name true a
  | "-path" | "-wholename" => one fun a => return .path false a
  | "-ipath" | "-iwholename" => one fun a => return .path true a
  | "-lname" => one fun a => return .target false a
  | "-ilname" => one fun a => return .target true a
  | "-regex" | "-iregex" => one fun a => do
    let style := if r.regexKind = 1 then Regex.Reader.basic else { Regex.Reader.extended with loose := true }
    let text := if r.regexKind = 0 then extendedOf false a else a
    match Regex.Reader.read style text with
    | .ok e => return .regex (words = "-iregex") e
    | .error f => c.die 1 (str "failed to compile regular expression '" ++ a ++ str "': " ++ str f.words)
  | "-regextype" => do
    let (a, rest) ← argument c name rest
    match regexKinds.find? fun k => k.1.toList = a with
    | some (_, k) => return ({ r with regexKind := k, last := name }, rest)
    | none =>
      c.die 1 (str "Unknown regular expression type " ++ curly a ++ str "; valid types are " ++
        Host.joinWith (str ", ") (regexKinds.map fun k => curly (str k.1)) ++ ['.'])
  | "-type" => one fun a => return .kind false (← kindLetters c name a)
  | "-xtype" => one fun a => return .kind true (← kindLetters c name a)
  | "-size" => one (sizeOf c)
  | "-empty" => return test .empty rest
  | "-newer" | "-anewer" | "-cnewer" => one fun a => return .newer (← entryOf c scope a).2.modified
  | "-mtime" | "-atime" | "-ctime" => one fun a => return .age (← limitOf c name a) 86400
  | "-mmin" | "-amin" | "-cmin" => one fun a => return .age (← limitOf c name a) 60
  | "-perm" => one (permissionOf c)
  | "-user" | "-group" => one fun a => do
    if a = str "root" || a = ['0'] then return .owner true
    else if a.all Char.isDigit && a ≠ [] then return .owner false
    else if ["bin", "daemon", "mail", "nobody", "sys", "www-data", "adm", "games", "man", "news",
        "proxy", "backup", "list", "irc", "lp", "uucp", "sync", "nogroup"].any fun u => u.toList = a then
      return .owner false
    else c.die 1 (curly a ++ str " is not the name of " ++
      str (if words = "-user" then "a known user" else "an existing group"))
  | "-uid" | "-gid" => one fun a => return .ownerNumber (← limitOf c name a)
  | "-nouser" | "-nogroup" => return test (.constant false) rest
  | "-links" => one fun a => return .links (← limitOf c name a)
  | "-inum" => one fun a => return .number (← limitOf c name a)
  | "-samefile" => one fun a => return .same (← entryOf c scope a).1
  | "-readable" | "-writable" => return test (.constant true) rest
  | "-executable" => return test .runnable rest
  | "-maxdepth" => do
    let (a, rest) ← argument c name rest
    return always { scope with most := some (← depthOf c name a) } rest
  | "-mindepth" => do
    let (a, rest) ← argument c name rest
    return always { scope with least := ← depthOf c name a } rest
  | "-depth" | "-d" => return always { scope with inside := true } rest
  | "-follow" => return always { scope with follows := true } rest
  | "-mount" | "-xdev" | "-noleaf" | "-daystart" | "-warn" | "-nowarn" | "-noignore_readdir_race" =>
    return always scope rest
  | "-ignore_readdir_race" => return always { scope with ignoresMissing := true } rest
  | "-fstype" => do
    let (_, rest) ← argument c name rest
    return test (.constant false) rest
  | "-prune" => return test .prune rest
  | "-quit" => return test .quit rest
  | "-delete" =>
    return ({ r with items := .test .delete :: r.items, last := name, scope := { scope with inside := true } },
      rest)
  | "-print" => return test (.print ['\n'] none) rest
  | "-print0" => return test (.print ['\x00'] none) rest
  | "-fprint" => one fun a => do
    prepareFile c a
    return .print ['\n'] (some a)
  | "-fprint0" => one fun a => do
    prepareFile c a
    return .print ['\x00'] (some a)
  | "-printf" => one fun a => return .printf a none
  | "-fprintf" => do
    let (file, rest) ← argument c name rest
    prepareFile c file
    let (a, rest) ← argument c name rest
    return test (.printf a (some file)) rest
  | "-ls" => return test .list rest
  | "-exec" | "-execdir" | "-ok" | "-okdir" => do
    let asks := words = "-ok" || words = "-okdir"
    let inPlace := words = "-execdir" || words = "-okdir"
    match command (!asks) rest with
    | none =>
      match rest.find? fun a => Host.contains ['\x7b', '\x7d'] a && a ≠ ['\x7b', '\x7d'] && rest.getLast? = some ['+'] with
      | some a =>
        c.die 1 (str "In " ++ curly (name ++ str " ... \x7b\x7d +") ++ str " the " ++ curly ['\x7b', '\x7d'] ++
          str " must appear by itself, but you specified " ++ curly a)
      | none => c.die 1 (str "missing argument to " ++ Char.ofNat 96 :: name ++ ['\''])
    | some ([], _, _) =>
      c.die 1 (str "invalid argument " ++ Char.ofNat 96 :: str ";' to " ++ Char.ofNat 96 :: name ++ ['\''])
    | some (argv, true, rest) =>
      return ({ r with
        items := .test (.gather r.gathers argv.dropLast inPlace) :: r.items
        gathers := r.gathers + 1
        last := name }, rest)
    | some (argv, false, rest) => return test (.run argv inPlace asks) rest
  | _ =>
    if comparesTimes name then one fun a => return .newer (← newerTime c scope name a)
    else if (str "-newer").isPrefixOf name && name.length = 8 then
      c.die 1 (str "invalid predicate " ++ Char.ofNat 96 :: name ++ ['\''])
    else c.die 1 (str "unknown predicate " ++ Char.ofNat 96 :: name ++ ['\''])

/-- Read all tests and operators. -/
def readItems (c : Call) : Nat → Bool → Reading → List Str → Act Reading
  | 0, _, r, _ => return r
  | _, _, r, [] => return r
  | fuel + 1, leading, r, a :: rest => do
    if !isQueryPart leading a then
      c.warn (str "paths must precede expression: " ++ Char.ofNat 96 :: a ++ ['\''])
      if (← Act.tree).isPresent (Host.pathOf a) && r.last ≠ [] then
        c.warn (str "possible unquoted pattern after predicate " ++ Char.ofNat 96 :: r.last ++ str "'?")
      Act.exit 1
    let (r, rest) ← readItem c r a rest
    readItems c fuel false r rest

/-- The options in front of everything. -/
def leadOptions (scope : Scope) : List Str → Scope × List Str
  | a :: rest =>
    if a = str "-H" then leadOptions { scope with follows := false, followsNamed := true } rest
    else if a = str "-L" then leadOptions { scope with follows := true, followsNamed := true } rest
    else if a = str "-P" then leadOptions { scope with follows := false, followsNamed := false } rest
    else if (str "-O").isPrefixOf a then leadOptions scope rest
    else if a = str "--" then (scope, rest)
    else (scope, a :: rest)
  | [] => (scope, [])

end StaleBuild.Utility.Search
