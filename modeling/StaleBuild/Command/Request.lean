import StaleBuild.Config.Loader

/-!
What the program is asked to do. The first argument names a verb or asks for the version; behind a
verb stand its options, in any order. A request that breaks a rule has no reading at all: an unknown
option, a value that is missing or empty, an option given twice that may be given once, or two
options that exclude each other.
-/

namespace StaleBuild.Command

/-- What the program can do with a project. -/
inductive Verb where
  | build
  | stale
deriving DecidableEq

namespace Verb

def name : Verb → String
  | .build => "build"
  | .stale => "stale"

/-- The verb of this name or abbreviation. -/
def named? (s : String) : Option Verb :=
  if s = "build" ∨ s = "b" then some .build
  else if s = "stale" ∨ s = "s" then some .stale
  else none

end Verb

/-- An option that takes a value. -/
inductive Setting where
  | destination
  | source
  | projectDir
deriving DecidableEq

/-- An option that is given or not. -/
inductive Switch where
  | json
  | verbose
  | quiet
  | version
deriving DecidableEq

/-- An option of either kind. -/
inductive Choice where
  | setting (s : Setting)
  | switch (s : Switch)

/-- What the options of a verb say. -/
structure Options where
  destination : Option Path
  /-- Source directories in place of the configured ones. -/
  sources : List Path
  projectDir : Option Path
  json : Bool
  verbose : Bool
  quiet : Bool
deriving DecidableEq

namespace Options

/-- Nothing said. -/
def none : Options := ⟨.none, [], .none, false, false, false⟩

/-- The options with a value for a setting. An empty value is refused, and so is a second one except
for a source directory. -/
def assign (o : Options) (s : Setting) (value : String) : Option Options :=
  if value = "" then .none
  else match s with
    | .source => some { o with sources := o.sources ++ [.ofString value] }
    | .destination =>
      if o.destination.isSome then .none else some { o with destination := some (.ofString value) }
    | .projectDir =>
      if o.projectDir.isSome then .none else some { o with projectDir := some (.ofString value) }

/-- The options with a switch turned on, which happens at most once. -/
def turnOn (o : Options) (s : Switch) : Option Options :=
  match s with
  | .json => if o.json then .none else some { o with json := true }
  | .verbose => if o.verbose then .none else some { o with verbose := true }
  | .quiet => if o.quiet then .none else some { o with quiet := true }
  | .version => .none

end Options

/-- What the program is asked to do. -/
inductive Request where
  /-- Tell the version, of the program or of a verb. -/
  | version (verb : Option Verb)
  | perform (verb : Verb) (options : Options)
deriving DecidableEq

/-! ## Words -/

/-- The option with a long name. -/
def longOption? (verb : Verb) (name : String) : Option Choice :=
  match name with
  | "destdir" => some (.setting .destination)
  | "src" => some (.setting .source)
  | "project-dir" => some (.setting .projectDir)
  | "json" => some (.switch .json)
  | "version" => some (.switch .version)
  | "verbose" => if verb = .build then some (.switch .verbose) else none
  | "quiet" => if verb = .build then some (.switch .quiet) else none
  | _ => none

/-- The option with a one-letter name. -/
def shortOption? (verb : Verb) (letter : Char) : Option Choice :=
  match letter with
  | 'd' => some (.setting .destination)
  | 'C' => some (.setting .projectDir)
  | 'V' => some (.switch .version)
  | 'v' => if verb = .build then some (.switch .verbose) else none
  | 'q' => if verb = .build then some (.switch .quiet) else none
  | _ => none

/-- An argument by its look. -/
inductive Word where
  /-- Behind it there are no more options. -/
  | stop
  | long (name : String) (value : Option String)
  /-- One-letter options written together. -/
  | cluster (letters : List Char)
  | plain (text : String)

/-- How an argument looks. -/
def Word.ofString (s : String) : Word :=
  match s.toList with
  | ['-', '-'] => .stop
  | '-' :: '-' :: rest =>
    match rest.dropWhile (· ≠ '=') with
    | _ :: value => .long (String.ofList (rest.takeWhile (· ≠ '='))) (some (String.ofList value))
    | [] => .long (String.ofList rest) none
  | '-' :: c :: rest => .cluster (c :: rest)
  | _ => .plain s

/-! ## Reading -/

/-- How far the reading of options has come. -/
inductive Progress where
  | reading (o : Options)
  /-- The next argument is the value of a setting. -/
  | awaiting (o : Options) (s : Setting)
  /-- The version is asked for, and nothing else counts. -/
  | version
  | refused

namespace Progress

/-- Go on with the options, if there are any. -/
def ofOptions : Option Options → Progress
  | some o => .reading o
  | none => .refused

/-- Turn a switch on. -/
def turnOn (o : Options) (s : Switch) : Progress :=
  if s = .version then .version else ofOptions (o.turnOn s)

/-- Read a long option, with the value written behind it. -/
def long (verb : Verb) (o : Options) (name : String) (value : Option String) : Progress :=
  match longOption? verb name, value with
  | some (.setting s), some value => ofOptions (o.assign s value)
  | some (.setting s), none => .awaiting o s
  | some (.switch s), none => turnOn o s
  | _, _ => .refused

/-- The value written behind a one-letter option, which may begin with an equals sign. -/
def attached : List Char → String
  | '=' :: value => String.ofList value
  | value => String.ofList value

/-- Read one-letter options. What follows a setting is its value. -/
def cluster (verb : Verb) (o : Options) : List Char → Progress
  | [] => .reading o
  | c :: rest =>
    match shortOption? verb c with
    | some (.setting s) =>
      if rest = [] then .awaiting o s else ofOptions (o.assign s (attached rest))
    | some (.switch .version) => .version
    | some (.switch s) =>
      match o.turnOn s with
      | some o => cluster verb o rest
      | none => .refused
    | none => .refused

end Progress

/-- The variable that asks for JSON when the option does not. -/
def jsonVariable : String := "GRAILSC_JSON"

/-- The options with what the environment adds; a variable that is neither true nor false is
refused. -/
def withEnvironment (env : Environment) (o : Options) : Option Options :=
  if o.json then some o
  else match env.bytes? jsonVariable with
    | none => some o
    | some value =>
      if value = Utf8.encode "true" then some { o with json := true }
      else if value = Utf8.encode "false" then some o
      else none

/-- The request of options that have all been read. -/
def conclude (env : Environment) (verb : Verb) (o : Options) : Option Request :=
  match withEnvironment env o with
  | none => none
  | some o => if o.quiet && o.verbose then none else some (.perform verb o)

/-- Read the options of a verb on top of those already read. -/
def readOptions (env : Environment) (verb : Verb) : Options → List String → Option Request
  | o, [] => conclude env verb o
  | o, arg :: rest =>
    let progress := match Word.ofString arg with
      | .long name value => Progress.long verb o name value
      | .cluster letters => Progress.cluster verb o letters
      | .stop => if rest = [] then .reading o else .refused
      | .plain _ => .refused
    match progress with
    | .reading o => readOptions env verb o rest
    | .version => some (.version (some verb))
    | .refused => none
    | .awaiting o s =>
      match rest with
      | [] => none
      | value :: rest =>
        match Word.ofString value with
        | .plain value =>
          match o.assign s value with
          | some o => readOptions env verb o rest
          | none => none
        | _ => none

/-- Whether an argument ahead of the verb asks for the version. -/
def asksForVersion (arg : String) : Bool :=
  match Word.ofString arg with
  | .long "version" none => true
  | .cluster ('V' :: _) => true
  | _ => false

/-- Read the arguments of the program. -/
def Request.read (env : Environment) : List String → Option Request
  | [] => none
  | arg :: rest =>
    match Verb.named? arg with
    | some verb => readOptions env verb .none rest
    | none => if asksForVersion arg then some (.version none) else none

end StaleBuild.Command
