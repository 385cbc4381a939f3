import StaleBuild.Shell.Builtin.Basic

/-!
Commands of the shell that set variables, the arguments and the options of the shell, and say what is
set.
-/

namespace StaleBuild.Shell.Builtin

open Host (Str str)

/-! ## Showing variables -/

/-- A text between single quotation marks, as the basic dialect writes it. -/
def basicQuoted (s : Str) : Str :=
  '\'' :: (s.flatMap fun c => if c = '\'' then str "'\"'\"'" else [c]) ++ ['\'']

/-- A text between double quotation marks. -/
def doubleQuoted (s : Str) : Str :=
  if Requote.hasControls s then Requote.ansi s
  else '"' :: (s.flatMap fun c =>
    if c = '"' || c = '\\' || c = '$' || c = Char.ofNat 96 then ['\\', c] else [c]) ++ ['"']

/-- The value of a variable as it is declared in the extended dialect. -/
def declaredValue : Value → Str
  | .text s => doubleQuoted s
  | .items l =>
    '(' :: Host.joinWith [' '] (l.map fun e =>
      '[' :: Host.decimal e.1 ++ str "]=" ++ doubleQuoted e.2) ++ [')']
  | .table l =>
    '(' :: (Value.ordered l).flatMap (fun e =>
      '[' :: e.1 ++ str "]=" ++ doubleQuoted e.2 ++ [' ']) ++ [')']

/-- A variable as it is declared in the extended dialect. -/
def declaration (name : Str) (v : Variable) : Str :=
  let kind : Str := match v.value with
    | some (.items _) => ['a']
    | some (.table _) => ['A']
    | _ => []
  let flags := kind ++ (if v.calculates then ['i'] else []) ++
    (match v.casing with
      | some true => ['u']
      | some false => ['l']
      | none => []) ++
    (if v.fixed then ['r'] else []) ++ (if v.exported then ['x'] else [])
  str "declare -" ++ (if flags = [] then ['-'] else flags) ++ ' ' :: name ++
    (match v.value with
      | some value => '=' :: declaredValue value
      | none => []) ++ ['\n']

/-- The variables of a class in the order of their names. -/
def variablesOf (s : State) (p : Variable → Bool) : List (Str × Variable) :=
  (s.bindings.filter fun v => p v.2).mergeSort fun a b => !decide (b.1 < a.1)

/-- Variables as commands that would set them. -/
def listing (command : String) (p : Variable → Bool) : Sh Str := do
  let s ← get
  let vs := variablesOf s p
  return match s.dialect with
    | .basic => vs.flatMap fun (name, v) =>
      str command ++ ' ' :: name ++ (match v.value.bind Value.single? with
        | some t => '=' :: basicQuoted t
        | none => []) ++ ['\n']
    | .extended => vs.flatMap fun (name, v) => declaration name v

/-! ## Marks on variables -/

/-- Assign what arguments say and mark the variables. -/
def marking (command : String) (p : Variable → Bool) (f : Variable → Variable) : Builtin :=
  fun _ name args => do
    read (if ← Sh.isExtended then "afnp" else "p")
      (command ++ ": usage: " ++ command ++ " [-fn] [name[=value] ...] or " ++ command ++ " -p") args
      fun os rest => do
        if rest.isEmpty || given os 'p' then emit name (← listing command p)
        else
          let mut status := 0
          for arg in rest do
            let (name, value) := pair arg
            if !Host.isName name then
              refuseName arg
              status := 1
            else
              match value with
              | some t => Sh.assign name t
              | none => pure ()
              if given os 'n' then Sh.mark name fun v => { v with exported := false }
              else Sh.mark name f
          return status

/-- Let programs see variables. -/
def exporting : Builtin :=
  marking "export" (fun v => v.exported) fun v => { v with exported := true }

/-- Let variables keep their values. -/
def fixing : Builtin :=
  marking "readonly" (fun v => v.fixed) fun v => { v with fixed := true }

/-- Take variables and functions away. -/
def unset : Builtin := fun _ _ args => do
  read (if ← Sh.isExtended then "fvn" else "fv") "unset: usage: unset [-f] [-v] [-n] [name ...]" args
    fun os rest => do
      let mut status := 0
      for arg in rest do
        let s ← get
        if given os 'f' then
          set { s with functions := s.functions.filter fun f => f.1 ≠ arg }
        else
          let (base, inside) := Host.cut '[' arg
          match if s.dialect = .extended then inside else none with
          | some key => do
            let key := key.dropLast
            match (s.binding base).bind Variable.value with
            | some (.items l) =>
              let n ← Arithmetic.workOut key
              let n := if n < 0 then (l.getLast?.map fun e => (e.1 : Int) + 1).getD 0 + n else n
              Sh.setValue base (.items (l.filter fun e => (e.1 : Int) ≠ n))
            | some (.table l) => Sh.setValue base (.table (l.filter fun e => e.1 ≠ key))
            | _ => pure ()
          | none =>
            if !Host.isName arg then
              if s.dialect = .basic then
                refuseName arg
              else set { s with functions := s.functions.filter fun f => f.1 ≠ arg }
            else if s.dialect = .extended && !given os 'v' && (s.binding arg).isNone then
              set { s with functions := s.functions.filter fun f => f.1 ≠ arg }
            else if s.dialect = .extended && ((s.binding arg).map Variable.fixed).getD false then
              Sh.warn (arg ++ str ": cannot unset: readonly variable")
              status := 1
            else Sh.unset arg
      return status

/-- Make variables that last as long as the function runs. -/
def makeLocal : Builtin := fun _ _ args => do
  if (← get).hidden.isEmpty then wrong (str "not in a function")
  else
    for arg in args do
      let (name, value) := pair arg
      if arg = ['-'] then pure ()
      else if !Host.isName name then refuseName arg
      else
        Sh.hide name
        match value with
        | some t => Sh.assign name t
        | none => pure ()
    return 0

/-! ## Declaring -/

/-- What is said of variables that are declared. -/
def declaredAs (os : List (Char × Str)) (on : Bool) (v : Variable) : Variable :=
  let v := if given os 'x' then { v with exported := on } else v
  let v := if given os 'i' then { v with calculates := on } else v
  let v := if given os 'u' then { v with casing := if on then some true else none } else v
  let v := if given os 'l' then { v with casing := if on then some false else none } else v
  if given os 'a' then
    match v.value with
    | none => { v with value := some (.items []) }
    | some (.text t) => { v with value := some (.items [(0, t)]) }
    | _ => v
  else if given os 'A' then
    match v.value with
    | none => { v with value := some (.table []) }
    | _ => v
  else v

/-- Declare variables, in a function for as long as it runs. -/
def declare : Builtin := fun _ command args => do
  let s ← get
  if command = str "local" && s.hidden.isEmpty then failing 1 (str "can only be used in a function")
  else
    -- a plus sign takes marks away
    let on := !(args.any fun a => a.head? = some '+')
    let args := args.map fun a => match a with
      | '+' :: rest => '-' :: rest
      | a => a
    read "aAfFgiIlnrtuxp" (Host.word command ++ ": usage: " ++ Host.word command ++
        " [-aAfFgiIlnrtux] [name[=value] ...] or " ++ Host.word command ++ " -p [-aAfFilnrtux] [name ...]")
      args fun os rest => do
        if given os 'f' || given os 'F' then
          let s ← get
          if rest.isEmpty then
            emit command (s.functions.reverse.flatMap fun f => str "declare -f " ++ f.1 ++ ['\n'])
          else
            let mut status := 0
            for name in rest do
              if s.functions.any fun f => f.1 = name then
                let _ ← emit command (name ++ ['\n'])
              else status := 1
            return status
        else if given os 'p' || rest.isEmpty then
          let s ← get
          let wanted (v : Variable) : Bool :=
            (!given os 'x' || v.exported) && (!given os 'r' || v.fixed) &&
              (!given os 'i' || v.calculates) && (!given os 'a' || match v.value with
                | some (.items _) => true
                | _ => false) && (!given os 'A' || match v.value with
                | some (.table _) => true
                | _ => false)
          if rest.isEmpty then
            emit command ((variablesOf s wanted).flatMap fun (n, v) => declaration n v)
          else
            let mut status := 0
            for name in rest do
              match s.binding name with
              | some v => do
                let _ ← emit command (declaration name v)
              | none => do
                Sh.warn (name ++ str ": not found")
                status := 1
            return status
        else
          let mut status := 0
          for arg in rest do
            let (target, value) := pair arg
            let (target, adds) := if value.isSome && target.getLast? = some '+' then
                (target.dropLast, true)
              else (target, false)
            let (name, index) := Host.cut '[' target
            if !Host.isName name then
              refuseName arg
              status := 1
            else
              let isNew := !s.hidden.isEmpty && !given os 'g'
              if isNew then
                Sh.hide name
                if !adds then
                  modify fun t => if (s.binding name).isSome || (t.binding name).isSome then
                    t.withVariable name none else t
              Sh.mark name (declaredAs os on)
              match value with
              | some t => do
                let v := ((← get).binding name).getD .new
                let text ← if v.calculates then pure (Host.decimal (← Arithmetic.workOut t)) else pure t
                let old := (v.value.bind Value.single?).getD []
                let text := if adds && !v.calculates then old ++ text else text
                Arithmetic.store name (index.map List.dropLast) (Sh.cased v text)
              | none => pure ()
              if given os 'r' then Sh.mark name fun v => { v with fixed := true }
          return status

/-! ## Options of the shell -/

/-- The options with a letter, by name. -/
def lettered : List (String × Char) :=
  [("errexit", 'e'), ("noglob", 'f'), ("noexec", 'n'), ("xtrace", 'x'), ("verbose", 'v'),
    ("noclobber", 'C'), ("allexport", 'a'), ("nounset", 'u')]

/-- The names of options in the order in which they are listed. -/
def optionNames : Dialect → List String
  | .basic =>
    ["errexit", "noglob", "ignoreeof", "interactive", "monitor", "noexec", "stdin", "xtrace",
      "verbose", "vi", "emacs", "noclobber", "allexport", "notify", "nounset", "nolog", "debug"]
  | .extended =>
    ["allexport", "braceexpand", "emacs", "errexit", "errtrace", "functrace", "hashall",
      "histexpand", "history", "ignoreeof", "interactive-comments", "keyword", "monitor",
      "noclobber", "noexec", "noglob", "nolog", "notify", "nounset", "onecmd", "physical", "pipefail",
      "posix", "privileged", "verbose", "vi", "xtrace"]

/-- The letters of options that change nothing here. -/
def idleLetters : Dialect → List Char
  | .basic => "ImsVEb".toList
  | .extended => "bhkmptBEHPT".toList

/-- The options with one of them on or off. -/
def withLetter (o : Options) (c : Char) (on : Bool) : Options :=
  match c with
  | 'e' => { o with exitOnFailure := on }
  | 'f' => { o with literalPatterns := on }
  | 'n' => { o with readsOnly := on }
  | 'x' => { o with traces := on }
  | 'v' => { o with echoesInput := on }
  | 'C' => { o with sparesFiles := on }
  | 'a' => { o with exportsAll := on }
  | 'u' => { o with demandsValues := on }
  | _ => o

/-- Whether the option of a name is on. -/
def isOn (o : Options) (name : String) : Bool :=
  match name with
  | "errexit" => o.exitOnFailure
  | "noglob" => o.literalPatterns
  | "noexec" => o.readsOnly
  | "xtrace" => o.traces
  | "verbose" => o.echoesInput
  | "noclobber" => o.sparesFiles
  | "allexport" => o.exportsAll
  | "nounset" => o.demandsValues
  | "pipefail" => o.failsWithPipe
  | "braceexpand" => true
  | "hashall" => true
  | "interactive-comments" => true
  | _ => o.others.contains (str name)

/-- The options with the one of a name on or off; none if there is no such name. -/
def withName? (d : Dialect) (o : Options) (name : Str) (on : Bool) : Option Options :=
  if !(optionNames d).any fun n => n.toList = name then none
  else match lettered.find? fun l => l.1.toList = name with
    | some (_, c) => some (withLetter o c on)
    | none =>
      if name = str "pipefail" then some { o with failsWithPipe := on }
      else some { o with others := if on then name :: o.others else o.others.filter (· ≠ name) }

/-- The list of all options. -/
def optionTable (s : State) (asCommands : Bool) : Str :=
  let lines := (optionNames s.dialect).flatMap fun n =>
    let on := isOn s.options n
    if asCommands then str ("set " ++ (if on then "-o " else "+o ") ++ n) ++ ['\n']
    else match s.dialect with
      | .basic => Host.padRight 16 (str n) ++ str (if on then "on\n" else "off\n")
      | .extended => Host.padRight 15 (str n) ++ str (if on then "\ton\n" else "\toff\n")
  if asCommands || s.dialect = .extended then lines else str "Current option settings\n" ++ lines

/-- Complain about an option that is none. -/
def refuseOption (sign : Char) (c : Char) : Sh Unit := do
  if ← Sh.isExtended then
    Sh.warn ([sign, c] ++ str ": invalid option")
    let _ ← usage "set: usage: set [-abefhkmnptuvxBCEHPT] [-o option-name] [--] [-] [arg ...]"
    Sh.setStatus 2
    throw .failed
  else wrong (str "Illegal option " ++ [sign, c])

/-- Set options by letters; true if one of them asks for a name. -/
def setLetters (sign : Char) : Str → Sh Bool
  | [] => return false
  | 'o' :: rest => do
    let _ ← setLetters sign rest
    return true
  | c :: rest => do
    let s ← get
    if (lettered.any fun l => l.2 = c) || (idleLetters s.dialect).contains c then
      set { s with options := withLetter s.options c (sign = '-') }
    else refuseOption sign c
    setLetters sign rest

/-- Set options as arguments say; the other arguments, if they are to be new arguments. -/
def setOptions : List Str → Sh (Option (List Str))
  | [] => return none
  | ['-', '-'] :: rest => return some rest
  | ['-'] :: rest => do
    modify fun s => { s with options := { s.options with traces := false, echoesInput := false } }
    return if rest.isEmpty then none else some rest
  | (sign :: letters) :: rest => do
    if (sign = '-' || sign = '+') && letters ≠ [] then
      if ← setLetters sign letters then
        let s ← get
        match rest with
        | [] => do
          let _ ← emit (str "set") (optionTable s (sign = '+'))
          return none
        | name :: rest => do
          match withName? s.dialect s.options name (sign = '-') with
          | some options => set { s with options }
          | none =>
            if s.dialect = .extended then
              Sh.warn (name ++ str ": invalid option name")
              Sh.setStatus 2
              throw .failed
            else wrong (str "Illegal option " ++ sign :: str "o " ++ name)
          setOptions rest
      else setOptions rest
    else return some ((sign :: letters) :: rest)
  | [] :: rest => return some ([] :: rest)

/-- Change options and arguments, or show all variables. -/
def configure : Builtin := fun _ name args => do
  if args.isEmpty then
    let s ← get
    emit name ((variablesOf s fun v => v.value.isSome).flatMap fun (n, v) =>
      n ++ '=' :: (match s.dialect, v.value with
        | .basic, value => basicQuoted ((value.bind Value.single?).getD [])
        | .extended, some (.text t) => if Requote.needsMarks t && t ≠ [] then Requote.single t else t
        | .extended, some value => declaredValue value
        | .extended, none => []) ++ ['\n'])
  else
    match ← setOptions args with
    | some args => modify fun s => { s with args }
    | none => pure ()
    return 0

/-! ## Further options of the extended dialect -/

/-- The names of further options. -/
def furtherNames : List String :=
  ["autocd", "assoc_expand_once", "cdable_vars", "cdspell", "checkhash", "checkjobs",
    "checkwinsize", "cmdhist", "compat31", "compat32", "compat40", "compat41", "compat42", "compat43",
    "compat44", "complete_fullquote", "direxpand", "dirspell", "dotglob", "execfail",
    "expand_aliases", "extdebug", "extglob", "extquote", "failglob", "force_fignore",
    "globasciiranges", "globskipdots", "globstar", "gnu_errfmt", "histappend", "histreedit",
    "histverify", "hostcomplete", "huponexit", "inherit_errexit", "interactive_comments", "lastpipe",
    "lithist", "localvar_inherit", "localvar_unset", "login_shell", "mailwarn",
    "no_empty_cmd_completion", "nocaseglob", "nocasematch", "noexpand_translation", "nullglob",
    "patsub_replacement", "progcomp", "progcomp_alias", "promptvars", "restricted_shell",
    "shift_verbose", "sourcepath", "varredir_close", "xpg_echo"]

/-- The further options that are on from the start. -/
def furtherAtStart : List Str :=
  ["checkwinsize", "cmdhist", "complete_fullquote", "extquote", "force_fignore", "globasciiranges",
    "globskipdots", "hostcomplete", "interactive_comments", "patsub_replacement", "progcomp",
    "promptvars", "sourcepath"].map str

/-- Change or show further options. -/
def shopt : Builtin := fun _ command args => do
  read "pqsuo" "shopt: usage: shopt [-pqsu] [-o] [optname ...]" args fun os rest => do
    let mut status := 0
    if given os 's' || given os 'u' then
      for name in rest do
        let s ← get
        if given os 'o' then
          match withName? .extended s.options name (given os 's') with
          | some options => modify fun t => { t with options }
          | none => do
            Sh.warn (name ++ str ": invalid option name")
            status := 1
        else if furtherNames.any fun n => n.toList = name then
          let others := s.options.others.filter (· ≠ name)
          modify fun t => { t with options := { t.options with
            others := if given os 's' then name :: others else others } }
        else
          Sh.warn (name ++ str ": invalid shell option name")
          status := 1
      return status
    else
      let s ← get
      let names := if rest.isEmpty then furtherNames.map str else rest
      for name in names do
        if (furtherNames.any fun n => n.toList = name) || given os 'o' then
          let on := s.options.others.contains name || (given os 'o' && isOn s.options (Host.word name))
          if !on && !rest.isEmpty then status := 1
          if !given os 'q' then
            let _ ← emit command (if given os 'p' then
                str (if on then "shopt -s " else "shopt -u ") ++ name ++ ['\n']
              else Host.padRight 15 name ++ str (if on then "\ton\n" else "\toff\n"))
        else
          Sh.warn (name ++ str ": invalid shell option name")
          status := 1
      return status

/-- Work out expressions; the last one decides about the status. -/
def calculate : Builtin := fun _ _ args => do
  if args.isEmpty then failing 1 (str "expression expected")
  else
    let mut last : Int := 0
    for a in args do
      last ← Arithmetic.workOut a
    return if last = 0 then 1 else 0

end StaleBuild.Shell.Builtin
