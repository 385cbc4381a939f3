import StaleBuild.Utility.Record.Run

/-!
The utility `awk`, which puts records to the rules of a program.
-/

namespace StaleBuild.Utility

open Host (Str str Call Program)

namespace Record

/-- The explanation of the call. -/
def usage : Str := str "Usage: mawk [Options] [Program] [file ...]

Program:
    The -f option value is the name of a file containing program text.
    If no -f option is given, a \"--\" ends option processing; the following
    parameters are the program text.

Options:
    -f program-file  Program  text is read from file instead of from the
                     command-line.  Multiple -f options are accepted.
    -F value         sets the field separator, FS, to value.
    -v var=value     assigns value to program variable var.
    --               unambiguous end of options.

    Implementation-specific options are prefixed with \"-W\".  They can be
    abbreviated:

    -W version       show version information and exit.
    -W dump          show assembler-like listing of program and exit.
    -W help          show this message and exit.
    -W interactive   set unbuffered output, line-buffered input.
    -W exec file     use file as program as well as last option.
    -W random=number set initial random seed.
    -W sprintf=number adjust size of sprintf buffer.
    -W posix_space   do not consider \"\\n\" a space.
    -W usage         show this message and exit.
"

/-- What is shown about the version. -/
def version : Str := str "mawk 1.3.4 20200120
random-funcs:       srandom/random
regex-funcs:        internal
compiled limits:
sprintf buffer      8192
maximum-integer     2147483647
"

/-- What was given to the program. -/
structure Request where
  separator : Option Str
  assigned : List (String × Str)
  files : List Str
  operands : List Str

/-- A call that asks for something else, or that is wrong. -/
inductive Refusal where
  | usage
  | version
  | words (s : Str)

/-- Take an option with its value. -/
def Request.take (r : Request) (c : Char) (value : Str) : Except Refusal Request :=
  match c with
  | 'F' => .ok { r with separator := some (unescaped value) }
  | 'f' => .ok { r with files := r.files ++ [value] }
  | 'v' =>
    match assignment? value with
    | some (name, v) => .ok { r with assigned := r.assigned ++ [(name, unescaped v)] }
    | none => .error (.words (str "improper assignment: -v " ++ value))
  | 'W' =>
    if value.head? = some 'v' then .error .version
    else if value.head? = some 'h' || value.head? = some 'u' then .error .usage
    else if "dierspED".toList.any fun c => value.head? = some c then .ok r
    else .error (.words (str "vacuous option: -W \"" ++ value ++ ['"']))
  | _ => .error (.words (str "not an option: -" ++ c :: value))

/-- Whether a letter is an option. -/
def takesValue (c : Char) : Bool := "FvfW".toList.contains c

/-- Read a call. -/
def Request.read (r : Request) : List Str → Except Refusal Request
  | [] => .ok r
  | ['-', '-'] :: rest => .ok { r with operands := rest }
  | ['-'] :: rest => .ok { r with operands := ['-'] :: rest }
  | ('-' :: '-' :: name) :: _ =>
    if name = str "version" then .error .version
    else if name = str "help" || name = str "usage" then .error .usage
    else .error (.words (str "not an option: --" ++ name))
  | [['-', c]] =>
    if takesValue c then .error (.words (str "option -" ++ [c] ++ str " lacks argument"))
    else .error (.words (str "not an option: -" ++ [c]))
  | ['-', c] :: value :: rest =>
    match r.take c (if takesValue c then value else []) with
    | .ok r => r.read rest
    | .error f => .error f
  | ('-' :: c :: value) :: rest =>
    match r.take c value with
    | .ok r => r.read rest
    | .error f => .error f
  | operand :: rest => .ok { r with operands := operand :: rest }

/-- A program before its first step. -/
def Machine.fresh (c : Call) (start : Host.Starter) (p : Script) (operands : List Str)
    (environment : List (Str × Str)) : Machine :=
  let given (xs : List (String × Option Int × Value)) : Table Value :=
    xs.foldl (fun t (k, n, v) => match n with
      | some n => t.useNumber k n (some v)
      | none => t.useText k (some v)) .empty
  let argv := given ((c.name :: operands).zipIdx.map fun (s, i) => (toString i, some (i : Int), .given s))
  let bindings := given (environment.map fun (k, v) => (String.ofList k, none, .given v))
  let number (x : Nat) : Cell := .value (count x)
  let text (s : String) : Cell := .value (.text s.toList)
  { call := c
    start
    functions := Std.HashMap.ofList (p.functions.map fun f => (f.name, f))
    globals := Std.HashMap.ofList
      [("NF", number 0), ("NR", number 0), ("FNR", number 0), ("FS", text " "), ("OFS", text " "),
        ("ORS", text "\n"), ("RS", text "\n"), ("SUBSEP", text "\x1c"), ("CONVFMT", text "%.6g"),
        ("OFMT", text "%.6g"), ("FILENAME", text ""), ("RSTART", number 0),
        ("RLENGTH", .value (.number (-1))), ("ARGC", number (operands.length + 1)), ("ARGV", .array 0),
        ("ENVIRON", .array 1)]
    locals := []
    depth := 0
    arrays := #[argv, bindings]
    record := []
    isJoined := true
    fields := #[]
    isSplit := true
    operand := 1
    input := none
    hasRead := false
    sources := []
    sinks := []
    ranges := []
    status := 0
    patterns := {}
    chance := chanceFrom 1
    seed := .number 0 }

end Record

open Record in
/-- Put records to the rules of a program. -/
def awk : Program := fun start c => do
  let c := { c with name := Host.baseName c.name }
  match Request.read ⟨none, [], [], []⟩ c.args with
  | .error .usage => do
    Act.say usage
    return 0
  | .error .version => do
    Act.say version
    return 0
  | .error (.words s) => do
    c.warn s
    return 2
  | .ok r => do
    let mut texts : List Str := []
    for f in r.files do
      match ← Call.readOperand f with
      | .ok s => texts := texts ++ [s]
      | .error cause => c.die 2 (str "couldn't open file " ++ f ++ str " (" ++ Host.reason cause ++ str ")")
    let mut operands := r.operands
    if r.files.isEmpty then
      match operands with
      | [] => do
        Act.complain usage
        Act.exit 2
      | p :: rest => do
        texts := [p]
        operands := rest
    match Reader.read (Host.joinWith ['\n'] texts) with
    | .error f =>
      if f.line = 0 then c.die 2 f.words
      else c.die 2 (str "line " ++ Host.decimal (f.line : Nat) ++ str ": " ++ f.words)
    | .ok p => do
      let m := Machine.fresh c start p operands (← get).process.environment
      let body : Record.Run Unit := do
        match r.separator with
        | some s => setVariable "FS" (.given s)
        | none => pure ()
        for (name, v) in r.assigned do
          setVariable name (.given v)
        run p
      let (_, m) ← body.run.run m
      return m.status

end StaleBuild.Utility
