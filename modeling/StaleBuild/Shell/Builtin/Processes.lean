import StaleBuild.Shell.Builtin.Variables

/-!
Commands of the shell about processes: signals, traps and jobs.
-/

namespace StaleBuild.Shell.Builtin

open Host (Str str Signal.greatest)

/-! ## Signals -/

/-- The events that the extended dialect has besides signals, with their numbers. -/
def events : List (Nat × String) := [(65, "DEBUG"), (66, "ERR"), (67, "RETURN")]

/-- The number of the event that a command has failed. -/
def failure : Nat := 66

/-- The number of a signal or of another event, given by its number or its name. -/
def signal? (d : Dialect) (s : Str) : Option Nat :=
  match Host.natural? s with
  | some n => if n ≤ Signal.greatest then some n else none
  | none =>
    let name := Host.toUpper s
    let name := if d = .extended && (str "SIG").isPrefixOf name then name.drop 3 else name
    if name = str "EXIT" then some 0
    else (Host.Signal.named? name).or (if d = .extended then
        (events.find? fun e => e.2.toList = name).map Prod.fst else none)

/-- The name of a signal or of another event in a list of traps. -/
def eventName (d : Dialect) (n : Nat) : Str :=
  if n = 0 then str "EXIT"
  else match events.find? fun e => e.1 = n with
    | some (_, name) => str name
    | none => (if d = .extended then str "SIG" else []) ++ (Host.Signal.name? n).getD (Host.decimal n)

/-- The names of all signals, one on a line. -/
def signalNames : Str :=
  str "0\n" ++ (List.range 31).flatMap (fun i =>
    ((Host.Signal.name? (i + 1)).filter (· ≠ str "STKFLT")).getD (Host.decimal (i + 1 : Nat)) ++ ['\n']) ++
    str "32\n33\nRTMIN\n" ++ (List.range 15).flatMap (fun i =>
      str "RTMIN+" ++ Host.decimal (i + 1 : Nat) ++ ['\n']) ++ (List.range 14).flatMap (fun i =>
      str "RTMAX-" ++ Host.decimal (14 - i : Nat) ++ ['\n']) ++ str "RTMAX\n"

/-- The names of all signals with their numbers, five on a line. -/
def signalTable : Str :=
  let name (n : Nat) : Option Str :=
    if n ≤ 31 then (Host.Signal.name? n).map (str "SIG" ++ ·)
    else if n = 34 then some (str "SIGRTMIN")
    else if 34 < n && n ≤ 49 then some (str "SIGRTMIN+" ++ Host.decimal (n - 34 : Nat))
    else if 49 < n && n < 64 then some (str "SIGRTMAX-" ++ Host.decimal (64 - n : Nat))
    else if n = 64 then some (str "SIGRTMAX")
    else none
  let cells := (List.range 65).filterMap fun n => (if n = 0 then none else name n).map fun t =>
    Host.padLeft 2 (Host.decimal n) ++ str ") " ++ t
  cells.zipIdx.flatMap fun (t, i) =>
    t ++ if i % 5 = 4 || i + 1 = cells.length then ['\n'] else ['\t']

/-- The words of a number that is the status of a process ended by a signal, or a signal itself. -/
def nameOfStatus (n : Nat) : Option Str := Host.Signal.name? (if 128 < n then n - 128 else n)

/-- Take what a process wrote after a time out of everything that has been collected. -/
def silence (pid : Nat) (time : Time) (h : Host) : Host :=
  { h with collectors := h.collectors.map fun cs =>
    cs.filter fun c => !(c.pid = pid && time < c.time) }

/-- Send a signal to a process; whether there is one. -/
def sendTo (pid signal : Nat) : Sh Bool := do
  let s ← get
  let now := s.host.clock
  match s.jobs.find? fun j => j.pid = pid with
  | some j =>
    let isOver : Bool := match j.ended with
      | some (_, time) => time ≤ now
      | none => false
    if isOver then return false
    else if signal = 0 || Host.Signal.isHarmless signal then return true
    else
      let jobs := s.jobs.map fun k =>
        if k.pid = pid then { k with ended := some (.killed signal, now) } else k
      set { s with jobs, host := silence pid now s.host }
      return true
  | none =>
    let p := s.host.process
    if pid = 0 || pid = p.pid || pid = s.pid || pid = p.parent then
      if signal ≠ 0 then Sh.onHost (·.send (if pid = 0 then p.pid else pid) signal)
      return true
    else return false

/-- The process of a job that is given by its number behind a percent sign. -/
def jobOf (s : State) (spec : Str) : Option Job :=
  match spec with
  | '%' :: digits =>
    match Host.natural? digits with
    | some n => if n = 0 then none else s.jobs[n - 1]?
    | none => if digits = [] || digits = ['%'] || digits = ['+'] then s.jobs.getLast? else none
  | _ => none

/-- Send a signal to processes. -/
def kill : Builtin := fun _ name args => do
  let s ← get
  let extended := s.dialect = .extended
  let usage : Sh Nat :=
    if extended then usage ("kill: usage: kill [-s sigspec | -n signum | -sigspec] pid | jobspec ... " ++
      "or kill -l [sigspec]")
    else wrong (str ("Usage: kill [-s sigspec | -signum | -sigspec] [pid | job]... or\n" ++
      "kill -l [exitstatus]"))
  let send (signal : Nat) (targets : List Str) : Sh Nat := do
    if targets.isEmpty then usage
    else
      let mut status := 0
      for t in targets do
        let pid? : Option Nat := match t with
          | '%' :: _ => (jobOf s t).map Job.pid
          | '-' :: digits => Host.natural? digits
          | t => Host.natural? t
        match pid? with
        | some pid =>
          if !(← sendTo pid signal) then
            if extended then Sh.warn ('(' :: t ++ str ") - No such process")
            else Sh.warn (str "No such process\n")
            status := 1
        | none =>
          if t.head? = some '%' then
            Sh.warn (if extended then t ++ str ": no such job" else str "No such job: " ++ t)
          else if extended then Sh.warn (t ++ str ": arguments must be process or job IDs")
          else wrong (str "Illegal number: " ++ t)
          status := 1
      return status
  let named (spec : Str) (shown : Str) (targets : List Str) : Sh Nat := do
    match signal? s.dialect spec with
    | some n => send n targets
    | none =>
      if extended then failing 1 (spec ++ str ": invalid signal specification")
      else wrong shown
  match args with
  | [] => usage
  | ['-', 'l'] :: [] => emit name (if extended then signalTable else signalNames)
  | ['-', 'l'] :: specs => do
    let mut status := 0
    for spec in specs do
      match Host.natural? spec, signal? s.dialect spec with
      | some n, _ =>
        match nameOfStatus n with
        | some t => do
          let _ ← emit name (t ++ ['\n'])
        | none =>
          Sh.warn (if extended then spec ++ str ": invalid signal specification"
            else str "Illegal number: " ++ spec)
          status := 1
      | none, some n => do
        let _ ← emit name (Host.decimal n ++ ['\n'])
      | none, none =>
        Sh.warn (if extended then spec ++ str ": invalid signal specification"
          else str "Illegal number: " ++ spec)
        status := 1
    return status
  | ['-', 's'] :: spec :: targets => named spec (str "invalid signal number or name: " ++ spec) targets
  | ['-', 's'] :: [] => usage
  | ['-', 'n'] :: spec :: targets =>
    if extended then named spec [] targets else wrong (str "Illegal option -n")
  | ['-', '-'] :: targets => send Host.Signal.terminate targets
  | ('-' :: c :: spec) :: targets => named (c :: spec) (str "Illegal option -" ++ [c]) targets
  | targets => send Host.Signal.terminate targets

/-! ## Traps -/

/-- Keep the signals that the process ignores in step with the traps. -/
def syncIgnored (n : Nat) (text : Option Str) : Sh Unit := do
  if n ≠ 0 && n ≤ Signal.greatest then
    Sh.onHost fun h =>
      let others := h.process.ignored.filter (· ≠ n)
      { h with process := { h.process with ignored := if text = some [] then n :: others else others } }

/-- Set what is done at signals, or show it. -/
def trap : Builtin := fun _ name args => do
  let s ← get
  let extended := s.dialect = .extended
  let list (ts : List (Nat × Str)) : Sh Nat :=
    emit name ((ts.mergeSort fun a b => decide (a.1 ≤ b.1)).flatMap fun (n, text) =>
      str "trap -- " ++ (if extended then Requote.single text else basicQuoted text) ++
        ' ' :: eventName s.dialect n ++ ['\n'])
  let change (action : Option Str) (specs : List Str) : Sh Nat := do
    let mut status := 0
    for spec in specs do
      if status = 0 || extended then
        match signal? s.dialect spec with
        | some n => do
          modify fun s =>
            let others := s.traps.filter fun t => t.1 ≠ n
            { s with traps := match action with
              | some text => (n, text) :: others
              | none => others }
          syncIgnored n action
        | none => do
          if extended then Sh.warn (spec ++ str ": invalid signal specification")
          else Sh.put 2 (str "trap: " ++ spec ++ str ": bad trap\n")
          status := 1
    return status
  let go (args : List Str) : Sh Nat := do
    match args with
    | [] => list s.traps
    | [only] =>
      if extended && (signal? s.dialect only).isNone then
        usage "trap: usage: trap [-lp] [[arg] signal_spec ...]"
      else change none [only]
    | action :: specs =>
      if (Host.natural? action).isSome then change none (action :: specs)
      else change (if action = ['-'] then none else some action) specs
  read (if extended then "lp" else "") "trap: usage: trap [-lp] [[arg] signal_spec ...]"
    (match args with
      | ['-'] :: rest => ['-', '-'] :: ['-'] :: rest
      | args => args) fun os rest => do
      if given os 'l' then emit name signalTable
      else if given os 'p' then
        list (s.traps.filter fun t => rest.isEmpty || rest.any fun r => signal? s.dialect r = some t.1)
      else go rest

/-! ## Jobs -/

/-- Wait for a job, which is then forgotten. -/
def await (j : Job) : Sh ExitState := do
  let j ← (Sh.runJob j : StateM State Job)
  modify fun s => { s with jobs := s.jobs.filter fun k => k.pid ≠ j.pid }
  match j.ended with
  | some (ending, time) => do
    Sh.onHost fun h => { h with clock := max h.clock time }
    return ending
  | none => return .exited 0

/-- Wait for jobs. -/
def wait : Builtin := fun _ _ args => do
  let extended ← Sh.isExtended
  read (if extended then "fnp:" else "") "wait: usage: wait [-fn] [-p var] [id ...]" args fun os rest => do
    if rest.isEmpty && given os 'n' then
      match (← get).jobs with
      | [] => return 127
      | j :: _ => return (← await j).code
    else if rest.isEmpty then
      (Sh.runJobs fun _ => true : StateM State Unit)
      let jobs := (← get).jobs
      for j in jobs do
        let _ ← await j
      return 0
    else
      let mut status := 0
      for spec in rest do
        let s ← get
        match if spec.head? = some '%' then jobOf s spec
          else (Host.natural? spec).bind fun n => s.jobs.find? fun j => j.pid = n with
        | some j => do
          let ending ← await j
          if !extended then Sh.report ending
          status := ending.code
        | none =>
          if spec.head? = some '%' then
            if extended then
              Sh.warn (spec ++ str ": no such job")
              status := 127
            else wrong (str "No such job: " ++ spec)
          else match Host.natural? spec with
            | none =>
              if extended then
                Sh.warn (Script.marked spec ++ str ": not a pid or valid job spec")
                status := 1
              else wrong (str "Illegal number: " ++ spec)
            | some _ =>
              if extended then
                Sh.warn (str "pid " ++ spec ++ str " is not a child of this shell")
              status := 127
      return status

/-- Show the jobs. -/
def jobs : Builtin := fun _ name args => do
  let s ← get
  match args.find? fun a => a.head? = some '%' && (jobOf s a).isNone with
  | some bad =>
    if s.dialect = .extended then failing 1 (bad ++ str ": no such job")
    else wrong (str "No such job: " ++ bad)
  | none =>
    let now := s.host.clock
    let count := s.jobs.length
    emit name (s.jobs.zipIdx.flatMap fun (j, i) =>
      let isOver : Bool := match j.ended with
        | some (_, time) => time ≤ now
        | none => false
      let mark : Str := if i + 1 = count then ['+'] else if i + 2 = count then ['-'] else [' ']
      if args.contains ['-', 'p'] then Host.decimal j.pid ++ ['\n']
      else if s.dialect = .basic then
        '[' :: Host.decimal (i + 1 : Nat) ++ str "] " ++ mark ++
          ' ' :: Host.padRight 27 (str (if isOver then "Done" else "Running")) ++ ['\n']
      else
        '[' :: Host.decimal (i + 1 : Nat) ++ [']'] ++ mark ++
          ' ' :: ' ' :: Host.padRight 24 (str (if isOver then "Done" else "Running")) ++ ['\n'])

/-- Bring a job to the front, which takes a terminal. -/
def foreground : Builtin := fun _ _ args => do
  if ← Sh.isExtended then failing 1 (str "no job control")
  else match args with
    | [] => wrong (str "No current job")
    | spec :: _ => wrong (str "No such job: " ++ spec)

/-- Write the time that was used: none. -/
def times : Builtin := fun _ name _ => do
  if ← Sh.isExtended then emit name (str "0m0.000s 0m0.000s\n0m0.000s 0m0.000s\n")
  else emit name (str "0m0.000000s 0m0.000000s\n0m0.000000s 0m0.000000s\n")

/-- Write the limits of processes, of which there are none. -/
def ulimit : Builtin := fun _ name args => do
  if args.any fun a => a.head? ≠ some '-' then return 0
  else emit name (str "unlimited\n")

end StaleBuild.Shell.Builtin
