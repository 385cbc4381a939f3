import StaleBuild.Host.Signal
import StaleBuild.Shell.Script

/-!
Processes that a shell splits off itself: for commands in brackets, the commands of a pipeline, those
inside of words, and those that run beside the others. A part starts with everything that the shell
has, and what it changes of it stays with it.
-/

namespace StaleBuild.Shell

open Host (Str str)

namespace Sh

/-! ## Traps -/

/-- What is done at a signal, or at the end for 0. -/
def trap? (s : State) (signal : Nat) : Option Str :=
  (s.traps.find? fun t => t.1 = signal).map Prod.snd

/-- Run the text of a trap; the status is then what it was. -/
def runTrap (run : Runner) (text : Str) : Sh Unit := do
  let s ← get
  set { s with saved := some s.status, guarded := false }
  Script.run run (.command (str "trap")) text
  modify fun t => { t with status := s.status, saved := s.saved, guarded := s.guarded }

/-- Run what is to be done at the end. -/
def atEnd (run : Runner) : Sh Unit := do
  match trap? (← get) 0 with
  | some text => do
    modify fun s => { s with traps := s.traps.filter fun t => t.1 ≠ 0 }
    runTrap run text
  | none => return ()

/-! ## Jobs -/

/-- The time between the start of a job and what it does first. -/
def pause : Time := 1000

/-- Run a job unless it has been run. -/
def runJob (j : Job) : StateM State Job := do
  match j.ended with
  | some _ => return j
  | none => do
    let h := (← get).host
    let (ending, after) := j.task { h with clock := j.started + pause }
    modify fun s => { s with host := { after with clock := h.clock } }
    return { j with ended := some (ending, after.clock) }

/-- Run the jobs of a class that have not been run yet. -/
def runJobs (p : Job → Bool) : StateM State Unit := do
  let jobs := (← get).jobs
  if jobs.any fun j => j.ended.isNone && p j then
    let jobs ← jobs.mapM fun j => if p j then runJob j else pure j
    modify fun s => { s with jobs }

/-! ## Parts -/

/-- Run something to the end of the process. -/
def conclude (run : Runner) (body : Sh Unit) : StateM State ExitState := do
  match ← body.run with
  | .error (.killed n) => do
    runJobs fun _ => true
    return .killed n
  | _ => do
    let r ← (atEnd run).run
    runJobs fun _ => true
    match r with
    | .error (.killed n) => return .killed n
    | _ => return .exited (← get).status

/-- Run something in a part of a shell that has this number, on a host that may have changed since
the part was split off. -/
def apart (run : Runner) (body : Sh Unit) (s : State) (pid : Nat) (h : Host) : ExitState × Host :=
  let process := { s.host.process with pid, parent := s.host.process.pid }
  let (ending, t) := conclude run body { s with
    host := { h with process, files := { h.files with current := s.host.files.current } }
    isPart := true
    jobs := []
    traps := s.traps.filter fun t => t.2 = [] }
  (ending, { t.host with
    process := h.process, files := { t.host.files with current := h.files.current } })

/-- Run something in a part and wait for it. -/
def split (run : Runner) (body : Sh Unit) : Sh ExitState := do
  let s ← get
  let pid := s.host.nextPid
  let (ending, host) := apart run body s pid { s.host with nextPid := pid + 1 }
  modify fun s => { s with host }
  return ending

/-- Say that a signal has ended a process, unless it is one of which nobody speaks. -/
def report (ending : ExitState) : Sh Unit := do
  match ending with
  | .killed n =>
    if n = Host.Signal.interrupt || n = Host.Signal.pipe then return ()
    else put 2 (Host.Signal.words n ++ ['\n'])
  | .exited _ => return ()

/-- Take the ending of a process as the status. -/
def settle (ending : ExitState) : Sh Unit := do
  report ending
  setStatus ending.code

/-- What something writes that is run in a part, with its ending. -/
def collect (run : Runner) (body : Sh Unit) : Sh (ExitState × Str) := do
  let (n, file, host) := (← get).host.openCollector
  modify fun s => { s with host }
  let ending ← split run do
    onHost (·.withDescriptor 1 (some file))
    body
  return (ending, (← get).host.collected n)

/-- Start something that runs beside the others, with nothing to read. -/
def background (run : Runner) (body : Sh Unit) : Sh Unit := do
  let s ← get
  let pid := s.host.nextPid
  let task := apart run (do
    onHost fun h =>
      let (file, h) := h.openNew ⟨.special .null, 0, false, true, false⟩
      h.withDescriptor 0 (some file)
    body) { s with guarded := false } pid
  set { s with
    host := { s.host with nextPid := pid + 1 }
    jobs := s.jobs ++ [Job.mk pid task s.host.clock none]
    lastJob := some pid
    status := 0 }

/-! ## Signals -/

/-- Deal with the signals that have come, and with the jobs that time has gone by. -/
def heed (run : Runner) : Sh Unit := do
  let s ← get
  if !s.jobs.isEmpty then
    if s.jobs.any fun j => j.ended.isNone && j.started < s.host.clock then
      runJobs fun j => j.started < s.host.clock
  if s.host.signals.isEmpty then return ()
  let s ← get
  let (signals, host) := s.host.received s.host.process.pid
  set { s with host }
  for n in signals do
    match if n = Host.Signal.kill then none else trap? s n with
    | some [] => pure ()
    | some text => runTrap run text
    | none =>
      if Host.Signal.isHarmless n || (n ≠ Host.Signal.kill && host.process.ignored.contains n) then
        pure ()
      else throw (.killed n)

end Sh

end StaleBuild.Shell
