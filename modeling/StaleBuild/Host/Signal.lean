import StaleBuild.Host.Text

/-!
Signals: their names, what is said of a process that one of them has ended, and which ones end none.
-/

namespace StaleBuild.Host.Signal

/-- The signals with their names, and the words for a process that one has ended. -/
def all : List (Nat × String × String) :=
  [(1, "HUP", "Hangup"), (2, "INT", "Interrupt"), (3, "QUIT", "Quit"),
    (4, "ILL", "Illegal instruction"), (5, "TRAP", "Trace/breakpoint trap"), (6, "ABRT", "Aborted"),
    (7, "BUS", "Bus error"), (8, "FPE", "Floating point exception"), (9, "KILL", "Killed"),
    (10, "USR1", "User defined signal 1"), (11, "SEGV", "Segmentation fault"),
    (12, "USR2", "User defined signal 2"), (13, "PIPE", "Broken pipe"), (14, "ALRM", "Alarm clock"),
    (15, "TERM", "Terminated"), (16, "STKFLT", "Stack fault"), (17, "CHLD", "Child exited"),
    (18, "CONT", "Continued"), (19, "STOP", "Stopped (signal)"), (20, "TSTP", "Stopped"),
    (21, "TTIN", "Stopped (tty input)"), (22, "TTOU", "Stopped (tty output)"),
    (23, "URG", "Urgent I/O condition"), (24, "XCPU", "CPU time limit exceeded"),
    (25, "XFSZ", "File size limit exceeded"), (26, "VTALRM", "Virtual timer expired"),
    (27, "PROF", "Profiling timer expired"), (28, "WINCH", "Window changed"),
    (29, "IO", "I/O possible"), (30, "PWR", "Power failure"), (31, "SYS", "Bad system call")]

/-- The signals that are named. -/
def interrupt : Nat := 2

def kill : Nat := 9

def pipe : Nat := 13

def terminate : Nat := 15

/-- The signals that do nothing to a process which does not ask for them. -/
def isHarmless (n : Nat) : Bool := [17, 18, 19, 20, 21, 22, 23, 28].contains n

/-- The name of a signal. -/
def name? (n : Nat) : Option Str := (all.find? fun s => s.1 = n).map fun s => str s.2.1

/-- The words for a process that a signal has ended. -/
def words (n : Nat) : Str :=
  match all.find? fun s => s.1 = n with
  | some (_, _, w) => str w
  | none => str "Unknown signal " ++ decimal n

/-- The signal of a name in capital letters. -/
def named? (s : Str) : Option Nat := (all.find? fun e => e.2.1.toList = s).map Prod.fst

/-- The greatest number of a signal. -/
def greatest : Nat := 64

end StaleBuild.Host.Signal
