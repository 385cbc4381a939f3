import StaleBuild.Host.DateText
import StaleBuild.Host.Moment
import StaleBuild.Host.Options

/-!
Telling the time: a moment that the clock, a file or the words of the user give, written in a format.
-/

namespace StaleBuild.Utility

open Host (Str str Call Program Given)
open Host.Quote (beforeColon curly)

namespace Date

/-- The format of a date that is cut off behind a part. -/
def iso : Nat → String
  | 0 => "%Y-%m-%dT%H%:z"
  | 1 => "%Y-%m-%dT%H:%M%:z"
  | 2 => "%Y-%m-%d"
  | 3 => "%Y-%m-%dT%H:%M:%S%:z"
  | _ => "%Y-%m-%dT%H:%M:%S,%N%:z"

/-- The same with a space before the time of day. -/
def spaced : Nat → String
  | 0 => "%Y-%m-%d"
  | 1 => "%Y-%m-%d %H:%M:%S%:z"
  | _ => "%Y-%m-%d %H:%M:%S.%N%:z"

/-- The formats that options and an operand name. -/
def formats (c : Call) (g : Given) : Act (List Str) := do
  let mut out : List Str := []
  for (letter, value) in g.options do
    match letter, value with
    | 'R', _ => out := out ++ [str "%a, %d %b %Y %H:%M:%S %z"]
    | 'I', none => out := out ++ [str (iso 2)]
    | 'I', some v =>
      match ← c.choose "--iso-8601" [["hours"], ["minutes"], ["date"], ["seconds"], ["ns"]] v with
      | some i => out := out ++ [str (iso i)]
      | none =>
        c.hint
        Act.exit 1
    | '\x03', some v =>
      match ← c.choose "--rfc-3339" [["date"], ["seconds"], ["ns"]] v with
      | some i => out := out ++ [str (spaced i)]
      | none =>
        c.hint
        Act.exit 1
    | _, _ => pure ()
  return out

end Date

open Date in
/-- Write a time. -/
def date : Program := fun _ c => do
  let g ← c.read 1 "d:f:I::r:Rs:u"
    [⟨"date", .value, 'd'⟩, ⟨"debug", .nothing, '\x04'⟩, ⟨"file", .value, 'f'⟩,
      ⟨"iso-8601", .maybe, 'I'⟩, ⟨"reference", .value, 'r'⟩, ⟨"resolution", .nothing, '\x05'⟩,
      ⟨"rfc-3339", .value, '\x03'⟩, ⟨"rfc-email", .nothing, 'R'⟩, ⟨"rfc-822", .nothing, 'R'⟩,
      ⟨"set", .value, 's'⟩, ⟨"uct", .nothing, 'u'⟩, ⟨"utc", .nothing, 'u'⟩,
      ⟨"universal", .nothing, 'u'⟩] true
  let chosen ← formats c g
  if 1 < chosen.length then c.die 1 (str "multiple output formats specified")
  let sources := ['d', 'f', 'r', '\x05'].filter g.has
  if 1 < sources.length then
    c.misused 1 (str "the options to specify dates for printing are mutually exclusive")
  if sources ≠ [] && g.has 's' then
    c.misused 1 (str "the options to print and set the time may not be used together")
  match g.operands[1]? with
  | some extra => c.misused 1 (str "extra operand " ++ curly extra)
  | none => pure ()
  let now ← Act.now
  let (format, setting) ← match g.operands with
    | ('+' :: f) :: _ =>
      if chosen ≠ [] then c.die 1 (str "multiple output formats specified")
      pure (f, none)
    | o :: _ => do
      if sources ≠ [] || g.has 's' then
        c.misused 1 (str "the argument " ++ curly o ++ str
          (" lacks a leading '+';\nwhen using an option to specify date(s), any non-option\n" ++
            "argument must be a format string beginning with '+'"))
      match Host.Calendar.digits? now o with
      | some t => pure (chosen.headD (str "%a %b %e %H:%M:%S %Z %Y"), some t)
      | none => c.die 1 (str "invalid date " ++ curly o)
    | [] => pure (chosen.headD (str "%a %b %e %H:%M:%S %Z %Y"), none)
  let h ← get
  let zone := if g.has 'u' then Host.DateText.utc else Host.DateText.Zone.of h.process.environment
  let tell (t : Time) : Act Unit := Act.say (Host.DateText.written zone format t ++ ['\n'])
  let words (s : Str) : Act Time := do
    match Host.Moment.read? now s with
    | some t => return t
    | none => c.die 1 (str "invalid date " ++ curly s)
  match g.value? 'f' with
  | some file =>
    match ← Call.readOperand file with
    | .error cause => c.die 1 (beforeColon file ++ str ": " ++ Host.reason cause)
    | .ok text =>
      let mut status := 0
      for l in Host.linesOf text do
        match Host.Moment.read? now l with
        | some t => tell t
        | none =>
          c.warn (str "invalid date " ++ curly l)
          status := 1
      return status
  | none =>
    let (t, sets) ← match g.value? 'd', g.value? 'r', g.value? 's', setting with
      | some s, _, _, _ => do pure (← words s, false)
      | _, some file, _, _ => do
        match (← Act.tree).stat (Host.pathOf file) with
        | .ok e => pure (e.modified, false)
        | .error cause => c.die 1 (beforeColon file ++ str ": " ++ Host.reason cause)
      | _, _, some s, _ => do pure (← words s, true)
      | _, _, _, some t => pure (t, true)
      | _, _, _, _ => pure (now, false)
    -- nobody may set the clock
    if sets then c.warn (str "cannot set date: Operation not permitted")
    tell t
    return if sets then 1 else 0

end StaleBuild.Utility
