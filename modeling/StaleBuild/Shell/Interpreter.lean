import StaleBuild.Regex.Reader
import StaleBuild.Shell.Builtin.Table

/-!
Running commands. `step` runs one command and hands its parts to an engine; `perform` ties the knot
with a number of levels that commands may stand inside of each other. Loops run in place, so that
their turns do not count.

This serves the running program only.
-/

namespace StaleBuild.Shell.Interpreter

open Host (Str str)

/-! ## Failures -/

/-- Run something whose failure is only asked for. -/
def guarded (body : Sh Unit) : Sh Unit := fun s =>
  let (r, t) := body { s with guarded := true }
  (r, { t with guarded := s.guarded })

/-- Run something behind whose failure the shell may have to end. -/
def checked (e : Engine) (body : Sh Unit) : Sh Unit := do
  body
  let s ← get
  if s.status ≠ 0 && !s.guarded then
    match if s.dialect = .extended && s.calls.isEmpty then Sh.trap? s Builtin.failure else none with
    | some text => Sh.runTrap e.run text
    | none => pure ()
    if s.options.exitOnFailure then throw .exit

/-! ## Traces -/

/-- Write a line to the file that was the error output before redirections. -/
def trace (file : Option Nat) (text : Str) : Sh Unit := do
  let s ← get
  match file with
  | some file =>
    match s.host.writeTo file ((s.text? (str "PS4")).getD (str "+ ") ++ text ++ ['\n']) with
    | .ok host => set { s with host }
    | .error _ => pure ()
  | none => pure ()

/-! ## Assignments -/

/-- The key of an item of a variable. -/
def keyOf (h : Hooks) (name : Str) (index : Word) : Sh Str := do
  let text ← Expansion.single h index
  if ← Arithmetic.isTable name then return text
  else
    let n ← Arithmetic.workOut text
    if 0 ≤ n then return Host.decimal n
    else
      let last := match ((← get).binding name).bind Variable.value with
        | some (.items l) => (l.getLast?.map fun e => (e.1 : Int) + 1).getD 0
        | _ => 0
      return Host.decimal (last + n)

/-- Give a variable items in place of those it has, or behind them. -/
def assignItems (h : Hooks) (name : Str) (adds : Bool) (items : List (Option Word × Word)) : Sh Unit := do
  let old := ((← get).binding name).bind Variable.value
  match old with
  | some (.table l) =>
    let mut table := if adds then l else []
    for (index, w) in items do
      match index with
      | some i => table := Value.setEntry (← Expansion.single h i) (← Expansion.single h w) table
      | none => pure ()
    Sh.setValue name (.table table)
  | old =>
    let kept : List (Nat × Str) := match adds, old with
      | true, some (.items l) => l
      | true, some (.text t) => [(0, t)]
      | _, _ => []
    let mut list := kept
    let mut next : Nat := ((kept.getLast?).map fun e => e.1 + 1).getD 0
    let v := ((← get).binding name).getD .new
    for (index, w) in items do
      match index with
      | some i => do
        let n := (← Arithmetic.workOut (← Expansion.single h i)).toNat
        list := Value.setItem n (Sh.cased v (← Expansion.single h w)) list
        next := n + 1
      | none =>
        for t in ← Expansion.fields h [w] do
          list := Value.setItem next (Sh.cased v t) list
          next := next + 1
    Sh.setValue name (.items list)

/-- Make an assignment; the text that a trace shows comes back. -/
def assign (h : Hooks) : Assign → Sh Str
  | .mk name index adds (.word w) => do
    let text ← Expansion.value h w
    let key ← match index with
      | some i => pure (some (← keyOf h name i))
      | none => pure none
    let v := ((← get).binding name).getD .new
    let old : Str ← if adds then pure ((← Arithmetic.lookup name key).getD []) else pure []
    let new ← if v.calculates then
        let n ← Arithmetic.workOut text
        let m ← if adds then Arithmetic.workOut old else pure 0
        pure (Host.decimal (Arithmetic.wrap (m + n)))
      else pure (old ++ text)
    Arithmetic.store name key (Sh.cased v new)
    let shown := if ← Sh.isExtended then Requote.traced text else text
    return name ++ (match key with
      | some k => '[' :: k ++ [']']
      | none => []) ++ (if adds then ['+', '='] else ['=']) ++ (if text = [] then [] else shown)
  | .mk name _ adds (.items items) => do
    assignItems h name adds items
    return name ++ (if adds then ['+', '='] else ['=']) ++ str "()"

/-- The name that an assignment is for. -/
def target : Assign → Str
  | .mk name _ _ _ => name

/-- Make assignments in order and trace them in the extended dialect. -/
def assignAll (h : Hooks) (file : Option Nat) : List Assign → Sh (List Str)
  | [] => return []
  | a :: rest => do
    let shown ← assign h a
    let s ← get
    if s.options.traces && s.dialect = .extended then trace file shown
    return shown :: (← assignAll h file rest)

/-- Run something with assignments that last as long as it runs and that programs get to see. -/
def assigning (h : Hooks) (file : Option Nat) (assigns : List Assign) (body : List Str → Sh Unit) :
    Sh Unit := fun s =>
  let before := assigns.map fun a => (target a, s.binding (target a))
  let (r, t) := (do
    let shown ← try assignAll h file assigns
      catch
      | .failed => if ← Sh.isExtended then pure [] else throw .failed
      | flow => throw flow
    for a in assigns do Sh.mark (target a) fun v => { v with exported := true }
    body shown : Sh Unit) s
  (r, before.reverse.foldl (fun t (name, v) => t.withVariable name v) t)

/-! ## Words of a command -/

/-- The commands whose operands assign. -/
def assigners : List String := ["alias", "declare", "export", "local", "readonly", "typeset"]

/-- Whether the operands of a command that starts with these fields assign. -/
def operandsAssign (d : Dialect) : List Str → Bool
  | [] => false
  | name :: rest =>
    if name = str "command" then (rest.head?.map fun n => Lookup.isIn assigners n).getD false
    else Lookup.isIn assigners name && Lookup.isBuiltin d name

/-- The text of an operand that assigns; its value stays whole. -/
def operand (h : Hooks) (w : Word) : Sh (List Str) := do
  match Grammar.assign? (← get).dialect w with
  | some (.mk name index adds (.word value)) => do
    let key ← match index with
      | some i => pure ('[' :: (← Expansion.single h i) ++ [']'])
      | none => pure []
    return [name ++ key ++ (if adds then ['+', '='] else ['=']) ++ (← Expansion.value h value)]
  | _ => Expansion.fields h [w]

/-- The fields of the words of a command. -/
def commandFields (h : Hooks) : List Word → List Str → Sh (List Str)
  | [], found => return found
  | w :: rest, found => do
    let found := found ++ (← Expansion.fields h [w])
    if found = [] || found = [str "command"] then commandFields h rest found
    else if operandsAssign (← get).dialect found then
      return found ++ (← rest.mapM (operand h)).flatten
    else return found ++ (← Expansion.fields h rest)

/-! ## Running a command by its words -/

/-- The commands of the extended dialect that run others in the same shell. -/
def runningOthers : List String := [".", "builtin", "command", "eval", "source"]

/-- Whether what is impossible for a command of the shell ends more than the command: it is a special
one, or it ran others, which have been read. -/
def isFatal (s : State) (name : Str) : Bool :=
  if s.dialect = .basic then Lookup.isSpecial .basic name
  else Lookup.isIn runningOthers name && s.status ≠ 2

/-- Run a command of the shell. -/
def runBuiltin (e : Engine) (b : Builtin) (name : Str) (args : List Str) : Sh Unit := do
  let before := (← get).running
  modify fun s => { s with running := some name }
  try
    let status ← b e name args
    modify fun s => { s with running := before, status }
  catch flow => do
    modify fun s => { s with running := before }
    match flow with
    | .failed => if isFatal (← get) name then throw .failed
    | flow => throw flow

/-- Run a command that is no function. -/
def runPlain (e : Engine) : List Str → Sh Unit
  | [] => return ()
  | name :: args => do
    match Builtin.named? (← get).dialect name with
    | some b => runBuiltin e b name args
    | none => Lookup.run e (name :: args)

/-- Run a function. -/
def runFunction (e : Engine) (name : Str) (body : Cmd) (args : List Str) : Sh Unit := fun s =>
  let (r, t) := e.run body { s with
    args, calls := name :: s.calls, loops := 0, hidden := [] :: s.hidden }
  let t := (t.hidden.headD []).foldl (fun t (name, v) => t.withVariable name v) t
  let t := { t with args := s.args, calls := s.calls, loops := s.loops, hidden := s.hidden }
  match r with
  | .error .returns => (.ok (), t)
  | r => (r, t)

/-- Run what the fields of a command ask for. -/
def invoke (e : Engine) (fields : List Str) : Sh Unit := do
  let s ← get
  match fields with
  | [] => return ()
  | name :: args =>
    if Lookup.isSpecial s.dialect name then runPlain e fields
    else match s.functions.find? fun f => f.1 = name with
      | some (_, body) => runFunction e name body args
      | none => runPlain e fields

/-! ## Simple commands -/

/-- The trace of a command. -/
def traceFields (file : Option Nat) (assigns fields : List Str) : Sh Unit := do
  let s ← get
  if s.options.traces then
    match s.dialect with
    | .basic => trace file (Host.joinWith [' '] (assigns ++ fields))
    | .extended => if !fields.isEmpty then trace file (Host.joinWith [' '] (fields.map Requote.traced))

/-- Fail because of a redirection that is impossible. -/
def failRedirection (special : Bool) : Sh Unit := do
  Sh.setStatus (← Sh.badStatus)
  if special then throw .failed

/-- A simple command. -/
def simple (e : Engine) (line : Nat) (assigns : List Assign) (words : List Word)
    (redirects : List Redirect) : Sh Unit := do
  modify fun s => { s with line, inner := none }
  let h := e.hooks
  let fields ← commandFields h words []
  let s ← get
  let file := if s.options.traces then s.host.descriptor? 2 else none
  let special := Lookup.isSpecial s.dialect (fields.headD [])
  match fields with
  | [] =>
    Redirection.restoring do
      if ← Redirection.all e redirects then
        let shown ← assignAll h file assigns
        if s.dialect = .basic then traceFields file shown []
        Sh.setStatus ((← get).inner.getD 0)
      else failRedirection false
  | [['e', 'x', 'e', 'c']] =>
    if s.dialect = .extended then traceFields file [] fields
    if ← Redirection.all e redirects then
      let shown ← assignAll h file assigns
      if s.dialect = .basic then traceFields file shown fields
      Sh.setStatus 0
    else failRedirection (s.dialect = .basic)
  | fields =>
    if s.dialect = .extended && assigns.isEmpty then traceFields file [] fields
    Redirection.restoring do
      if ← Redirection.all e redirects then
        let body (shown : List Str) : Sh Unit := do
          if s.dialect = .basic || !assigns.isEmpty then traceFields file shown fields
          invoke e fields
        if special then body (← assignAll h file assigns)
        else if assigns.isEmpty then body []
        else assigning h file assigns body
      else failRedirection special

/-! ## Pipelines -/

/-- Run the commands of a pipeline, each one in a part of its own; an open file for the input of the
first one is given. -/
def pipeline (e : Engine) (input : Option Nat) : List Cmd → Sh (List ExitState)
  | [] => return []
  | c :: rest => do
    let feed : Sh Unit := match input with
      | some file => Sh.onHost (·.withDescriptor 0 (some file))
      | none => return ()
    if rest.isEmpty then
      return [← Sh.split e.run do
        feed
        e.run c]
    else
      let (n, file, host) := (← get).host.openCollector
      modify fun s => { s with host }
      let ending ← Sh.split e.run do
        feed
        Sh.onHost (·.withDescriptor 1 (some file))
        e.run c
      let (next, host) := (← get).host.openNew ⟨.text ((← get).host.collected n), 0, false, true, false⟩
      modify fun s => { s with host }
      return ending :: (← pipeline e (some next) rest)

/-- Look for the programs of a pipeline whose names are plain, as the basic dialect does in front of
it. -/
def findAhead : List Cmd → Sh Unit
  | [] => return ()
  | .simple _ _ (w :: _) _ :: rest => do
    match Word.bare? w with
    | some name => if Host.isName name then Lookup.find name
    | none => pure ()
    findAhead rest
  | _ :: rest => findAhead rest

/-- Run a pipeline and take its status. -/
def piped (e : Engine) (parts : List Cmd) : Sh Unit := do
  if (← get).dialect = .basic then findAhead parts
  let endings ← pipeline e none parts
  let states := endings.map ExitState.code
  modify fun s => { s with states }
  match endings.getLast? with
  | some last => Sh.settle last
  | none => return ()
  if (← get).options.failsWithPipe then
    Sh.setStatus ((states.reverse.find? (· ≠ 0)).getD 0)

/-! ## Loops -/

/-- Run a turn of a loop; whether the loop goes on. -/
def turn (body : Sh Unit) : Sh Bool := fun s =>
  let (r, t) := body { s with loops := s.loops + 1 }
  let t := { t with loops := s.loops }
  match r with
  | .ok () => (.ok true, t)
  | .error (.breaks n) => if n ≤ 1 then (.ok false, t) else (.error (.breaks (n - 1)), t)
  | .error (.continues n) => if n ≤ 1 then (.ok true, t) else (.error (.continues (n - 1)), t)
  | .error flow => (.error flow, t)

/-- The most turns of a loop. -/
def patience : Nat := 10000000

/-- Run a conditional loop; `last` is the status of the turn before. -/
def conditional (e : Engine) (wanted : Bool) (test body : Cmd) : Nat → Nat → Sh Unit
  | 0, _ => throw (.killed 24)
  | turns + 1, last => fun s =>
    let round : Sh Bool := do
      guarded (e.run test)
      if ((← get).status = 0) = wanted then
        e.run body
        return true
      else return false
    let (r, t) := round { s with loops := s.loops + 1 }
    let t := { t with loops := s.loops }
    match r with
    | .ok true => conditional e wanted test body turns t.status t
    | .ok false => (.ok (), { t with status := last })
    | .error (.breaks n) => (if n ≤ 1 then .ok () else .error (.breaks (n - 1)), t)
    | .error (.continues n) =>
      if n ≤ 1 then conditional e wanted test body turns t.status t
      else (.error (.continues (n - 1)), t)
    | .error flow => (.error flow, t)

/-- Run a body once for each item. -/
def each (body : Str → Sh Unit) : List Str → Sh Unit
  | [] => return ()
  | item :: rest => do if ← turn (body item) then each body rest

/-- Run a loop that counts; `turned` tells whether there has been a turn. A loop without turns
succeeds. -/
def counting (test : Sh Bool) (body step : Sh Unit) (turned : Bool) : Nat → Sh Unit
  | 0 => throw (.killed 24)
  | turns + 1 => do
    if ← test then
      if ← turn body then
        step
        counting test body step true turns
    else if !turned then Sh.setStatus 0

/-! ## Choices -/

/-- Let the status be that of the last command inside of the words in front, in the dialect that shows
it there. -/
def heedInner : Sh Unit := modify fun s =>
  if s.dialect = .extended then { s with status := s.inner.getD s.status } else s

/-- Whether a text matches one of several patterns. -/
def matchesOne (h : Hooks) (subject : Str) : List Word → Sh Bool
  | [] => return false
  | w :: rest => do
    let p ← Expansion.pattern h w
    heedInner
    if p.accepts (Expansion.decoded (← get).dialect subject) then return true
    else matchesOne h subject rest

/-- Run the bodies of the arms that are due; `due` tells that the arm in front goes on into this one,
and `last` is the status of the last arm that was due. An arm without commands succeeds. -/
def choose (e : Engine) (subject : Str) (last : Nat) : Bool → List (List Word × Cmd × ArmEnd) → Sh Unit
  | _, [] => Sh.setStatus last
  | due, (patterns, body, armEnd) :: rest => do
    if due || (← matchesOne e.hooks subject patterns) then
      let last ← match body with
        | .nothing => pure 0
        | body => do
          e.run body
          pure (← get).status
      match armEnd with
      | .leave => Sh.setStatus last
      | .fall => choose e subject last true rest
      | .retry => choose e subject last false rest
    else choose e subject last false rest

/-! ## Conditions -/

/-- A word as a regular expression: what was quoted is taken as it is. -/
def expression (h : Hooks) (w : Word) : Sh Str := do
  let gs := Piece.glyphs (← Expansion.pieces h .whole w)
  return gs.flatMap fun g =>
    if g.isLiteral && !g.char.isAlphanum && g.char.toNat < 128 && g.char ≠ '_' then ['\\', g.char]
    else [g.char]

/-- Evaluate a condition with a condition on one or two texts. -/
def compare (h : Hooks) (op : Str) (a b : Word) : Sh Bool := do
  let left ← Expansion.single h a
  let s ← get
  match Host.word op with
  | "=~" => do
    let source ← expression h b
    match Regex.Reader.read Regex.Reader.extended source with
    | .error _ => do
      Sh.setStatus 2
      throw .failed
    | .ok r =>
      let k : Regex.Setting := ⟨s.options.others.contains (str "nocasematch"), false⟩
      match Regex.search k r left with
      | none => do
        Sh.setValue (str "BASH_REMATCH") (.items [])
        return false
      | some m => do
        let count := ((m.groups.map Prod.fst).foldl max 0) + 1
        let texts := (List.range count).map fun n => (n, (m.group n).getD [])
        Sh.setValue (str "BASH_REMATCH") (.items texts)
        return true
  | "-eq" => numbers left (· = ·)
  | "-ne" => numbers left (· ≠ ·)
  | "-lt" => numbers left (· < ·)
  | "-le" => numbers left (· ≤ ·)
  | "-gt" => numbers left (· > ·)
  | "-ge" => numbers left (· ≥ ·)
  | "<" => return decide (left < (← Expansion.single h b))
  | ">" => return decide ((← Expansion.single h b) < left)
  | op' =>
    if op' = "=" || op' = "==" || op' = "!=" then
      let p ← Expansion.pattern h b
      let subject := Expansion.decoded s.dialect left
      return p.accepts subject = (op' ≠ "!=")
    else
      let right ← Expansion.single h b
      match Utility.Condition.binary .extended s.host.files op left right with
      | .ok yes => return yes
      | .error words => Sh.refuse 2 words
where
  numbers (left : Str) (p : Int → Int → Bool) : Sh Bool := do
    let m ← Arithmetic.workOut left
    return p m (← Arithmetic.workOut (← Expansion.single h b))

/-- Evaluate a condition. -/
def holds (h : Hooks) : Test → Sh Bool
  | .word w => return (← Expansion.single h w) ≠ []
  | .unary op w => do
    let text ← Expansion.single h w
    let s ← get
    let subject : Utility.Condition.Subject :=
      ⟨s.host.files, fun n => (Expansion.valueOf? s n).isSome, fun o =>
        Builtin.isOn s.options (Host.word o)⟩
    match Utility.Condition.unary .extended subject op text with
    | .ok yes => return yes
    | .error words => Sh.refuse 2 words
  | .binary op a b => compare h op a b
  | .negated t => return !(← holds h t)
  | .both a b => do if ← holds h a then holds h b else return false
  | .either a b => do if ← holds h a then return true else holds h b

/-- Do something under a name that messages show. -/
def underName (name : String) (body : Sh Unit) : Sh Unit := fun s =>
  let (r, t) := body { s with running := some (str name) }
  (r, { t with running := s.running })

/-- Work out an expression, which is zero if there is nothing to work out. -/
def workOut (e : Engine) (w : Word) : Sh Int := do
  Arithmetic.workOut (← Expansion.single e.hooks w)

/-! ## Commands -/

/-- Run a command, given an engine for its parts. -/
def step (e : Engine) : Cmd → Sh Unit
  | .nothing => return ()
  | .simple line assigns words redirects => do
    checked e (simple e line assigns words redirects)
    Sh.heed e.run
  | .seq a b => do
    e.run a
    e.run b
  | .both a b => do
    guarded (e.run a)
    if (← get).status = 0 then e.run b
  | .either a b => do
    guarded (e.run a)
    if (← get).status ≠ 0 then e.run b
  | .negated c => do
    guarded (e.run c)
    modify fun s => { s with status := if s.status = 0 then 1 else 0 }
  | .pipe parts => do
    checked e (piped e parts)
    Sh.heed e.run
  | .background c => Sh.background e.run (e.run c)
  | .cond test yes no => do
    guarded (e.run test)
    if (← get).status = 0 then e.run yes
    else match no with
      | some c => e.run c
      | none => Sh.setStatus 0
  | .loop wanted test body => conditional e wanted test body patience 0
  | .each line name items body => do
    modify fun s => { s with line, inner := none }
    let fields ← match items with
      | none => pure (← get).args
      | some ws => Expansion.fields e.hooks ws
    if fields = [] then Sh.setStatus 0 else heedInner
    each (fun item => do
      modify fun s => { s with line }
      Sh.assign name item
      e.run body) fields
  | .count line start test change body => underName "((" do
    modify fun s => { s with line }
    let text ← Expansion.single e.hooks start
    if !text.all Host.isSpace then let _ ← Arithmetic.workOut text
    let after (b : Sh Unit) : Sh Unit := fun s =>
      let (r, t) := b { s with running := none }
      (r, { t with running := s.running })
    counting (do
        let text ← Expansion.single e.hooks test
        if text.all Host.isSpace then return true else return (← Arithmetic.workOut text) ≠ 0)
      (after (e.run body))
      (do
        let text ← Expansion.single e.hooks change
        if !text.all Host.isSpace then let _ ← Arithmetic.workOut text) false patience
  | .choose line subject arms => do
    modify fun s => { s with line, inner := none }
    let text ← Expansion.single e.hooks subject
    heedInner
    choose e text 0 false arms
  | .subshell _ body => do
    checked e do
      Sh.settle (← Sh.split e.run (e.run body))
    Sh.heed e.run
  | .redirected line body redirects => do
    modify fun s => { s with line := if line = 0 then s.line else line }
    Redirection.around e redirects (checked e (return ())) (e.run body)
  | .define _ name body => modify fun s => { s with
      functions := (name, body) :: s.functions.filter fun f => f.1 ≠ name, status := 0 }
  | .calculate line w => checked e <| do
    modify fun s => { s with line }
    try underName "((" do Sh.setStatus (if (← workOut e w) = 0 then 1 else 0)
    catch
    | .failed => Sh.setStatus 1
    | flow => throw flow
  | .test line t => checked e <| do
    modify fun s => { s with line }
    try underName "[[" do Sh.setStatus (if ← holds e.hooks t then 0 else 1)
    catch
    | .failed => pure ()
    | flow => throw flow

/-- What an engine is asked to run. -/
inductive Work where
  | command (c : Cmd)
  | words (argv : List Str)

/-- Run something, with at most so many commands inside of each other. -/
def perform (start : Str → List Str → Act (Except FileError ExitState)) : Nat → Work → Sh Unit
  | 0, _ => throw (.killed 11)
  | depth + 1, w =>
    let e : Engine := ⟨fun c => perform start depth (.command c), start,
      fun argv => perform start depth (.words argv)⟩
    match w with
    | .command c => step e c
    | .words argv => runPlain e argv

/-- How many commands may stand inside of each other. -/
def deepest : Nat := 4000

/-- The engine of a shell that starts programs in a given way. -/
def engine (start : Str → List Str → Act (Except FileError ExitState)) : Engine :=
  ⟨fun c => perform start deepest (.command c), start, fun argv => perform start deepest (.words argv)⟩

end StaleBuild.Shell.Interpreter
