import StaleBuild.Compiler.External

/-!
# The order of calls in a compilation

The external compiler calls operations in nested loops, each of which a failure leaves at once, and
starts its program between two phases. What happens is written down here by operations and a
launcher that do what the given ones do and keep a log in the memory (`watched`).

    places u = all calls of operations in order, with the loading of the sources and the start
               of the program at their places

    compile u.watched = compile u, with a log that follows the places up to the first failure
                                                                          (compile_conforms)

A log that follows the places (`Follows`) has an event for each place up to the first failure, which
is the outcome, and each call sees the class that stands at its place. As the program has one place,
behind the calls of the output phase, such a log has at most one start of the program, and has it
exactly if no call ahead of it failed (`Conforms`).
-/

namespace StaleBuild

variable {σ : Type}

/-! ## Watching -/

/-- What can be seen of a compilation from outside. -/
inductive Event where
  /-- The operation at a place of a phase was called on a class and left it so. -/
  | called (phase : Phase) (op : Nat) (given left : ClassNode) (failure? : Option OperationFailure)
  /-- The program was started, or could not be. -/
  | started (command : CommandLine) (result : Except FileError Finished)

/-- Whether an event is a start of the program. -/
def Event.isStart : Event → Bool
  | .called .. => false
  | .started .. => true

namespace World

/-- The world with a log in its memory. -/
def watched (w : World σ) (log : List Event) : World (σ × List Event) :=
  ⟨w.files, w.clock, w.published, (w.memory, log)⟩

/-- The world without its log. -/
def unwatched (w : World (σ × List Event)) : World σ :=
  ⟨w.files, w.clock, w.published, w.memory.1⟩

end World

/-- An operation that logs its calls. -/
def Operation.watched (phase : Phase) (place : Nat) (op : Operation σ) :
    Operation (σ × List Event) where
  name := op.name
  call w c :=
    let called := op.call w.unwatched c
    let event := .called phase place c called.node called.failure?
    ⟨called.node, called.world.watched (w.memory.2 ++ [event]), called.failure?⟩

@[simp] theorem Operation.watched_call (phase : Phase) (place : Nat) (op : Operation σ)
    (w : World σ) (log : List Event) (c : ClassNode) :
    (op.watched phase place).call (w.watched log) c =
      let called := op.call w c
      ⟨called.node,
        called.world.watched (log ++ [.called phase place c called.node called.failure?]),
        called.failure?⟩ := rfl

/-- Operations that log their calls, the first of them at the place `first`. -/
def watchedFrom (phase : Phase) (first : Nat) (ops : List (Operation σ)) :
    List (Operation (σ × List Event)) :=
  (ops.zipIdx first).map fun e => e.1.watched phase e.2

/-- A unit whose operations log their calls. -/
def CompilationUnit.watched (u : CompilationUnit σ) : CompilationUnit (σ × List Event) :=
  ⟨u.sources, u.classes, fun phase => watchedFrom phase 0 (u.operations phase)⟩

/-- A launcher that logs what it is asked for and what comes of it. -/
def watchedLauncher (launch : Launcher σ) : Launcher (σ × List Event) := fun command w =>
  let (result, left) := launch command w.unwatched
  (result, left.watched (w.memory.2 ++ [.started command result]))

theorem watchedLauncher_watched (launch : Launcher σ) (command : CommandLine) (w : World σ)
    (log : List Event) :
    watchedLauncher launch command (w.watched log) =
      ((launch command w).1,
        (launch command w).2.watched (log ++ [.started command (launch command w).1])) := rfl

/-! ## Places and events -/

/-- Where something happens in a compilation. -/
inductive Place where
  /-- The operation at a place of a phase is called on the class at a place. -/
  | call (phase : Phase) (op cls : Nat)
  /-- The sources are read into classes. -/
  | load
  /-- The program is started. -/
  | start
deriving DecidableEq

/-- The calls of one operation on some classes, in order. -/
def callsOfOperation (phase : Phase) (op first classes : Nat) : List Place :=
  (List.range' first classes).map (Place.call phase op)

/-- The calls of a phase, operation by operation. -/
def callsOfPhase (phase : Phase) (first ops classes : Nat) : List Place :=
  (List.range' first ops).flatMap fun op => callsOfOperation phase op 0 classes

namespace ExternalCompiler

variable (ext : ExternalCompiler)

/-- What comes of calls of operations: the text of the one that failed. -/
def outcomeOf : Option OperationFailure → CompileOutcome
  | none => .success
  | some failure => .diagnostics ⟨.compilationFailed, [failure.message]⟩

/-- What comes of starting the program. -/
def reported : Except FileError Finished → CompileOutcome
  | .error cause => .fault (launchFault ext.program cause)
  | .ok finished =>
    if finished.succeeded then .success
    else .diagnostics (Report.diagnostics finished.output finished.errors)

theorem generate_eq (launch : Launcher σ) (sources : List Path) (dest : Path) (w : World σ) :
    ext.generate launch sources dest w =
      (ext.reported (launch (ext.command sources dest) w).1,
        (launch (ext.command sources dest) w).2) := by
  unfold generate reported
  cases launch (ext.command sources dest) w with
  | mk result left =>
    cases result with
    | error cause => rfl
    | ok finished => dsimp only; split <;> rfl

/-- `Follows loaded classes places log left outcome`: the events happen at the places, in order, one
for each up to the first that fails. A call is given the class that stands at its place and leaves
another one there; loading adds the classes `loaded`. The outcome is success if every event is one,
and else that of the failure, behind which nothing happens. -/
inductive Follows (command : CommandLine) (loaded : List ClassNode) :
    List ClassNode → List Place → List Event → List ClassNode → CompileOutcome → Prop where
  | done {classes : List ClassNode} : Follows command loaded classes [] [] classes .success
  | load {classes : List ClassNode} {places : List Place} {log : List Event}
      {left : List ClassNode} {outcome : CompileOutcome} :
      Follows command loaded (classes ++ loaded) places log left outcome →
      Follows command loaded classes (.load :: places) log left outcome
  | called {classes : List ClassNode} {phase : Phase} {op cls : Nat} {given node : ClassNode}
      {places : List Place} {log : List Event} {left : List ClassNode} {outcome : CompileOutcome} :
      classes[cls]? = some given →
      Follows command loaded (classes.set cls node) places log left outcome →
      Follows command loaded classes (.call phase op cls :: places)
        (.called phase op given node none :: log) left outcome
  | failed {classes : List ClassNode} {phase : Phase} {op cls : Nat} {given node : ClassNode}
      {failure : OperationFailure} {places : List Place} :
      classes[cls]? = some given →
      Follows command loaded classes (.call phase op cls :: places)
        [.called phase op given node (some failure)] (classes.set cls node)
        (.diagnostics ⟨.compilationFailed, [failure.message]⟩)
  | succeeded {classes : List ClassNode} {result : Except FileError Finished}
      {places : List Place} {log : List Event} {left : List ClassNode} {outcome : CompileOutcome} :
      ext.reported result = .success →
      Follows command loaded classes places log left outcome →
      Follows command loaded classes (.start :: places) (.started command result :: log) left outcome
  | unsuccessful {classes : List ClassNode} {result : Except FileError Finished}
      {places : List Place} :
      ext.reported result ≠ .success →
      Follows command loaded classes (.start :: places) [.started command result] classes
        (ext.reported result)

variable {ext} {command : CommandLine} {loaded : List ClassNode}

namespace Follows

/-- Places that were all passed can be followed by more. -/
theorem append {classes mid left : List ClassNode} {places more : List Place}
    {log log' : List Event} {outcome : CompileOutcome}
    (h : Follows ext command loaded classes places log mid .success)
    (h' : Follows ext command loaded mid more log' left outcome) :
    Follows ext command loaded classes (places ++ more) (log ++ log') left outcome := by
  generalize hs : CompileOutcome.success = passed at h
  induction h with
  | done => exact h'
  | load _ ih => exact .load (ih h' hs)
  | called hgiven _ ih => exact .called hgiven (ih h' hs)
  | failed _ => cases hs
  | succeeded hresult _ ih => exact .succeeded hresult (ih h' hs)
  | unsuccessful hresult => exact absurd hs.symm hresult

/-- Behind a failure nothing happens. -/
theorem append_of_failure {classes left : List ClassNode} {places : List Place} (more : List Place)
    {log : List Event} {outcome : CompileOutcome}
    (h : Follows ext command loaded classes places log left outcome) (ho : outcome ≠ .success) :
    Follows ext command loaded classes (places ++ more) log left outcome := by
  induction h with
  | done => exact absurd rfl ho
  | load _ ih => exact .load (ih ho)
  | called hgiven _ ih => exact .called hgiven (ih ho)
  | failed hgiven => exact .failed hgiven
  | succeeded hresult _ ih => exact .succeeded hresult (ih ho)
  | unsuccessful hresult => exact .unsuccessful hresult

end Follows

/-! ## Sweeps -/

variable (ext command loaded)

theorem length_sweep (op : Operation σ) (w : World σ) (classes : List ClassNode) :
    (op.sweep w classes).classes.length = classes.length := by
  induction classes generalizing w with
  | nil => rfl
  | cons c rest ih =>
    simp only [Operation.sweep]
    cases (op.call w c).failure? with
    | some failure => rfl
    | none => simp [ih]

theorem length_sweepAll (w : World σ) (classes : List ClassNode) (ops : List (Operation σ)) :
    (sweepAll w classes ops).classes.length = classes.length := by
  induction ops generalizing w classes with
  | nil => rfl
  | cons op rest ih =>
    simp only [sweepAll]
    cases (op.sweep w classes).failure? with
    | some failure => exact length_sweep op w classes
    | none => rw [ih, length_sweep]

/-- A watched operation does to the classes what it does unwatched, and logs its calls on them. -/
theorem sweep_watched (phase : Phase) (place : Nat) (op : Operation σ) (ahead classes : List ClassNode)
    (w : World σ) (log : List Event) :
    ∃ more, (op.watched phase place).sweep (w.watched log) classes =
        ⟨(op.sweep w classes).classes, (op.sweep w classes).world.watched (log ++ more),
          (op.sweep w classes).failure?⟩ ∧
      Follows ext command loaded (ahead ++ classes)
        (callsOfOperation phase place ahead.length classes.length) more
        (ahead ++ (op.sweep w classes).classes) (outcomeOf (op.sweep w classes).failure?) := by
  induction classes generalizing ahead w log with
  | nil => exact ⟨[], by simp [Operation.sweep], .done⟩
  | cons c rest ih =>
    have hgiven : (ahead ++ c :: rest)[ahead.length]? = some c := by simp
    have hset (node : ClassNode) :
        (ahead ++ c :: rest).set ahead.length node = ahead ++ [node] ++ rest := by simp
    simp only [Operation.sweep, Operation.watched_call]
    cases hfailure : (op.call w c).failure? with
    | some failure =>
      refine ⟨_, rfl, ?_⟩
      have hfails : Follows ext command loaded (ahead ++ c :: rest)
          (.call phase place ahead.length :: callsOfOperation phase place (ahead.length + 1) rest.length)
          [.called phase place c (op.call w c).node (some failure)]
          ((ahead ++ c :: rest).set ahead.length (op.call w c).node)
          (.diagnostics ⟨.compilationFailed, [failure.message]⟩) := .failed hgiven
      rw [hset, List.append_assoc] at hfails
      exact hfails
    | none =>
      obtain ⟨more, hsweep, hfollows⟩ := ih (ahead ++ [(op.call w c).node]) (op.call w c).world
        (log ++ [.called phase place c (op.call w c).node none])
      refine ⟨.called phase place c (op.call w c).node none :: more, ?_, ?_⟩
      · rw [hsweep]
        simp
      · refine .called hgiven ?_
        rw [hset]
        simpa [callsOfOperation] using hfollows

/-- So do operations one after another. -/
theorem sweepAll_watched (phase : Phase) (first : Nat) (ops : List (Operation σ))
    (classes : List ClassNode) (w : World σ) (log : List Event) :
    ∃ more, sweepAll (w.watched log) classes (watchedFrom phase first ops) =
        ⟨(sweepAll w classes ops).classes, (sweepAll w classes ops).world.watched (log ++ more),
          (sweepAll w classes ops).failure?⟩ ∧
      Follows ext command loaded classes (callsOfPhase phase first ops.length classes.length) more
        (sweepAll w classes ops).classes (outcomeOf (sweepAll w classes ops).failure?) := by
  induction ops generalizing first classes w log with
  | nil => exact ⟨[], by simp [sweepAll, watchedFrom], .done⟩
  | cons op rest ih =>
    obtain ⟨more, hsweep, hfollows⟩ :=
      sweep_watched ext command loaded phase first op [] classes w log
    have hplaces : callsOfPhase phase first (op :: rest).length classes.length =
        callsOfOperation phase first 0 classes.length ++
          callsOfPhase phase (first + 1) rest.length classes.length := by
      simp [callsOfPhase, List.range'_succ]
    have hops : watchedFrom phase first (op :: rest) =
        op.watched phase first :: watchedFrom phase (first + 1) rest := rfl
    rw [hplaces, hops]
    simp only [sweepAll, hsweep]
    cases hfailure : (op.sweep w classes).failure? with
    | some failure =>
      rw [hfailure] at hfollows
      exact ⟨more, rfl, hfollows.append_of_failure _ (by simp [outcomeOf])⟩
    | none =>
      rw [hfailure] at hfollows
      obtain ⟨more', hsweeps, hfollows'⟩ :=
        ih (first + 1) (op.sweep w classes).classes (op.sweep w classes).world (log ++ more)
      rw [length_sweep] at hfollows'
      exact ⟨more ++ more', by rw [hsweeps, List.append_assoc], hfollows.append hfollows'⟩

/-! ## Phases -/

/-- The places of a phase whose operations are called on some classes. -/
def phasePlaces (operations : Phase → List (Operation σ)) (classes : Nat) (phase : Phase) :
    List Place :=
  (if phase = .parsing then [.load] else []) ++
    callsOfPhase phase 0 (operations phase).length classes ++
      if phase = .output then [.start] else []

/-- All places of a compilation that reads some classes: only the first phase is ahead of them. -/
def places (u : CompilationUnit σ) (loaded : Nat) : List Place :=
  phasePlaces u.operations u.classes.length .initialization ++
    Phase.all.tail.flatMap (phasePlaces u.operations (u.classes.length + loaded))

theorem length_runPhase (u : CompilationUnit σ) (phase : Phase) (w : World σ) :
    (u.runPhase phase w).2.1.classes.length = u.classes.length :=
  length_sweepAll w u.classes (u.operations phase)

/-- A phase of a watched unit does what it does unwatched, and logs the calls of the phase. -/
theorem runPhase_watched (u : CompilationUnit σ) (phase : Phase) (w : World σ) (log : List Event) :
    ∃ more, u.watched.runPhase phase (w.watched log) =
        ((u.runPhase phase w).1, (u.runPhase phase w).2.1.watched,
          (u.runPhase phase w).2.2.watched (log ++ more)) ∧
      Follows ext command loaded u.classes
        (callsOfPhase phase 0 (u.operations phase).length u.classes.length) more
        (u.runPhase phase w).2.1.classes (outcomeOf (u.runPhase phase w).1) := by
  obtain ⟨more, hsweep, hfollows⟩ :=
    sweepAll_watched ext command loaded phase 0 (u.operations phase) u.classes w log
  refine ⟨more, ?_, hfollows⟩
  have hops : u.watched.operations phase = watchedFrom phase 0 (u.operations phase) := rfl
  have hclasses : u.watched.classes = u.classes := rfl
  rw [CompilationUnit.runPhase, hops, hclasses, hsweep]
  rfl

/-- Phases of a watched unit do what they do unwatched, with a log that follows some places. -/
def Watches (launch : Launcher σ) (dest : Path) (phases : List Phase) (places : List Place)
    (u : CompilationUnit σ) (w : World σ) : Prop :=
  ∀ log, ∃ more,
    ext.runPhases (watchedLauncher launch) dest phases u.watched (w.watched log) =
      ((ext.runPhases launch dest phases u w).1, (ext.runPhases launch dest phases u w).2.1.watched,
        (ext.runPhases launch dest phases u w).2.2.watched (log ++ more)) ∧
    Follows ext (ext.command u.sources dest) loaded u.classes places more
      (ext.runPhases launch dest phases u w).2.1.classes (ext.runPhases launch dest phases u w).1

/-- What follows on the classes that a phase finds ready follows on those ahead of it, with the
loading at its place. -/
theorem Follows.of_ready {u ready : CompilationUnit σ} {phase : Phase} {tree : FileTree}
    (hready : ready = if phase = .parsing then u.loadClasses tree else u)
    (hloaded : phase = .parsing →
      loaded = u.sources.filterMap (CompilationUnit.loadedClass? tree))
    {places : List Place} {log : List Event} {left : List ClassNode} {outcome : CompileOutcome}
    (h : Follows ext command loaded ready.classes places log left outcome) :
    Follows ext command loaded u.classes
      ((if phase = .parsing then [.load] else []) ++ places) log left outcome := by
  by_cases hparsing : phase = .parsing
  · have hclasses : ready.classes = u.classes ++ loaded := by
      rw [hready, hloaded hparsing, if_pos hparsing]
      rfl
    rw [hclasses] at h
    simpa [hparsing] using .load h
  · simpa [hready, hparsing] using h

/-- One phase more in front, given what is left of the unit and of the world when it is over. The
output phase leaves the world to the program. -/
theorem Watches.cons {launch : Launcher σ} {dest : Path} {phase : Phase} {rest : List Phase}
    {places : List Place} {u : CompilationUnit σ} (ready : CompilationUnit σ) {w : World σ}
    (hready : ready = if phase = .parsing then u.loadClasses w.files else u)
    (hloaded : phase = .parsing →
      loaded = u.sources.filterMap (CompilationUnit.loadedClass? w.files))
    (hrest : ∀ w', (phase ≠ .output → w' = (ready.runPhase phase w).2.2) →
      Watches ext loaded launch dest rest places (ready.runPhase phase w).2.1 w') :
    Watches ext loaded launch dest (phase :: rest)
      (phasePlaces u.operations ready.classes.length phase ++ places) u w := by
  intro log
  obtain ⟨more, hphase, hfollows⟩ :=
    runPhase_watched ext (ext.command u.sources dest) loaded ready phase w log
  have hwatched : (if phase = .parsing then u.watched.loadClasses (w.watched log).files
      else u.watched) = ready.watched := by
    rw [hready]
    split <;> rfl
  have hsources : ready.sources = u.sources := by
    rw [hready]
    split <;> rfl
  have hoperations : ready.operations = u.operations := by
    rw [hready]
    split <;> rfl
  rw [hoperations] at hfollows
  have hplaces : phasePlaces u.operations ready.classes.length phase ++ places =
      (if phase = .parsing then [.load] else []) ++
        (callsOfPhase phase 0 (u.operations phase).length ready.classes.length ++
          ((if phase = .output then [.start] else []) ++ places)) := by
    simp [phasePlaces]
  rw [hplaces]
  simp only [runPhases, hwatched, ← hready, hphase]
  have hkept : (ready.runPhase phase w).2.1.sources = u.sources := hsources
  generalize ready.runPhase phase w = ran at hrest hfollows hkept ⊢
  obtain ⟨failure?, unit, left⟩ := ran
  cases failure? with
  | some failure =>
    exact ⟨more, rfl, .of_ready ext _ loaded hready hloaded
      (hfollows.append_of_failure _ (by simp [outcomeOf]))⟩
  | none =>
    by_cases houtput : phase = .output
    · have hunit : unit.watched.sources = u.sources := hkept
      simp only [if_pos houtput, generate_eq, hunit, show unit.sources = u.sources from hkept,
        watchedLauncher_watched]
      generalize launch (ext.command u.sources dest) left = launched
      obtain ⟨result, behind⟩ := launched
      by_cases hsuccess : ext.reported result = .success
      · obtain ⟨more', hrun, hfollows'⟩ := hrest behind (absurd houtput)
          (log ++ more ++ [.started (ext.command u.sources dest) result])
        rw [hkept] at hfollows'
        simp only [hsuccess, hrun]
        exact ⟨more ++ .started (ext.command u.sources dest) result :: more', by simp,
          .of_ready ext _ loaded hready hloaded
            (hfollows.append (.succeeded hsuccess hfollows'))⟩
      · have hunsuccessful : Follows ext (ext.command u.sources dest) loaded unit.classes
            (.start :: places) [.started (ext.command u.sources dest) result] unit.classes
            (ext.reported result) := .unsuccessful hsuccess
        have hends := Follows.of_ready ext _ loaded hready hloaded (hfollows.append hunsuccessful)
        refine ⟨more ++ [.started (ext.command u.sources dest) result], ?_⟩
        rw [← List.append_assoc]
        cases hreported : ext.reported result with
        | success => exact absurd hreported hsuccess
        | diagnostics d =>
          rw [hreported] at hends
          exact ⟨rfl, hends⟩
        | fault f =>
          rw [hreported] at hends
          exact ⟨rfl, hends⟩
    · obtain ⟨more', hrun, hfollows'⟩ := hrest left (fun _ => rfl) (log ++ more)
      rw [hkept] at hfollows'
      simp only [houtput, if_false, hrun]
      exact ⟨more ++ more', by rw [List.append_assoc],
        .of_ready ext _ loaded hready hloaded (hfollows.append hfollows')⟩

/-- Phases behind the loading. -/
theorem watches_of_loaded (launch : Launcher σ) (dest : Path) {phases : List Phase}
    (hphases : .parsing ∉ phases) (u : CompilationUnit σ) (w : World σ) :
    Watches ext loaded launch dest phases
      (phases.flatMap (phasePlaces u.operations u.classes.length)) u w := by
  induction phases generalizing u w with
  | nil => exact fun log => ⟨[], by simp [runPhases], .done⟩
  | cons phase rest ih =>
    have hphase : phase ≠ .parsing := fun h => hphases (h ▸ .head _)
    refine Watches.cons ext loaded u (by rw [if_neg hphase]) (absurd · hphase)
      fun w' _ => ?_
    have hrest := ih (fun h => hphases (.tail _ h)) (u.runPhase phase w).2.1 w'
    rw [length_runPhase] at hrest
    exact hrest

/-- All phases. The sources are read from the files that the first phase leaves. -/
theorem watches_all (launch : Launcher σ) (dest : Path) (u : CompilationUnit σ) (w : World σ)
    (hloaded : loaded = u.sources.filterMap
      (CompilationUnit.loadedClass? (u.runPhase .initialization w).2.2.files)) :
    Watches ext loaded launch dest Phase.all (places u loaded.length) u w := by
  refine Watches.cons ext loaded u rfl (by simp) fun w₁ hw₁ => ?_
  obtain rfl := hw₁ (by simp)
  have hlength := length_runPhase u .initialization w
  generalize hunit : (u.runPhase .initialization w).2.1 = initialized at hlength ⊢
  have hsources : initialized.sources = u.sources := by rw [← hunit]; rfl
  have hoperations : initialized.operations = u.operations := by rw [← hunit]; rfl
  -- the loading adds its classes to those that were there
  generalize hready : initialized.loadClasses (u.runPhase .initialization w).2.2.files = ready
  have hcount : ready.classes.length = u.classes.length + loaded.length := by
    rw [← hready, ← hlength, hloaded, ← hsources]
    exact List.length_append
  have hreadyOperations : ready.operations = u.operations := by rw [← hready]; exact hoperations
  rw [Phase.all, List.tail_cons, List.flatMap_cons, ← hcount, ← hoperations]
  refine Watches.cons ext loaded ready (by simp [hready])
    (fun _ => by rw [hloaded, hsources]) fun w₂ _ => ?_
  have hrest := watches_of_loaded ext loaded launch dest (by decide : .parsing ∉ Phase.all.tail.tail)
    (ready.runPhase .parsing (u.runPhase .initialization w).2.2).2.1 w₂
  have hkept : (ready.runPhase .parsing (u.runPhase .initialization w).2.2).2.1.operations =
      initialized.operations := hreadyOperations.trans hoperations.symm
  rw [hkept, length_runPhase] at hrest
  exact hrest

/-! ## What a log tells -/

/-- What an event comes to. -/
def outcomeOfEvent : Event → CompileOutcome
  | .called _ _ _ _ failure? => outcomeOf failure?
  | .started _ result => ext.reported result

namespace Follows

variable {ext command loaded} {classes left : List ClassNode} {places : List Place}
  {log : List Event} {outcome : CompileOutcome}

/-- The outcome is that of the first event that is no success. -/
theorem outcome_eq (h : Follows ext command loaded classes places log left outcome) :
    outcome = ((log.map ext.outcomeOfEvent).find? (· ≠ .success)).getD .success := by
  induction h with
  | done => rfl
  | load _ ih => exact ih
  | called _ _ ih => simpa [outcomeOfEvent, outcomeOf] using ih
  | failed _ => simp [outcomeOfEvent, outcomeOf]
  | succeeded hresult _ ih => simpa [outcomeOfEvent, hresult] using ih
  | unsuccessful hresult => simp [outcomeOfEvent, hresult]

/-- Some event comes to the outcome, if that is no success. -/
theorem exists_event (h : Follows ext command loaded classes places log left outcome)
    (ho : outcome ≠ .success) : ∃ e ∈ log, ext.outcomeOfEvent e = outcome := by
  have hfirst := h.outcome_eq
  cases hfind : (log.map ext.outcomeOfEvent).find? (· ≠ .success) with
  | some found =>
    rw [hfind, Option.getD_some] at hfirst
    obtain ⟨e, he, heq⟩ := List.mem_map.1 (List.mem_of_find?_eq_some hfind)
    exact ⟨e, he, heq.trans hfirst.symm⟩
  | none =>
    rw [hfind] at hfirst
    exact absurd hfirst ho

/-- The program's place has the start of the program, and something comes behind it only if it
succeeded. -/
theorem start_cons (h : Follows ext command loaded classes (.start :: places) log left outcome) :
    ∃ result tail, log = .started command result :: tail ∧ (tail ≠ [] →
      ext.reported result = .success ∧
        Follows ext command loaded classes places tail left outcome) := by
  cases h with
  | succeeded hresult h => exact ⟨_, _, rfl, fun _ => ⟨hresult, h⟩⟩
  | unsuccessful _ => exact ⟨_, [], rfl, absurd rfl⟩

/-- An event with another one behind it is a success. -/
theorem pairwise_success (h : Follows ext command loaded classes places log left outcome) :
    log.Pairwise fun e _ => ext.outcomeOfEvent e = .success := by
  induction h with
  | done => exact .nil
  | load _ ih => exact ih
  | called _ _ ih => exact .cons (fun _ _ => rfl) ih
  | failed _ => exact List.pairwise_singleton ..
  | succeeded hresult _ ih => exact .cons (fun _ _ => hresult) ih
  | unsuccessful _ => exact List.pairwise_singleton ..

/-- A log of a success holds nothing else. -/
theorem all_success (h : Follows ext command loaded classes places log left .success) :
    ∀ e ∈ log, ext.outcomeOfEvent e = .success := by
  have hfirst := h.outcome_eq
  intro e he
  cases hfind : (log.map ext.outcomeOfEvent).find? (· ≠ .success) with
  | some failure =>
    rw [hfind] at hfirst
    have hne := List.find?_some hfind
    simp [← show CompileOutcome.success = failure from hfirst] at hne
  | none => simpa using List.find?_eq_none.1 hfind _ (List.mem_map_of_mem he)

/-- A call is at one of the places. -/
theorem place_of_called (h : Follows ext command loaded classes places log left outcome)
    {phase : Phase} {op : Nat} {given node : ClassNode} {failure? : Option OperationFailure}
    (he : .called phase op given node failure? ∈ log) : ∃ cls, .call phase op cls ∈ places := by
  induction h with
  | done => cases he
  | load _ ih =>
    obtain ⟨cls, hcls⟩ := ih he
    exact ⟨cls, .tail _ hcls⟩
  | called _ _ ih =>
    rcases List.mem_cons.1 he with heq | he
    · cases heq
      exact ⟨_, .head _⟩
    · obtain ⟨cls, hcls⟩ := ih he
      exact ⟨cls, .tail _ hcls⟩
  | failed _ =>
    cases List.mem_singleton.1 he
    exact ⟨_, .head _⟩
  | succeeded _ _ ih =>
    rcases List.mem_cons.1 he with heq | he
    · cases heq
    · obtain ⟨cls, hcls⟩ := ih he
      exact ⟨cls, .tail _ hcls⟩
  | unsuccessful _ => cases List.mem_singleton.1 he

/-- A start is at its place, with the one command. -/
theorem place_of_started (h : Follows ext command loaded classes places log left outcome)
    {other : CommandLine} {result : Except FileError Finished} (he : .started other result ∈ log) :
    other = command ∧ .start ∈ places := by
  induction h with
  | done => cases he
  | load _ ih => exact ⟨(ih he).1, .tail _ (ih he).2⟩
  | called _ _ ih =>
    rcases List.mem_cons.1 he with heq | he
    · cases heq
    · exact ⟨(ih he).1, .tail _ (ih he).2⟩
  | failed _ => cases List.mem_singleton.1 he
  | succeeded _ _ ih =>
    rcases List.mem_cons.1 he with heq | he
    · cases heq
      exact ⟨rfl, .head _⟩
    · exact ⟨(ih he).1, .tail _ (ih he).2⟩
  | unsuccessful _ =>
    cases List.mem_singleton.1 he
    exact ⟨rfl, .head _⟩

/-- The program is started no more often than it stands among the places. -/
theorem count_started (h : Follows ext command loaded classes places log left outcome) :
    log.countP Event.isStart ≤ places.count .start := by
  induction h with
  | done => exact Nat.le_refl 0
  | load _ ih => simpa using ih
  | called _ _ ih => simpa [Event.isStart] using ih
  | failed _ => simp [Event.isStart]
  | succeeded _ _ ih =>
    rw [List.countP_cons_of_pos rfl, List.count_cons_self]
    exact Nat.succ_le_succ ih
  | unsuccessful _ => simp [Event.isStart]

/-- A log either ends with a failure at the first places or passes them all and goes on. -/
theorem of_append {ahead behind : List Place}
    (h : Follows ext command loaded classes (ahead ++ behind) log left outcome) :
    Follows ext command loaded classes ahead log left outcome ∧ outcome ≠ .success ∨
      ∃ passed more mid, log = passed ++ more ∧
        Follows ext command loaded classes ahead passed mid .success ∧
        Follows ext command loaded mid behind more left outcome := by
  induction ahead generalizing classes log with
  | nil => exact .inr ⟨[], log, classes, rfl, .done, h⟩
  | cons place rest ih =>
    rw [List.cons_append] at h
    cases h with
    | load h =>
      rcases ih h with ⟨h, ho⟩ | ⟨passed, more, mid, hlog, h, h'⟩
      · exact .inl ⟨.load h, ho⟩
      · exact .inr ⟨passed, more, mid, hlog, .load h, h'⟩
    | called hgiven h =>
      rcases ih h with ⟨h, ho⟩ | ⟨passed, more, mid, rfl, h, h'⟩
      · exact .inl ⟨.called hgiven h, ho⟩
      · exact .inr ⟨_ :: passed, more, mid, rfl, .called hgiven h, h'⟩
    | failed hgiven => exact .inl ⟨.failed hgiven, by simp⟩
    | succeeded hresult h =>
      rcases ih h with ⟨h, ho⟩ | ⟨passed, more, mid, rfl, h, h'⟩
      · exact .inl ⟨.succeeded hresult h, ho⟩
      · exact .inr ⟨_ :: passed, more, mid, rfl, .succeeded hresult h, h'⟩
    | unsuccessful hresult => exact .inl ⟨.unsuccessful hresult, hresult⟩

end Follows

theorem mem_callsOfPhase {phase : Phase} {first ops classes : Nat} {place : Place}
    (h : place ∈ callsOfPhase phase first ops classes) : ∃ op cls, place = .call phase op cls := by
  obtain ⟨op, -, hop⟩ := List.mem_flatMap.1 h
  obtain ⟨cls, -, rfl⟩ := List.mem_map.1 hop
  exact ⟨op, cls, rfl⟩

theorem mem_phasePlaces {operations : Phase → List (Operation σ)} {classes : Nat} {phase : Phase}
    {place : Place} (h : place ∈ phasePlaces operations classes phase) :
    place = .load ∨ place = .start ∧ phase = .output ∨ ∃ op cls, place = .call phase op cls := by
  rcases List.mem_append.1 h with h | h
  · rcases List.mem_append.1 h with h | h
    · left
      split at h
      · exact List.mem_singleton.1 h
      · cases h
    · exact .inr (.inr (mem_callsOfPhase h))
  · right; left
    split at h
    · exact ⟨List.mem_singleton.1 h, ‹_›⟩
    · cases h

/-- The program stands between the output phase and the last one. -/
theorem places_split (u : CompilationUnit σ) (loaded : Nat) :
    ∃ ahead behind, places u loaded = ahead ++ .start :: behind ∧
      (∀ place ∈ ahead, place = .load ∨ ∃ phase op cls, place = .call phase op cls ∧
        phase.index ≤ Phase.output.index) ∧
      ∀ place ∈ behind, ∃ op cls, place = .call .finalization op cls := by
  refine ⟨phasePlaces u.operations u.classes.length .initialization ++
      (Phase.all.tail.take 6).flatMap (phasePlaces u.operations (u.classes.length + loaded)) ++
      callsOfPhase .output 0 (u.operations .output).length (u.classes.length + loaded),
    callsOfPhase .finalization 0 (u.operations .finalization).length (u.classes.length + loaded),
    by simp [places, Phase.all, phasePlaces], fun place hplace => ?_, fun _ => mem_callsOfPhase⟩
  -- the phases ahead of the output phase, and no start among them
  have hahead {classes : Nat} {phase : Phase} (hphase : phase.index < Phase.output.index)
      (h : place ∈ phasePlaces u.operations classes phase) :
      place = .load ∨ ∃ phase op cls, place = .call phase op cls ∧
        phase.index ≤ Phase.output.index := by
    rcases mem_phasePlaces h with h | ⟨-, rfl⟩ | ⟨op, cls, h⟩
    · exact .inl h
    · exact absurd hphase (Nat.lt_irrefl _)
    · exact .inr ⟨phase, op, cls, h, Nat.le_of_lt hphase⟩
  rcases List.mem_append.1 hplace with hplace | hplace
  · rcases List.mem_append.1 hplace with hplace | hplace
    · exact hahead (by decide) hplace
    · obtain ⟨phase, hphase, hplace⟩ := List.mem_flatMap.1 hplace
      exact hahead ((by decide : ∀ phase ∈ Phase.all.tail.take 6,
        phase.index < Phase.output.index) phase hphase) hplace
  · obtain ⟨op, cls, h⟩ := mem_callsOfPhase hplace
    exact .inr ⟨.output, op, cls, h, Nat.le_refl _⟩

/-- What a log tells of a compilation whose program has one place among those that it follows. -/
structure Conforms (u : CompilationUnit σ) (log : List Event) (left : List ClassNode)
    (outcome : CompileOutcome) : Prop where
  /-- The events happen at the places, each on the class that is there. -/
  follows : Follows ext command loaded u.classes (places u loaded.length) log left outcome
  /-- The first event that is no success decides. -/
  decided : outcome = ((log.map ext.outcomeOfEvent).find? (· ≠ .success)).getD .success
  /-- An event that is no success is the last one. -/
  stops : log.Pairwise fun e _ => ext.outcomeOfEvent e = .success
  /-- The program is started at most once. -/
  once : log.countP Event.isStart ≤ 1
  /-- It is started with the command. -/
  commanded : ∀ other result, .started other result ∈ log → other = command
  /-- It is started exactly when no call ahead of it failed. -/
  started_iff : (∃ result, .started command result ∈ log) ↔
    ¬∃ phase op given node failure, .called phase op given node (some failure) ∈ log ∧
      phase.index ≤ Phase.output.index
  /-- The last phase calls an operation only behind a program that succeeded. -/
  finalized : ∀ op given node failure?, .called .finalization op given node failure? ∈ log →
    ∃ result, .started command result ∈ log ∧ ext.reported result = .success

/-- All of it comes from following the places. -/
theorem Follows.conforms {u : CompilationUnit σ} {log : List Event} {left : List ClassNode}
    {outcome : CompileOutcome}
    (h : Follows ext command loaded u.classes (places u loaded.length) log left outcome) :
    Conforms ext command loaded u log left outcome := by
  obtain ⟨ahead, behind, hplaces, hahead, hbehind⟩ := places_split u loaded.length
  have hnone : .start ∉ ahead := fun hstart => by
    rcases hahead _ hstart with h | ⟨_, _, _, h, _⟩ <;> cases h
  have hnone' : .start ∉ behind := fun hstart => by
    obtain ⟨_, _, h⟩ := hbehind _ hstart
    cases h
  have hcount : (places u loaded.length).count .start = 1 := by
    rw [hplaces, List.count_append, List.count_cons_self, List.count_eq_zero_of_not_mem hnone,
      List.count_eq_zero_of_not_mem hnone']
  -- no phase ahead of the program is the last one
  have hearly {phase : Phase} {op cls : Nat} (hcall : .call phase op cls ∈ ahead) :
      phase.index ≤ Phase.output.index := by
    rcases hahead _ hcall with h | ⟨_, _, _, h, hle⟩
    · cases h
    · cases h
      exact hle
  have hsplit := h
  rw [hplaces] at hsplit
  refine ⟨h, h.outcome_eq, h.pairwise_success, hcount ▸ h.count_started,
    fun other result he => (h.place_of_started he).1, ?_, ?_⟩
  · rcases hsplit.of_append with ⟨hends, hfailed⟩ | ⟨passed, more, mid, rfl, hpassed, hmore⟩
    · -- what failed is a call, as the program has no place ahead of itself
      obtain ⟨e, he, houtcome⟩ := hends.exists_event hfailed
      refine ⟨fun ⟨result, he⟩ => absurd (hends.place_of_started he).2 hnone,
        fun hclear => absurd ?_ hclear⟩
      cases e with
      | started other result => exact absurd (hends.place_of_started he).2 hnone
      | called phase op given node failure? =>
        obtain ⟨cls, hcls⟩ := hends.place_of_called he
        cases failure? with
        | none => exact absurd houtcome.symm hfailed
        | some failure => exact ⟨phase, op, given, node, failure, he, hearly hcls⟩
    · obtain ⟨result, tail, rfl, htail⟩ := hmore.start_cons
      refine ⟨fun _ ⟨phase, op, given, node, failure, he, hle⟩ => ?_,
        fun _ => ⟨result, List.mem_append_right _ (.head _)⟩⟩
      rcases List.mem_append.1 he with he | he
      · exact absurd (hpassed.all_success _ he) (by simp [outcomeOfEvent, outcomeOf])
      · rcases List.mem_cons.1 he with heq | he
        · cases heq
        · obtain ⟨cls, hcls⟩ := (htail (List.ne_nil_of_mem he)).2.place_of_called he
          obtain ⟨_, _, hlast⟩ := hbehind _ hcls
          cases hlast
          exact absurd hle (by decide)
  · intro op given node failure? he
    have hlate {cls : Nat} (hcls : .call .finalization op cls ∈ ahead) : False :=
      absurd (hearly hcls) (by decide)
    rcases hsplit.of_append with ⟨hends, -⟩ | ⟨passed, more, mid, rfl, hpassed, hmore⟩
    · obtain ⟨cls, hcls⟩ := hends.place_of_called he
      exact (hlate hcls).elim
    · obtain ⟨result, tail, rfl, htail⟩ := hmore.start_cons
      rcases List.mem_append.1 he with he | he
      · obtain ⟨cls, hcls⟩ := hpassed.place_of_called he
        exact (hlate hcls).elim
      · rcases List.mem_cons.1 he with heq | he
        · cases heq
        · exact ⟨result, List.mem_append_right _ (.head _), (htail (List.ne_nil_of_mem he)).1⟩

/-- A compilation of any unit comes to an end that its log can be read off, and the log changes
nothing else. -/
theorem compile_conforms (launch : Launcher σ) (u : CompilationUnit σ) (dest : Path)
    (w : World σ) :
    let loaded := u.sources.filterMap
      (CompilationUnit.loadedClass? (u.runPhase .initialization w).2.2.files)
    let command : CommandLine :=
      ⟨ext.program, ext.args.map Utf8.encode ++ [Utf8.encode "-d", dest.bytes] ++
        u.sources.map Path.bytes⟩
    ∃ outcome unit left log,
      (ext.compiler launch).compile u dest w = (.finished outcome unit, left) ∧
      (ext.compiler (watchedLauncher launch)).compile u.watched dest (w.watched []) =
        (.finished outcome unit.watched, left.watched log) ∧
      Conforms ext command loaded u log unit.classes outcome := by
  intro loaded command
  obtain ⟨log, hwatched, hfollows⟩ := watches_all ext loaded launch dest u w rfl []
  generalize hran : ext.runPhases launch dest Phase.all u w = ran at hwatched hfollows
  obtain ⟨outcome, unit, left⟩ := ran
  refine ⟨outcome, unit, left, log, ?_, ?_, hfollows.conforms⟩
  · simp only [compiler, hran]
  · simp only [compiler, hwatched, List.nil_append]

end ExternalCompiler

end StaleBuild
