import StaleBuild.Execution
import StaleBuild.Proofs.Files.Stamping
import StaleBuild.Rehearsal

/-!
# Reconciliation on every exit

An attempt to compile ends in one of five ways (`Exit`). What follows is the same for all of them
but for one stamp: the ledger is stamped with the time at which the attempt began, and the
destination is stamped before it when the compiler reached a state.

    exitOf compiler sources dest w = (exit, left)
    ofRun compiler dest run w = (exit.result …, left with the stamped files)      (ofRun_eq)

`ofRun_reconciles` says from this what has a new time afterwards, what has not, and what is told.
-/

namespace StaleBuild

/-! ## Stamping a ledger -/

/-- The tree with a time at every path that can be stamped. -/
def FileTree.stampAll (tree : FileTree) (paths : List Path) (now : Time) : FileTree :=
  paths.foldl (fun tree p => tree.stampIfPossible p now) tree

theorem stampAll_restamped (tree : FileTree) (paths : List Path) (now : Time) :
    Restamped now (tree.fileIds paths) tree (tree.stampAll paths now) := by
  induction paths generalizing tree with
  | nil => exact .refl now tree
  | cons p rest ih =>
    have hfirst := FileTree.stampIfPossible_restamped tree p now
    have hrest := ih (tree.stampIfPossible p now)
    -- the stamp leaves every path where it led
    have hids : (tree.stampIfPossible p now).fileIds rest = tree.fileIds rest := by
      unfold FileTree.fileIds
      congr 1
      funext q
      exact hfirst.fileId?_eq q
    rw [hids] at hrest
    have hcons : tree.fileIds (p :: rest) = (tree.fileId? p).toList ++ tree.fileIds rest := by
      cases hp : tree.fileId? p <;> simp [FileTree.fileIds, hp]
    rw [hcons]
    exact hfirst.trans hrest

theorem stamp_eq (tree : FileTree) (p : Path) (now : Time) :
    tree.stamp p now =
      if tree.isPresent p then .ok (tree.stampIfPossible p now)
      else .error (match tree.find p with | .ok _ => .notFound | .error cause => cause) := by
  unfold FileTree.stampIfPossible FileTree.stamp FileTree.isPresent FileTree.stat
  cases tree.find p <;> rfl

/-- Reconciling stamps the ledger and counts its paths that denote anything. -/
theorem reconcile_eq (now : Time) (outputs : List Path) (tree : FileTree) :
    reconcile now outputs tree = (outputs.countP tree.isPresent, tree.stampAll outputs now) := by
  induction outputs generalizing tree with
  | nil => rfl
  | cons p rest ih =>
    have hstamped := FileTree.stampIfPossible_restamped tree p now
    have hcount : rest.countP (tree.stampIfPossible p now).isPresent =
        rest.countP tree.isPresent := by
      congr 1
      funext q
      exact hstamped.isPresent_eq q
    rw [reconcile, stamp_eq, List.countP_cons]
    by_cases hp : tree.isPresent p
    · simp [hp, ih, hcount, FileTree.stampAll]
    · have hkept : tree.stampIfPossible p now = tree := by
        have hstamp := stamp_eq tree p now
        simp only [hp] at hstamp
        rw [FileTree.stampIfPossible, hstamp]
        rfl
      simp [hp, ih, FileTree.stampAll, hkept]

/-! ## The ends of an attempt -/

namespace Execution

variable {σ : Type}

/-- How an attempt to compile ended. -/
inductive Exit where
  /-- A unit was refused. -/
  | unitFailed (e : BuildError)
  | succeeded (injected : List ClassNode)
  | diagnosed (d : Diagnostics) (injected : List ClassNode)
  | faulted (f : Fault)
  /-- A panic broke off the compilation, or the making of its unit. -/
  | panicked (message : String)

namespace Exit

/-- Whether the compiler came to a state, and so the destination is stamped. -/
def hasState : Exit → Bool
  | .succeeded _ | .diagnosed _ _ => true
  | _ => false

/-- What is told about a run after an attempt, given the stamped outputs' time and number. -/
def result (run : Run) (now : Time) (reconciled : Nat) : Exit → Except Stopped Execution
  | .unitFailed e => .error (.error (.compilerFault e.message e.message))
  | .succeeded injected => .ok ⟨.succeeded, run.size, reconciled, some now, injected⟩
  | .diagnosed d injected => .ok ⟨.failed d, run.size, reconciled, some now, injected⟩
  | .faulted f => .error (.error (.compilerFault f.message f.trace))
  | .panicked message => .error (.panic message)

/-- The paths that are stamped after an attempt, in order. -/
def stamped (exit : Exit) (dest : Path) (run : Run) : List Path :=
  (if exit.hasState then [dest] else []) ++ run.outputs

end Exit

/-- The end of an attempt and the world that it leaves, before anything is stamped. -/
def exitOf (compiler : Compiler σ) (sources : List Path) (dest : Path) (w : World σ) :
    Exit × World σ :=
  match compiler.unitPanic? w, compiler.makeUnit w with
  | some message, (_, w) => (.panicked message, w)
  | none, (.error e, w) => (.unitFailed e, w)
  | none, (.ok u, w) =>
    match compiler.compile (u.addSources sources) dest w with
    | (.finished .success u, w) => (.succeeded u.injectedClasses, w)
    | (.finished (.diagnostics d) u, w) => (.diagnosed d u.injectedClasses, w)
    | (.finished (.fault f) _, w) => (.faulted f, w)
    | (.panicked message _, w) => (.panicked message, w)

/-- An idle execution touches nothing. -/
theorem ofRun_empty (compiler : Compiler σ) (dest : Path) {run : Run} (w : World σ)
    (h : run.sources = []) : ofRun compiler dest run w = (.ok idle, w) := by
  simp [ofRun, Run.isEmpty, h]

/-- What compiling a run does after the attempt: it stamps and it tells. -/
theorem ofRun_eq (compiler : Compiler σ) (dest : Path) {run : Run} (w : World σ)
    (h : run.sources ≠ []) :
    ofRun compiler dest run w =
      let exit := (exitOf compiler run.sources dest w.tick).1
      let left := (exitOf compiler run.sources dest w.tick).2
      (exit.result run w.clock (run.outputs.countP left.files.isPresent),
        { left with files := left.files.stampAll (exit.stamped dest run) w.clock }) := by
  have hcount (tree : FileTree) :
      run.outputs.countP (tree.stampIfPossible dest w.clock).isPresent =
        run.outputs.countP tree.isPresent := by
    congr 1
    funext q
    exact (FileTree.stampIfPossible_restamped tree dest w.clock).isPresent_eq q
  have hempty : run.isEmpty = false := by simpa [Run.isEmpty] using h
  simp only [ofRun, hempty, attempt, exitOf, Bool.false_eq_true, if_false]
  cases compiler.makeUnit w.tick with
  | mk made left =>
    cases compiler.unitPanic? w.tick with
    | some message =>
      simp [reconciledWorld, reconcile_eq, Exit.result, Exit.stamped, Exit.hasState]
    | none =>
      cases made with
      | error e =>
        simp [reconciledWorld, reconcile_eq, Exit.result, Exit.stamped, Exit.hasState,
          Fault.ofError, Fault.ofChain]
      | ok u =>
        dsimp only
        cases compiler.compile (u.addSources run.sources) dest left with
        | mk ending left =>
          cases ending with
          | panicked message u =>
            simp [reconciledWorld, reconcile_eq, Exit.result, Exit.stamped, Exit.hasState]
          | finished outcome u =>
            cases outcome with
            | success =>
              simp [conclude, stampedDestination, reconciledWorld, reconcile_eq, Exit.result,
                Exit.stamped, Exit.hasState, FileTree.stampAll, hcount]
            | diagnostics d =>
              simp [conclude, stampedDestination, reconciledWorld, reconcile_eq, Exit.result,
                Exit.stamped, Exit.hasState, FileTree.stampAll, hcount]
            | fault f =>
              simp [reconciledWorld, reconcile_eq, Exit.result, Exit.stamped, Exit.hasState]

/-- Some paths denote other files than `dest`. -/
def Apart (tree : FileTree) (paths : List Path) (dest : Path) : Prop :=
  ∀ p ∈ paths, ∀ id ∈ tree.fileId? p, tree.fileId? dest ≠ some id

/-- What holds of a run that was compiled at the time `w.clock`: `left` is the world when the attempt
ended as `exit`, and `result` and `after` are what the caller gets. -/
structure Reconciled {σ : Type} (compiler : Compiler σ) (dest : Path) (run : Run) (w : World σ)
    (exit : Exit) (left : World σ) (result : Except Stopped Execution) (after : World σ) : Prop where
  /-- Every recorded output that exists has the time of the attempt. -/
  outputs : ∀ p ∈ run.outputs, ∀ e, after.files.stat p = .ok e → e.modified = w.clock
  /-- So has the destination, if the compiler came to a state. -/
  destination : exit.hasState = true → ∀ e, after.files.stat dest = .ok e → e.modified = w.clock
  /-- Otherwise it is as the attempt left it. -/
  destinationKept : exit.hasState = false → after.files.stat dest = left.files.stat dest
  /-- No contents and no other time have changed, and no path leads elsewhere. -/
  files : Restamped w.clock (left.files.fileIds (exit.stamped dest run)) left.files after.files
  /-- The rest of the world is as the attempt left it. -/
  rest : after = { left with files := after.files }
  /-- The outputs that exist are counted, each as often as it is recorded. -/
  told : result = exit.result run w.clock (run.outputs.countP after.files.isPresent)
  /-- Without a unit nothing is compiled: it makes no difference how the compiler would. -/
  uncalled : ∀ e, exit = .unitFailed e → ∀ compile,
    ofRun { compiler with compile } dest run w = (result, after)

theorem exitOf_unitFailed {compiler : Compiler σ} {sources : List Path} {dest : Path}
    {w left : World σ} {e : BuildError}
    (h : exitOf compiler sources dest w = (.unitFailed e, left)) :
    compiler.unitPanic? w = none ∧ compiler.makeUnit w = (.error e, left) := by
  unfold exitOf at h
  split at h
  · simp at h
  · next hcalm hunit =>
    simp only [Prod.mk.injEq, Exit.unitFailed.injEq] at h
    exact ⟨hcalm, by rw [hunit, h.1, h.2]⟩
  · split at h <;> simp at h

end Execution

/-! ## A rehearsal -/

namespace Rehearsal

open Execution

/-- A world with some files, at a time. -/
def staged (entries : List PlannedEntry) (clock : Time) : Stage :=
  ⟨(FileTree.fresh [] 0).placeAll 0 entries, clock, none, .blank⟩

/-- A compiler that makes some files and then ends. -/
def writing (writes : List PlannedEntry) (ending : ScriptedEnd) : Compiler Notes :=
  equipped [] (CompilerScript.compile ⟨false, [], writes, none, ending⟩)

def outDir : Path := .ofString "out"

def pairSource : Path := .ofString "src/Pair.java"

def pairOutput : Path := .ofString "out/Pair.class"

def innerOutput : Path := .ofString "out/Inner.class"

def pairStage : Stage := staged [.file pairSource [] 20, .file pairOutput [] 10] 100

/-- A ledger with a repeated output and one that is never made. -/
def pairRun : Run :=
  ⟨[pairSource], [pairOutput, innerOutput, pairOutput, .ofString "out/Gone.class"]⟩

def panicking : Compiler Notes := writing [.file innerOutput [] 150] (.panic "out of memory")

end Rehearsal

namespace Execution

variable {σ : Type}

/-- **Every exit is reconciled**, and an empty run touches nothing. -/
theorem ofRun_reconciles {compiler : Compiler σ} {dest : Path} {run : Run} {w left after : World σ}
    {exit : Exit} {result : Except Stopped Execution}
    (hexit : exitOf compiler run.sources dest w.tick = (exit, left))
    (hresult : ofRun compiler dest run w = (result, after)) :
    (run.sources = [] → result = .ok idle ∧ after = w) ∧
    (run.sources ≠ [] → Apart left.files run.outputs dest →
      Reconciled compiler dest run w exit left result after) := by
  constructor
  · intro hrun
    rw [ofRun_empty compiler dest w hrun] at hresult
    simpa [eq_comm] using hresult
  · intro hrun hapart
    have heq := ofRun_eq compiler dest w hrun
    rw [hexit, hresult] at heq
    obtain ⟨hres, hafter⟩ := Prod.mk.inj heq
    have hfiles : Restamped w.clock (left.files.fileIds (exit.stamped dest run)) left.files
        after.files := by
      rw [hafter]
      exact stampAll_restamped left.files (exit.stamped dest run) w.clock
    refine ⟨fun p hp e => hfiles.modified_of_mem (List.mem_append_right _ hp), fun hstate e => ?_,
      fun hstate => ?_, hfiles, by rw [hafter], ?_, ?_⟩
    · exact hfiles.modified_of_mem (by simp [Exit.stamped, hstate])
    · refine hfiles.stat_of_not_mem fun id hid hmem => ?_
      simp only [Exit.stamped, hstate, Bool.false_eq_true, if_false, List.nil_append,
        FileTree.fileIds, List.mem_filterMap] at hmem
      obtain ⟨p, hp, hpid⟩ := hmem
      exact hapart p hp id hpid hid
    · have hcount : after.files.isPresent = left.files.isPresent := funext hfiles.isPresent_eq
      rw [hcount]
      exact hres
    · rintro e rfl compile
      obtain ⟨hcalm, hunit⟩ := exitOf_unitFailed hexit
      rw [ofRun_eq _ dest w hrun, ← hresult, ofRun_eq compiler dest w hrun]
      simp only [exitOf, hcalm, hunit]

end Execution

open Execution Rehearsal

/-- After a panic the outputs that exist have the time of the attempt, the new one too. -/
theorem panicking_reconciles :
    let attempt := exitOf panicking pairRun.sources outDir pairStage.tick
    let done := ofRun panicking outDir pairRun pairStage
    (pairRun.sources ≠ [] ∧ Apart attempt.2.files pairRun.outputs outDir) ∧
      Reconciled panicking outDir pairRun pairStage attempt.1 attempt.2 done.1 done.2 ∧
      pairRun.outputs.map (fun p => (done.2.files.stat p).toOption.map Entry.modified) =
        [some 100, some 100, some 100, none] := by
  intro attempt done
  have hrun : pairRun.sources ≠ [] := by decide
  have hapart : Apart attempt.2.files pairRun.outputs outDir := by
    unfold Apart
    decide
  exact ⟨⟨hrun, hapart⟩, (ofRun_reconciles rfl rfl).2 hrun hapart, by decide⟩

end StaleBuild
