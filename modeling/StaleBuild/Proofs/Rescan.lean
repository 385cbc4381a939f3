import StaleBuild.Proofs.Accumulation
import StaleBuild.Proofs.Reconciliation

/-!
# Scanning again after a compilation

A run is scanned, compiled and scanned again. The ledger has the outputs that the first scan found,
and reconciling gives these the time at which the attempt began; the second scan finds its outputs
anew. A name that was selected is selected again only if its source is newer than that time, if it
has no output, or if its output is another one now (`reselected_only_if`).

A source that was edited in between is selected again unless its output is another one now, which
has kept the time that the compiler gave it (`edited_selected_iff`).
-/

namespace StaleBuild

open Execution (Exit exitOf)

/-! ## Outputs in a stamped tree -/

namespace Restamped

variable {now : Time} {files : List FileId} {tree after : FileTree}

/-- Which output counts for a candidate is not a matter of time. -/
theorem outputIn_eq (h : Restamped now files tree after) (c : Candidate) (dest : Path) :
    c.outputIn after dest = c.outputIn tree dest := by
  have hpresent : after.isPresent = tree.isPresent := funext h.isPresent_eq
  unfold Candidate.outputIn
  rw [hpresent]

/-- The time that a path shows is the new one, or the path leads to another file than all stamped
paths and showed the same time before. -/
theorem timeOf?_cases {paths : List Path} (h : Restamped now (tree.fileIds paths) tree after)
    {q : Path} {t : Time} (ht : after.timeOf? q = some t) :
    t = now ∨ (∀ p ∈ paths, tree.fileId? p ≠ tree.fileId? q) ∧ tree.timeOf? q = some t := by
  unfold FileTree.timeOf? at ht ⊢
  cases hstat : after.stat q with
  | error cause => simp [hstat, Except.toOption] at ht
  | ok e =>
    obtain rfl : e.modified = t := by simpa [hstat, Except.toOption] using ht
    obtain ⟨id, hid, ⟨-, htime⟩ | ⟨hnot, hkept⟩⟩ := h.stat_cases hstat
    · exact .inl htime
    · refine .inr ⟨fun p hp hsame => ?_, by simp [hkept, Except.toOption]⟩
      exact hnot (List.mem_filterMap.2 ⟨p, hp, hsame.trans hid⟩)

/-- A path that leads to another file than all stamped paths shows the time that it showed. -/
theorem timeOf?_of_other {paths : List Path} (h : Restamped now (tree.fileIds paths) tree after)
    {q : Path} (hother : ∀ p ∈ paths, tree.fileId? p ≠ tree.fileId? q) :
    after.timeOf? q = tree.timeOf? q := by
  unfold FileTree.timeOf?
  rw [h.stat_of_not_mem]
  intro id hid hmem
  obtain ⟨p, hp, hpid⟩ := List.mem_filterMap.1 hmem
  exact hother p hp (hpid.trans hid.symm)

end Restamped

/-- A candidate whose output that counts is missing has none. -/
theorem missing_of_outputIn {tree : FileTree} {c : Candidate} {dest : Path}
    (h : tree.timeOf? (c.outputIn tree dest) = none) :
    tree.isPresent (c.mirrored dest) = false ∧
      ∀ p ∈ c.atRoot? dest, tree.isPresent p = false := by
  have habsent : tree.isPresent (c.outputIn tree dest) = false := by
    rw [isPresent_eq_isSome, h]
    rfl
  unfold Candidate.outputIn at habsent
  split at habsent
  · next hpresent => rw [hpresent] at habsent; cases habsent
  · next hmirrored =>
    refine ⟨by simpa using hmirrored, fun p hp => ?_⟩
    rw [Option.mem_def.1 hp] at habsent
    cases hpresent : tree.isPresent p with
    | false => rfl
    | true => simp [Option.filter_some, hpresent] at habsent

/-! ## A rehearsal -/

namespace Rehearsal

def bookName : Path := .ofString "org/Book.groovy"

def bookSource : Path := .ofString "src/org/Book.groovy"

def bookInPackage : Path := .ofString "out/org/Book.class"

def bookAtRoot : Path := .ofString "out/Book.class"

/-- A source without a class file. -/
def bookStage : Stage := staged [.file bookSource [] 90, .directory outDir none] 100

def bookCall : ScanCall := ⟨bookStage.files, .ofString "src", outDir, [bookName]⟩

/-- The compiler that makes some files and succeeds. -/
def succeeding (writes : List PlannedEntry) : Compiler Notes := writing writes (.outcome .success)

/-- Scanning and compiling the source. -/
def bookRun (writes : List PlannedEntry) : Except Stopped Execution × Stage :=
  Execution.ofRun (succeeding writes) outDir (Run.ofCalls [bookCall]) bookStage

theorem ofRun_bookCall (writes : List PlannedEntry) :
    Execution.ofRun (succeeding writes) outDir (Run.ofCalls [bookCall]) bookStage =
      ((bookRun writes).1, (bookRun writes).2) := rfl

/-- The class file that is recorded is the one in the package. -/
theorem bookCall_selects : bookCall.Selects bookName ⟨bookSource, bookInPackage⟩ := by
  decide

end Rehearsal

open Rehearsal

/-! ## The second scan -/

/-- Behind a run with a selected name stands a stamped tree. -/
theorem restamped_of_selects {σ : Type} {compiler : Compiler σ} {dest : Path}
    {calls : List ScanCall} {w left after : World σ} {exit : Exit}
    {result : Except Stopped Execution}
    (hexit : exitOf compiler (Run.ofCalls calls).sources dest w.tick = (exit, left))
    (hrun : Execution.ofRun compiler dest (Run.ofCalls calls) w = (result, after))
    {call : ScanCall} (hcall : call ∈ calls) {name : Path} {m : OutputMapping}
    (hfirst : call.Selects name m) :
    Restamped w.clock (left.files.fileIds (exit.stamped dest (Run.ofCalls calls))) left.files
      after.files := by
  have heq := Execution.ofRun_eq compiler dest w (hfirst.sources_ne_nil hcall)
  rw [hexit, hrun] at heq
  rw [(Prod.mk.inj heq).2]
  exact stampAll_restamped left.files (exit.stamped dest (Run.ofCalls calls)) w.clock

/-- **What is selected again.** After a run has been compiled, however that ended, a name that one of
its scans selected is selected by the same scan only if its source is newer than the attempt, if it
has no output at either place, or if its output is not the recorded one, not even another path to a
recorded file, and older than the source. -/
theorem reselected_only_if {σ : Type} {compiler : Compiler σ} {dest : Path}
    {calls : List ScanCall} {w after : World σ} {result : Except Stopped Execution}
    (hrun : Execution.ofRun compiler dest (Run.ofCalls calls) w = (result, after))
    {call : ScanCall} (hcall : call ∈ calls) {name : Path} {m m' : OutputMapping}
    (hfirst : call.Selects name m) (hagain : (call.on after.files).Selects name m')
    {c : Candidate} (hc : Candidate.ofName? name = some c) :
    (∃ s ∈ after.files.timeOf? m.source, w.clock < s) ∨
    (after.files.isPresent (c.mirrored call.dest) = false ∧
      ∀ p ∈ c.atRoot? call.dest, after.files.isPresent p = false) ∨
    (m'.output ≠ m.output ∧
      (∀ p ∈ (Run.ofCalls calls).outputs,
        after.files.fileId? p ≠ after.files.fileId? m'.output) ∧
      ∃ t ∈ after.files.timeOf? m'.output, ∃ s ∈ after.files.timeOf? m.source, t < s) := by
  have hstamped := restamped_of_selects rfl hrun hcall hfirst
  have hledger := hfirst.output_mem hcall
  obtain ⟨-, -, -, rfl⟩ := (selects_iff hc).1 hfirst
  obtain ⟨-, -, hout, rfl⟩ := (selects_iff hc).1 hagain
  simp only [ScanCall.on] at hout ⊢
  obtain ⟨s, hs, hnewer⟩ := (isOutdated_iff _).1 hout
  cases htime : after.files.timeOf? (c.outputIn after.files call.dest) with
  | none => exact .inr (.inl (missing_of_outputIn htime))
  | some t =>
    have hlt : t < s := hnewer t htime
    rcases hstamped.timeOf?_cases htime with rfl | ⟨hother, -⟩
    · exact .inl ⟨s, hs, hlt⟩
    · -- no recorded output leads to the file, since all of them were stamped
      have hunrecorded : ∀ p ∈ (Run.ofCalls calls).outputs,
          after.files.fileId? p ≠ after.files.fileId? (c.outputIn after.files call.dest) := by
        intro p hp
        rw [hstamped.fileId?_eq, hstamped.fileId?_eq]
        exact hother p (List.mem_append_right _ hp)
      refine .inr (.inr ⟨fun heq => ?_, hunrecorded, t, htime, s, hs, hlt⟩)
      exact hunrecorded _ hledger (congrArg after.files.fileId? heq.symm)

/-- A class file that comes up at the root, older than its source, is the third case. -/
theorem reselected_for_root_output :
    let after := (bookRun [.file bookAtRoot [] 50]).2
    (bookCall.Selects bookName ⟨bookSource, bookInPackage⟩ ∧
      (bookCall.on after.files).Selects bookName ⟨bookSource, bookAtRoot⟩) ∧
    bookAtRoot ≠ bookInPackage ∧
    (∀ p ∈ (Run.ofCalls [bookCall]).outputs,
      after.files.fileId? p ≠ after.files.fileId? bookAtRoot) ∧
    ∃ t ∈ after.files.timeOf? bookAtRoot, ∃ s ∈ after.files.timeOf? bookSource, t < s := by
  intro after
  have hagain : (bookCall.on after.files).Selects bookName ⟨bookSource, bookAtRoot⟩ := by
    decide
  have hcases := reselected_only_if (ofRun_bookCall _) (List.mem_singleton_self bookCall)
    bookCall_selects hagain rfl
  refine ⟨⟨bookCall_selects, hagain⟩, (hcases.resolve_left ?_).resolve_left ?_⟩
  · decide
  · decide

/-- **When an edit is seen.** A source that is newer than the attempt that compiled it is selected by
the same scan again, if that scan fails on no file, unless its output is now a file that the run did
not stamp and that is not older than the source. -/
theorem edited_selected_iff {σ : Type} {compiler : Compiler σ} {dest : Path}
    {calls : List ScanCall} {w left after : World σ} {exit : Exit}
    {result : Except Stopped Execution}
    (hexit : exitOf compiler (Run.ofCalls calls).sources dest w.tick = (exit, left))
    (hrun : Execution.ofRun compiler dest (Run.ofCalls calls) w = (result, after))
    {call : ScanCall} (hcall : call ∈ calls) {name : Path} {m : OutputMapping}
    (hfirst : call.Selects name m) {c : Candidate} (hc : Candidate.ofName? name = some c)
    {s : Time} (hs : s ∈ after.files.timeOf? m.source) (hedited : w.clock < s) :
    (∃ m', (call.on after.files).Selects name m') ↔
      (call.on after.files).mappings.isOk = true ∧
      ¬∃ t ∈ left.files.timeOf? (c.outputIn left.files call.dest), s ≤ t ∧
        ∀ p ∈ exit.stamped dest (Run.ofCalls calls),
          left.files.fileId? p ≠ left.files.fileId? (c.outputIn left.files call.dest) := by
  have hstamped := restamped_of_selects hexit hrun hcall hfirst
  obtain ⟨hlisted, -, -, rfl⟩ := (selects_iff hc).1 hfirst
  have houtput := hstamped.outputIn_eq c call.dest
  constructor
  · rintro ⟨m', hagain⟩
    obtain ⟨-, hok, hout, rfl⟩ := (selects_iff hc).1 hagain
    refine ⟨hok, ?_⟩
    rintro ⟨t, ht, hle, hother⟩
    obtain ⟨s', hs', hnewer⟩ := (isOutdated_iff _).1 hout
    obtain rfl : s = s' := Option.some.inj (hs.symm.trans hs')
    -- an output that is not stamped has kept its time
    have hkept : after.files.timeOf? (c.outputIn left.files call.dest) = some t := by
      rw [hstamped.timeOf?_of_other hother, Option.mem_def.1 ht]
    have hlt : t < s := hnewer t (by rw [ScanCall.on, houtput]; exact hkept)
    exact absurd hle (Int.not_le.2 hlt)
  · rintro ⟨hok, hseen⟩
    refine ⟨_, (selects_iff hc).2 ⟨hlisted, hok, (isOutdated_iff _).2 ⟨s, hs, ?_⟩, rfl⟩⟩
    intro t ht
    simp only [ScanCall.on, houtput] at ht
    rcases hstamped.timeOf?_cases ht with rfl | ⟨hother, hkept⟩
    · exact hedited
    · exact Int.not_le.1 fun hle => hseen ⟨t, hkept, hle, hother⟩

/-- A class file that the compiler puts where it was recorded hides no edit. -/
theorem edited_selected_with_recorded_output :
    let edit : PlannedEntry := .file bookSource [1] 150
    let writes := [edit, .file bookInPackage [] 200]
    let after := (bookRun writes).2
    bookCall.Selects bookName ⟨bookSource, bookInPackage⟩ ∧
      (150 ∈ after.files.timeOf? bookSource ∧ bookStage.clock < 150) ∧
      ∃ m', (bookCall.on after.files).Selects bookName m' := by
  intro edit writes after
  have hs : 150 ∈ after.files.timeOf? bookSource := by decide
  have hedited : bookStage.clock < 150 := by decide
  refine ⟨bookCall_selects, ⟨hs, hedited⟩, ?_⟩
  refine (edited_selected_iff rfl (ofRun_bookCall writes) (List.mem_singleton_self bookCall)
    bookCall_selects rfl hs hedited).2 ⟨by decide, ?_⟩
  rintro ⟨t, ht, hle, hother⟩
  exact hother bookInPackage (by decide) (by decide)

/-- An edit is lost when the class file comes up at the root, where none was recorded: the compiler
succeeds, its class file and the edit are newer than the attempt, and the next scan, which fails on
no file, passes the source over. -/
theorem edited_missed_with_root_output :
    let edit : PlannedEntry := .file bookSource [1] 150
    let writes := [edit, .file bookAtRoot [] 200]
    let after := (bookRun writes).2
    bookCall.Selects bookName ⟨bookSource, bookInPackage⟩ ∧
      (bookRun writes).1 = .ok ⟨.succeeded, 1, 0, some bookStage.clock, []⟩ ∧
      after.files.timeOf? bookAtRoot = some 200 ∧ bookStage.clock ≤ 200 ∧
      after.files.timeOf? bookSource = some 150 ∧ bookStage.clock < 150 ∧
      (bookCall.on after.files).mappings = .ok [] ∧
      ¬∃ m', (bookCall.on after.files).Selects bookName m' := by
  intro edit writes after
  have hnil : (bookCall.on after.files).mappings = .ok [] := by decide
  refine ⟨bookCall_selects, by decide, by decide, by decide, by decide, by decide, hnil, ?_⟩
  exact ScanCall.not_selects_of_nil hnil

end StaleBuild
