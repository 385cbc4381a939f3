import StaleBuild.Staleness

/-!
# What a scan selects

The selection is said here without the scan: the candidates among the names, each with the class
file that counts for it, those kept that exist and are newer. A scan either reports the first file
that cannot be looked at, in the order in which it looks, or adds exactly this selection.

    run.scan tree sourceDir dest names =
      first failure → (.error, run)
      no failure    → (.ok n, run ++ the n mappings of the selection)          (scan_eq_selection)
-/

namespace StaleBuild

namespace FileTree

/-- A path that denotes nothing and says so. -/
def isMissing (tree : FileTree) (p : Path) : Bool :=
  match tree.stat p with
  | .error .notFound => true
  | _ => false

/-- What looking at a path fails with; a missing file is no failure. -/
def failure? (tree : FileTree) (p : Path) : Option BuildError :=
  match tree.stat p with
  | .ok _ => none
  | .error .notFound => none
  | .error cause => some (.file p cause)

/-- The time of what a path denotes. -/
def timeOf? (tree : FileTree) (p : Path) : Option Time :=
  (tree.stat p).toOption.map Entry.modified

end FileTree

namespace Candidate

/-- The class file in the package directory, below the destination. -/
def mirrored (c : Candidate) (dest : Path) : Path := dest.join c.packageOutput

/-- The class file at the destination's root, for a candidate that may have one. -/
def atRoot? (c : Candidate) (dest : Path) : Option Path := c.rootOutput?.map dest.join

/-- The class file that counts: the mirrored one if it is there, else the one at the root if it is
there, else the mirrored one. -/
def outputIn (c : Candidate) (tree : FileTree) (dest : Path) : Path :=
  if tree.isPresent (c.mirrored dest) then c.mirrored dest
  else ((c.atRoot? dest).filter tree.isPresent).getD (c.mirrored dest)

/-- The class files that are looked at, in order. -/
def outputsLookedAt (c : Candidate) (tree : FileTree) (dest : Path) : List Path :=
  c.mirrored dest ::
    if tree.isMissing (c.mirrored dest) then (c.atRoot? dest).toList else []

/-- The files that are looked at, in order. -/
def lookedAt (c : Candidate) (tree : FileTree) (sourceDir dest : Path) : List Path :=
  c.outputsLookedAt tree dest ++ [c.sourcePath sourceDir]

/-- The source exists and its class file is missing or older. -/
def isOutdated (c : Candidate) (tree : FileTree) (sourceDir dest : Path) : Bool :=
  match tree.timeOf? (c.sourcePath sourceDir) with
  | none => false
  | some source =>
    match tree.timeOf? (c.outputIn tree dest) with
    | none => true
    | some output => output < source

/-- The source with the class file that counts. -/
def mapping (c : Candidate) (tree : FileTree) (sourceDir dest : Path) : OutputMapping :=
  ⟨c.sourcePath sourceDir, c.outputIn tree dest⟩

end Candidate

/-- The candidates among some names, in order. -/
def candidates (names : List Path) : List Candidate := names.filterMap Candidate.ofName?

/-- The first failure among the files that are looked at for some names. -/
def firstFailure? (tree : FileTree) (sourceDir dest : Path) (names : List Path) :
    Option BuildError :=
  ((candidates names).flatMap fun c => c.lookedAt tree sourceDir dest).findSome? tree.failure?

/-- The mappings of the outdated candidates, in order. -/
def selection (tree : FileTree) (sourceDir dest : Path) (names : List Path) :
    List OutputMapping :=
  ((candidates names).filter fun c => c.isOutdated tree sourceDir dest).map fun c =>
    c.mapping tree sourceDir dest

/-- The run with some mappings added. -/
def Run.add (run : Run) (found : List OutputMapping) : Run :=
  ⟨run.sources ++ found.map OutputMapping.source, run.outputs ++ found.map OutputMapping.output⟩

/-! ## One candidate -/

section
variable (tree : FileTree)

/-- A file is there, is missing, or cannot be looked at. -/
theorem FileTree.stat_cases (p : Path) :
    (∃ e, tree.stat p = .ok e) ∨ tree.stat p = .error .notFound ∨
      ∃ cause, tree.stat p = .error cause ∧ tree.failure? p = some (.file p cause) := by
  unfold FileTree.failure?
  cases hstat : tree.stat p with
  | ok e => exact .inl ⟨e, rfl⟩
  | error cause =>
    by_cases hcause : cause = .notFound
    · exact .inr (.inl (by rw [hcause]))
    · refine .inr (.inr ⟨cause, rfl, ?_⟩)
      split
      · contradiction
      · next h => exact absurd (Except.error.inj h) hcause
      · next h => rw [Except.error.inj h]

theorem modifiedTime_eq (p : Path) :
    modifiedTime tree p =
      match tree.failure? p with
      | some e => .error e
      | none => .ok (tree.timeOf? p) := by
  unfold modifiedTime FileTree.timeOf?
  rcases tree.stat_cases p with ⟨e, h⟩ | h | ⟨cause, h, hf⟩
  · simp [h, FileTree.failure?, Except.toOption]
  · simp [h, FileTree.failure?, Except.toOption]
  · have hne : cause ≠ .notFound := by
      rintro rfl
      simp [FileTree.failure?, h] at hf
    rw [hf, h]
    cases cause <;> first | rfl | exact absurd rfl hne

theorem isPresent_eq_isSome (p : Path) : tree.isPresent p = (tree.timeOf? p).isSome := by
  simp [FileTree.isPresent, FileTree.timeOf?]

theorem isMissing_eq (p : Path) (h : tree.failure? p = none) :
    tree.isMissing p = !tree.isPresent p := by
  unfold FileTree.isMissing FileTree.isPresent
  rcases tree.stat_cases p with ⟨e, hs⟩ | hs | ⟨cause, hs, hf⟩
  · simp [hs, Except.toOption]
  · simp [hs, Except.toOption]
  · rw [h] at hf
    cases hf

theorem isOutdated_iff {c : Candidate} {sourceDir dest : Path} :
    c.isOutdated tree sourceDir dest = true ↔
      ∃ s ∈ tree.timeOf? (c.sourcePath sourceDir),
        ∀ t ∈ tree.timeOf? (c.outputIn tree dest), t < s := by
  unfold Candidate.isOutdated
  cases tree.timeOf? (c.sourcePath sourceDir) with
  | none => simp
  | some source => cases tree.timeOf? (c.outputIn tree dest) <;> simp

/-- The class file of a candidate and its time, or the first failure on the way to it. -/
theorem resolveOutput_eq (c : Candidate) (dest : Path) :
    resolveOutput tree c dest =
      match (c.outputsLookedAt tree dest).findSome? tree.failure? with
      | some e => .error e
      | none => .ok (c.outputIn tree dest, tree.timeOf? (c.outputIn tree dest)) := by
  have hroot : c.atRoot? dest = c.rootOutput?.map dest.join := rfl
  unfold resolveOutput
  dsimp only
  rw [← Candidate.mirrored, modifiedTime_eq]
  simp only [Candidate.outputsLookedAt, List.findSome?_cons]
  cases hfail : tree.failure? (c.mirrored dest) with
  | some e => rfl
  | none =>
    rw [isMissing_eq tree _ hfail, Candidate.outputIn, isPresent_eq_isSome]
    cases htime : tree.timeOf? (c.mirrored dest) with
    | some time => simp [htime, bind, Except.bind, pure, Except.pure]
    | none =>
      rw [hroot]
      cases c.rootOutput? with
      | none => simp [htime, bind, Except.bind, pure, Except.pure]
      | some name =>
        simp only [bind, Except.bind, pure, Except.pure, modifiedTime_eq, Option.map_some,
          Option.isSome_none, Bool.not_false, if_true, Option.toList_some, List.findSome?_cons,
          List.findSome?_nil, Option.filter_some, isPresent_eq_isSome]
        cases tree.failure? (dest.join name) with
        | some e => rfl
        | none =>
          cases hr : tree.timeOf? (dest.join name) with
          | some time => simp [hr]
          | none => simp [htime]

/-- What a scan does with one name. -/
theorem staleMapping?_eq (sourceDir dest name : Path) :
    staleMapping? tree sourceDir dest name =
      match firstFailure? tree sourceDir dest [name] with
      | some e => .error e
      | none => .ok (selection tree sourceDir dest [name]).head? := by
  unfold staleMapping? firstFailure? selection candidates
  cases hname : Candidate.ofName? name with
  | none => simp [hname]
  | some c =>
    simp only [List.filterMap_cons, hname, List.filterMap_nil, List.flatMap_cons, List.flatMap_nil,
      List.append_nil, Candidate.lookedAt, List.findSome?_append, resolveOutput_eq, bind,
      Except.bind]
    cases (c.outputsLookedAt tree dest).findSome? tree.failure? with
    | some e => rfl
    | none =>
      simp only [modifiedTime_eq, Option.none_or, List.findSome?_cons, List.findSome?_nil]
      cases tree.failure? (c.sourcePath sourceDir) with
      | some e => rfl
      | none =>
        simp only [List.filter_cons, List.filter_nil, Candidate.isOutdated, Candidate.mapping]
        cases tree.timeOf? (c.sourcePath sourceDir) with
        | none => rfl
        | some source =>
          cases tree.timeOf? (c.outputIn tree dest) with
          | none => rfl
          | some output =>
            by_cases hlt : output < source <;> simp [isStale, hlt, pure, Except.pure]

/-! ## Many names -/

variable (sourceDir dest : Path)

theorem firstFailure?_cons (name : Path) (rest : List Path) :
    firstFailure? tree sourceDir dest (name :: rest) =
      (firstFailure? tree sourceDir dest [name]).or (firstFailure? tree sourceDir dest rest) := by
  unfold firstFailure? candidates
  rw [← List.findSome?_append, ← List.flatMap_append, ← List.filterMap_append]
  rfl

theorem selection_cons (name : Path) (rest : List Path) :
    selection tree sourceDir dest (name :: rest) =
      selection tree sourceDir dest [name] ++ selection tree sourceDir dest rest := by
  unfold selection candidates
  rw [← List.map_append, ← List.filter_append, ← List.filterMap_append]
  rfl

/-- One name gives at most one mapping. -/
theorem toList_head?_selection (name : Path) :
    (selection tree sourceDir dest [name]).head?.toList =
      selection tree sourceDir dest [name] := by
  unfold selection candidates
  cases hname : Candidate.ofName? name with
  | none => simp [hname]
  | some c =>
    by_cases hc : c.isOutdated tree sourceDir dest <;> simp [hname, hc]

theorem staleMappings_eq (names : List Path) :
    staleMappings tree sourceDir dest names =
      match firstFailure? tree sourceDir dest names with
      | some e => .error e
      | none => .ok (selection tree sourceDir dest names) := by
  induction names with
  | nil => rfl
  | cons name rest ih =>
    rw [firstFailure?_cons, selection_cons, ← toList_head?_selection]
    simp only [staleMappings, staleMapping?_eq, ih, bind, Except.bind, pure, Except.pure]
    cases firstFailure? tree sourceDir dest [name] with
    | some e => rfl
    | none => cases firstFailure? tree sourceDir dest rest <;> rfl

end

/-- Outputs recorded one after another end up behind the ledger in their order. -/
theorem foldl_record (outputs : List Path) (run : Run) :
    outputs.foldl Run.record run = { run with outputs := run.outputs ++ outputs } := by
  induction outputs generalizing run with
  | nil => simp
  | cons output rest ih => simp [ih, Run.record]

/-- A scan adds the stale mappings or reports why there are none. -/
theorem scan_eq (run : Run) (tree : FileTree) (sourceDir dest : Path) (names : List Path) :
    run.scan tree sourceDir dest names =
      match staleMappings tree sourceDir dest names with
      | .error e => (.error e, run)
      | .ok found => (.ok found.length, run.add found) := by
  unfold Run.scan
  cases staleMappings tree sourceDir dest names with
  | error e => rfl
  | ok found => simp [foldl_record, Run.select, Run.add]

/-- Names that are no candidates make no difference. -/
theorem candidates_filter (names : List Path) :
    candidates (names.filter fun name => (Candidate.ofName? name).isSome) = candidates names := by
  unfold candidates
  induction names with
  | nil => rfl
  | cons name rest ih =>
    cases hname : Candidate.ofName? name with
    | none => simpa [hname] using ih
    | some c => simpa [hname] using ih

/-- **A scan is its selection.** It reports the first failure among the files that it looks at and
leaves the run as it was, or it adds the whole selection and tells its size; names that are no
candidates make no difference. -/
theorem scan_eq_selection (run : Run) (tree : FileTree) (sourceDir dest : Path)
    (names : List Path) :
    (run.scan tree sourceDir dest names =
      match firstFailure? tree sourceDir dest names with
      | some e => (.error e, run)
      | none =>
        (.ok (selection tree sourceDir dest names).length,
          run.add (selection tree sourceDir dest names))) ∧
    run.scan tree sourceDir dest names =
      run.scan tree sourceDir dest
        (names.filter fun name => (Candidate.ofName? name).isSome) := by
  constructor
  · rw [scan_eq, staleMappings_eq]
    cases firstFailure? tree sourceDir dest names <;> rfl
  · rw [scan_eq, scan_eq, staleMappings_eq, staleMappings_eq]
    simp only [firstFailure?, selection, candidates_filter]

end StaleBuild
