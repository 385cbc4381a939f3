import StaleBuild.Build
import StaleBuild.Proofs.Accumulation

/-!
# Sources and ledger in lock-step

The two lists of a run are filled by different means and paired by position only when the run is
over. They stay paired because a call adds to both what one batch of mappings has, or to neither:

    Run.ofCalls (before ++ [call]) = Run.ofCalls before ++ the batch of call     (ofCalls_concat)
    (Run.ofCalls calls).mappings = the mappings of all batches, in call order    (mappings_ofCalls)

The scan of a build is such a run, with one call for each source directory, or none at all:

    config.scan tree = the calls, if each directory can be listed and scanned    (scan_eq_ofCalls)

`ofCalls_lockstep` puts this together.
-/

namespace StaleBuild

/-! ## Calls -/

/-- Mappings that are taken apart and paired again are the same. -/
theorem mappings_add_empty (found : List OutputMapping) : (Run.empty.add found).mappings = found := by
  simp only [Run.mappings, Run.empty, Run.add, List.nil_append]
  induction found with
  | nil => rfl
  | cons m rest ih => simp [ih]

theorem mappings_ofCalls (calls : List ScanCall) :
    (Run.ofCalls calls).mappings = calls.flatMap ScanCall.batch := by
  rw [ofCalls_eq, mappings_add_empty]

theorem ofCalls_concat (before : List ScanCall) (call : ScanCall) :
    Run.ofCalls (before ++ [call]) = (Run.ofCalls before).add call.batch := by
  rw [Run.ofCalls, List.foldl_append, List.foldl_cons, List.foldl_nil, after_eq, Run.ofCalls]

theorem isBalanced_ofCalls (calls : List ScanCall) : (Run.ofCalls calls).isBalanced = true := by
  simp [ofCalls_eq, Run.isBalanced, Run.empty, Run.add]

/-- A call that fails adds nothing. -/
theorem batch_of_error {call : ScanCall} {e : BuildError} (h : call.mappings = .error e) :
    call.batch = [] := by
  simp [ScanCall.batch, h, Except.toOption]

/-- What a call adds it has resolved itself. -/
theorem resolved_of_mem_batch {call : ScanCall} {m : OutputMapping} (hm : m ∈ call.batch) :
    ∃ name c, call.Selects name m ∧ Candidate.ofName? name = some c ∧
      m.source = c.sourcePath call.sourceDir ∧
      ∃ time, resolveOutput call.files c call.dest = .ok (m.output, time) := by
  have hok : call.mappings.isOk = true := by
    cases hmappings : call.mappings with
    | ok found => rfl
    | error e => simp [batch_of_error hmappings] at hm
  obtain ⟨hfirst, hmappings⟩ := mappings_of_isOk hok
  rw [ScanCall.batch, hmappings] at hm
  obtain ⟨c, hc, rfl⟩ := List.mem_map.1 hm
  obtain ⟨hlisted, hout⟩ := List.mem_filter.1 hc
  obtain ⟨name, hname, hcandidate⟩ := List.mem_filterMap.1 hlisted
  refine ⟨name, c, (selects_iff hcandidate).2 ⟨hname, hok, hout, rfl⟩, hcandidate, rfl, ?_⟩
  -- a scan that fails nowhere does not fail on the way to this output
  have hone := firstFailure?_of_mem hname hfirst
  simp only [firstFailure?, candidates, List.filterMap_cons, hcandidate, List.filterMap_nil,
    List.flatMap_cons, List.flatMap_nil, List.append_nil, Candidate.lookedAt, List.findSome?_append,
    Option.or_eq_none_iff] at hone
  exact ⟨_, by rw [resolveOutput_eq, hone.1]; rfl⟩

/-- What one more call does to a run. -/
structure Run.Grown (run : Run) (call : ScanCall) (grown : Run) : Prop where
  /-- The call tells how many sources it added, or why it failed. -/
  told : run.scan call.files call.sourceDir call.dest call.names =
    (call.mappings.map List.length, grown)
  /-- It adds its batch to the lists as they were. -/
  added : grown = run.add call.batch
  sources : run.sources <+: grown.sources
  outputs : run.outputs <+: grown.outputs
  /-- There are as many outputs as sources. -/
  balanced : grown.isBalanced = true
  /-- A call that fails adds nothing. -/
  failed : ∀ e, call.mappings = .error e → grown = run

theorem grown_ofCalls (before : List ScanCall) (call : ScanCall) :
    (Run.ofCalls before).Grown call (Run.ofCalls (before ++ [call])) := by
  have hadd := ofCalls_concat before call
  refine ⟨?_, hadd, ?_, ?_, isBalanced_ofCalls _, fun e he => ?_⟩
  · rw [hadd, scan_eq, ScanCall.batch, ScanCall.mappings]
    cases staleMappings call.files call.sourceDir call.dest call.names with
    | error e => simp [Except.map, Except.toOption, Run.add]
    | ok found => rfl
  · rw [hadd]
    exact List.prefix_append _ _
  · rw [hadd]
    exact List.prefix_append _ _
  · rw [hadd, batch_of_error he]
    simp [Run.add]

/-- What a run is after calls. -/
structure Run.Concatenates (run : Run) (calls : List ScanCall) : Prop where
  /-- The pairs are those of the batches, in call order. -/
  mappings : run.mappings = calls.flatMap ScanCall.batch
  /-- No source is lost in the pairs, and no output. -/
  sources : run.sources = run.mappings.map OutputMapping.source
  outputs : run.outputs = run.mappings.map OutputMapping.output
  size : run.mappings.length = run.size
  /-- Each pair is of one call: it has the output that this call resolved for its source. -/
  resolved : ∀ m ∈ run.mappings, ∃ call ∈ calls, ∃ name c, call.Selects name m ∧
    Candidate.ofName? name = some c ∧ m.source = c.sourcePath call.sourceDir ∧
    ∃ time, resolveOutput call.files c call.dest = .ok (m.output, time)

theorem concatenates_ofCalls (calls : List ScanCall) : (Run.ofCalls calls).Concatenates calls := by
  have hmappings := mappings_ofCalls calls
  refine ⟨hmappings, ?_, ?_, ?_, fun m hm => ?_⟩
  · rw [hmappings, ofCalls_eq]
    simp [Run.add, Run.empty]
  · rw [hmappings, ofCalls_eq]
    simp [Run.add, Run.empty]
  · rw [hmappings, ofCalls_eq]
    simp [Run.size, Run.add, Run.empty]
  · rw [hmappings] at hm
    obtain ⟨call, hcall, hbatch⟩ := List.mem_flatMap.1 hm
    exact ⟨call, hcall, resolved_of_mem_batch hbatch⟩

/-! ## Source directories -/

/-- The call for a source directory: the directory can be listed and nothing fails in its scan. -/
def ScanCall.ofDir (tree : FileTree) (dest dir : Path) : Except BuildError ScanCall :=
  if tree.isDirectory dir then do
    let call : ScanCall := ⟨tree, dir, dest, ← tree.discover dir⟩
    let _ ← call.mappings
    return call
  else .error (.sourceDirNotFound dir)

theorem scanDirs_eq (tree : FileTree) (dest : Path) (dirs : List Path) (report : ScanReport) :
    BuildConfig.scanDirs tree dest dirs report =
      (dirs.mapM (ScanCall.ofDir tree dest)).map fun calls =>
        ⟨report.run.add (calls.flatMap ScanCall.batch),
          report.scanned + (calls.flatMap ScanCall.names).length⟩ := by
  induction dirs generalizing report with
  | nil => simp [BuildConfig.scanDirs, Except.map, pure, Except.pure, Run.add]
  | cons dir rest ih =>
    simp only [BuildConfig.scanDirs, List.mapM_cons, ScanCall.ofDir, Bool.not_eq_true', bind,
      Except.bind]
    cases hdir : tree.isDirectory dir with
    | false => rfl
    | true =>
      cases tree.discover dir with
      | error e => rfl
      | ok names =>
        have hmappings : (ScanCall.mappings ⟨tree, dir, dest, names⟩) =
            staleMappings tree dir dest names := rfl
        simp only [hmappings, scan_eq, if_true, Bool.true_eq_false, if_false]
        cases hfound : staleMappings tree dir dest names with
        | error e => rfl
        | ok found =>
          have hbatch : (ScanCall.batch ⟨tree, dir, dest, names⟩) = found := by
            rw [ScanCall.batch, hmappings, hfound]
            rfl
          simp only [ih, pure, Except.pure]
          cases rest.mapM (ScanCall.ofDir tree dest) with
          | error e => rfl
          | ok calls => simp [Except.map, Run.add, hbatch, Nat.add_assoc]

/-- The scan of a build is the run of the calls for its source directories. -/
theorem scan_eq_ofCalls (config : BuildConfig) (tree : FileTree) :
    config.scan tree = (config.sourceDirs.mapM (ScanCall.ofDir tree config.dest)).map fun calls =>
      ⟨Run.ofCalls calls, (calls.flatMap ScanCall.names).length⟩ := by
  simp [BuildConfig.scan, scanDirs_eq, ofCalls_eq]

theorem ofDir_eq_ok_iff {tree : FileTree} {dest dir : Path} {call : ScanCall} :
    ScanCall.ofDir tree dest dir = .ok call ↔
      tree.isDirectory dir = true ∧ ∃ names, tree.discover dir = .ok names ∧
        (staleMappings tree dir dest names).isOk = true ∧ call = ⟨tree, dir, dest, names⟩ := by
  simp only [ScanCall.ofDir, ScanCall.mappings, bind, Except.bind, pure, Except.pure]
  cases tree.isDirectory dir with
  | false => simp
  | true =>
    cases tree.discover dir with
    | error e => simp
    | ok names =>
      cases hfound : staleMappings tree dir dest names with
      | error e => simp [hfound, Except.isOk, Except.toBool]
      | ok found =>
        simp only [hfound, if_true, Except.ok.injEq, true_and]
        constructor
        · rintro rfl
          exact ⟨names, rfl, by rw [hfound]; rfl, rfl⟩
        · rintro ⟨_, rfl, -, rfl⟩
          rfl

theorem isOk_iff_exists {α ε : Type} {result : Except ε α} :
    result.isOk = true ↔ ∃ a, result = .ok a := by
  cases result <;> simp [Except.isOk, Except.toBool]

theorem isOk_ofDir_iff {tree : FileTree} {dest dir : Path} :
    (ScanCall.ofDir tree dest dir).isOk = true ↔
      tree.isDirectory dir = true ∧ ∃ names, tree.discover dir = .ok names ∧
        (staleMappings tree dir dest names).isOk = true := by
  rw [isOk_iff_exists]
  constructor
  · rintro ⟨call, hcall⟩
    obtain ⟨hdir, names, hnames, hok, -⟩ := ofDir_eq_ok_iff.1 hcall
    exact ⟨hdir, names, hnames, hok⟩
  · rintro ⟨hdir, names, hnames, hok⟩
    exact ⟨_, ofDir_eq_ok_iff.2 ⟨hdir, names, hnames, hok, rfl⟩⟩

/-- A traversal gives a result when every element does. -/
theorem isOk_mapM_iff {α β : Type} (f : α → Except BuildError β) (xs : List α) :
    (xs.mapM f).isOk = true ↔ ∀ x ∈ xs, (f x).isOk = true := by
  induction xs with
  | nil => simp [pure, Except.pure, Except.isOk, Except.toBool]
  | cons x rest ih =>
    rw [List.mapM_cons, List.forall_mem_cons, ← ih]
    cases f x with
    | error e => simp [bind, Except.bind, Except.isOk, Except.toBool]
    | ok y => cases rest.mapM f <;> simp [bind, Except.bind, pure, Except.pure, Except.isOk,
        Except.toBool]

/-- **Sources and ledger keep step.** Each call of a run adds its batch to both lists or leaves
both as they were. Therefore the run is the concatenation of the batches and its pairs are theirs.
The scan of a build is the run of one call for each source directory; there is none if a directory is
missing, cannot be listed or holds a file that cannot be looked at. -/
theorem ofCalls_lockstep :
    (∀ (before : List ScanCall) (call : ScanCall),
      (Run.ofCalls before).Grown call (Run.ofCalls (before ++ [call]))) ∧
    (∀ calls : List ScanCall, (Run.ofCalls calls).Concatenates calls) ∧
    ∀ (config : BuildConfig) (tree : FileTree),
      (config.scan tree = (config.sourceDirs.mapM (ScanCall.ofDir tree config.dest)).map
        fun calls => ⟨Run.ofCalls calls, (calls.flatMap ScanCall.names).length⟩) ∧
      ((config.scan tree).isOk = true ↔ ∀ dir ∈ config.sourceDirs,
        tree.isDirectory dir = true ∧ ∃ names, tree.discover dir = .ok names ∧
          (staleMappings tree dir config.dest names).isOk = true) := by
  refine ⟨grown_ofCalls, concatenates_ofCalls, fun config tree => ?_⟩
  have hscan := scan_eq_ofCalls config tree
  refine ⟨hscan, ?_⟩
  have hmap : (config.scan tree).isOk =
      (config.sourceDirs.mapM (ScanCall.ofDir tree config.dest)).isOk := by
    rw [hscan]
    cases config.sourceDirs.mapM (ScanCall.ofDir tree config.dest) <;> rfl
  rw [hmap, isOk_mapM_iff]
  simp only [isOk_ofDir_iff]

end StaleBuild
