import StaleBuild.Proofs.Selection

/-!
# Runs over several scans

A run is filled by scans of several directories, each with the files as they are at that moment
(`ScanCall`). A call adds its whole batch or nothing, so a run is the concatenation of the batches:

    Run.ofCalls calls = the mappings of all batches, in call order               (ofCalls_eq)

What one call does with one of its names is `ScanCall.Selects`.
-/

namespace StaleBuild

instance decidableEqExcept {ε α : Type} [DecidableEq ε] [DecidableEq α] : DecidableEq (Except ε α)
  | .ok a, .ok b => decidable_of_iff (a = b) (by simp)
  | .error a, .error b => decidable_of_iff (a = b) (by simp)
  | .ok _, .error _ => .isFalse nofun
  | .error _, .ok _ => .isFalse nofun

/-- A scan that is asked for: the files at that moment, and the names below a source directory. -/
structure ScanCall where
  files : FileTree
  sourceDir : Path
  dest : Path
  names : List Path

namespace ScanCall

/-- The mappings that a call comes to, unless a file cannot be looked at. -/
def mappings (call : ScanCall) : Except BuildError (List OutputMapping) :=
  staleMappings call.files call.sourceDir call.dest call.names

/-- The mappings that a call adds to a run. -/
def batch (call : ScanCall) : List OutputMapping := call.mappings.toOption.getD []

/-- The same call when the files have changed. -/
def on (call : ScanCall) (files : FileTree) : ScanCall := { call with files }

/-- A call selects a name with a mapping. -/
structure Selects (call : ScanCall) (name : Path) (m : OutputMapping) : Prop where
  listed : name ∈ call.names
  succeeds : call.mappings.isOk = true
  stale : staleMapping? call.files call.sourceDir call.dest name = .ok (some m)

instance (call : ScanCall) (name : Path) (m : OutputMapping) : Decidable (call.Selects name m) :=
  decidable_of_iff (name ∈ call.names ∧ call.mappings.isOk = true ∧
      staleMapping? call.files call.sourceDir call.dest name = .ok (some m))
    ⟨fun ⟨listed, succeeds, stale⟩ => ⟨listed, succeeds, stale⟩,
      fun ⟨listed, succeeds, stale⟩ => ⟨listed, succeeds, stale⟩⟩

end ScanCall

/-- The run after a call. -/
def Run.after (run : Run) (call : ScanCall) : Run :=
  (run.scan call.files call.sourceDir call.dest call.names).2

/-- The run that calls fill, from nothing. -/
def Run.ofCalls (calls : List ScanCall) : Run := calls.foldl Run.after .empty

theorem after_eq (run : Run) (call : ScanCall) : run.after call = run.add call.batch := by
  unfold Run.after ScanCall.batch ScanCall.mappings
  rw [scan_eq]
  cases staleMappings call.files call.sourceDir call.dest call.names with
  | error e => simp [Run.add, Except.toOption]
  | ok found => rfl

theorem foldl_after (run : Run) (calls : List ScanCall) :
    calls.foldl Run.after run = run.add (calls.flatMap ScanCall.batch) := by
  induction calls generalizing run with
  | nil => simp [Run.add]
  | cons call rest ih =>
    rw [List.foldl_cons, ih, after_eq]
    simp [Run.add]

/-- A run is the concatenation of its batches. -/
theorem ofCalls_eq (calls : List ScanCall) :
    Run.ofCalls calls = Run.empty.add (calls.flatMap ScanCall.batch) :=
  foldl_after .empty calls

/-! ## One name of a call -/

/-- A failure on the way to one name is a failure of the call. -/
theorem firstFailure?_of_mem {tree : FileTree} {sourceDir dest name : Path} {names : List Path}
    (hname : name ∈ names) (h : firstFailure? tree sourceDir dest names = none) :
    firstFailure? tree sourceDir dest [name] = none := by
  induction names with
  | nil => cases hname
  | cons first rest ih =>
    rw [firstFailure?_cons, Option.or_eq_none_iff] at h
    rcases List.mem_cons.1 hname with rfl | hrest
    · exact h.1
    · exact ih hrest h.2

/-- A call that succeeds comes to its selection. -/
theorem mappings_of_isOk {call : ScanCall} (h : call.mappings.isOk = true) :
    firstFailure? call.files call.sourceDir call.dest call.names = none ∧
      call.mappings = .ok (selection call.files call.sourceDir call.dest call.names) := by
  unfold ScanCall.mappings at h ⊢
  rw [staleMappings_eq] at h ⊢
  cases hfirst : firstFailure? call.files call.sourceDir call.dest call.names with
  | some e => simp [hfirst, Except.isOk, Except.toBool] at h
  | none => exact ⟨rfl, rfl⟩

/-- A name is selected when its candidate is outdated and no file fails. -/
theorem selects_iff {call : ScanCall} {name : Path} {c : Candidate} {m : OutputMapping}
    (hc : Candidate.ofName? name = some c) :
    call.Selects name m ↔
      name ∈ call.names ∧ call.mappings.isOk = true ∧
        c.isOutdated call.files call.sourceDir call.dest = true ∧
        m = c.mapping call.files call.sourceDir call.dest := by
  have hselection : (selection call.files call.sourceDir call.dest [name]).head? =
      if c.isOutdated call.files call.sourceDir call.dest then
        some (c.mapping call.files call.sourceDir call.dest) else none := by
    unfold selection candidates
    by_cases hout : c.isOutdated call.files call.sourceDir call.dest <;> simp [hc, hout]
  constructor
  · rintro ⟨hname, hok, hstale⟩
    refine ⟨hname, hok, ?_⟩
    rw [staleMapping?_eq, hselection] at hstale
    split at hstale
    · cases hstale
    · split at hstale
      · next hout => exact ⟨hout, by simpa [eq_comm] using hstale⟩
      · simp at hstale
  · rintro ⟨hname, hok, hout, rfl⟩
    refine ⟨hname, hok, ?_⟩
    rw [staleMapping?_eq, firstFailure?_of_mem hname (mappings_of_isOk hok).1, hselection,
      if_pos hout]

namespace ScanCall.Selects

variable {call : ScanCall} {name : Path} {m : OutputMapping}

/-- Only candidates are selected. -/
theorem candidate (h : call.Selects name m) : ∃ c, Candidate.ofName? name = some c := by
  have hstale := h.stale
  unfold staleMapping? at hstale
  split at hstale
  · cases hstale
  · next c hc => exact ⟨c, hc⟩

/-- What a call selects it adds to the run. -/
theorem mem_batch (h : call.Selects name m) : m ∈ call.batch := by
  obtain ⟨c, hc⟩ := h.candidate
  obtain ⟨hname, hok, hout, rfl⟩ := (selects_iff hc).1 h
  rw [batch, (mappings_of_isOk hok).2]
  exact List.mem_map.2 ⟨c, List.mem_filter.2 ⟨List.mem_filterMap.2 ⟨name, hname, hc⟩, hout⟩, rfl⟩

/-- The output of a selected name is in the ledger. -/
theorem output_mem {calls : List ScanCall} (hcall : call ∈ calls) (h : call.Selects name m) :
    m.output ∈ (Run.ofCalls calls).outputs := by
  rw [ofCalls_eq]
  refine List.mem_append_right _ (List.mem_map.2 ⟨m, ?_, rfl⟩)
  exact List.mem_flatMap.2 ⟨call, hcall, h.mem_batch⟩

/-- A run with a selected name is not empty. -/
theorem sources_ne_nil {calls : List ScanCall} (hcall : call ∈ calls) (h : call.Selects name m) :
    (Run.ofCalls calls).sources ≠ [] := by
  have hmem : m.source ∈ (Run.ofCalls calls).sources := by
    rw [ofCalls_eq]
    refine List.mem_append_right _ (List.mem_map.2 ⟨m, ?_, rfl⟩)
    exact List.mem_flatMap.2 ⟨call, hcall, h.mem_batch⟩
  exact List.ne_nil_of_mem hmem

end ScanCall.Selects

/-- A call that comes to nothing selects no name. -/
theorem ScanCall.not_selects_of_nil {call : ScanCall} {name : Path} (h : call.mappings = .ok []) :
    ¬∃ m, call.Selects name m := by
  rintro ⟨m, hm⟩
  have hmem := hm.mem_batch
  rw [batch, h] at hmem
  cases hmem

end StaleBuild
