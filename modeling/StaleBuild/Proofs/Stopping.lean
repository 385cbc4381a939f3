import StaleBuild.Proofs.Files.Paving
import StaleBuild.Proofs.Independence

/-!
# Builds that end ahead of their compilation

A build that does not come to compile ends where the first thing goes wrong, in this order: something
else stands at the destination, a directory of the destination cannot be made, an artefact root cannot
be walked, a source directory cannot be scanned (`EndsAhead`).

    config.build base w = (.error (.error e), after), and e is no fault of the compiler
        ↔  EndsAhead config w e after                                        (build_ends_ahead_iff)

The base has no part in it, so the compiler is not asked for anything. The files are as they were but
for directories on the way of the destination, and the published index is the one that was there, or
the one over the artefact roots if all of them were walked (`LeftAlone`).
-/

namespace StaleBuild

variable {σ : Type}

theorem mapM_eq_flatMapM {α β ε : Type} (f : α → Except ε β) (xs : List α) :
    xs.mapM f = xs.flatMapM fun x => (f x).map fun b => [b] := by
  induction xs with
  | nil => rfl
  | cons x rest ih =>
    rw [List.mapM_cons, List.flatMapM_cons, ih]
    cases f x <;> rfl

/-- A traversal fails where the first element does. -/
theorem mapM_eq_error_iff {α β ε : Type} {f : α → Except ε β} {xs : List α} {e : ε} :
    xs.mapM f = .error e ↔ ∃ earlier x later, xs = earlier ++ x :: later ∧
      (∀ y ∈ earlier, ∃ b, f y = .ok b) ∧ f x = .error e := by
  have hok (y : α) : (∃ part, (f y).map (fun b => [b]) = .ok part) ↔ ∃ b, f y = .ok b := by
    cases f y <;> simp [Except.map]
  have herror (y : α) : (f y).map (fun b => [b]) = .error e ↔ f y = .error e := by
    cases f y <;> simp [Except.map]
  rw [mapM_eq_flatMapM, flatMapM_eq_error_iff]
  simp only [hok, herror]

/-! ## What a file system refuses -/

/-- A failure to look at a path. -/
def BuildError.AtPath (e : BuildError) : Prop := ∃ path cause, e = .file path cause

namespace FileTree

variable {tree : FileTree} {e : BuildError}

theorem atPath_of_sight {chain : List Location} {dir : Location} {name : Bytes} {path : Path}
    (h : tree.sight chain dir name path = .error e) : e.AtPath := by
  unfold sight at h
  split at h
  · cases h
    exact ⟨path, .notFound, rfl⟩
  · split at h
    · cases h
    · cases h
    · split at h
      · next cause _ =>
        cases h
        exact ⟨path, cause, rfl⟩
      · cases h
    · split at h
      · next cause _ =>
        cases h
        exact ⟨path, cause, rfl⟩
      · split at h
        · cases h
        · split at h <;> cases h

theorem atPath_of_filesWithin {fuel : Nat} {chain : List Location} {dir : Location}
    {path relative : Path} (h : tree.filesWithin fuel chain dir path relative = .error e) :
    e.AtPath := by
  induction fuel generalizing chain dir path relative with
  | zero => cases h
  | succ fuel ih =>
    rw [filesWithin_succ] at h
    obtain ⟨-, name, -, -, -, hname⟩ := flatMapM_eq_error_iff.1 h
    unfold filesAt at hname
    split at hname
    · next hsight =>
      cases hname
      exact atPath_of_sight hsight
    · cases hname
    · exact ih hname
    · cases hname

theorem atPath_of_discover {dir : Path} (h : tree.discover dir = .error e) : e.AtPath := by
  unfold discover at h
  split at h
  · next cause _ =>
    cases h
    exact ⟨dir, cause, rfl⟩
  · split at h
    · exact atPath_of_filesWithin h
    · cases h

theorem atPath_of_failure? {p : Path} (h : tree.failure? p = some e) : e.AtPath := by
  obtain ⟨_, hstat⟩ | hstat | ⟨cause, -, hfails⟩ := tree.stat_cases p
  · simp [failure?, hstat] at h
  · simp [failure?, hstat] at h
  · exact ⟨p, cause, Option.some.inj (h.symm.trans hfails)⟩

end FileTree

/-- A source directory that cannot be scanned is missing, or something in it cannot be looked at. -/
theorem ScanCall.ofDir_eq_error {tree : FileTree} {dest dir : Path} {e : BuildError}
    (h : ofDir tree dest dir = .error e) : e = .sourceDirNotFound dir ∨ e.AtPath := by
  simp only [ofDir, mappings, staleMappings_eq, bind, Except.bind, pure, Except.pure] at h
  split at h
  · split at h
    · next hnames =>
      cases h
      exact .inr (FileTree.atPath_of_discover hnames)
    · split at h
      · next hfound =>
        cases h
        split at hfound
        · next hfirst =>
          cases hfound
          obtain ⟨p, -, hp⟩ := List.exists_of_findSome?_eq_some hfirst
          exact .inr (FileTree.atPath_of_failure? hp)
        · cases hfound
      · cases h
  · cases h
    exact .inl rfl

/-! ## Where a build ends -/

namespace BuildConfig

variable {config : BuildConfig} {w : World σ}

/-- How a build ends ahead of its compilation, with the world that it leaves. -/
inductive EndsAhead (config : BuildConfig) (w : World σ) : BuildError → World σ → Prop where
  /-- Something that is no directory stands at the destination. -/
  | invalid : w.files.isPresent config.dest = true → w.files.isDirectory config.dest = false →
      EndsAhead config w (.invalidDestination config.dest) w
  /-- The destination cannot be made; some directories of it may have been. -/
  | unmakeable (cause : FileError) (files : FileTree) :
      ¬(w.files.isPresent config.dest = true ∧ w.files.isDirectory config.dest = false) →
      w.files.makeDirectories config.dest w.clock = (.error cause, files) →
      EndsAhead config w (.file config.dest cause) { w.tick with files }
  /-- The destination is there, and of the artefact roots up to one that cannot be walked all others
  can. -/
  | unwalkable (prepared : World σ) (earlier later : List Path) (root : Path) (e : BuildError) :
      config.prepareDestination w = (.ok (), prepared) →
      config.artefactRoots = earlier ++ root :: later →
      (∀ r ∈ earlier, ∃ names, prepared.files.discover r = .ok names) →
      prepared.files.discover root = .error e → EndsAhead config w e prepared
  /-- All artefact roots were walked, and of the source directories up to one that cannot be scanned
  all others can. -/
  | unscannable (prepared scanned : World σ) (index : Option ArtefactIndex)
      (earlier later : List Path) (dir : Path) (e : BuildError) :
      config.prepareDestination w = (.ok (), prepared) →
      config.publishArtefacts prepared = (.ok index, scanned) →
      config.sourceDirs = earlier ++ dir :: later →
      (∀ d ∈ earlier, ∃ call, ScanCall.ofDir prepared.files config.dest d = .ok call) →
      ScanCall.ofDir prepared.files config.dest dir = .error e → EndsAhead config w e scanned

theorem scan_eq_error_iff {tree : FileTree} {e : BuildError} :
    config.scan tree = .error e ↔ ∃ earlier dir later, config.sourceDirs = earlier ++ dir :: later ∧
      (∀ d ∈ earlier, ∃ call, ScanCall.ofDir tree config.dest d = .ok call) ∧
      ScanCall.ofDir tree config.dest dir = .error e := by
  rw [← mapM_eq_error_iff, scan_eq_ofCalls]
  cases config.sourceDirs.mapM (ScanCall.ofDir tree config.dest) <;> simp [Except.map]

theorem prepareDestination_of_invalid (hpresent : w.files.isPresent config.dest = true)
    (hdirectory : w.files.isDirectory config.dest = false) :
    config.prepareDestination w = (.error (.invalidDestination config.dest), w) := by
  simp [prepareDestination, hpresent, hdirectory]

theorem prepareDestination_of_unmakeable {cause : FileError} {files : FileTree}
    (hvalid : ¬(w.files.isPresent config.dest = true ∧ w.files.isDirectory config.dest = false))
    (hmade : w.files.makeDirectories config.dest w.clock = (.error cause, files)) :
    config.prepareDestination w = (.error (.file config.dest cause), { w.tick with files }) := by
  have hvalid' : ¬(w.files.isPresent config.dest = true ∧
      (!w.files.isDirectory config.dest) = true) := by simpa using hvalid
  simp only [prepareDestination, if_neg hvalid', hmade]

/-- A destination that is not prepared is invalid or cannot be made. -/
theorem endsAhead_of_prepareDestination {e : BuildError} {after : World σ}
    (h : config.prepareDestination w = (.error e, after)) : EndsAhead config w e after := by
  unfold prepareDestination at h
  split at h
  · next hinvalid =>
    cases h
    exact .invalid hinvalid.1 (by simpa using hinvalid.2)
  · next hvalid =>
    split at h
    · cases h
    · next cause files hmade =>
      cases h
      exact .unmakeable cause files (by simpa using hvalid) hmade

/-- Artefacts are not published if a root cannot be walked. -/
theorem publishArtefacts_eq_error_iff {e : BuildError} {after : World σ} :
    config.publishArtefacts w = (.error e, after) ↔ after = w ∧ ∃ earlier root later,
      config.artefactRoots = earlier ++ root :: later ∧
      (∀ r ∈ earlier, ∃ names, w.files.discover r = .ok names) ∧
      w.files.discover root = .error e := by
  simp only [← artefactsBelow_isOk_iff, ← artefactsBelow_eq_error_iff]
  rw [← flatMapM_eq_error_iff]
  unfold publishArtefacts
  by_cases hroots : config.artefactRoots = []
  · simp [hroots, pure, Except.pure]
  · rw [if_neg hroots]
    cases config.artefactRoots.flatMapM (artefactsBelow w.files) <;> simp [eq_comm, and_comm]

/-- Artefacts that are published are those below all roots. -/
theorem publishArtefacts_eq_ok {index : Option ArtefactIndex} {after : World σ}
    (h : config.publishArtefacts w = (.ok index, after)) :
    config.artefactRoots = [] ∧ after = w ∨
      config.artefactRoots ≠ [] ∧ ∃ walked,
        (∀ root ∈ config.artefactRoots, w.files.discover root = .ok (walked root)) ∧
        after = w.publish (groovyFiles walked config.artefactRoots) := by
  unfold publishArtefacts at h
  split at h
  · next hroots =>
    cases h
    exact .inl ⟨hroots, rfl⟩
  · next hroots =>
    split at h
    · cases h
    · next resources hresources =>
      cases h
      obtain ⟨hall, hflat⟩ := flatMapM_eq_ok_iff.1 hresources
      let walked (root : Path) : List Path := (w.files.discover root).toOption.getD []
      have hwalked : ∀ root ∈ config.artefactRoots,
          w.files.discover root = .ok (walked root) := fun root hroot => by
        obtain ⟨names, hnames⟩ := artefactsBelow_isOk_iff.1 (hall root hroot)
        simp [walked, hnames, Except.toOption]
      refine .inr ⟨hroots, walked, hwalked, ?_⟩
      rw [hflat, groovyFiles]
      congr 1
      refine List.flatMap_congr fun root hroot => ?_
      simp only [artefactsBelow, hwalked root hroot, Except.toOption, Option.getD_some]

theorem files_of_publishArtefacts {index : Except BuildError (Option ArtefactIndex)}
    {after : World σ} (h : config.publishArtefacts w = (index, after)) : after.files = w.files := by
  have hkept := files_publishArtefacts config w
  rwa [h] at hkept

/-- A build that ends ahead of its compilation does so whatever the compiler. -/
theorem EndsAhead.build_eq {e : BuildError} {after : World σ} (h : EndsAhead config w e after)
    (base : Compiler σ) : config.build base w = (.error (.error e), after) := by
  cases h with
  | invalid hpresent hdirectory =>
    simp only [build, prepareDestination_of_invalid hpresent hdirectory]
  | unmakeable cause files hvalid hmade =>
    simp only [build, prepareDestination_of_unmakeable hvalid hmade]
  | unwalkable prepared earlier later root e hprepared hsplit hearlier hroot =>
    have hpublished := publishArtefacts_eq_error_iff.2
      ⟨rfl, earlier, root, later, hsplit, hearlier, hroot⟩
    simp only [build, hprepared, hpublished]
  | unscannable prepared scanned index earlier later dir e hprepared hpublished hsplit hearlier
      hdir =>
    have hscan := scan_eq_error_iff.2 ⟨earlier, dir, later, hsplit, hearlier, hdir⟩
    rw [← files_of_publishArtefacts hpublished] at hscan
    simp only [build, hprepared, hpublished, hscan]

/-- Why a build ends ahead of its compilation. -/
theorem EndsAhead.cause {e : BuildError} {after : World σ} (h : EndsAhead config w e after) :
    e = .invalidDestination config.dest ∧ after = w ∨
      (∃ dir ∈ config.sourceDirs, e = .sourceDirNotFound dir) ∨ e.AtPath := by
  cases h with
  | invalid => exact .inl ⟨rfl, rfl⟩
  | unmakeable cause => exact .inr (.inr ⟨config.dest, cause, rfl⟩)
  | unwalkable prepared earlier later root e hprepared hsplit hearlier hroot =>
    exact .inr (.inr (FileTree.atPath_of_discover hroot))
  | unscannable prepared scanned index earlier later dir e hprepared hpublished hsplit hearlier
      hdir =>
    obtain hmissing | hpath := ScanCall.ofDir_eq_error hdir
    · exact .inr (.inl ⟨dir, by rw [hsplit]; simp, hmissing⟩)
    · exact .inr (.inr hpath)

end BuildConfig

/-- An execution gives a fault of the compiler, if it gives an error. -/
theorem Execution.exists_fault {compiler : Compiler σ} {dest : Path} {run : Run}
    {w after : World σ} {e : BuildError}
    (h : ofRun compiler dest run w = (.error (.error e), after)) :
    ∃ message trace, e = .compilerFault message trace := by
  by_cases hrun : run.sources = []
  · rw [ofRun_empty compiler dest w hrun] at h
    cases h
  · rw [ofRun_eq compiler dest w hrun] at h
    obtain ⟨hresult, -⟩ := Prod.mk.inj h
    generalize (exitOf compiler run.sources dest w.tick).1 = exit at hresult
    cases exit with
    | unitFailed e =>
      cases hresult
      exact ⟨_, _, rfl⟩
    | faulted f =>
      cases hresult
      exact ⟨_, _, rfl⟩
    | succeeded injected => cases hresult
    | diagnosed d injected => cases hresult
    | panicked message => cases hresult

namespace BuildConfig

variable {config : BuildConfig} {w : World σ}

/-- A build fails without a fault of its compiler exactly if it ends ahead of the compilation. -/
theorem build_ends_ahead_iff {base : Compiler σ} {e : BuildError} {after : World σ} :
    (config.build base w = (.error (.error e), after) ∧
        ∀ message trace, e ≠ .compilerFault message trace) ↔ EndsAhead config w e after := by
  constructor
  · rintro ⟨h, hfault⟩
    unfold build at h
    split at h
    · next hprepared =>
      cases h
      exact endsAhead_of_prepareDestination hprepared
    · next prepared hprepared =>
      split at h
      · next hpublished =>
        cases h
        obtain ⟨rfl, earlier, root, later, hsplit, hearlier, hroot⟩ :=
          publishArtefacts_eq_error_iff.1 hpublished
        exact .unwalkable _ earlier later root _ hprepared hsplit hearlier hroot
      · next index scanned hpublished =>
        split at h
        · next hscan =>
          cases h
          rw [files_of_publishArtefacts hpublished] at hscan
          obtain ⟨earlier, dir, later, hsplit, hearlier, hdir⟩ := scan_eq_error_iff.1 hscan
          exact .unscannable prepared _ index earlier later dir _ hprepared hpublished hsplit
            hearlier hdir
        · split at h
          · next hran =>
            cases h
            obtain ⟨message, trace, rfl⟩ := Execution.exists_fault hran
            exact absurd rfl (hfault message trace)
          · cases h
  · intro h
    refine ⟨h.build_eq base, ?_⟩
    rintro message trace rfl
    obtain ⟨hinvalid, -⟩ | ⟨dir, -, hmissing⟩ | ⟨path, cause, hpath⟩ := h.cause
    · cases hinvalid
    · cases hmissing
    · cases hpath

end BuildConfig

/-! ## What it leaves -/

/-- The world with another memory. -/
def World.remembering {τ : Type} (w : World σ) (memory : τ) : World τ :=
  ⟨w.files, w.clock, w.published, memory⟩

namespace BuildConfig

variable {config : BuildConfig} {w after : World σ} {e : BuildError}

theorem prepareDestination_remembering {τ : Type} (memory : τ) :
    config.prepareDestination (w.remembering memory) =
      ((config.prepareDestination w).1, (config.prepareDestination w).2.remembering memory) := by
  have hfiles : (w.remembering memory).files = w.files := rfl
  have hclock : (w.remembering memory).clock = w.clock := rfl
  unfold prepareDestination
  rw [hfiles, hclock]
  split
  · rfl
  · cases w.files.makeDirectories config.dest w.clock with
    | mk made files => cases made <;> rfl

theorem publishArtefacts_remembering {τ : Type} (memory : τ) :
    config.publishArtefacts (w.remembering memory) =
      ((config.publishArtefacts w).1, (config.publishArtefacts w).2.remembering memory) := by
  have hfiles : (w.remembering memory).files = w.files := rfl
  unfold publishArtefacts
  rw [hfiles]
  split
  · rfl
  · cases config.artefactRoots.flatMapM (artefactsBelow w.files) <;> rfl

/-- Nothing of it hangs on what compilers remember. -/
theorem EndsAhead.remembering {τ : Type} (h : EndsAhead config w e after) (memory : τ) :
    EndsAhead config (w.remembering memory) e (after.remembering memory) := by
  cases h with
  | invalid hpresent hdirectory => exact .invalid hpresent hdirectory
  | unmakeable cause files hvalid hmade => exact .unmakeable cause files hvalid hmade
  | unwalkable prepared earlier later root e hprepared hsplit hearlier hroot =>
    refine .unwalkable _ earlier later root e ?_ hsplit hearlier hroot
    rw [prepareDestination_remembering, hprepared]
  | unscannable prepared scanned index earlier later dir e hprepared hpublished hsplit hearlier
      hdir =>
    refine .unscannable (prepared.remembering memory) _ index earlier later dir e ?_ ?_ hsplit
      hearlier hdir
    · rw [prepareDestination_remembering, hprepared]
    · rw [publishArtefacts_remembering, hpublished]

/-- What a build that fails with `e` leaves, if it ends ahead of its compilation. -/
structure LeftAlone (config : BuildConfig) (w : World σ) (e : BuildError) (after : World σ) :
    Prop where
  /-- No compiler is asked for a unit or called: whichever it is and whatever it remembers, the build
  ends alike and it remembers no more. -/
  unasked : ∀ {τ : Type} (base : Compiler τ) (memory : τ),
    config.build base (w.remembering memory) = (.error (.error e), after.remembering memory)
  memory : after.memory = w.memory
  /-- The clock was read once, for the destination, or not at all. -/
  clock : after.clock = w.clock ∨ after.clock = w.tick.clock
  paved : Paved config.dest w.clock w.files after.files
  /-- No file was made, changed or stamped, and no link. -/
  untouched : ∀ loc (entry : Entry), entry.node ≠ .directory →
    (after.files.get? loc = some entry ↔ w.files.get? loc = some entry)
  /-- An index is published when all artefact roots were walked, and that is the one over them. -/
  published : after.published = w.published ∨ config.artefactRoots ≠ [] ∧
    ∃ (prepared : World σ) (walked : Path → List Path),
      config.prepareDestination w = (.ok (), prepared) ∧
      (∀ root ∈ config.artefactRoots, prepared.files.discover root = .ok (walked root)) ∧
      after.published = some (.ofResources (groovyFiles walked config.artefactRoots))
  invalid : ∀ dir, e = .invalidDestination dir → after = w

/-- What is left is what preparing the destination has left, or that with an index published. -/
theorem EndsAhead.exists_prepared (h : EndsAhead config w e after) :
    ∃ result prepared, config.prepareDestination w = (result, prepared) ∧
      (after = prepared ∨ result = .ok () ∧ config.artefactRoots ≠ [] ∧ ∃ walked,
        (∀ root ∈ config.artefactRoots, prepared.files.discover root = .ok (walked root)) ∧
        after = prepared.publish (groovyFiles walked config.artefactRoots)) := by
  cases h with
  | invalid hpresent hdirectory =>
    exact ⟨_, w, prepareDestination_of_invalid hpresent hdirectory, .inl rfl⟩
  | unmakeable cause files hvalid hmade =>
    exact ⟨_, _, prepareDestination_of_unmakeable hvalid hmade, .inl rfl⟩
  | unwalkable prepared earlier later root e hprepared =>
    exact ⟨_, _, hprepared, .inl rfl⟩
  | unscannable prepared scanned index earlier later dir e hprepared hpublished =>
    refine ⟨_, prepared, hprepared, ?_⟩
    obtain ⟨-, hsame⟩ | ⟨hroots, walked, hwalked, hheld⟩ := publishArtefacts_eq_ok hpublished
    · exact .inl hsame
    · exact .inr ⟨rfl, hroots, walked, hwalked, hheld⟩

/-- What preparing the destination leaves, whether it goes well or not. -/
theorem prepareDestination_paved (hsound : w.files.Sound) {result : Except BuildError Unit}
    (h : config.prepareDestination w = (result, after)) :
    after.memory = w.memory ∧ (after.clock = w.clock ∨ after.clock = w.tick.clock) ∧
      Paved config.dest w.clock w.files after.files ∧ after.published = w.published := by
  unfold prepareDestination at h
  split at h
  · cases h
    exact ⟨rfl, .inl rfl, .refl .., rfl⟩
  · have hpaved := (hsound.paved_makeDirectories hsound.distinct config.dest w.clock).1
    split at h
    · next files hmade =>
      cases h
      rw [hmade] at hpaved
      exact ⟨rfl, .inr rfl, hpaved, rfl⟩
    · next cause files hmade =>
      cases h
      rw [hmade] at hpaved
      exact ⟨rfl, .inr rfl, hpaved, rfl⟩

theorem EndsAhead.leftAlone (h : EndsAhead config w e after) (hsound : w.files.Sound) :
    LeftAlone config w e after := by
  obtain ⟨result, prepared, hprepared, hafter⟩ := h.exists_prepared
  obtain ⟨hmemory, hclock, hpaved, hpublished⟩ := prepareDestination_paved hsound hprepared
  have hrest : after.memory = prepared.memory ∧ after.clock = prepared.clock ∧
      after.files = prepared.files := by
    obtain rfl | ⟨-, -, walked, -, rfl⟩ := hafter <;> exact ⟨rfl, rfl, rfl⟩
  obtain ⟨hmemory', hclock', hfiles⟩ := hrest
  rw [← hfiles] at hpaved
  refine ⟨fun base memory => (h.remembering memory).build_eq base, hmemory'.trans hmemory,
    by rwa [hclock'], hpaved, fun loc entry => hpaved.get?_eq_some_iff, ?_, ?_⟩
  · obtain rfl | ⟨rfl, hroots, walked, hwalked, rfl⟩ := hafter
    · exact .inl hpublished
    · exact .inr ⟨hroots, prepared, walked, hprepared, hwalked, rfl⟩
  · rintro dir rfl
    obtain ⟨-, hsame⟩ | ⟨_, -, hmissing⟩ | ⟨_, _, hpath⟩ := h.cause
    · exact hsame
    · cases hmissing
    · cases hpath

/-- **A build that fails ahead of its compilation leaves outputs alone.** It fails at the first thing
in its way, of the destination, the artefact roots and the source directories in this order, and all
that it leaves is directories on the way of the destination and, if all artefact roots were walked,
their index. -/
theorem early_end_leaves_outputs (config : BuildConfig) (base : Compiler σ) {w : World σ}
    (hsound : w.files.Sound) (e : BuildError) (after : World σ) :
    (config.build base w = (.error (.error e), after) ∧
        (∀ message trace, e ≠ .compilerFault message trace) ↔ EndsAhead config w e after) ∧
      (EndsAhead config w e after → LeftAlone config w e after) :=
  ⟨build_ends_ahead_iff, fun h => h.leftAlone hsound⟩

end BuildConfig

namespace Rehearsal

/-- A project without its source directory; the destination is still to be made. -/
def barrenConfig : BuildConfig := ⟨[.ofString "src"], .ofString "out/classes", [appDir]⟩

def barrenStage : Stage := staged [.file deepBook shopText 20] 100

def barrenPrepared : Stage := (barrenConfig.prepareDestination barrenStage).2

theorem barren_published : barrenConfig.publishArtefacts barrenPrepared =
    (.ok (some (.ofResources [deepBook])), barrenPrepared.publish [deepBook]) := by
  have hbelow : BuildConfig.artefactsBelow barrenPrepared.files appDir = .ok [deepBook] := by
    decide +kernel
  have hroots : barrenConfig.artefactRoots = [appDir] := rfl
  simp [BuildConfig.publishArtefacts, hroots, hbelow, World.publish]

end Rehearsal

open Rehearsal

/-- The artefacts were walked and the destination made when the source directory proved missing. -/
theorem barren_build_leaves_outputs :
    let missing := BuildError.sourceDirNotFound (.ofString "src")
    let left := barrenPrepared.publish [deepBook]
    (barrenStage.files.Sound ∧ barrenConfig.EndsAhead barrenStage missing left) ∧
      barrenConfig.build idleProgram barrenStage = (.error (.error missing), left) ∧
      barrenConfig.LeftAlone barrenStage missing left ∧
      left.files.isDirectory barrenConfig.dest = true ∧
      barrenStage.files.isPresent barrenConfig.dest = false := by
  intro missing left
  have hsound : barrenStage.files.Sound := by decide +kernel
  have hprepared : barrenConfig.prepareDestination barrenStage = (.ok (), barrenPrepared) := by
    have hdone : (barrenConfig.prepareDestination barrenStage).1 = .ok () := by decide +kernel
    rw [← hdone]
    rfl
  have hmissing : ScanCall.ofDir barrenPrepared.files barrenConfig.dest (.ofString "src") =
      .error missing := by
    have hdirectory : barrenPrepared.files.isDirectory (.ofString "src") = false := by
      decide +kernel
    rw [ScanCall.ofDir, hdirectory]
    rfl
  have hends : barrenConfig.EndsAhead barrenStage missing left :=
    .unscannable barrenPrepared left _ [] [] _ _ hprepared barren_published rfl
      (List.forall_mem_nil _) hmissing
  obtain ⟨hbuild, hleft⟩ :=
    BuildConfig.early_end_leaves_outputs barrenConfig idleProgram hsound missing left
  exact ⟨⟨hsound, hends⟩, (hbuild.2 hends).1, hleft hends, by decide +kernel, by decide +kernel⟩

end StaleBuild
