import StaleBuild.Proofs.Files.Rewalking
import StaleBuild.Proofs.Idleness

/-!
# A scan predicts a build

A build makes its destination, publishes artefacts and then scans. If the destination was there, the
files are as they were. If it was not, the tree has sprouted and the destination is bare:

    tree —make the destination→ after

    the source directories hold the files that they held                     (discover_sprouted)
    a source looks as it looked                                              (stat_below)
    no class file is found in after, and none was in tree                    (lost_in_bare)

So a scan of after gives the report that a scan of tree gives, or it comes to a class file whose path
cannot be looked at now that a directory leads to it, or its walk comes to a directory of the
destination by a path that is too long                                       (scanDirs_repeats).
-/

namespace StaleBuild

open StaleBuild.Path (Step)

/-! ## Failures that are new -/

/-- A path that could be looked at, or was missing, cannot be looked at any more. -/
def Breaks (tree after : FileTree) (e : BuildError) : Prop :=
  ∃ p, tree.failure? p = none ∧ after.failure? p = some e

/-- A scan of some directories fails on a path that it looks at, or its walk does. -/
def Hinders (tree after : FileTree) (dirs : List Path) (e : BuildError) : Prop :=
  Breaks tree after e ∨ ∃ dir ∈ dirs, TooDeep tree after dir e

theorem Hinders.of_tail {tree after : FileTree} {dir : Path} {rest : List Path} {e : BuildError}
    (h : Hinders tree after rest e) : Hinders tree after (dir :: rest) e := by
  rcases h with hbreaks | ⟨later, hlater, hdeep⟩
  · exact .inl hbreaks
  · exact .inr ⟨later, .tail _ hlater, hdeep⟩

/-! ## Names of candidates -/

namespace Candidate

variable {c : Candidate}

theorem bytes_name_ne_nil (c : Candidate) : c.name.bytes ≠ [] :=
  List.append_ne_nil_of_left_ne_nil c.base_ne_nil _

/-- The name of a source does not ask for a directory. -/
theorem endsInSeparator_name (c : Candidate) : c.name.endsInSeparator = false := by
  have hlast : c.name.bytes.getLast? = c.kind.suffix.getLast? :=
    getLast?_of_suffix (List.suffix_append _ _) (List.cons_ne_nil _ _)
  unfold Path.endsInSeparator
  rw [hlast]
  cases c.kind <;> decide

/-- What ends like a class file is neither idle nor leads upwards. -/
theorem append_classSuffix_ne (stem : Bytes) {bytes : Bytes} (hshort : bytes.length ≤ 2) :
    stem ++ classSuffix ≠ bytes := by
  intro heq
  have hlength := congrArg List.length heq
  have hsuffix : classSuffix.length = 6 := by decide
  rw [List.length_append] at hlength
  omega

/-- What ends like a class file is a name to go into. -/
theorem stepOf?_class (stem : Bytes) :
    Path.stepOf? (stem ++ classSuffix) = some (.into (stem ++ classSuffix)) := by
  have hne {bytes : Bytes} (hshort : bytes.length ≤ 2) : stem ++ classSuffix ≠ bytes :=
    append_classSuffix_ne stem hshort
  rw [Path.stepOf?, if_neg (hne (Nat.zero_le _)), if_neg (hne (by decide)), if_neg (hne (by decide))]

theorem separator_notMem_classSuffix : Path.separator ∉ classSuffix := by decide

/-- A class file at the root of a directory is one step into it. -/
theorem steps_class {stem : Bytes} (h : Path.separator ∉ stem) :
    (⟨stem ++ classSuffix⟩ : Path).steps = [.into (stem ++ classSuffix)] := by
  rw [Path.steps, Path.segments_of_separator_notMem (by simp [h, separator_notMem_classSuffix]),
    List.filterMap_cons, stepOf?_class]
  rfl

/-- If a source lies in a directory, its class file does. -/
theorem steps_packageOutput {first : Bytes} {more : List Step}
    (habsolute : c.name.isAbsolute = false) (hsteps : c.name.steps = .into first :: more) :
    ∃ first' more', c.packageOutput.steps = .into first' :: more' := by
  by_cases hflat : Path.separator ∈ c.base
  · obtain ⟨front, rest, hbase, hfront⟩ := List.eq_append_cons_of_mem hflat
    have hcut (behind : Bytes) : (⟨c.base ++ behind⟩ : Path).steps =
        (Path.stepOf? front).toList ++ (⟨rest ++ behind⟩ : Path).steps := by
      rw [hbase, List.append_assoc, List.cons_append, Path.steps_append_separator hfront]
    have hne : front ≠ [] := by
      rintro rfl
      rw [Path.isAbsolute, Candidate.name, hbase] at habsolute
      cases habsolute
    obtain ⟨step, hstep⟩ := Path.exists_stepOf? hne
    rw [Candidate.name, hcut, hstep] at hsteps
    obtain ⟨rfl, -⟩ := List.cons.inj hsteps
    exact ⟨first, _, by rw [packageOutput, hcut, hstep]; rfl⟩
  · exact ⟨_, [], steps_class hflat⟩

end Candidate

/-! ## Scanning with a destination that was made -/

section
variable {tree after : FileTree} {dest : Path} {loc : Location}

/-- Nothing is found below a destination that is bare. -/
theorem lost_in_bare (hleads : after.LeadsTo dest loc) (hbare : after.Bare loc) {out : Path}
    (hout : out.isAbsolute = false) {first : Bytes} {more : List Step}
    (hsteps : out.steps = .into first :: more) (found : Location × Entry) :
    after.find (dest.join out) ≠ .ok found := by
  have hjoin : (dest.join out).steps = dest.steps ++ [] ++ .into first :: more := by
    rw [Path.steps_join hout, hsteps, List.append_nil]
  exact hleads.find_ne_ok hbare (Path.isAbsolute_join hout) (List.forall_mem_nil _) hjoin found

theorem timeOf?_of_lost {p : Path} (hlost : ∀ found, tree.find p ≠ .ok found) :
    tree.timeOf? p = none := by
  unfold FileTree.timeOf? FileTree.stat
  cases hfind : tree.find p with
  | error cause => rfl
  | ok found => exact absurd hfind (hlost found)

namespace Sprouted

/-- What is not found was not found before; it is missing still, or cannot be looked at. -/
theorem modifiedTime_repeats (h : Sprouted tree after) {p : Path}
    (hlost : ∀ found, after.find p ≠ .ok found) :
    Repeats (Breaks tree after) (modifiedTime tree p) (modifiedTime after p) := by
  have hlost' (found : Location × Entry) : tree.find p ≠ .ok found := fun hfind => by
    obtain ⟨e, hkept, -⟩ := h.toKept.find_kept hfind
    exact hlost _ hkept
  intro t ht
  rw [modifiedTime_eq, timeOf?_of_lost hlost'] at ht
  rw [modifiedTime_eq, timeOf?_of_lost hlost]
  cases hold : tree.failure? p with
  | some e => rw [hold] at ht; cases ht
  | none =>
    rw [hold] at ht
    cases hnew : after.failure? p with
    | none => exact .inl ht
    | some e => exact .inr ⟨e, rfl, p, hold, hnew⟩

theorem resolveOutput_repeats (h : Sprouted tree after) (hleads : after.LeadsTo dest loc)
    (hbare : after.Bare loc) {c : Candidate} (hpackage : c.packageOutput.isAbsolute = false)
    {first : Bytes} {more : List Step} (hsteps : c.packageOutput.steps = .into first :: more) :
    Repeats (Breaks tree after) (resolveOutput tree c dest) (resolveOutput after c dest) := by
  have hplain : Path.separator ∉ c.simpleBase := fun hmem =>
    Candidate.ne_separator_of_mem_simpleBase hmem rfl
  unfold resolveOutput
  refine (h.modifiedTime_repeats (lost_in_bare hleads hbare hpackage hsteps)).bind fun t _ => ?_
  cases t with
  | some t => exact .of_eq rfl
  | none =>
    dsimp only
    cases hroot : c.rootOutput? with
    | none => exact .of_eq rfl
    | some out =>
      obtain rfl := Candidate.rootOutput?_eq_some hroot
      have hlost := lost_in_bare hleads hbare c.isAbsolute_simple (Candidate.steps_class hplain)
      exact (h.modifiedTime_repeats hlost).bind fun t _ => .of_eq rfl

/-- A name that was reported is selected as it was. -/
theorem staleMapping?_repeats (h : Sprouted tree after) (hleads : after.LeadsTo dest loc)
    (hbare : after.Bare loc) {sourceDir name : Path} (hname : tree.FileBelow sourceDir .empty name) :
    Repeats (Breaks tree after) (staleMapping? tree sourceDir dest name)
      (staleMapping? after sourceDir dest name) := by
  unfold staleMapping?
  cases hc : Candidate.ofName? name with
  | none => exact .of_eq rfl
  | some c =>
    obtain rfl := Candidate.name_of_ofName? hc
    have habsolute : c.name.isAbsolute = false := hname.isAbsolute
    obtain ⟨first, more, hsteps, -⟩ := hname.exists_steps
    obtain ⟨first', more', hsteps'⟩ := Candidate.steps_packageOutput habsolute hsteps
    have hpackage := Candidate.isAbsolute_packageOutput hc habsolute
    have hsource : modifiedTime after (c.sourcePath sourceDir) =
        modifiedTime tree (c.sourcePath sourceDir) := by
      unfold modifiedTime
      rw [Candidate.sourcePath, h.stat_below hname c.bytes_name_ne_nil c.endsInSeparator_name]
    refine (h.resolveOutput_repeats hleads hbare hpackage hsteps').bind fun output _ => ?_
    exact (Repeats.of_eq hsource).bind fun t _ => .of_eq rfl

theorem staleMappings_repeats (h : Sprouted tree after) (hleads : after.LeadsTo dest loc)
    (hbare : after.Bare loc) {sourceDir : Path} {names : List Path}
    (hnames : ∀ name ∈ names, tree.FileBelow sourceDir .empty name) :
    Repeats (Breaks tree after) (staleMappings tree sourceDir dest names)
      (staleMappings after sourceDir dest names) := by
  induction names with
  | nil => exact .of_eq rfl
  | cons name rest ih =>
    obtain ⟨hname, hrest⟩ := List.forall_mem_cons.1 hnames
    refine (h.staleMapping?_repeats hleads hbare hname).bind fun first _ => ?_
    exact (ih hrest).bind fun more _ => .of_eq rfl

/-- **A scan repeats**, or it fails at a path that could be looked at or on a directory that was
made. -/
theorem scanDirs_repeats (h : Sprouted tree after) (htree : tree.Sound)
    (hleads : after.LeadsTo dest loc) (hbare : after.Bare loc) (dirs : List Path)
    (report : ScanReport) :
    Repeats (Hinders tree after dirs) (BuildConfig.scanDirs tree dest dirs report)
      (BuildConfig.scanDirs after dest dirs report) := by
  induction dirs generalizing report with
  | nil => exact .of_eq rfl
  | cons dir rest ih =>
    intro result hresult
    simp only [BuildConfig.scanDirs, scan_eq] at hresult ⊢
    split at hresult
    · cases hresult
    · next hdir =>
      have hdir : tree.isDirectory dir = true := by simpa using hdir
      rw [h.toKept.isDirectory_kept hdir, if_neg (by simp)]
      split at hresult
      · cases hresult
      · next names hnames =>
        have hbelow := fun name (hname : name ∈ names) => htree.discover_below hdir hnames hname
        rcases h.discover_sprouted htree dir names hnames with hagain | ⟨e, hfails, hdeep⟩
        · rw [hagain]
          dsimp only
          cases hfound : staleMappings tree dir dest names with
          | error e => rw [hfound] at hresult; cases hresult
          | ok found =>
            rw [hfound] at hresult
            rcases h.staleMappings_repeats hleads hbare hbelow found hfound with
              hnew | ⟨e, hnew, he⟩
            · rw [hnew]
              exact (ih _).imp (fun _ => .of_tail) result hresult
            · rw [hnew]
              exact .inr ⟨e, rfl, .inl he⟩
        · rw [hfails]
          exact .inr ⟨e, rfl, .inr ⟨dir, .head _, hdeep⟩⟩

end Sprouted

end

/-! ## The build behind a scan -/

variable {σ : Type}

/-- What can end a build ahead of its compilation although its scan went well before. -/
inductive StopsEarly (config : BuildConfig) (w : World σ) : BuildError → Prop where
  /-- The destination is there and is no directory. -/
  | invalid : w.files.isPresent config.dest = true → w.files.isDirectory config.dest = false →
      StopsEarly config w (.invalidDestination config.dest)
  /-- The destination cannot be made. -/
  | unmakeable {cause : FileError} :
      (w.files.makeDirectories config.dest w.clock).1 = .error cause →
      StopsEarly config w (.file config.dest cause)
  /-- An artefact root cannot be walked when the destination is there. -/
  | unwalkable {root : Path} {e : BuildError} : root ∈ config.artefactRoots →
      (config.prepareDestination w).2.files.discover root = .error e → StopsEarly config w e
  /-- A path cannot be looked at when the destination is there, and before it could. -/
  | unforeseen {e : BuildError} : w.files.isPresent config.dest = false →
      Breaks w.files (config.prepareDestination w).2.files e → StopsEarly config w e
  /-- The walk of a source directory comes to a directory of the destination by a path that is too
  long. -/
  | tooDeep {root : Path} {e : BuildError} : w.files.isPresent config.dest = false →
      root ∈ config.sourceDirs →
      TooDeep w.files (config.prepareDestination w).2.files root e → StopsEarly config w e

namespace BuildConfig

variable {config : BuildConfig} {w prepared scanned : World σ} {e : BuildError}

theorem stopsEarly_of_prepareDestination
    (h : config.prepareDestination w = (.error e, prepared)) : StopsEarly config w e := by
  unfold prepareDestination at h
  split at h
  · next hinvalid =>
    cases h
    exact .invalid hinvalid.1 (by simpa using hinvalid.2)
  · split at h
    · cases h
    · next cause _ hmade =>
      cases h
      exact .unmakeable (congrArg Prod.fst hmade)

theorem exists_discover_of_publishArtefacts (h : config.publishArtefacts w = (.error e, scanned)) :
    ∃ root ∈ config.artefactRoots, w.files.discover root = .error e := by
  unfold publishArtefacts at h
  split at h
  · cases h
  · split at h
    · next hroots =>
      cases h
      obtain ⟨earlier, root, later, hsplit, -, hroot⟩ := flatMapM_eq_error_iff.1 hroots
      exact ⟨root, by rw [hsplit]; simp, artefactsBelow_eq_error_iff.1 hroot⟩
    · cases h

/-- A destination was there and nothing has changed, or it is bare now. -/
theorem prepareDestination_cases (hdots : .parent ∉ config.dest.components)
    (hsound : w.files.Sound) (h : config.prepareDestination w = (.ok (), prepared)) :
    prepared.files = w.files ∨
      w.files.isPresent config.dest = false ∧ Sprouted w.files prepared.files ∧
        ∃ loc, prepared.files.LeadsTo config.dest loc ∧ prepared.files.Bare loc := by
  unfold prepareDestination at h
  split at h
  · cases h
  · next hvalid =>
    split at h
    · next made hmade =>
      cases h
      cases hpresent : w.files.isPresent config.dest with
      | true =>
        have hdirectory : w.files.isDirectory config.dest = true := by simpa [hpresent] using hvalid
        rw [FileTree.makeDirectories_of_isDirectory hdirectory] at hmade
        exact .inl (Prod.mk.inj hmade).2.symm
      | false =>
        rcases hsound.sprouted_makeDirectories hsound.distinct (Path.up_notMem_steps hdots) hmade with
          ⟨hsame, -⟩ | hsprouted
        · exact .inl hsame
        · exact .inr ⟨rfl, hsprouted⟩
    · cases h

end BuildConfig

open BuildConfig

/-- **A scan predicts a build.** Let the destination have no `..`, and let a scan give a report. Then
a build, with any compiler, ends early, with the compiler never asked, or it scans what was scanned
and compiles the run of the report: its summary has the same mappings in the same order and the same
number of files. -/
theorem scan_predicts_build {config : BuildConfig} {w : World σ} {report : ScanReport}
    (hdots : .parent ∉ config.dest.components) (hsound : w.files.Sound)
    (hscan : config.scan w.files = .ok report) :
    (∃ e after, StopsEarly config w e ∧
      ∀ base : Compiler σ, config.build base w = (.error (.error e), after)) ∨
    ∃ prepared index scanned, config.prepareDestination w = (.ok (), prepared) ∧
      config.publishArtefacts prepared = (.ok index, scanned) ∧
      config.scan scanned.files = .ok report ∧
      ∀ base : Compiler σ, config.build base w =
        ((Execution.ofRun (base.injecting index) config.dest report.run scanned).1.map
            (summary report),
          (Execution.ofRun (base.injecting index) config.dest report.run scanned).2) := by
  cases hprepared : config.prepareDestination w with
  | mk result prepared =>
    cases result with
    | error e =>
      refine .inl ⟨e, prepared, stopsEarly_of_prepareDestination hprepared, fun base => ?_⟩
      simp only [build, hprepared]
    | ok _ =>
      have hfiles : (config.prepareDestination w).2.files = prepared.files := by rw [hprepared]
      cases hpublished : config.publishArtefacts prepared with
      | mk result scanned =>
        cases result with
        | error e =>
          obtain ⟨root, hroot, hdiscover⟩ := exists_discover_of_publishArtefacts hpublished
          rw [← hfiles] at hdiscover
          refine .inl ⟨e, scanned, .unwalkable hroot hdiscover, fun base => ?_⟩
          simp only [build, hprepared, hpublished]
        | ok index =>
          have hscanned : scanned.files = prepared.files := by
            have hkept := files_publishArtefacts config prepared
            rwa [hpublished] at hkept
          have hgoes (hagain : config.scan scanned.files = .ok report) :=
            fun base => (build_of_scan base hprepared hpublished hagain).1
          rcases prepareDestination_cases hdots hsound hprepared with
            hsame | ⟨habsent, hsprouted, loc, hleads, hbare⟩
          · have hagain : config.scan scanned.files = .ok report := by rw [hscanned, hsame, hscan]
            exact .inr ⟨prepared, index, scanned, rfl, hpublished, hagain, hgoes hagain⟩
          · have hrepeats := hsprouted.scanDirs_repeats hsound hleads hbare config.sourceDirs
              ⟨.empty, 0⟩ report hscan
            rcases hrepeats with hagain | ⟨e, hfails, hhinders⟩
            · rw [← hscanned] at hagain
              exact .inr ⟨prepared, index, scanned, rfl, hpublished, hagain, hgoes hagain⟩
            · have hfails : config.scan scanned.files = .error e := by rw [hscanned]; exact hfails
              rw [← hfiles] at hhinders
              refine .inl ⟨e, scanned, ?_, fun base => ?_⟩
              · rcases hhinders with hbreaks | ⟨root, hroot, hdeep⟩
                · exact .unforeseen habsent hbreaks
                · exact .tooDeep habsent hroot hdeep
              · simp only [build, hprepared, hpublished, hfails]

namespace Rehearsal

/-- A stale source, and a destination below the sources that is still to be made. -/
def freshTrial : Trial := ⟨[.file bookSource [] 90], .ofString "src/out/classes", []⟩

def freshReport : ScanReport :=
  ⟨⟨[bookSource], [.ofString "src/out/classes/org/Book.class"]⟩, 1⟩

theorem freshTrial_scan : freshTrial.config.scan freshTrial.stage.files = .ok freshReport := by
  decide +kernel

end Rehearsal

open Rehearsal

/-- The class file is expected where nothing was yet, and the build expects it there too. -/
theorem missing_destination_predicted :
    let config := freshTrial.config
    let files := freshTrial.stage.files
    (.parent ∉ config.dest.components ∧ files.Sound ∧ config.scan files = .ok freshReport) ∧
      files.isPresent config.dest = false ∧
      ∃ s, freshTrial.built.1 = .ok s ∧ s.scanned = 1 ∧ s.stale = freshReport.run.mappings := by
  intro config files
  have hdots : .parent ∉ config.dest.components := by decide +kernel
  have hsound : files.Sound := by decide +kernel
  have hok : freshTrial.built.1.isOk = true := by decide +kernel
  refine ⟨⟨hdots, hsound, freshTrial_scan⟩, by decide +kernel, ?_⟩
  rcases scan_predicts_build hdots hsound freshTrial_scan with
    ⟨e, after, -, hfails⟩ | ⟨prepared, index, scanned, -, -, -, hbuild⟩
  · have hbuilt : freshTrial.built = _ := hfails freshTrial.compiler
    rw [hbuilt] at hok
    cases hok
  · have hbuilt : freshTrial.built = _ := hbuild freshTrial.compiler
    rw [hbuilt] at hok ⊢
    cases hrun : (Execution.ofRun (freshTrial.compiler.injecting index) config.dest
        freshReport.run scanned).1 with
    | error stopped => rw [hrun] at hok; cases hok
    | ok execution => exact ⟨summary freshReport execution, rfl, rfl, rfl⟩

end StaleBuild
