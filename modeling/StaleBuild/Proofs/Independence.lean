import StaleBuild.Proofs.Idleness
import StaleBuild.Proofs.InjectedRun

/-!
# Builds that do not see earlier ones

A published index stays where it is when a build is over, and injection without an index of its own
reads it. A build with artefact roots publishes an index over them before it makes a unit, and
nothing ahead of that reads the one that was there:

    build base (w.holding h) = (result, after)                 for all h, where `after` holds the
                                                               index over the roots
                             = (error, after.holding h)        if nothing came to be published
                                                                                   (build_holding)

So what an earlier build left decides about nothing (`build_unaffected_by_earlier`). Behind the
publishing the index stays as long as no compiler publishes one (`Compiler.KeepsIndex`); operations
of injection only read it, so that a compiler may be wrapped any number of times
(`Compiler.KeepsIndex.injecting`).
-/

namespace StaleBuild

variable {σ : Type}

/-- The world with another published index. -/
def World.holding (w : World σ) (index? : Option ArtefactIndex) : World σ :=
  { w with published := index? }

/-! ## Compilers that publish nothing -/

/-- The operation leaves the published index as it is; it may read it. -/
def Operation.KeepsIndex (op : Operation σ) : Prop :=
  ∀ w c, (op.call w c).world.published = w.published

/-- So do all operations of the unit. -/
def CompilationUnit.KeepsIndex (u : CompilationUnit σ) : Prop :=
  ∀ phase, ∀ op ∈ u.operations phase, op.KeepsIndex

/-- The compiler leaves the published index to the operations of its units, and they leave it as it
is. -/
structure Compiler.KeepsIndex (base : Compiler σ) : Prop where
  makeUnit : ∀ w, (base.makeUnit w).2.published = w.published
  made : ∀ w u left, base.makeUnit w = (.ok u, left) → u.KeepsIndex
  compile : ∀ u dest w, u.KeepsIndex → (base.compile u dest w).2.published = w.published

theorem Operation.KeepsIndex.sweep {op : Operation σ} (h : op.KeepsIndex) (w : World σ)
    (classes : List ClassNode) : (op.sweep w classes).world.published = w.published := by
  induction classes generalizing w with
  | nil => rfl
  | cons c rest ih =>
    simp only [Operation.sweep]
    cases (op.call w c).failure? with
    | some failure => exact h w c
    | none => exact (ih _).trans (h w c)

theorem published_sweepAll {ops : List (Operation σ)} (h : ∀ op ∈ ops, op.KeepsIndex)
    (w : World σ) (classes : List ClassNode) :
    (sweepAll w classes ops).world.published = w.published := by
  induction ops generalizing w classes with
  | nil => rfl
  | cons op rest ih =>
    obtain ⟨hop, hrest⟩ := List.forall_mem_cons.1 h
    simp only [sweepAll]
    cases (op.sweep w classes).failure? with
    | some failure => exact hop.sweep w classes
    | none => exact (ih hrest _ _).trans (hop.sweep w classes)

namespace CompilationUnit.KeepsIndex

variable {u : CompilationUnit σ}

theorem runPhase (h : u.KeepsIndex) (phase : Phase) (w : World σ) :
    (u.runPhase phase w).2.2.published = w.published ∧ (u.runPhase phase w).2.1.KeepsIndex :=
  ⟨published_sweepAll (h phase) w u.classes, h⟩

theorem register (h : u.KeepsIndex) {op : Operation σ} (hop : op.KeepsIndex) {phase : Phase}
    {registered : CompilationUnit σ} (hregister : u.register op phase = .ok registered) :
    registered.KeepsIndex := by
  unfold CompilationUnit.register at hregister
  split at hregister
  · cases hregister
  · cases hregister
    intro p other hother
    simp only at hother
    split at hother
    · rcases List.mem_append.1 hother with hother | hother
      · exact h p other hother
      · rwa [List.mem_singleton.1 hother]
    · exact h p other hother

/-- Injection reads an index and publishes none. -/
theorem withInjection (h : u.KeepsIndex) {own : Option ArtefactIndex}
    {wrapped : CompilationUnit σ} (hwrapped : Compiler.withInjection own u = .ok wrapped) :
    wrapped.KeepsIndex := by
  unfold Compiler.withInjection at hwrapped
  split at hwrapped
  · cases hwrapped
    exact h
  · exact h.register (fun _ _ => rfl) hwrapped

end CompilationUnit.KeepsIndex

namespace Compiler.KeepsIndex

variable {base : Compiler σ}

/-- A wrapped compiler publishes nothing that the wrapped one does not. -/
theorem injecting (h : base.KeepsIndex) (own : Option ArtefactIndex) :
    (base.injecting own).KeepsIndex where
  makeUnit w := by
    have hmade := h.makeUnit w
    simp only [Compiler.injecting]
    split
    · next heq => rwa [heq] at hmade
    · next heq => rwa [heq] at hmade
  made w wrapped left hwrapped := by
    simp only [Compiler.injecting] at hwrapped
    split at hwrapped
    · cases hwrapped
    · next u _ hu =>
      obtain ⟨hwrapped, -⟩ := Prod.mk.inj hwrapped
      exact (h.made w u _ hu).withInjection hwrapped
  compile := h.compile

/-- An attempt leaves the index where it is, however it ends. -/
theorem attempt (h : base.KeepsIndex) (sources : List Path) (dest : Path) (w : World σ) :
    (Execution.attempt base sources dest w).2.published = w.published := by
  unfold Execution.attempt
  have hmade := h.makeUnit w
  split
  · next heq => rwa [heq] at hmade
  · next heq => rwa [heq] at hmade
  · next u left _ heq =>
    rw [heq] at hmade
    have hu : (u.addSources sources).KeepsIndex := h.made w u left heq
    have hcompiled := (h.compile _ dest left hu).trans hmade
    split
    · next heq => rwa [heq] at hcompiled
    · next heq => rwa [heq] at hcompiled

theorem ofRun (h : base.KeepsIndex) (dest : Path) (run : Run) (w : World σ) :
    (Execution.ofRun base dest run w).2.published = w.published := by
  have hattempt : (Execution.attempt base run.sources dest w.tick).2.published = w.published :=
    h.attempt run.sources dest w.tick
  unfold Execution.ofRun
  split
  · rfl
  · dsimp only
    split <;> next heq => rwa [heq] at hattempt

end Compiler.KeepsIndex

namespace ExternalCompiler

variable (ext : ExternalCompiler) {launch : Launcher σ}

theorem published_runPhases (hlaunch : ∀ command w, (launch command w).2.published = w.published)
    (dest : Path) (phases : List Phase) {u : CompilationUnit σ} (hu : u.KeepsIndex) (w : World σ) :
    (ext.runPhases launch dest phases u w).2.2.published = w.published := by
  induction phases generalizing u w with
  | nil => rfl
  | cons phase rest ih =>
    have hready : (if phase = .parsing then u.loadClasses w.files else u).KeepsIndex := by
      split <;> exact hu
    obtain ⟨hran, hleft⟩ := hready.runPhase phase w
    simp only [runPhases]
    split
    · next heq => rwa [heq] at hran
    · next left behind heq =>
      rw [heq] at hran hleft
      split
      · have hlaunched := hlaunch (ext.command left.sources dest) behind
        rw [ext.generate_eq]
        cases ext.reported (launch (ext.command left.sources dest) behind).1 with
        | success => exact (ih hleft _).trans (hlaunched.trans hran)
        | diagnostics d => exact hlaunched.trans hran
        | fault f => exact hlaunched.trans hran
      · exact (ih hleft _).trans hran

/-- Another program cannot publish an index. -/
theorem compiler_keepsIndex
    (hlaunch : ∀ command w, (launch command w).2.published = w.published) :
    (ext.compiler launch).KeepsIndex where
  makeUnit _ := rfl
  made _ _ _ hu := by
    cases hu
    exact fun _ _ hop => nomatch hop
  compile _ dest w hu := ext.published_runPhases hlaunch dest Phase.all hu w

end ExternalCompiler

/-! ## Publishing -/

namespace BuildConfig

variable {config : BuildConfig}

/-- The Groovy files among those that walks below some roots met, root after root. -/
def groovyFiles (walked : Path → List Path) (roots : List Path) : List Path :=
  roots.flatMap fun root =>
    ((walked root).filter fun name => SourceKind.ofName? name = some .groovy).map root.join

/-- Why no index was published: the destination could not be prepared, or of the roots up to one
that cannot be walked all others can. -/
inductive Unpublished (config : BuildConfig) (w : World σ) (e : BuildError) : Prop where
  | unprepared : (config.prepareDestination w).1 = .error e → Unpublished config w e
  | unwalked (earlier later : List Path) (root : Path) :
      (config.prepareDestination w).1 = .ok () →
      config.artefactRoots = earlier ++ root :: later →
      (∀ r ∈ earlier, ∃ names, (config.prepareDestination w).2.files.discover r = .ok names) →
      (config.prepareDestination w).2.files.discover root = .error e → Unpublished config w e

theorem prepareDestination_holding (w : World σ) (index? : Option ArtefactIndex) :
    config.prepareDestination (w.holding index?) =
      ((config.prepareDestination w).1, (config.prepareDestination w).2.holding index?) := by
  have hfiles : (w.holding index?).files = w.files := rfl
  have hclock : (w.holding index?).clock = w.clock := rfl
  unfold prepareDestination
  rw [hfiles, hclock]
  by_cases hinvalid : w.files.isPresent config.dest ∧ !w.files.isDirectory config.dest
  · rw [if_pos hinvalid, if_pos hinvalid]
  · rw [if_neg hinvalid, if_neg hinvalid]
    cases w.files.makeDirectories config.dest w.clock with
    | mk made files => cases made <;> rfl

/-- A build whose artefacts cannot be published ends there, with the index that it found. -/
theorem build_of_unpublished {base : Compiler σ} {w prepared : World σ} {e : BuildError}
    (hroots : config.artefactRoots ≠ [])
    (hprepared : config.prepareDestination w = (.ok (), prepared))
    (he : config.artefactRoots.flatMapM (artefactsBelow prepared.files) = .error e)
    (index? : Option ArtefactIndex) :
    config.build base (w.holding index?) = (.error (.error e), prepared.holding index?) := by
  have hpublished : config.publishArtefacts (prepared.holding index?) =
      (.error e, prepared.holding index?) := by
    unfold publishArtefacts
    rw [if_neg hroots]
    simp only [World.holding, he]
  simp only [build, prepareDestination_holding, hprepared, hpublished]

/-- Published artefacts take the place of the index that was there. -/
theorem publishArtefacts_holding {w : World σ} {resources : List Path}
    (hroots : config.artefactRoots ≠ [])
    (hresources : config.artefactRoots.flatMapM (artefactsBelow w.files) = .ok resources)
    (index? : Option ArtefactIndex) :
    config.publishArtefacts (w.holding index?) =
      (.ok (some (.ofResources resources)), w.publish resources) := by
  unfold publishArtefacts
  rw [if_neg hroots]
  simp only [World.holding, hresources]
  rfl

/-- A build whose artefacts were published goes on in a world that holds their index, whatever it
found. -/
theorem build_of_published {base : Compiler σ} {w prepared : World σ} {resources : List Path}
    (hroots : config.artefactRoots ≠ [])
    (hprepared : config.prepareDestination w = (.ok (), prepared))
    (hresources : config.artefactRoots.flatMapM (artefactsBelow prepared.files) = .ok resources)
    (hbase : base.KeepsIndex) :
    ∃ result after, after.published = some (.ofResources resources) ∧
      ∀ index?, config.build base (w.holding index?) = (result, after) := by
  simp only [build, prepareDestination_holding, hprepared,
    publishArtefacts_holding hroots hresources]
  cases config.scan (prepared.publish resources).files with
  | error e => exact ⟨_, prepared.publish resources, rfl, fun _ => rfl⟩
  | ok report =>
    have hran := (hbase.injecting (some (.ofResources resources))).ofRun config.dest report.run
      (prepared.publish resources)
    dsimp only
    split
    · next heq =>
      rw [heq] at hran
      exact ⟨_, _, hran, fun _ => rfl⟩
    · next heq =>
      rw [heq] at hran
      exact ⟨_, _, hran, fun _ => rfl⟩

/-- **What a build with artefact roots makes of the index that it finds**: it keeps it if nothing
came to be published, and forgets it otherwise. -/
theorem build_holding (hroots : config.artefactRoots ≠ []) {base : Compiler σ}
    (hbase : base.KeepsIndex) (w : World σ) :
    (∃ e, ∃ after : World σ, config.Unpublished w e ∧
      ∀ index?, config.build base (w.holding index?) = (.error (.error e), after.holding index?)) ∨
    ∃ walked result, ∃ after : World σ, (config.prepareDestination w).1 = .ok () ∧
      (∀ root ∈ config.artefactRoots,
        (config.prepareDestination w).2.files.discover root = .ok (walked root)) ∧
      after.published = some (.ofResources (groovyFiles walked config.artefactRoots)) ∧
      ∀ index?, config.build base (w.holding index?) = (result, after) := by
  cases hprepared : config.prepareDestination w with
  | mk done prepared =>
    cases done with
    | error e =>
      refine .inl ⟨e, prepared, .unprepared (by rw [hprepared]), fun index? => ?_⟩
      simp only [build, prepareDestination_holding, hprepared]
    | ok _ =>
      cases hresources : config.artefactRoots.flatMapM (artefactsBelow prepared.files) with
      | error e =>
        obtain ⟨earlier, root, later, hsplit, hearlier, hroot⟩ :=
          flatMapM_eq_error_iff.1 hresources
        refine .inl ⟨e, prepared, .unwalked earlier later root (by rw [hprepared]) hsplit
          (fun r hr => ?_) ?_, build_of_unpublished hroots hprepared hresources⟩
        · obtain ⟨found, hfound⟩ := hearlier r hr
          rw [hprepared]
          cases hnames : prepared.files.discover r with
          | error e' =>
            rw [artefactsBelow_eq_error_iff.2 hnames] at hfound
            cases hfound
          | ok names => exact ⟨names, rfl⟩
        · rw [hprepared]
          exact artefactsBelow_eq_error_iff.1 hroot
      | ok resources =>
        obtain ⟨hall, hflat⟩ := flatMapM_eq_ok_iff.1 hresources
        obtain ⟨result, after, hheld, hbuild⟩ :=
          build_of_published hroots hprepared hresources hbase
        let walked (root : Path) : List Path := (prepared.files.discover root).toOption.getD []
        have hwalked : ∀ root ∈ config.artefactRoots,
            prepared.files.discover root = .ok (walked root) := fun root hroot => by
          obtain ⟨found, hfound⟩ := hall root hroot
          cases hnames : prepared.files.discover root with
          | error e =>
            rw [artefactsBelow_eq_error_iff.2 hnames] at hfound
            cases hfound
          | ok names => simp [walked, hnames, Except.toOption]
        have hgroovy : resources = groovyFiles walked config.artefactRoots := by
          rw [hflat, groovyFiles]
          refine List.flatMap_congr fun root hroot => ?_
          simp only [artefactsBelow, hwalked root hroot, Except.toOption, Option.getD_some]
        exact .inr ⟨walked, result, after, rfl, hwalked, hgroovy ▸ hheld, hbuild⟩

/-- **Earlier builds cannot influence a build with artefact roots.** Whatever two indices it finds
published, it gives the same result and leaves the same files; behind it the index over the Groovy
files of its roots is published, unless nothing came to be published at all. -/
theorem build_unaffected_by_earlier (hroots : config.artefactRoots ≠ []) {base : Compiler σ}
    (hbase : base.KeepsIndex) (w : World σ) (h₁ h₂ : Option ArtefactIndex) :
    let one := config.build base (w.holding h₁)
    let other := config.build base (w.holding h₂)
    one.1 = other.1 ∧ one.2.files = other.2.files ∧
      ((∃ e, config.Unpublished w e ∧ one.1 = .error (.error e) ∧
        one.2.published = h₁ ∧ other.2.published = h₂) ∨
      ∃ walked, (config.prepareDestination w).1 = .ok () ∧
        (∀ root ∈ config.artefactRoots,
          (config.prepareDestination w).2.files.discover root = .ok (walked root)) ∧
        one.2.published = some (.ofResources (groovyFiles walked config.artefactRoots)) ∧
        other.2 = one.2) := by
  intro one other
  rcases build_holding hroots hbase w with ⟨e, after, he, hbuild⟩ |
    ⟨walked, result, after, hprepared, hwalked, hheld, hbuild⟩
  · have hone : one = (.error (.error e), after.holding h₁) := hbuild h₁
    have hother : other = (.error (.error e), after.holding h₂) := hbuild h₂
    rw [hone, hother]
    exact ⟨rfl, rfl, .inl ⟨e, he, rfl, rfl, rfl⟩⟩
  · have hone : one = (result, after) := hbuild h₁
    have hother : other = (result, after) := hbuild h₂
    rw [hone, hother]
    exact ⟨rfl, rfl, .inr ⟨walked, hprepared, hwalked, hheld, rfl⟩⟩

end BuildConfig

namespace Rehearsal

def appDir : Path := .ofString "grails-app"

/-- A project whose only source is a domain class. -/
def stockStage : Stage :=
  staged [.file deepBook shopText 20, .directory outDir none] 100

def stockConfig : BuildConfig := ⟨[appDir], outDir, [appDir]⟩

/-- What an earlier build of another project left: it finds no domain under the name. -/
def strayIndex : ArtefactIndex :=
  .ofResources [.ofString "grails-app/services/org/shop/Book.groovy"]

def stockNames : List Path := [.ofString "domain/org/shop/Book.groovy"]

theorem stock_names :
    (stockConfig.prepareDestination stockStage).2.files.discover appDir = .ok stockNames := by
  decide +kernel

theorem idleProgram_keepsIndex : idleProgram.KeepsIndex :=
  ExternalCompiler.compiler_keepsIndex _ fun _ _ => rfl

end Rehearsal

open Rehearsal

/-- A compiler that is wrapped already reads the index of this build, not the one it would have found. -/
theorem wrapped_build_unaffected_by_stray :
    let base := idleProgram.injecting none
    let one := stockConfig.build base (stockStage.holding none)
    let other := stockConfig.build base (stockStage.holding (some strayIndex))
    (stockConfig.artefactRoots ≠ [] ∧ base.KeepsIndex) ∧
      one.1.map BuildSummary.injected = .ok [⟨"org.shop.Book", deepBook, ["id", "version"]⟩] ∧
      one.2.published = some (.ofResources [deepBook]) ∧ other = one := by
  intro base one other
  have hroots : stockConfig.artefactRoots ≠ [] := by decide
  have hbase : base.KeepsIndex := idleProgram_keepsIndex.injecting none
  have hinjected : one.1.map BuildSummary.injected =
      .ok [⟨"org.shop.Book", deepBook, ["id", "version"]⟩] := by
    decide +kernel
  have hone : stockConfig.build base (stockStage.holding none) = one := rfl
  have hother : stockConfig.build base (stockStage.holding (some strayIndex)) = other := rfl
  obtain ⟨hresult, -, hheld⟩ :=
    BuildConfig.build_unaffected_by_earlier hroots hbase stockStage none (some strayIndex)
  rw [hone, hother] at hresult hheld
  -- the builds are not to be run once more
  clear_value one other
  refine ⟨⟨hroots, hbase⟩, hinjected, ?_⟩
  rcases hheld with ⟨e, -, he, -⟩ | ⟨walked, -, hwalked, hpublished, hworld⟩
  · rw [he] at hinjected
    cases hinjected
  · have hnames : walked appDir = stockNames :=
      Except.ok.inj ((hwalked appDir (.head _)).symm.trans stock_names)
    have hgroovy : BuildConfig.groovyFiles walked stockConfig.artefactRoots = [deepBook] := by
      have hroot : stockConfig.artefactRoots = [appDir] := rfl
      simp only [BuildConfig.groovyFiles, hroot, List.flatMap_cons, List.flatMap_nil, hnames]
      decide +kernel
    rw [hgroovy] at hpublished
    exact ⟨hpublished, Prod.ext hresult.symm hworld⟩

end StaleBuild
