import StaleBuild.Proofs.Naming
import StaleBuild.Proofs.Reconciliation
import StaleBuild.Proofs.Wrapping

/-!
# What a compiled run injects

Around the external compiler the injecting one makes units whose single operation is injection. All
phases ahead of the output then succeed: parsing reads the sources into classes, canonicalization
gives properties to some of them, and the others change nothing (`runPhases_injecting`). How the
attempt ends is left to the program (`exitOf_injecting`).

    injected = the sources that are domain classes under the name they declare, in order
                                                                     (run_injects_domain_sources)

A source that declares the directories it lies in has one name, by its contents and by its path, so
it is among them if it lies below `grails-app/domain` and no later resource takes its name
(`DomainSource`).
-/

namespace StaleBuild

variable {σ : Type}

/-! ## Phases with injection alone -/

/-- The phases ahead of the output. -/
def Phase.aheadOfOutput : List Phase :=
  [.initialization, .parsing, .conversion, .semanticAnalysis, .canonicalization,
    .instructionSelection, .classGeneration]

namespace CompilationUnit

/-- A unit with injection as its only operation, once the operations of a phase have run. -/
def injectedAt (own : Option ArtefactIndex) (w : World σ) (u : CompilationUnit σ) (phase : Phase) :
    CompilationUnit σ :=
  if phase = Injection.phase then
    { u with classes := u.classes.map (ClassNode.injectedFrom (own.or w.published)) }
  else u

/-- The unit once the phase is over, with the loading of the sources. -/
def passedAt (own : Option ArtefactIndex) (w : World σ) (u : CompilationUnit σ) (phase : Phase) :
    CompilationUnit σ :=
  (if phase = .parsing then u.loadClasses w.files else u).injectedAt own w phase

variable {own : Option ArtefactIndex} {u : CompilationUnit σ}

theorem runPhase_injecting (hops : u.operations = (empty.injecting own).operations)
    (phase : Phase) (w : World σ) : u.runPhase phase w = (none, u.injectedAt own w phase, w) := by
  unfold runPhase injectedAt
  rw [congrFun hops phase]
  by_cases hphase : phase = Injection.phase
  · simp only [injecting, empty, if_pos hphase, List.nil_append, sweepAll,
      Injection.sweep_operation]
  · simp only [injecting, empty, if_neg hphase, sweepAll]

end CompilationUnit

namespace ExternalCompiler

open CompilationUnit

variable {own : Option ArtefactIndex} {u : CompilationUnit σ} (ext : ExternalCompiler)
  (launch : Launcher σ) (dest : Path)

/-- The phases ahead of the output all succeed and leave the world alone. -/
theorem runPhases_injecting (hops : u.operations = (empty.injecting own).operations)
    {phases : List Phase} (hahead : Phase.output ∉ phases) (rest : List Phase) (w : World σ) :
    ext.runPhases launch dest (phases ++ rest) u w =
      ext.runPhases launch dest rest (phases.foldl (passedAt own w) u) w := by
  induction phases generalizing u with
  | nil => rfl
  | cons phase more ih =>
    obtain ⟨hphase, hmore⟩ := not_or.1 (mt List.mem_cons.2 hahead)
    have hloaded : (if phase = .parsing then u.loadClasses w.files else u).operations =
        (empty.injecting own).operations := by
      split <;> exact hops
    have hpassed : (u.passedAt own w phase).operations = (empty.injecting own).operations := by
      rw [← hloaded]
      unfold passedAt injectedAt
      split <;> rfl
    rw [List.cons_append, List.foldl_cons, ← ih hpassed hmore]
    simp only [runPhases, runPhase_injecting hloaded, if_neg (Ne.symm hphase)]
    rfl

/-- The output phase starts the program on the sources, and nothing comes behind it. -/
theorem runPhases_output (hops : u.operations = (empty.injecting own).operations) (w : World σ) :
    let result := launch (ext.command u.sources dest) w
    ext.runPhases launch dest [.output, .finalization] u w =
      (ext.reported result.1, u, result.2) := by
  intro result
  have hkept (phase : Phase) (hphase : phase ≠ Injection.phase) (w : World σ) :
      u.runPhase phase w = (none, u, w) := by
    rw [runPhase_injecting hops, injectedAt, if_neg hphase]
  have hgenerate : ext.generate launch u.sources dest w = (ext.reported result.1, result.2) :=
    ext.generate_eq launch u.sources dest w
  simp only [runPhases, reduceCtorEq, if_true, if_false, hkept .output (by decide),
    hkept .finalization (by decide), hgenerate]
  cases ext.reported result.1 <;> rfl

/-- The classes that injection leaves of some sources. -/
def injectedClassesOf (own : Option ArtefactIndex) (sources : List Path) (w : World σ) :
    List ClassNode :=
  (sources.filterMap (loadedClass? w.files)).map (ClassNode.injectedFrom (own.or w.published))

end ExternalCompiler

/-! ## The end of an attempt -/

namespace Execution

open ExternalCompiler CompilationUnit

/-- How an attempt ends is what the program reports. -/
theorem exitOf_injecting (ext : ExternalCompiler) (launch : Launcher σ) (own : Option ArtefactIndex)
    (sources : List Path) (dest : Path) (w : World σ) :
    let result := launch (ext.command sources dest) w
    let injected := (injectedClassesOf own sources w).filter fun c => !c.properties.isEmpty
    exitOf ((ext.compiler launch).injecting own) sources dest w =
      (match ext.reported result.1 with
        | .success => .succeeded injected
        | .diagnostics d => .diagnosed d injected
        | .fault f => .faulted f, result.2) := by
  intro result injected
  let given : CompilationUnit σ := (CompilationUnit.empty.injecting own).addSources sources
  let u : CompilationUnit σ := { given with classes := injectedClassesOf own sources w }
  have hmade : ((ext.compiler launch).injecting own).makeUnit w =
      (.ok (CompilationUnit.empty.injecting own), w) := by
    simp only [Compiler.injecting, compiler, withInjection_eq own (u := CompilationUnit.empty) rfl]
  have hphases : ext.runPhases launch dest Phase.all given w =
      (ext.reported result.1, u, result.2) := by
    have hgiven : given.operations = (CompilationUnit.empty.injecting own).operations := rfl
    have hops : u.operations = (CompilationUnit.empty.injecting own).operations := rfl
    have hnone : Phase.output ∉ Phase.aheadOfOutput := by decide
    have hpassed : Phase.aheadOfOutput.foldl (passedAt own w) given = u := rfl
    have hahead := ext.runPhases_injecting launch dest hgiven hnone [.output, .finalization] w
    rw [hpassed, ext.runPhases_output launch dest hops] at hahead
    exact hahead
  have hcalm : ((ext.compiler launch).injecting own).unitPanic? w = none := rfl
  simp only [exitOf, hcalm, hmade]
  have hcompile : ((ext.compiler launch).injecting own).compile given dest w =
      (.finished (ext.reported result.1) u, result.2) := by
    simp only [Compiler.injecting, compiler, hphases]
  simp only [given] at hcompile
  rw [hcompile]
  cases ext.reported result.1 <;> rfl

end Execution

/-! ## Domain sources -/

/-- The class that a source gives to the injected ones: the source is in Groovy and can be read, and
the last resource that declares its class is a domain artefact. -/
def domainClass? (resources : List Path) (tree : FileTree) (source : Path) : Option ClassNode :=
  if source.extension? = some CompilationUnit.classExtension then
    match tree.read source with
    | .error _ => none
    | .ok contents =>
      let name := ClassNode.nameOf source contents
      let found? := resources.reverse.find? fun r => Artefact.className? r = some name
      if found?.any fun r => Artefact.kind? r = some "domain" then
        some ⟨name, source, ["id", "version"]⟩
      else none
  else none

/-- Loading, injecting and keeping the injected classes pick the domain sources. -/
theorem injectedClassesOf_eq {own : Option ArtefactIndex} {resources : List Path} {w : World σ}
    (hindex : own.or w.published = some (.ofResources resources)) (sources : List Path) :
    (ExternalCompiler.injectedClassesOf own sources w).filter (fun c => !c.properties.isEmpty) =
      sources.filterMap (domainClass? resources w.files) := by
  unfold ExternalCompiler.injectedClassesOf
  rw [List.map_filterMap, List.filter_filterMap, hindex]
  congr 1
  funext source
  unfold CompilationUnit.loadedClass? domainClass?
  split
  · unfold ClassNode.ofSource
    cases w.files.read source with
    | error cause => rfl
    | ok contents =>
      simp only [Except.toOption, Option.map_some, ClassNode.injectedFrom,
        Injection.findsDomain_ofResources, ClassNode.plain]
      split <;> rfl
  · rfl

/-- A source that can be read lies below `grails-app/domain`, declares the directories it lies in,
and is a resource behind which no other one declares its class. -/
structure DomainSource (resources : List Path) (tree : FileTree) (source : Path)
    (package : List String) (name : String) : Prop where
  lies : Artefact.LiesAt source (Utf8.encode "domain") package name CompilationUnit.classExtension
  plain : ∀ d ∈ package, PlainName d.toList
  declares : ∃ contents, tree.read source = .ok contents ∧
    ClassNode.Declares (Utf8.decodeLossyChars contents) package
  last : ∃ earlier resource later, resources = earlier ++ resource :: later ∧
    resource.same source = true ∧
    ∀ r ∈ later, Artefact.className? r ≠ Artefact.className? source

/-- What an artefact is and declares hangs on its components alone. -/
theorem Artefact.eq_of_same {p q : Path} (h : p.same q = true) :
    kind? p = kind? q ∧ className? p = className? q := by
  have hcomponents : p.components = q.components := by simpa [Path.same] using h
  simp only [kind?, className?, componentsBelowApp?, hcomponents, and_self]

theorem DomainSource.domainClass?_eq {resources : List Path} {tree : FileTree} {source : Path}
    {package : List String} {name : String} (h : DomainSource resources tree source package name) :
    domainClass? resources tree source =
      some ⟨".".intercalate (package ++ [name]), source, ["id", "version"]⟩ := by
  obtain ⟨contents, hread, hdeclares⟩ := h.declares
  obtain ⟨earlier, resource, later, hresources, hsame, hlater⟩ := h.last
  obtain ⟨hclass, hname⟩ := h.lies.className?_eq_nameOf hdeclares h.plain
  obtain ⟨hkind, hdeclared⟩ := Artefact.eq_of_same hsame
  have hfound : resources.reverse.find? (fun r =>
      Artefact.className? r = some (ClassNode.nameOf source contents)) = some resource := by
    have hnone : later.reverse.find? (fun r =>
        Artefact.className? r = some (ClassNode.nameOf source contents)) = none := by
      rw [List.find?_eq_none]
      intro r hr
      simpa [hclass] using hlater r (List.mem_reverse.1 hr)
    rw [hresources, List.reverse_append, List.reverse_cons, List.append_assoc, List.find?_append,
      hnone, Option.none_or, List.singleton_append,
      List.find?_cons_of_pos (by simpa [hclass] using hdeclared)]
  have hdomain : Artefact.kind? resource = some "domain" := by
    rw [hkind, h.lies.kind?_eq]
    rfl
  unfold domainClass?
  rw [if_pos h.lies.extension?_eq, hread]
  simp only [hfound, Option.any_some, hdomain, decide_true, if_true]
  rw [hname]

/-! ## Compiled runs -/

variable {ext : ExternalCompiler} {launch : Launcher σ} {own : Option ArtefactIndex} {dest : Path}
  {run : Run} {w left : World σ} {e : Execution}

/-- An execution that came to a state tells the classes that injection left. -/
theorem Execution.injected_eq (hrun : run.sources ≠ [])
    (h : ofRun ((ext.compiler launch).injecting own) dest run w = (.ok e, left)) :
    e.injected = (ExternalCompiler.injectedClassesOf own run.sources w.tick).filter
      fun c => !c.properties.isEmpty := by
  rw [ofRun_eq _ dest w hrun, exitOf_injecting] at h
  obtain ⟨hresult, -⟩ := Prod.mk.inj h
  revert hresult
  cases ext.reported (launch (ext.command run.sources dest) w.tick).1 with
  | success =>
    intro hresult
    cases hresult
    rfl
  | diagnostics d =>
    intro hresult
    cases hresult
    rfl
  | fault f => exact fun hresult => nomatch hresult

/-- **A compiled run injects its domain sources**, in order, with their properties. A source that
declares the directories it lies in is one of them, however deep it lies. -/
theorem run_injects_domain_sources {resources : List Path}
    (hindex : own.or w.published = some (.ofResources resources))
    (h : Execution.ofRun ((ext.compiler launch).injecting own) dest run w = (.ok e, left)) :
    e.injected = run.sources.filterMap (domainClass? resources w.files) ∧
      ∀ source ∈ run.sources, ∀ package name,
        DomainSource resources w.files source package name →
          ⟨".".intercalate (package ++ [name]), source, ["id", "version"]⟩ ∈ e.injected := by
  have hinjected : e.injected = run.sources.filterMap (domainClass? resources w.files) := by
    by_cases hrun : run.sources = []
    · rw [Execution.ofRun_empty _ dest w hrun] at h
      cases h
      rw [hrun]
      rfl
    · rw [Execution.injected_eq hrun h]
      exact injectedClassesOf_eq (w := w.tick) hindex run.sources
  refine ⟨hinjected, fun source hsource package name hdomain => ?_⟩
  rw [hinjected]
  exact List.mem_filterMap.2 ⟨source, hsource, hdomain.domainClass?_eq⟩

namespace Rehearsal

/-- A domain class two directories deep, beside a source of the same name in no package. -/
def deepBook : Path := .ofString "grails-app/domain/org/shop/Book.groovy"

def shopText : Bytes := Utf8.encode "// stock\n package  org.shop ; \nclass Book {}\n"

def shopStage : Stage :=
  { staged [.file deepBook shopText 20,
      .file (.ofString "src/Book.groovy") (Utf8.encode "class Book {}\n") 20] 100 with
    published := some (.ofResources [domainBook, deepBook, serviceBook]) }

def shopRun : Run :=
  ⟨[.ofString "src/Book.groovy", deepBook],
    [.ofString "out/Book.class", .ofString "out/org/shop/Book.class"]⟩

/-- A compiler whose program succeeds without doing anything. -/
def idleProgram : Compiler Notes :=
  ExternalCompiler.compiler ⟨"groovyc", []⟩ fun _ w => (.ok ⟨true, [], []⟩, w)

end Rehearsal

open Rehearsal

/-- Of two sources the one that is a domain class is injected. -/
theorem shop_run_injects :
    let shelf := [domainBook, deepBook, serviceBook]
    let done := Execution.ofRun (idleProgram.injecting none) outDir shopRun shopStage
    ∃ e, ((none : Option ArtefactIndex).or shopStage.published = some (.ofResources shelf) ∧
        done = (.ok e, done.2) ∧ deepBook ∈ shopRun.sources ∧
        DomainSource shelf shopStage.files deepBook ["org", "shop"] "Book") ∧
      ⟨"org.shop.Book", deepBook, ["id", "version"]⟩ ∈ e.injected := by
  intro shelf done
  let e : Execution :=
    ⟨.succeeded, 2, 0, some 100, [⟨"org.shop.Book", deepBook, ["id", "version"]⟩]⟩
  have hindex : (none : Option ArtefactIndex).or shopStage.published =
      some (.ofResources shelf) := rfl
  have hdone : done = (.ok e, done.2) := by
    have hstate : done.1 = .ok e := by decide +kernel
    rw [← hstate]
  have hmem : deepBook ∈ shopRun.sources := by decide +kernel
  have hplain : ∀ d ∈ ["org", "shop"], PlainName d.toList := by
    intro d hd
    obtain rfl | rfl : d = "org" ∨ d = "shop" := by simpa using hd
    all_goals exact ⟨by decide, by rintro _ ⟨⟩; decide, by rintro _ ⟨⟩; decide⟩
  have hdeclares : ClassNode.Declares (Utf8.decodeLossyChars shopText) ["org", "shop"] := by
    rw [ClassNode.Declares, if_neg (List.cons_ne_nil _ _)]
    have hblank : ∀ c ∈ [' '], Text.isBlank c = true := List.forall_mem_singleton.2 (by decide)
    refine ⟨["// stock".toList], " package  org.shop ; ".toList, ["class Book {}".toList],
      by decide +kernel, by unfold ClassNode.IsPackageLine; decide +kernel, [' '], [' '], [';'],
      by decide +kernel, hblank, hblank, List.forall_mem_singleton.2 rfl⟩
  have hdomain : DomainSource shelf shopStage.files deepBook ["org", "shop"] "Book" :=
    ⟨⟨[], [Utf8.encode "org", Utf8.encode "shop"], Utf8.encode "Book", by decide +kernel⟩, hplain,
      ⟨shopText, by decide +kernel, hdeclares⟩,
      ⟨[domainBook], deepBook, [serviceBook], by decide +kernel⟩⟩
  have hname : ".".intercalate (["org", "shop"] ++ ["Book"]) = "org.shop.Book" := by
    decide +kernel
  have hinjected :=
    (run_injects_domain_sources hindex hdone).2 deepBook hmem ["org", "shop"] "Book" hdomain
  rw [hname] at hinjected
  exact ⟨e, ⟨hindex, hdone, hmem, hdomain⟩, hinjected⟩

end StaleBuild
