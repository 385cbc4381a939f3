import StaleBuild.Proofs.Stopping

/-!
# Artefacts that declare the same class

Of the files of an index that declare a class the last one is found, and the others do not count:

    find? (ofResources files) name = some file  ↔  LastDeclaring files name file

A build puts the Groovy files below its roots into the index, root after root and each in the order of
the walk. So a file of a later root shadows those of the earlier ones, and within a root a later file
shadows the earlier ones (`last_declaring_found`).
-/

namespace StaleBuild

namespace ArtefactIndex

variable {files ahead behind : List Path} {name : String} {file : Path}

/-- None of the files declares the class. -/
def NoneDeclares (files : List Path) (name : String) : Prop :=
  ∀ r ∈ files, Artefact.className? r ≠ some name

/-- Of the files that declare the class, this is the last one. -/
def LastDeclaring (files : List Path) (name : String) (file : Path) : Prop :=
  ∃ ahead behind, files = ahead ++ file :: behind ∧ Artefact.className? file = some name ∧
    NoneDeclares behind name

theorem noneDeclares_append :
    NoneDeclares (ahead ++ behind) name ↔ NoneDeclares ahead name ∧ NoneDeclares behind name :=
  List.forall_mem_append

/-- The file behind which no other one declares the class is found. -/
theorem find?_eq_some_iff :
    (ofResources files).find? name = some file ↔ LastDeclaring files name file := by
  rw [find?_ofResources, List.find?_eq_some_iff_append]
  constructor
  · rintro ⟨hfile, behind, ahead, hreverse, hbehind⟩
    refine ⟨ahead.reverse, behind.reverse, ?_, by simpa using hfile, ?_⟩
    · simpa using congrArg List.reverse hreverse
    · intro r hr
      simpa using hbehind r (List.mem_reverse.1 hr)
  · rintro ⟨ahead, behind, rfl, hfile, hbehind⟩
    refine ⟨by simpa using hfile, behind.reverse, ahead.reverse, by simp, ?_⟩
    intro r hr
    simpa using hbehind r (List.mem_reverse.1 hr)

theorem find?_eq_none_iff : (ofResources files).find? name = none ↔ NoneDeclares files name := by
  rw [find?_ofResources, List.find?_eq_none]
  simp [NoneDeclares]

/-- Files that declare other classes have no part in it. -/
theorem find?_filter (files : List Path) (name : String) :
    (ofResources (files.filter fun r => Artefact.className? r = some name)).find? name =
      (ofResources files).find? name := by
  rw [find?_ofResources, find?_ofResources, ← List.filter_reverse, List.find?_filter]
  simp

/-- What stands behind decides, and only if it is silent what stands ahead. -/
theorem lastDeclaring_append :
    LastDeclaring (ahead ++ behind) name file ↔
      LastDeclaring behind name file ∨ LastDeclaring ahead name file ∧ NoneDeclares behind name := by
  constructor
  · rintro ⟨front, back, hfiles, hfile, hback⟩
    rw [List.append_eq_append_iff] at hfiles
    obtain ⟨rest, rfl, hbehind⟩ | ⟨rest, hahead, hrest⟩ := hfiles
    · exact .inl ⟨rest, back, hbehind, hfile, hback⟩
    · cases rest with
      | nil => exact .inl ⟨[], back, hrest.symm, hfile, hback⟩
      | cons r rest =>
        obtain ⟨rfl, rfl⟩ := List.cons.inj hrest
        obtain ⟨hrest, hbehind⟩ := noneDeclares_append.1 hback
        exact .inr ⟨⟨front, rest, hahead, hfile, hrest⟩, hbehind⟩
  · rintro (⟨front, back, rfl, hfile, hback⟩ | ⟨⟨front, back, rfl, hfile, hback⟩, hbehind⟩)
    · exact ⟨ahead ++ front, back, by rw [List.append_assoc], hfile, hback⟩
    · exact ⟨front, back ++ behind, by rw [List.append_assoc]; rfl, hfile,
        noneDeclares_append.2 ⟨hback, hbehind⟩⟩

/-- Of the files of several roots the last one is that of the last root with a file for the class. -/
theorem lastDeclaring_flatMap {filesOf : Path → List Path} {roots : List Path} :
    LastDeclaring (roots.flatMap filesOf) name file ↔ ∃ earlier root later,
      roots = earlier ++ root :: later ∧ LastDeclaring (filesOf root) name file ∧
        ∀ r ∈ later, NoneDeclares (filesOf r) name := by
  have hnone (rs : List Path) :
      NoneDeclares (rs.flatMap filesOf) name ↔ ∀ r ∈ rs, NoneDeclares (filesOf r) name := by
    simp only [NoneDeclares, List.mem_flatMap, forall_exists_index, and_imp]
    exact ⟨fun h r hr f hf => h f r hr hf, fun h f r hr hf => h r hr f hf⟩
  induction roots with
  | nil => simp [LastDeclaring]
  | cons root rest ih =>
    rw [List.flatMap_cons, lastDeclaring_append, hnone]
    constructor
    · rintro (hbehind | ⟨hroot, hrest⟩)
      · obtain ⟨earlier, last, later, rfl, hlast, hlater⟩ := ih.1 hbehind
        exact ⟨root :: earlier, last, later, rfl, hlast, hlater⟩
      · exact ⟨[], root, rest, rfl, hroot, hrest⟩
    · rintro ⟨earlier, last, later, hroots, hlast, hlater⟩
      cases earlier with
      | nil =>
        obtain ⟨rfl, rfl⟩ := List.cons.inj hroots
        exact .inr ⟨hlast, hlater⟩
      | cons first earlier =>
        obtain ⟨rfl, hrest⟩ := List.cons.inj hroots
        exact .inl (ih.2 ⟨earlier, last, later, hrest, hlast, hlater⟩)

end ArtefactIndex

open ArtefactIndex

namespace BuildConfig

variable {σ : Type}

/-- Roots that can all be walked are published. -/
theorem publishArtefacts_of_walked {config : BuildConfig} {w : World σ} {walked : Path → List Path}
    (hroots : config.artefactRoots ≠ [])
    (hwalked : ∀ root ∈ config.artefactRoots, w.files.discover root = .ok (walked root)) :
    (config.publishArtefacts w).1 =
      .ok (some (.ofResources (groovyFiles walked config.artefactRoots))) := by
  have hbelow : ∀ root ∈ config.artefactRoots, artefactsBelow w.files root =
      .ok (((walked root).filter fun entry => SourceKind.ofName? entry = some .groovy).map
        root.join) := by
    intro root hroot
    rw [artefactsBelow, hwalked root hroot]
  have hresources : config.artefactRoots.flatMapM (artefactsBelow w.files) =
      .ok (groovyFiles walked config.artefactRoots) := by
    rw [flatMapM_eq_ok_iff]
    refine ⟨fun root hroot => ⟨_, hbelow root hroot⟩, ?_⟩
    refine List.flatMap_congr fun root hroot => ?_
    rw [hbelow root hroot]
    rfl
  unfold publishArtefacts
  rw [if_neg hroots, hresources]
  rfl

end BuildConfig

/-- **The last file that declares a class is found**, whatever the files of other classes, and every
file counts for the size. A build with roots that can be walked has the Groovy files below them in its
index, so that a later root shadows the earlier ones, and within a root a later file of the walk. -/
theorem last_declaring_found :
    (∀ (files : List Path) (name : String),
      (∀ file, (ofResources files).find? name = some file ↔ LastDeclaring files name file) ∧
      ((ofResources files).find? name = none ↔ NoneDeclares files name) ∧
      (ofResources files).size = files.length ∧
      ∀ others : List Path, (others.filter fun r => Artefact.className? r = some name) =
          (files.filter fun r => Artefact.className? r = some name) →
        (ofResources others).find? name = (ofResources files).find? name) ∧
    ∀ (σ : Type) (config : BuildConfig) (w : World σ) (walked : Path → List Path),
      config.artefactRoots ≠ [] →
      (∀ root ∈ config.artefactRoots, w.files.discover root = .ok (walked root)) →
      ∃ index, (config.publishArtefacts w).1 = .ok (some index) ∧
        ∀ name file, index.find? name = some file ↔ ∃ earlier root later,
          config.artefactRoots = earlier ++ root :: later ∧
          LastDeclaring (((walked root).filter fun entry =>
            SourceKind.ofName? entry = some .groovy).map root.join) name file ∧
          ∀ r ∈ later, NoneDeclares (((walked r).filter fun entry =>
            SourceKind.ofName? entry = some .groovy).map r.join) name := by
  refine ⟨fun files name => ⟨fun file => find?_eq_some_iff, find?_eq_none_iff, rfl, ?_⟩, ?_⟩
  · intro others hothers
    rw [← find?_filter others, hothers, find?_filter]
  · intro σ config w walked hroots hwalked
    refine ⟨_, BuildConfig.publishArtefacts_of_walked hroots hwalked, ?_⟩
    intro name file
    rw [find?_eq_some_iff, BuildConfig.groovyFiles, lastDeclaring_flatMap]

namespace Rehearsal

def coreDir : Path := .ofString "core/grails-app"

def extraDir : Path := .ofString "extra/grails-app"

/-- Two plugins with a domain class of the same name. -/
def twinStage : Stage :=
  staged [.file (.ofString "core/grails-app/domain/Book.groovy") shopText 20,
    .file (.ofString "extra/grails-app/domain/Book.groovy") shopText 20] 100

def twinConfig : BuildConfig := ⟨[], outDir, [coreDir, extraDir]⟩

def twinNames : List Path := [.ofString "domain/Book.groovy"]

end Rehearsal

open Rehearsal

/-- The class of the root that is given last. -/
theorem later_root_found :
    twinConfig.artefactRoots ≠ [] ∧
      (∀ root ∈ twinConfig.artefactRoots, twinStage.files.discover root = .ok twinNames) ∧
      ∃ index, (twinConfig.publishArtefacts twinStage).1 = .ok (some index) ∧
        index.find? "Book" = some (.ofString "extra/grails-app/domain/Book.groovy") := by
  have hroots : twinConfig.artefactRoots ≠ [] := by decide
  have hcore : twinStage.files.discover coreDir = .ok twinNames := by decide +kernel
  have hextra : twinStage.files.discover extraDir = .ok twinNames := by decide +kernel
  have hwalked : ∀ root ∈ twinConfig.artefactRoots, twinStage.files.discover root = .ok twinNames :=
    List.forall_mem_cons.2 ⟨hcore, List.forall_mem_singleton.2 hextra⟩
  obtain ⟨index, hpublished, hfind⟩ :=
    last_declaring_found.2 _ twinConfig twinStage (fun _ => twinNames) hroots hwalked
  refine ⟨hroots, hwalked, index, hpublished,
    (hfind _ _).2 ⟨[coreDir], extraDir, [], rfl, ?_, by simp⟩⟩
  have hfiles : (twinNames.filter fun entry => SourceKind.ofName? entry = some .groovy).map
      extraDir.join = [.ofString "extra/grails-app/domain/Book.groovy"] := by decide +kernel
  rw [hfiles]
  have hclass : Artefact.className? (.ofString "extra/grails-app/domain/Book.groovy") =
      some "Book" := by decide +kernel
  exact ⟨[], [], rfl, hclass, by simp [NoneDeclares]⟩

end StaleBuild
