import StaleBuild.Config.Loader
import StaleBuild.Proofs.Joining
import StaleBuild.Rehearsal

/-!
# The destination among the sources

A project file is refused if its destination is one of its source directories. The check comes
before the layers are merged and before paths are resolved, so it sees what is written in the file
and nothing else:

    project file  --check-->  overrides  -->  defaults  -->  resolved against the root

The destination of a loaded configuration is thus a source directory exactly if one of the two was
not written in the file, or if they were written differently (`destination_is_source_iff`).
-/

namespace StaleBuild

/-! ## What was checked -/

theorem ProjectConfig.complaint?_of_load {tree : FileTree} {file : Path} {c : ProjectConfig}
    (h : load tree file = .ok c) : c.complaint? = none := by
  unfold load at h
  split at h
  · cases h
  · next read hread =>
    unfold validate at h
    split at h
    · cases h
    · next hnone =>
      cases h
      exact hnone

/-- A project without complaints writes its destination unlike its sources. -/
theorem ProjectConfig.not_same_of_complaint? {c : ProjectConfig} (h : c.complaint? = none)
    {destination source : Path} (hdestination : c.destination? = some destination)
    (hsource : source ∈ c.sources) : destination.same source = false := by
  unfold complaint? at h
  simp only [Option.or_eq_none_iff] at h
  have hnone := h.2.2.1
  unfold destinationComplaint? at hnone
  simp only [hdestination, ite_eq_right_iff, reduceCtorEq, imp_false] at hnone
  simpa using List.any_eq_false.1 (Bool.eq_false_iff.2 hnone) source hsource

namespace Config

/-- Climbing towards the root, either no project file is found or one that was checked. -/
theorem complaint?_of_findProjectWithin {tree : FileTree} {fuel : Nat} {dir : Path}
    {root : Option Path} {project : ProjectConfig}
    (h : findProjectWithin tree fuel dir = .ok (root, project)) : project.complaint? = none := by
  have hempty : ProjectConfig.empty.complaint? = none := rfl
  induction fuel generalizing dir with
  | zero =>
    cases h
    exact hempty
  | succ fuel ih =>
    rw [findProjectWithin] at h
    split at h
    · split at h
      · next loaded hload =>
        cases h
        exact ProjectConfig.complaint?_of_load hload
      · cases h
    · split at h
      · exact ih h
      · cases h
        exact hempty

/-! ## What was overridden -/

variable {env : Environment} {given c : ProjectConfig}

theorem overrideDestination_values (h : overrideDestination env given = .ok c) :
    c.sources = given.sources ∧
      (env.text? destinationVariable = none → c.destination? = given.destination?) := by
  unfold overrideDestination at h
  split at h
  · cases h
    exact ⟨rfl, fun _ => rfl⟩
  · next dest htext =>
    split at h
    · cases h
    · cases h
      refine ⟨?_, fun hnone => by simp [htext] at hnone⟩
      cases hbuild : given.build <;> simp [ProjectConfig.sources, ProjectConfig.emptyBuild, hbuild]

theorem overrideCompiler_build (h : overrideCompiler env given = .ok c) : c.build = given.build := by
  unfold overrideCompiler at h
  split at h
  · cases h
    rfl
  · split at h
    · cases h
    · cases h
      rfl

/-- The environment changes no source, and the destination only if it names one. -/
theorem override_values (h : override env given = .ok c) :
    c.sources = given.sources ∧
      (env.text? destinationVariable = none → c.destination? = given.destination?) := by
  unfold override at h
  split at h
  · next between hdestination =>
    have hbuild := overrideCompiler_build h
    have hvalues := overrideDestination_values hdestination
    unfold ProjectConfig.sources ProjectConfig.destination? at hvalues ⊢
    rwa [hbuild]
  · cases h

end Config

/-- What a loaded configuration was put together from. -/
theorem ConfigLoader.loadDirectory_eq_ok {loader left : ConfigLoader} {tree : FileTree}
    {env : Environment} {start : Path} {c : Config}
    (h : loader.loadDirectory tree env start = (.ok c, left)) :
    ∃ project, Config.findProject tree start = .ok (c.projectRoot, project) ∧
      Config.override env project = .ok c.project := by
  unfold loadDirectory at h
  split at h
  · cases h
  · next root project hfind =>
    unfold merge at h
    obtain ⟨hloaded, -⟩ := Prod.mk.inj h
    split at hloaded
    · cases hloaded
    · cases hloaded
    · next _ overridden _ hoverride =>
      cases hloaded
      exact ⟨project, hfind, hoverride⟩

/-! ## The destination -/

namespace Config

/-- The source directories before they are resolved. -/
def writtenSources (c : Config) : List Path :=
  if c.project.sources = [] then [.ofString "src/groovy", .ofString "src/java"]
  else c.project.sources

/-- The destination before it is resolved. -/
def writtenDestination (c : Config) : Path :=
  c.project.destination?.getD (.ofString "target/classes")

/-- Both the sources and the destination are those of the project file. -/
structure IsFromFile (c : Config) (env : Environment) : Prop where
  sources : c.project.sources ≠ []
  destination : c.project.destination? ≠ none
  unset : env.text? destinationVariable = none

/-- A source directory leads to the destination if it is written like it or spelled apart. -/
theorem destination_same_resolve_iff (c : Config) (source : Path) :
    c.destination.same (c.resolve source) = true ↔
      c.writtenDestination.same source = true ∨
        Path.SpelledApart c.root c.writtenDestination source :=
  Path.same_join_iff c.root c.writtenDestination source

end Config

/-- **When the destination is a source directory.** The check of the project file has kept apart what
is written there and nothing else: a destination that is overridden, one that meets a default, and
one that is spelled in another way than the source come through. -/
theorem destination_is_source_iff {loader left : ConfigLoader} {tree : FileTree}
    {env : Environment} {start : Path} {c : Config}
    (h : loader.loadDirectory tree env start = (.ok c, left)) :
    (∃ dir ∈ c.sourceDirs, c.destination.same dir = true) ↔
      ∃ source ∈ c.writtenSources,
        c.writtenDestination.same source = true ∧ ¬c.IsFromFile env ∨
          Path.SpelledApart c.root c.writtenDestination source := by
  obtain ⟨project, hfind, hoverride⟩ := ConfigLoader.loadDirectory_eq_ok h
  have hchecked := Config.complaint?_of_findProjectWithin hfind
  obtain ⟨hsources, hdestination⟩ := Config.override_values hoverride
  -- what is from the file has passed the check
  have hfile (source : Path) (hsource : source ∈ c.writtenSources)
      (hsame : c.writtenDestination.same source = true) : ¬c.IsFromFile env := by
    intro hfrom
    obtain ⟨dest, hdest⟩ := Option.ne_none_iff_exists'.1 hfrom.destination
    have hgiven : project.destination? = some dest := by rw [← hdestination hfrom.unset, hdest]
    have hmem : source ∈ project.sources := by
      rwa [Config.writtenSources, if_neg hfrom.sources, hsources] at hsource
    rw [Config.writtenDestination, hdest, Option.getD_some,
      ProjectConfig.not_same_of_complaint? hchecked hgiven hmem] at hsame
    cases hsame
  constructor
  · rintro ⟨dir, hdir, hsame⟩
    obtain ⟨source, hsource, rfl⟩ : ∃ source ∈ c.writtenSources, c.resolve source = dir :=
      List.mem_map.1 hdir
    refine ⟨source, hsource, (c.destination_same_resolve_iff source).1 hsame |>.imp_left ?_⟩
    exact fun hwritten => ⟨hwritten, hfile source hsource hwritten⟩
  · rintro ⟨source, hsource, hmeets⟩
    have hsame := (c.destination_same_resolve_iff source).2 (hmeets.imp_left And.left)
    exact ⟨c.resolve source, List.mem_map_of_mem hsource, hsame⟩

namespace Rehearsal

def shop : Path := .ofString "shop"

/-- A directory with a project file. -/
def shopTree (text : String) : FileTree :=
  (FileTree.fresh [] 0).placeAll 0 [.file (shop.join projectFileName) (Utf8.encode text) 0]

/-- An environment with nothing in it but a destination, if that is given. -/
def destinationOnly (destination : Option String) : Environment :=
  ⟨(destination.map fun d => (destinationVariable, Utf8.encode d)).toList, .empty⟩

/-- The configuration of a project file with these values for the build. -/
def shopConfig (sources : List String) (destination : String) : Config where
  project := { ProjectConfig.empty with
    build := some ⟨sources.map Path.ofString, some (.ofString destination)⟩ }
  global := .empty
  projectRoot := some shop
  baseDir := shop

end Rehearsal

open Rehearsal

/-- A loader that gave a configuration. -/
theorem ConfigLoader.eq_of_toOption {result : Except ConfigError Config × ConfigLoader} {c : Config}
    (h : result.1.toOption = some c) : result = (.ok c, result.2) := by
  obtain ⟨e | given, left⟩ := result
  · cases h
  · cases h
    rfl

/-- A destination that the project file spells otherwise than its source directory. -/
theorem dotted_destination_is_source :
    let c := shopConfig ["src"] "./src"
    let tree := shopTree "[build]\nsources = [\"src\"]\ndestination = \"./src\"\n"
    let loaded := ConfigLoader.loadDirectory ⟨none⟩ tree (destinationOnly none) shop
    loaded = (.ok c, loaded.2) ∧ ∃ dir ∈ c.sourceDirs, c.destination.same dir = true := by
  intro c tree loaded
  have hloaded : loaded = (.ok c, loaded.2) := ConfigLoader.eq_of_toOption (by decide +kernel)
  have hsource : .ofString "src" ∈ c.writtenSources := by decide +kernel
  have hapart : Path.SpelledApart c.root c.writtenDestination (.ofString "src") := by
    unfold Path.SpelledApart
    decide +kernel
  exact ⟨hloaded, (destination_is_source_iff hloaded).2 ⟨.ofString "src", hsource, .inr hapart⟩⟩

/-- The environment can name a source directory as the destination. -/
theorem overridden_destination_is_source :
    let c := shopConfig ["src"] "src"
    let tree := shopTree "[build]\nsources = [\"src\"]\n"
    let loaded := ConfigLoader.loadDirectory ⟨none⟩ tree (destinationOnly (some "src")) shop
    loaded.1.toOption = some c ∧ ∃ dir ∈ c.sourceDirs, c.destination.same dir = true := by
  decide +kernel

end StaleBuild
