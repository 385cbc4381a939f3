import StaleBuild.Command.Perform
import StaleBuild.Proofs.Destination

/-!
# Layers of a configuration

What is built is put together from four layers, each of which may be silent on a value. The
uppermost layer that says something decides:

    destination   options, environment, project, `target/classes`
    sources       options, project, `src/groovy` and `src/java`
    artefacts     project
    compiler      environment, project, global, `groovyc`

Paths of the options are seen from the start directory and all others from the root, that of the
project or else the start directory; an absolute path is the same from everywhere. The environment
comes in by way of the project (`ProjectConfig.overridden`), of which it replaces the two values that
it names and nothing else.

    configuration = layers over what was found in files                  (configuration_layered)

A variable speaks only if its value is text (`undecodable_destination_is_silent`).
-/

namespace StaleBuild

/-! ## The environment -/

/-- The variables hold nothing that loading refuses. -/
structure Environment.Acceptable (env : Environment) : Prop where
  destination : env.text? destinationVariable ≠ some ""
  compiler : ∀ command, env.text? compilerVariable = some command → Text.isAllBlank command = false

namespace ProjectConfig

/-- A project with the values that the environment names in place of its own. -/
def overridden (env : Environment) (c : ProjectConfig) : ProjectConfig where
  project := c.project
  build := match env.text? destinationVariable with
    | none => c.build
    | some dest => some { c.build.getD emptyBuild with destination := some (.ofString dest) }
  compiler := match env.text? compilerVariable with
    | none => c.compiler
    | some command => some { c.compiler.getD emptyCompiler with command := some command }
  plugins := c.plugins

variable (env : Environment) (c : ProjectConfig)

theorem destination?_overridden :
    (c.overridden env).destination? =
      ((env.text? destinationVariable).map Path.ofString).or c.destination? := by
  unfold overridden destination?
  cases env.text? destinationVariable <;> rfl

theorem command?_overridden :
    (c.overridden env).command? = (env.text? compilerVariable).or c.command? := by
  unfold overridden command?
  cases env.text? compilerVariable <;> rfl

theorem sources_overridden : (c.overridden env).sources = c.sources := by
  unfold overridden sources
  cases env.text? destinationVariable
  · rfl
  · cases c.build <;> rfl

theorem args_overridden : (c.overridden env).args = c.args := by
  unfold overridden args
  cases env.text? compilerVariable
  · rfl
  · cases c.compiler <;> rfl

end ProjectConfig

/-- What the environment makes of a project, if it is acceptable. -/
theorem Config.override_eq_ok_iff {env : Environment} {given c : ProjectConfig} :
    override env given = .ok c ↔ env.Acceptable ∧ c = given.overridden env := by
  have haccepts : env.Acceptable ↔ env.text? destinationVariable ≠ some "" ∧
      ∀ command, env.text? compilerVariable = some command → Text.isAllBlank command = false :=
    ⟨fun h => ⟨h.destination, h.compiler⟩, fun h => ⟨h.1, h.2⟩⟩
  rw [haccepts, eq_comm (a := c)]
  unfold override overrideDestination overrideCompiler ProjectConfig.overridden
  cases env.text? destinationVariable with
  | none =>
    cases env.text? compilerVariable with
    | none => simp
    | some command => by_cases hblank : Text.isAllBlank command = true <;> simp [hblank]
  | some dest =>
    by_cases hempty : dest = ""
    · simp [hempty]
    · cases env.text? compilerVariable with
      | none => simp [hempty]
      | some command =>
        by_cases hblank : Text.isAllBlank command = true <;> simp [hempty, hblank]

/-! ## Loading -/

/-- A configuration is loaded if its two files can be and the environment is acceptable. -/
theorem ConfigLoader.loadDirectory_eq_ok_iff {loader left : ConfigLoader} {tree : FileTree}
    {env : Environment} {start : Path} {c : Config} :
    loader.loadDirectory tree env start = (.ok c, left) ↔
      ∃ project, Config.findProject tree start = .ok (c.projectRoot, project) ∧
        loadGlobal tree (loader.globalFile env) = .ok c.global ∧ env.Acceptable ∧
        c.project = project.overridden env ∧ c.baseDir = start ∧
        left = ⟨loader.globalFile env⟩ := by
  simp only [loadDirectory, merge]
  cases Config.findProject tree start with
  | error e => simp
  | ok found =>
    obtain ⟨root, project⟩ := found
    dsimp only
    cases hglobal : loadGlobal tree (loader.globalFile env) with
    | error e => simp
    | ok global =>
      cases hproject : Config.override env project with
      | error e =>
        have hrefused (merged : ProjectConfig) :
            ¬(env.Acceptable ∧ merged = project.overridden env) := fun h => by
          have hmerged := Config.override_eq_ok_iff.2 h
          rw [hproject] at hmerged
          cases hmerged
        constructor
        · intro h
          cases h
        · rintro ⟨_, hfound, -, haccepted, hmerged, -⟩
          obtain ⟨-, rfl⟩ := Prod.mk.inj (Except.ok.inj hfound)
          exact (hrefused _ ⟨haccepted, hmerged⟩).elim
      | ok merged =>
        obtain ⟨haccepted, rfl⟩ := Config.override_eq_ok_iff.1 hproject
        constructor
        · intro h
          cases h
          exact ⟨project, rfl, rfl, haccepted, rfl, rfl, rfl⟩
        · obtain ⟨project', global', root', start'⟩ := c
          rintro ⟨_, hfound, hloaded, -, hmerged, hbase, rfl⟩
          obtain ⟨rfl, rfl⟩ := Prod.mk.inj (Except.ok.inj hfound)
          cases hloaded
          cases hmerged
          cases hbase
          rfl

/-! ## Layers -/

/-- The value of the uppermost layer that has one. -/
def uppermost {α : Type} (layers : List (Option α)) (otherwise : α) : α :=
  (layers.findSome? id).getD otherwise

/-- What a configuration and the options of a request come to, seen from a root and a start
directory, given the project that was found. -/
structure Layered (env : Environment) (project : ProjectConfig) (root start : Path) (c : Config)
    (o : Command.Options) : Prop where
  accepted : env.Acceptable
  dest : (Command.buildConfig c o).dest =
    uppermost
      [o.destination.map start.join,
        (env.text? destinationVariable).map fun dest => root.join (.ofString dest),
        project.destination?.map root.join]
      (root.join (.ofString "target/classes"))
  sourceDirs : (Command.buildConfig c o).sourceDirs =
    if o.sources ≠ [] then o.sources.map start.join
    else if project.sources ≠ [] then project.sources.map root.join
    else [root.join (.ofString "src/groovy"), root.join (.ofString "src/java")]
  artefactRoots : (Command.buildConfig c o).artefactRoots = project.artefacts.map root.join
  program : (Command.compilerOf c).program =
    uppermost [env.text? compilerVariable, project.command?, c.global.command?] "groovyc"
  /-- An absolute path is the same from everywhere. -/
  absolute : ∀ p : Path, p.isAbsolute → start.join p = p ∧ root.join p = p
  /-- What no variable names is as in the file, whether its section is there or not. -/
  kept : c.project.name? = project.name? ∧ c.project.sources = project.sources ∧
    (Command.compilerOf c).args = project.args ∧ c.project.artefacts = project.artefacts
  /-- A section is as in the file unless a variable names a value in it. -/
  unnamed : c.project.project = project.project ∧ c.project.plugins = project.plugins ∧
    (env.text? destinationVariable = none → c.project.build = project.build) ∧
    (env.text? compilerVariable = none → c.project.compiler = project.compiler)

/-- **How a configuration is layered.** -/
theorem configuration_layered {loader left : ConfigLoader} {tree : FileTree} {env : Environment}
    {start : Path} {c : Config} (h : loader.loadDirectory tree env start = (.ok c, left))
    (o : Command.Options) :
    ∃ project, Config.findProject tree start = .ok (c.projectRoot, project) ∧
      ConfigLoader.loadGlobal tree (loader.globalFile env) = .ok c.global ∧
      Layered env project (c.projectRoot.getD start) start c o := by
  obtain ⟨project, hfind, hglobal, haccepted, hproject, hbase, -⟩ :=
    ConfigLoader.loadDirectory_eq_ok_iff.1 h
  have hroot : c.root = c.projectRoot.getD start := by rw [Config.root, hbase]
  have hresolve : c.resolve = (c.projectRoot.getD start).join := by
    funext p
    rw [Config.resolve, hroot]
  refine ⟨project, hfind, hglobal, ?_⟩
  generalize c.projectRoot.getD start = root at hresolve
  exact {
    accepted := haccepted
    dest := by
      unfold Command.buildConfig uppermost
      cases o.destination with
      | some dest => simp [hbase]
      | none =>
        rw [Config.destination, hresolve, hproject, ProjectConfig.destination?_overridden]
        cases env.text? destinationVariable <;> cases project.destination? <;> rfl
    sourceDirs := by
      unfold Command.buildConfig
      by_cases hsources : o.sources = []
      · rw [if_pos hsources, if_neg (not_not.2 hsources), Config.sourceDirs, hresolve, hproject,
          ProjectConfig.sources_overridden]
        by_cases hgiven : project.sources = [] <;> simp [hgiven]
      · rw [if_neg hsources, if_pos hsources, hbase]
    artefactRoots := by
      rw [Command.buildConfig, Config.artefactRoots, hresolve, hproject]
      rfl
    program := by
      rw [Command.compilerOf, Config.compilerCommand, hproject, ProjectConfig.command?_overridden]
      unfold uppermost
      cases env.text? compilerVariable <;> cases project.command? <;> cases c.global.command? <;> rfl
    absolute := fun p hp => ⟨start.join_of_absolute hp, root.join_of_absolute hp⟩
    kept := by
      rw [Command.compilerOf, Config.compilerArgs, hproject, ProjectConfig.sources_overridden,
        ProjectConfig.args_overridden]
      exact ⟨rfl, rfl, rfl, rfl⟩
    unnamed := by
      rw [hproject]
      exact ⟨rfl, rfl, fun hnone => by rw [ProjectConfig.overridden, hnone],
        fun hnone => by rw [ProjectConfig.overridden, hnone]⟩ }

namespace Rehearsal

/-- A project with a name and artefacts, and a user's compiler. -/
def layeredTree : FileTree :=
  (FileTree.fresh [] 0).placeAll 0
    [.file (shop.join projectFileName) (Utf8.encode
        "[project]\nname = \"shop\"\n[plugins]\nartefacts = [\"grails-app\", \"/lib\"]\n") 0,
      .file (.ofString "global.toml") (Utf8.encode "[compiler]\ncommand = \"fast-groovyc\"\n") 0,
      .directory (shop.join (.ofString "web")) none]

/-- What is loaded of it in an environment that names a destination. -/
def layeredConfig : Config where
  project := ⟨some ⟨"shop"⟩, some ⟨[], some (.ofString "classes")⟩, none,
    some ⟨[.ofString "grails-app", .ofString "/lib"]⟩⟩
  global := ⟨some ⟨some "fast-groovyc"⟩, none⟩
  projectRoot := some shop
  baseDir := .ofString "shop/web"

end Rehearsal

open Rehearsal

/-- A destination of the environment in a section that the file lacks, sources of the options, and the
compiler of the user. -/
theorem shop_layered :
    let o : Command.Options := { Command.Options.none with sources := [.ofString "gen"] }
    let env := destinationOnly (some "classes")
    let loaded := ConfigLoader.loadDirectory ⟨some (.ofString "global.toml")⟩ layeredTree env
      (.ofString "shop/web")
    loaded = (.ok layeredConfig, loaded.2) ∧
      ∃ project, project.build = none ∧ project.compiler = none ∧
        Config.findProject layeredTree (.ofString "shop/web") = .ok (some shop, project) ∧
        Layered env project shop (.ofString "shop/web") layeredConfig o := by
  intro o env loaded
  have hloaded : loaded = (.ok layeredConfig, loaded.2) :=
    ConfigLoader.eq_of_toOption (by decide +kernel)
  obtain ⟨project, hfind, -, hlayers⟩ := configuration_layered hloaded o
  have hproject : ((Config.findProject layeredTree (.ofString "shop/web")).toOption.any fun found =>
      found.2.build.isNone && found.2.compiler.isNone) = true := by
    decide +kernel
  rw [hfind] at hproject
  obtain ⟨hbuild, hcompiler⟩ : project.build = none ∧ project.compiler = none := by
    simpa [Except.toOption] using hproject
  exact ⟨hloaded, project, hbuild, hcompiler, hfind, hlayers⟩

/-- A variable whose value is not text is silent, though a path could hold it. -/
theorem undecodable_destination_is_silent :
    let bytes := Utf8.encode "out" ++ [0xFF]
    let env : Environment := ⟨[(destinationVariable, bytes)], .empty⟩
    let start : Path := .ofString "."
    let loaded := (ConfigLoader.loadDirectory ⟨none⟩ (FileTree.fresh [] 0) env start).1.toOption
    env.bytes? destinationVariable = some bytes ∧
      loaded.map (fun c => (Command.buildConfig c .none).dest) = some (.ofString "./target/classes") ∧
      start.join ⟨bytes⟩ ≠ .ofString "./target/classes" := by
  decide +kernel

end StaleBuild
