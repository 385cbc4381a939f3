import StaleBuild.Proofs.Decoding
import StaleBuild.Proofs.Layers

/-!
# Settings that cannot be used

A compiler that is nothing but blanks cannot be run, and the empty path is no place for class files.
Each layer of a configuration refuses some of these values:

                  environment    project    global
    compiler      refused        refused    taken
    destination   refused        taken      (has none)

The value that a layer takes comes through if the layers above it are silent, and only then
(`unusable_setting_iff`). What the environment and the project refuse is refused even where another
layer would hide it.
-/

namespace StaleBuild

/-- The path that a text spells is empty only if the text is. -/
theorem Path.ofString_eq_empty_iff {s : String} : ofString s = .empty ↔ s = "" := by
  constructor
  · intro h
    have hbytes : Utf8.encode s = Utf8.encode "" := congrArg Path.bytes h
    have hdecoded := congrArg Utf8.decode? hbytes
    rw [Utf8.decode?_encode, Utf8.decode?_encode] at hdecoded
    exact Option.some.inj hdecoded
  · rintro rfl
    rfl

/-! ## What the layers refuse -/

/-- A project without complaints names no blank compiler. -/
theorem ProjectConfig.not_blank_of_complaint? {c : ProjectConfig} (h : c.complaint? = none)
    {command : String} (hcommand : c.command? = some command) :
    Text.isAllBlank command = false := by
  unfold complaint? at h
  simp only [Option.or_eq_none_iff] at h
  have hnone := h.2.2.2
  unfold commandComplaint? at hnone
  simpa [hcommand] using hnone

namespace Config

/-- The compiler is left to the user, who names a blank one. -/
structure BlankForUser (env : Environment) (project : ProjectConfig) (global : GlobalConfig) :
    Prop where
  environment : env.text? compilerVariable = none
  project : project.command? = none
  global : ∃ command, global.command? = some command ∧ Text.isAllBlank command = true

/-- The destination is left to the project, which names the empty path. -/
structure EmptyForProject (env : Environment) (project : ProjectConfig) : Prop where
  environment : env.text? destinationVariable = none
  project : project.destination? = some .empty

/-- A blank compiler is the user's, met where no layer above names one. -/
theorem isAllBlank_compilerCommand_iff {c : Config} {env : Environment} {project : ProjectConfig}
    (haccepted : env.Acceptable) (hchecked : project.complaint? = none)
    (hproject : c.project = project.overridden env) :
    Text.isAllBlank c.compilerCommand = true ↔ BlankForUser env project c.global := by
  have hcommand : c.compilerCommand =
      (((env.text? compilerVariable).or project.command?).or c.global.command?).getD
        defaultCompiler := by
    rw [compilerCommand, hproject, ProjectConfig.command?_overridden]
  rw [hcommand]
  constructor
  · intro hblank
    cases henv : env.text? compilerVariable with
    | some command =>
      have hfull := haccepted.compiler command henv
      simp [henv, hfull] at hblank
    | none =>
      cases hgiven : project.command? with
      | some command =>
        have hfull := ProjectConfig.not_blank_of_complaint? hchecked hgiven
        simp [henv, hgiven, hfull] at hblank
      | none =>
        cases hglobal : c.global.command? with
        | some command =>
          have htaken : Text.isAllBlank command = true := by
            simpa [henv, hgiven, hglobal] using hblank
          exact ⟨henv, hgiven, command, hglobal, htaken⟩
        | none =>
          have hdefault : Text.isAllBlank defaultCompiler = false := by decide
          simp [henv, hgiven, hglobal, hdefault] at hblank
  · rintro ⟨henv, hgiven, command, hglobal, hblank⟩
    simpa [henv, hgiven, hglobal] using hblank

/-- The empty destination is the project's, met where the environment names none. -/
theorem destination?_eq_empty_iff {c : Config} {env : Environment} {project : ProjectConfig}
    (haccepted : env.Acceptable) (hproject : c.project = project.overridden env) :
    c.project.destination? = some .empty ↔ EmptyForProject env project := by
  rw [hproject, ProjectConfig.destination?_overridden]
  constructor
  · intro hempty
    cases henv : env.text? destinationVariable with
    | some dest =>
      have hdest : Path.ofString dest = .empty := by simpa [henv] using hempty
      rw [Path.ofString_eq_empty_iff] at hdest
      subst hdest
      exact (haccepted.destination henv).elim
    | none =>
      have hgiven : project.destination? = some .empty := by simpa [henv] using hempty
      exact ⟨henv, hgiven⟩
  · rintro ⟨henv, hgiven⟩
    simp [henv, hgiven]

end Config

/-- **When a setting cannot be used.** Of a configuration that was loaded, the compiler is blank exactly
if neither the environment nor the project names one and that of the user is blank, and the
destination is the empty path exactly if the environment names none and that of the project is empty.
All else was refused: blank compilers of the environment and of the project, and an empty destination
of the environment. -/
theorem unusable_setting_iff {loader left : ConfigLoader} {tree : FileTree} {env : Environment}
    {start : Path} {c : Config} (h : loader.loadDirectory tree env start = (.ok c, left)) :
    ∃ project, Config.findProject tree start = .ok (c.projectRoot, project) ∧
      ConfigLoader.loadGlobal tree (loader.globalFile env) = .ok c.global ∧
      env.Acceptable ∧
      (∀ command, project.command? = some command → Text.isAllBlank command = false) ∧
      (Text.isAllBlank c.compilerCommand = true ↔ Config.BlankForUser env project c.global) ∧
      (c.project.destination? = some .empty ↔ Config.EmptyForProject env project) := by
  obtain ⟨project, hfind, hglobal, haccepted, hproject, -, -⟩ :=
    ConfigLoader.loadDirectory_eq_ok_iff.1 h
  have hchecked : project.complaint? = none := Config.complaint?_of_findProjectWithin hfind
  have hnamed (command : String) (hcommand : project.command? = some command) :
      Text.isAllBlank command = false :=
    ProjectConfig.not_blank_of_complaint? hchecked hcommand
  refine ⟨project, hfind, hglobal, haccepted, hnamed, ?_, ?_⟩
  · exact Config.isAllBlank_compilerCommand_iff haccepted hchecked hproject
  · exact Config.destination?_eq_empty_iff haccepted hproject

namespace Rehearsal

/-- A project with the empty destination, and a user's compiler that is a blank. -/
def carelessTree : FileTree :=
  (FileTree.fresh [] 0).placeAll 0
    [.file (shop.join projectFileName) (Utf8.encode "[build]\ndestination = \"\"\n") 0,
      .file (.ofString "global.toml") (Utf8.encode "[compiler]\ncommand = \" \"\n") 0]

/-- What is loaded of it if the environment names no compiler. -/
def carelessConfig (destination : String) : Config where
  project := { ProjectConfig.empty with build := some ⟨[], some (.ofString destination)⟩ }
  global := ⟨some ⟨some " "⟩, none⟩
  projectRoot := some shop
  baseDir := shop

end Rehearsal

open Rehearsal

/-- A destination of the environment covers that of the project, and the user's compiler is met. -/
theorem blank_compiler_left_to_user :
    let env := destinationOnly (some "classes")
    let loaded := ConfigLoader.loadDirectory ⟨some (.ofString "global.toml")⟩ carelessTree env shop
    loaded = (.ok (carelessConfig "classes"), loaded.2) ∧
      ∃ project, Config.findProject carelessTree shop = .ok (some shop, project) ∧
        Config.BlankForUser env project (carelessConfig "classes").global ∧
        ¬Config.EmptyForProject env project := by
  intro env loaded
  have hloaded : loaded = (.ok (carelessConfig "classes"), loaded.2) :=
    ConfigLoader.eq_of_toOption (by decide +kernel)
  obtain ⟨project, hfind, -, -, -, hcompiler, hdestination⟩ := unusable_setting_iff hloaded
  refine ⟨hloaded, project, hfind, hcompiler.1 (by decide), ?_⟩
  rw [← hdestination]
  decide

/-- What the environment may not say, the user and the project may. -/
theorem unusable_settings_taken :
    let load (env : Environment) :=
      (ConfigLoader.loadDirectory ⟨some (.ofString "global.toml")⟩ carelessTree env shop).1.toOption
    load (destinationOnly (some "")) = none ∧
      load ⟨[(compilerVariable, Utf8.encode " ")], .empty⟩ = none ∧
      load (destinationOnly none) = some (carelessConfig "") ∧
      Text.isAllBlank (carelessConfig "").compilerCommand = true ∧
      (carelessConfig "").project.destination? = some .empty := by
  decide +kernel

end StaleBuild
