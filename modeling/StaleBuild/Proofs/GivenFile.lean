import StaleBuild.Proofs.Destination
import StaleBuild.Proofs.Parents

/-!
# A project by its file

A project is loaded from a start directory or from its file. The search from a directory keeps the path
at which it stopped, whereas the directory of a given file is the parent of its path, in which nothing
idle is left at the end:

    search stops at    file                   its directory
    shop/./            shop/./grailsc.toml    shop
    .                  ./grailsc.toml         .
    (empty)            grailsc.toml           (empty)

The two have the same components, and so have all paths that are seen from them. So the file that was
found gives what the search gives, or the same error (`loadFile_alike`).
-/

namespace StaleBuild

namespace Path

variable {p q : Path}

/-- Only the empty path has no components. -/
theorem components_eq_nil_iff : p.components = [] ↔ p.bytes = [] := by
  constructor
  · intro hnone
    rw [components_eq, List.append_eq_nil_iff] at hnone
    obtain ⟨hlead, hnames⟩ := hnone
    cases hbytes : p.bytes with
    | nil => rfl
    | cons b rest =>
      exfalso
      cases habsolute : p.isAbsolute with
      | true =>
        rw [leadComponents_of_absolute habsolute] at hlead
        cases hlead
      | false =>
        have hb : b ≠ separator := by simpa [isAbsolute, hbytes] using habsolute
        obtain ⟨s, more, hrest⟩ := List.exists_cons_of_ne_nil (segments_ne_nil rest)
        have hsegments : segments p.bytes = (b :: s) :: more := by
          simp [hbytes, segments, hb, hrest]
        by_cases hdot : b :: s = [fullStop]
        · have hdotted : p.lead = [fullStop] := by
            rw [lead_of_relative habsolute, hsegments, hdot]
            rfl
          simp [leadComponents, habsolute, hdotted] at hlead
        · obtain ⟨c, hc⟩ := exists_componentOf? (s := b :: s) (by simpa [isIdle] using hdot)
          simp [names, hsegments, hc] at hnames
  · intro hempty
    obtain ⟨bytes⟩ := p
    subst hempty
    rfl

/-- What is seen from two paths is the same if they are. -/
theorem same_join (h : p.same q = true) (r : Path) : (p.join r).same (q.join r) = true := by
  rw [same_iff] at h ⊢
  cases hr : r.isAbsolute with
  | true => rw [join_of_absolute p hr, join_of_absolute q hr]
  | false =>
    by_cases hp : p.bytes = []
    · have hq : q.bytes = [] := by
        rw [← components_eq_nil_iff, ← h, components_eq_nil_iff]
        exact hp
      rw [join_of_empty hp, join_of_empty hq]
    · have hq : q.bytes ≠ [] := by
        rw [ne_eq, ← components_eq_nil_iff, ← h, components_eq_nil_iff]
        exact hp
      rw [components_join hp hr, components_join hq hr, h]

/-- What is seen from two paths that are the same, one by one. -/
theorem forall₂_same_join (h : p.same q = true) (rs : List Path) :
    List.Forall₂ (fun a b => a.same b = true) (rs.map p.join) (rs.map q.join) := by
  induction rs with
  | nil => exact .nil
  | cons r rest ih => exact .cons (same_join h r) ih

/-- The parent of a name below a path is that path, though perhaps written otherwise. -/
theorem parent?_join_of_normal {name : Bytes} (hq : q.components = [.normal name]) :
    ∃ above, (p.join q).parent? = some above ∧ p.same above = true := by
  have hnormal : ∀ c ∈ q.components, ∃ name, c = .normal name := by
    intro c hc
    rw [hq, List.mem_singleton] at hc
    exact ⟨name, hc⟩
  have hcomponents : (p.join q).components = p.components ++ [.normal name] := by
    rw [components_join_of_normal hnormal, hq]
  have hnames : (p.join q).names ≠ [] := by
    intro hnone
    rw [components_eq, hnone, List.append_nil] at hcomponents
    have hlast : .normal name ∈ (p.join q).leadComponents := by simp [hcomponents]
    unfold leadComponents at hlast
    split at hlast
    · simp at hlast
    · split at hlast <;> simp at hlast
  obtain ⟨above, habove⟩ := exists_parent? hnames
  refine ⟨above, habove, ?_⟩
  rw [same_iff, components_of_parent? habove, hcomponents, List.dropLast_concat]

end Path

namespace Config

variable {tree : FileTree} {start root : Path}

/-! ## The search -/

/-- The upward search from a directory stops at one that holds a project file. -/
inductive StopsAt (tree : FileTree) : Path → Path → Prop where
  | here {dir : Path} (hfile : tree.isFile (dir.join projectFileName) = true) : StopsAt tree dir dir
  | above {dir up root : Path} (hnone : tree.isFile (dir.join projectFileName) = false)
      (hup : dir.parent? = some up) (hstops : StopsAt tree up root) : StopsAt tree dir root

/-- What the search gives is in the file where it stops. -/
theorem StopsAt.findProjectWithin_eq (h : StopsAt tree start root) {fuel : Nat}
    (hfuel : start.bytes.length < fuel) :
    findProjectWithin tree fuel start =
      (ProjectConfig.load tree (root.join projectFileName)).map fun project =>
        (some root, project) := by
  induction h generalizing fuel with
  | @here dir hfile =>
    cases fuel with
    | zero => exact absurd hfuel (Nat.not_lt_zero _)
    | succ fuel =>
      rw [findProjectWithin, if_pos hfile]
      cases ProjectConfig.load tree (dir.join projectFileName) <;> rfl
  | above hnone hup _ ih =>
    cases fuel with
    | zero => exact absurd hfuel (Nat.not_lt_zero _)
    | succ fuel =>
      have hshorter := (Path.prefix_of_parent? hup).2
      rw [findProjectWithin, if_neg (by rw [hnone]; exact Bool.false_ne_true), hup]
      exact ih (by omega)

/-! ## Loading -/

/-- Two configurations of one project, which write its root in two ways at most. The directories they
started from are left aside. -/
structure Alike (c d : Config) : Prop where
  project : c.project = d.project
  global : c.global = d.global
  projectRoot : ∃ root root', c.projectRoot = some root ∧ d.projectRoot = some root' ∧
    root.same root' = true
  sourceDirs : List.Forall₂ (fun p q => p.same q = true) c.sourceDirs d.sourceDirs
  destination : c.destination.same d.destination = true
  artefactRoots : List.Forall₂ (fun p q => p.same q = true) c.artefactRoots d.artefactRoots
  compilerCommand : c.compilerCommand = d.compilerCommand
  compilerArgs : c.compilerArgs = d.compilerArgs

/-- Two results of loading: the same error, or configurations that are alike. -/
inductive LoadedAlike : Except ConfigError Config → Except ConfigError Config → Prop where
  | error (e : ConfigError) : LoadedAlike (.error e) (.error e)
  | ok {c d : Config} (h : Alike c d) : LoadedAlike (.ok c) (.ok d)

/-- What is resolved depends on the root as a path, and on the start directory not at all. -/
theorem alike_of_same_root {root' : Path} (h : root.same root' = true) (project : ProjectConfig)
    (global : GlobalConfig) (base base' : Path) :
    Alike ⟨project, global, some root, base⟩ ⟨project, global, some root', base'⟩ where
  project := rfl
  global := rfl
  projectRoot := ⟨root, root', rfl, rfl, h⟩
  sourceDirs := Path.forall₂_same_join h _
  destination := Path.same_join h _
  artefactRoots := Path.forall₂_same_join h _
  compilerCommand := rfl
  compilerArgs := rfl

end Config

/-- Merging goes the same way for two roots that are the same. -/
theorem ConfigLoader.merge_alike (loader : ConfigLoader) (tree : FileTree) (env : Environment)
    (project : ProjectConfig) {root root' : Path} (h : root.same root' = true) (base base' : Path) :
    let loaded := loader.merge tree env project (some root) base
    let given := loader.merge tree env project (some root') base'
    Config.LoadedAlike loaded.1 given.1 ∧ loaded.2 = given.2 := by
  intro loaded given
  refine ⟨?_, rfl⟩
  simp only [loaded, given, merge]
  cases loadGlobal tree (loader.globalFile env) with
  | error e => exact .error e
  | ok global =>
    cases Config.override env project with
    | error e => exact .error e
    | ok overridden => exact .ok (Config.alike_of_same_root h overridden global base base')

/-- **The two ways to load a project agree.** Where the search from a start directory stops, the file
that it found gives the same error or a configuration that is alike, and leaves the same loader. -/
theorem loadFile_alike {tree : FileTree} {start root : Path} (h : Config.StopsAt tree start root)
    (loader : ConfigLoader) (env : Environment) :
    let found := loader.loadDirectory tree env start
    let given := loader.loadFile tree env (root.join projectFileName)
    Config.LoadedAlike found.1 given.1 ∧ found.2 = given.2 := by
  intro found given
  have hname : projectFileName.components = [.normal projectFileName.bytes] := by decide +kernel
  obtain ⟨root', hparent, hsame⟩ := Path.parent?_join_of_normal (p := root) hname
  have hfind : Config.findProject tree start =
      (ProjectConfig.load tree (root.join projectFileName)).map fun project =>
        (some root, project) :=
    h.findProjectWithin_eq (Nat.lt_succ_self _)
  simp only [found, given, ConfigLoader.loadDirectory, ConfigLoader.loadFile, hfind, hparent]
  cases ProjectConfig.load tree (root.join projectFileName) with
  | error e => exact ⟨.error e, rfl⟩
  | ok project => exact loader.merge_alike tree env project hsame start _

open Rehearsal

/-- From a start path that has something idle at its end the root is written with it, and the directory
of the file without. -/
theorem dotted_start_alike :
    let tree := shopTree "[build]\nsources = [\"src\", \"./gen\"]\n[plugins]\nartefacts = [\"/lib\"]\n"
    let env := destinationOnly (some "classes")
    let start : Path := .ofString "shop/./"
    let found := ConfigLoader.loadDirectory ⟨none⟩ tree env start
    let given := ConfigLoader.loadFile ⟨none⟩ tree env (start.join projectFileName)
    Config.StopsAt tree start start ∧
      found.1.toOption.map Config.projectRoot = some (some start) ∧
      given.1.toOption.map Config.projectRoot = some (some shop) ∧
      Config.LoadedAlike found.1 given.1 ∧ found.2 = given.2 := by
  intro tree env start found given
  have hstops : Config.StopsAt tree start start := .here (by decide +kernel)
  refine ⟨hstops, by decide +kernel, by decide +kernel, loadFile_alike hstops ⟨none⟩ env⟩

end StaleBuild
