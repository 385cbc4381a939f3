import StaleBuild.Proofs.Destination
import StaleBuild.Proofs.Files.Continuing
import StaleBuild.Proofs.Files.Soundness

/-!
# The root of a project

The search for a project climbs from a path to its parent, which is found by text. A walk along the
path comes by the parent with one step to go (`Path.steps_of_parent?`), so that the directories looked
at are those which a walk along the start path passes, the last one first:

    start = a/b/..      walk: a, a/b, a           search: a, a/b, a

The first of them that holds a project file is the root (`FileTree.FirstAlong`). As long as no step
leads upwards these are the start directory and the directories above it, up to where the walk begins
(`FileTree.NearestAbove`):

    load start = c  →  the nearest project on the path is at the root of c       (project_root_nearest)

So an absolute path without `..` finds the nearest enclosing project. Another path may find a project
that does not enclose the start directory, or miss one that does (`enclosing_project_missed`).
-/

namespace StaleBuild

open StaleBuild.Path (Step)

namespace Path

/-- The steps that lead somewhere else. -/
def moves (p : Path) : List Step := p.steps.filter fun s => s ≠ .here

variable {p above : Path}

theorem filter_heres {heres : List Step} (h : ∀ s ∈ heres, s = .here) :
    heres.filter (fun s => s ≠ .here) = [] :=
  List.filter_eq_nil_iff.2 fun s hs => by simp [h s hs]

/-- The moves of a path are those of its parent and one more, or there are none. -/
theorem moves_of_parent? (h : p.parent? = some above) :
    (∃ step, p.moves = above.moves ++ [step]) ∨ p.moves = [] ∧ above = empty := by
  rcases steps_of_parent? h with ⟨front, step, back, hsteps, hheres, hstep⟩ | ⟨hheres, rfl⟩
  · obtain ⟨hfront, hback⟩ := List.forall_mem_append.1 hheres
    refine .inl ⟨step, ?_⟩
    rw [moves, hsteps, List.filter_append, List.filter_append, filter_heres hfront,
      List.filter_cons_of_pos (by simpa using hstep), filter_heres hback, List.append_nil]
    rfl
  · exact .inr ⟨filter_heres hheres, rfl⟩

end Path

namespace FileTree

/-- Where a step leads if nothing stands in its way. -/
def moved (loc : Location) : Step → Location
  | .here => loc
  | .up => loc.tail
  | .into name => name :: loc

/-- The directory that moves from the beginning of a path lead to. -/
def placeAlong (tree : FileTree) (p : Path) (moves : List Step) : Location :=
  moves.foldl moved (startOf tree.current p)

/-- No entry is a symbolic link. -/
def LinkFree (tree : FileTree) : Prop := ∀ e ∈ tree.entries, e.2.node.isLink = false

instance (tree : FileTree) : Decidable tree.LinkFree :=
  inferInstanceAs (Decidable (∀ e ∈ tree.entries, e.2.node.isLink = false))

/-- The path denotes the directory at a location; the empty path stands for the current one. -/
def Denotes (tree : FileTree) (p : Path) (loc : Location) : Prop :=
  p = .empty ∧ loc = tree.current ∨ ∃ e, tree.find p = .ok (loc, e) ∧ e.node = .directory

/-- Whether the directory at a location holds a project file. -/
def holdsProject (tree : FileTree) (loc : Location) : Bool :=
  (tree.get? (projectFileName.bytes :: loc)).any fun e => e.node.isFile

variable {tree : FileTree} {p above : Path} {dir loc : Location}

/-! ## Walks without links -/

theorem foldl_moved_moves (p : Path) (dir : Location) :
    p.moves.foldl moved dir = p.steps.foldl moved dir := by
  unfold Path.moves
  generalize p.steps = steps
  induction steps generalizing dir with
  | nil => rfl
  | cons s rest ih =>
    cases s with
    | here => exact ih dir
    | up => exact ih dir.tail
    | into name => exact ih (name :: dir)

theorem LinkFree.not_link (hlinks : tree.LinkFree) {e : Entry} (he : tree.get? loc = some e)
    (target : Path) : e.node ≠ .link target := by
  intro hnode
  have hfree := hlinks _ (get?_eq_some_mem he)
  simp [hnode, Node.isLink] at hfree

theorem LinkFree.advance_ne_atLink (hlinks : tree.LinkFree) {steps rest : List Step}
    {at' : Location} {target : Path} : tree.advance true dir steps ≠ .atLink at' target rest := by
  intro h
  induction steps generalizing dir with
  | nil =>
    simp only [advance] at h
    split at h <;> cases h
  | cons s more ih =>
    cases s with
    | here => exact ih h
    | up => exact ih h
    | into name =>
      simp only [advance] at h
      split at h
      · cases h
      · split at h
        · cases h
        · next found hfound =>
          split at h
          · exact ih h
          · next target hnode => exact absurd hnode (hlinks.not_link hfound target)
          · cases h

/-- What comes first on the way to a directory leads to a directory, and the way goes on there. -/
theorem LinkFree.advance_split (hlinks : tree.LinkFree) (henclosed : tree.Enclosed)
    {ahead behind : List Step} {e : Entry} (hdir : tree.isDirectoryAt dir = true)
    (hbehind : behind = [] → e.node = .directory)
    (h : tree.advance true dir (ahead ++ behind) = .arrived (.found loc e)) :
    tree.isDirectoryAt (ahead.foldl moved dir) = true ∧
      ∀ more, tree.advance true dir (ahead ++ more) =
        tree.advance true (ahead.foldl moved dir) more := by
  induction ahead generalizing dir with
  | nil => exact ⟨hdir, fun _ => rfl⟩
  | cons s rest ih =>
    cases s with
    | here => exact ih hdir h
    | up => exact ih (henclosed.isDirectoryAt_tail hdir) h
    | into name =>
      simp only [List.cons_append, advance] at h
      split at h
      · simp at h
      · next hlong =>
        split at h
        · split at h <;> simp at h
        · next found hfound =>
          split at h
          · next hnode =>
            have hinto := isDirectoryAt_iff.2 ⟨found, hfound, hnode⟩
            obtain ⟨hplace, hgoes⟩ := ih hinto h
            refine ⟨hplace, fun more => ?_⟩
            rw [List.cons_append, advance_into (Nat.not_lt.1 hlong) hfound hnode, hgoes]
            rfl
          · next target hnode => exact absurd hnode (hlinks.not_link hfound target)
          · next hdirectory _ =>
            split at h
            · next hend =>
              obtain ⟨-, rfl⟩ : name :: dir = loc ∧ found = e := by simpa using h
              exact absurd (hbehind (List.append_eq_nil_iff.1 hend).2) hdirectory
            · simp at h

theorem LinkFree.walk_eq (hlinks : tree.LinkFree) (links : Nat) (dir : Location)
    (steps : List Step) :
    tree.advance true dir steps = .arrived (tree.walk true links dir steps) := by
  cases hadvance : tree.advance true dir steps with
  | arrived result => cases links <;> simp only [walk, hadvance]
  | atLink at' target rest => exact absurd hadvance hlinks.advance_ne_atLink

/-! ## Denoted directories -/

theorem Denotes.zero_notMem (h : tree.Denotes p loc) : (0 : UInt8) ∉ p.bytes := by
  obtain ⟨rfl, -⟩ | ⟨e, hfind, -⟩ := h
  · exact List.not_mem_nil
  · exact (refusal?_eq_none_iff.1 (find_eq_ok_iff_walk.1 hfind).1).1

theorem Denotes.leadsTo (h : tree.Denotes p loc) : tree.LeadsTo p loc := by
  obtain ⟨rfl, rfl⟩ | ⟨e, hfind, he⟩ := h
  · exact tree.leadsTo_empty
  · exact leadsTo_of_find hfind he

/-- A walk that only asks for the directory where it starts finds it. -/
theorem advance_demand (hdir : tree.isDirectoryAt dir = true) (p : Path) :
    ∃ e, tree.get? dir = some e ∧ e.node = .directory ∧
      tree.advance true dir (demand p) = .arrived (.found dir e) := by
  obtain ⟨e, he, hnode⟩ := isDirectoryAt_iff.1 hdir
  refine ⟨e, he, hnode, ?_⟩
  rcases demand_eq p with hdemand | hdemand <;> rw [hdemand] <;> simp only [advance, he]

theorem LinkFree.find_eq_ok_iff (hlinks : tree.LinkFree) {e : Entry} :
    tree.find p = .ok (loc, e) ↔ refusal? p = none ∧
      tree.advance true (startOf tree.current p) (p.steps ++ demand p) =
        .arrived (.found loc e) := by
  rw [find_eq_ok_iff_walk, hlinks.walk_eq linkLimit, Advance.arrived.injEq]

/-- The directory that a path denotes is where its moves lead. -/
theorem Denotes.eq_placeAlong (hlinks : tree.LinkFree) (henclosed : tree.Enclosed)
    (h : tree.Denotes p loc) : loc = tree.placeAlong p p.moves := by
  obtain ⟨rfl, rfl⟩ | ⟨e, hfind, he⟩ := h
  · rfl
  · have hfound := (hlinks.find_eq_ok_iff.1 hfind).2
    obtain ⟨hplace, hgoes⟩ := hlinks.advance_split henclosed
      (henclosed.isDirectoryAt_startOf p) (fun _ => he) hfound
    obtain ⟨e', -, -, hend⟩ := advance_demand hplace p
    rw [hgoes, hend] at hfound
    rw [placeAlong, foldl_moved_moves]
    exact (Lookup.found.inj (Advance.arrived.inj hfound)).1.symm

/-- The parent of a path that denotes a directory denotes one. -/
theorem Denotes.parent (hlinks : tree.LinkFree) (henclosed : tree.Enclosed)
    (h : tree.Denotes p loc) (hparent : p.parent? = some above) :
    tree.Denotes above (tree.placeAlong above above.moves) := by
  by_cases hempty : above = .empty
  · subst hempty
    exact .inl ⟨rfl, rfl⟩
  · obtain ⟨rfl, -⟩ | ⟨e, hfind, -⟩ := h
    · cases hparent
    obtain ⟨hrefusal, hfound⟩ := hlinks.find_eq_ok_iff.1 hfind
    have hrefusal : refusal? above = none := by
      obtain ⟨hzero, -, hshort⟩ := refusal?_eq_none_iff.1 hrefusal
      obtain ⟨hfront, hlength⟩ := Path.prefix_of_parent? hparent
      exact refusal?_eq_none_iff.2 ⟨fun hmem => hzero (hfront.subset hmem),
        fun hnil => hempty (congrArg Path.mk hnil), hlength.trans hshort⟩
    obtain ⟨front, step, back, hsteps, -, -⟩ | ⟨-, hnone⟩ := Path.steps_of_parent? hparent
    · have hstart : startOf tree.current above = startOf tree.current p := by
        rw [startOf, Path.isAbsolute_of_parent? hparent]
        rfl
      rw [hsteps, List.append_assoc, List.append_assoc] at hfound
      obtain ⟨hplace, hgoes⟩ := hlinks.advance_split henclosed
        (henclosed.isDirectoryAt_startOf p) (by simp) hfound
      obtain ⟨e', -, he', hend⟩ := advance_demand hplace above
      rw [placeAlong, foldl_moved_moves, hstart]
      exact .inr ⟨e', hlinks.find_eq_ok_iff.2 ⟨hrefusal, by rw [hstart, hgoes, hend]⟩, he'⟩
    · exact absurd hnone hempty

/-- Whether a denoted directory holds a project can be asked by its path, unless the path is too
long. -/
theorem isFile_projectFile (hlinks : tree.LinkFree) (h : tree.Denotes p loc)
    (hshort : p.bytes.length + projectFileName.bytes.length + 1 < pathLimit) :
    tree.isFile (p.join projectFileName) = tree.holdsProject loc := by
  have hname : projectFileName.isAbsolute = false := by decide +kernel
  have hne : projectFileName.bytes ≠ [] := by decide +kernel
  have hzero : (0 : UInt8) ∉ projectFileName.bytes := by decide +kernel
  have hrefusal := refusal?_join hname hne h.zero_notMem hzero hshort
  obtain ⟨left, hlookup⟩ := h.leadsTo.lookup_eq hname hrefusal
  have hdemand : demand (p.join projectFileName) = [] := by
    have hends : projectFileName.endsInSeparator = false := by decide +kernel
    rw [demand, Path.endsInSeparator_join hname hne, hends]
    rfl
  have hsteps : projectFileName.steps = [.into projectFileName.bytes] := by decide +kernel
  have hlimit : ¬nameLimit < projectFileName.bytes.length := by decide +kernel
  have hwalk := hlinks.walk_eq left loc [.into projectFileName.bytes]
  rw [hsteps, hdemand, List.append_nil] at hlookup
  rw [← hlookup, advance, if_neg hlimit] at hwalk
  rw [isFile, stat, find, holdsProject]
  cases hget : tree.get? (projectFileName.bytes :: loc) with
  | none =>
    rw [hget] at hwalk
    rw [← Advance.arrived.inj hwalk]
    rfl
  | some e =>
    rw [hget] at hwalk
    cases hnode : e.node with
    | directory =>
      simp only [hnode, advance, hget] at hwalk
      rw [← Advance.arrived.inj hwalk]
      simp [Except.map]
    | link target => exact absurd hnode (hlinks.not_link hget target)
    | file contents =>
      simp only [hnode, if_true] at hwalk
      rw [← Advance.arrived.inj hwalk]
      simp [Except.map]
    | special kind =>
      simp only [hnode, if_true] at hwalk
      rw [← Advance.arrived.inj hwalk]
      simp [Except.map]

/-! ## The search -/

/-- Of the directories that a walk along the path passes, the last one first, the first that holds a
project is that of the root; without a root none does. -/
def FirstAlong (tree : FileTree) (p : Path) : Option Path → Prop
  | none => ∀ ahead, ahead <+: p.moves → tree.holdsProject (tree.placeAlong p ahead) = false
  | some root => root.moves <+: p.moves ∧ tree.Denotes root (tree.placeAlong p root.moves) ∧
      tree.holdsProject (tree.placeAlong p root.moves) = true ∧
      ∀ longer, root.moves <+: longer → longer <+: p.moves → longer ≠ root.moves →
        tree.holdsProject (tree.placeAlong p longer) = false

/-- Of a directory and those above it, up to a base, the nearest one that holds a project is that of
the root; without a root none does. -/
def NearestAbove (tree : FileTree) (base dir : Location) : Option Path → Prop
  | none => ∀ mid, base <:+ mid → mid <:+ dir → tree.holdsProject mid = false
  | some root => ∃ loc, tree.Denotes root loc ∧ base <:+ loc ∧ loc <:+ dir ∧
      tree.holdsProject loc = true ∧
      ∀ mid, loc <:+ mid → mid <:+ dir → mid ≠ loc → tree.holdsProject mid = false

end FileTree

namespace Config

open FileTree

variable {tree : FileTree} {start above : Path} {dir : Location}

/-- More fuel than the path has bytes is never used up. -/
theorem findProjectWithin_eq {fuel fuel' : Nat} (h : start.bytes.length < fuel)
    (h' : start.bytes.length < fuel') :
    findProjectWithin tree fuel start = findProjectWithin tree fuel' start := by
  induction fuel generalizing fuel' start with
  | zero => exact absurd h (Nat.not_lt_zero _)
  | succ fuel ih =>
    cases fuel' with
    | zero => exact absurd h' (Nat.not_lt_zero _)
    | succ fuel' =>
      rw [findProjectWithin, findProjectWithin]
      split
      · rfl
      · split
        · next above habove =>
          have hlength := (Path.prefix_of_parent? habove).2
          exact ih (by omega) (by omega)
        · rfl

/-- One step of the search at the parent of a path that holds no project. -/
theorem firstAlong_of_parent?
    (hnone : tree.holdsProject (tree.placeAlong start start.moves) = false)
    (habove : start.parent? = some above) {root? : Option Path}
    (h : tree.FirstAlong above root?) : tree.FirstAlong start root? := by
  have hstart : tree.placeAlong above = tree.placeAlong start := by
    unfold placeAlong startOf
    rw [Path.isAbsolute_of_parent? habove]
  -- a shorter walk comes to the parent
  have hshorter {ahead : List Step} (hahead : ahead <+: start.moves) :
      ahead = start.moves ∨ ahead <+: above.moves := by
    rcases Path.moves_of_parent? habove with ⟨step, hmoves⟩ | ⟨hmoves, -⟩
    · rw [hmoves] at hahead ⊢
      exact List.prefix_concat_iff.1 hahead
    · rw [hmoves] at hahead ⊢
      exact .inl (List.prefix_nil.1 hahead)
  have hahead : above.moves <+: start.moves := by
    rcases Path.moves_of_parent? habove with ⟨step, hmoves⟩ | ⟨hmoves, rfl⟩
    · exact ⟨[step], hmoves.symm⟩
    · rw [hmoves]
      exact List.prefix_rfl
  cases root? with
  | none =>
    intro ahead hahead
    rcases hshorter hahead with rfl | hahead
    · exact hnone
    · exact hstart ▸ h ahead hahead
  | some root =>
    obtain ⟨hroot, hdenotes, hholds, hlonger⟩ := h
    rw [hstart] at hdenotes hholds hlonger
    refine ⟨hroot.trans hahead, hdenotes, hholds, fun longer hfrom hto hne => ?_⟩
    rcases hshorter hto with rfl | hto
    · exact hnone
    · exact hlonger longer hfrom hto hne

theorem firstAlong_of_findProjectWithin (hlinks : tree.LinkFree) (henclosed : tree.Enclosed)
    {fuel : Nat} {root? : Option Path} {project : ProjectConfig}
    (hfuel : start.bytes.length < fuel)
    (hshort : start.bytes.length + projectFileName.bytes.length + 1 < pathLimit)
    (hstart : tree.Denotes start dir)
    (h : findProjectWithin tree fuel start = .ok (root?, project)) :
    tree.FirstAlong start root? := by
  induction fuel generalizing start dir with
  | zero => exact absurd hfuel (Nat.not_lt_zero _)
  | succ fuel ih =>
    obtain rfl := hstart.eq_placeAlong hlinks henclosed
    rw [findProjectWithin, isFile_projectFile hlinks hstart hshort] at h
    split at h
    · next hholds =>
      split at h
      · cases h
        refine ⟨List.prefix_rfl, hstart, hholds, fun longer hfrom hto hne => ?_⟩
        exact absurd (hto.eq_of_length_le hfrom.length_le) hne
      · cases h
    · next hnone =>
      have hnone : tree.holdsProject (tree.placeAlong start start.moves) = false := by
        simpa using hnone
      split at h
      · next above habove =>
        have hlength := (Path.prefix_of_parent? habove).2
        exact firstAlong_of_parent? hnone habove
          (ih (by omega) (by omega) (hstart.parent hlinks henclosed habove) h)
      · next hlast =>
        cases h
        have hmoves : start.moves = [] := Path.filter_heres (Path.here_of_parent?_eq_none hlast)
        intro ahead hahead
        rw [hmoves] at hahead
        rwa [List.prefix_nil.1 hahead, ← hmoves]

end Config

/-! ## Above the start directory -/

namespace FileTree

variable {tree : FileTree} {start : Path} {dir : Location}

/-- Moves that do not lead upwards go into one directory after another. -/
theorem exists_names_of_no_up (hup : .up ∉ start.moves) :
    ∃ names : List Bytes, start.moves = names.map .into := by
  have hhere : .here ∉ start.moves := by simp [Path.moves]
  generalize start.moves = moves at hup hhere
  induction moves with
  | nil => exact ⟨[], rfl⟩
  | cons s rest ih =>
    obtain ⟨names, rfl⟩ := ih (fun h => hup (.tail _ h)) (fun h => hhere (.tail _ h))
    cases s with
    | here => exact absurd (.head _) hhere
    | up => exact absurd (.head _) hup
    | into name => exact ⟨name :: names, rfl⟩

theorem foldl_moved_into (names : List Bytes) (dir : Location) :
    (names.map Step.into).foldl moved dir = names.reverse ++ dir := by
  induction names generalizing dir with
  | nil => rfl
  | cons name rest ih =>
    rw [List.map_cons, List.foldl_cons, ih, List.reverse_cons, List.append_assoc]
    rfl

/-- The locations between a base and one below it are reached by the first names. -/
theorem exists_names_of_between {names : List Bytes} {base mid : Location} (hbase : base <:+ mid)
    (hmid : mid <:+ names.reverse ++ base) :
    ∃ first, first <+: names ∧ mid = first.reverse ++ base := by
  obtain ⟨inner, rfl⟩ := hbase
  obtain ⟨deeper, hdeeper⟩ := hmid
  rw [← List.append_assoc, List.append_cancel_right_eq] at hdeeper
  refine ⟨inner.reverse, ⟨deeper.reverse, ?_⟩, by rw [List.reverse_reverse]⟩
  rw [← List.reverse_append, hdeeper, List.reverse_reverse]

/-- The first project along a path that does not lead upwards is the nearest one. -/
theorem nearestAbove_of_firstAlong (hup : .up ∉ start.moves) {root? : Option Path}
    (h : tree.FirstAlong start root?) :
    tree.NearestAbove (startOf tree.current start) (tree.placeAlong start start.moves) root? := by
  obtain ⟨names, hnames⟩ := exists_names_of_no_up hup
  have hplace (first : List Bytes) : tree.placeAlong start (first.map .into) =
      first.reverse ++ startOf tree.current start := foldl_moved_into first _
  have hwhole {first : List Bytes} (hfirst : first <+: names) :
      first.map Step.into <+: start.moves := hnames ▸ hfirst.map _
  rw [hnames, hplace]
  cases root? with
  | none =>
    intro mid hbase hmid
    obtain ⟨first, hfirst, rfl⟩ := exists_names_of_between hbase hmid
    exact hplace first ▸ h _ (hwhole hfirst)
  | some root =>
    obtain ⟨hroot, hdenotes, hholds, hlonger⟩ := h
    obtain ⟨rootNames, hrootNames, hmoves⟩ : ∃ rootNames, rootNames <+: names ∧
        root.moves = rootNames.map .into := by
      rw [hnames] at hroot
      exact ⟨names.take root.moves.length, List.take_prefix _ _, by
        rw [List.map_take, ← List.prefix_iff_eq_take.1 hroot]⟩
    rw [hmoves, hplace] at hdenotes hholds
    refine ⟨_, hdenotes, List.suffix_append _ _, ?_, hholds, fun mid hloc hmid hne => ?_⟩
    · obtain ⟨deeper, hdeeper⟩ := List.reverse_suffix.2 hrootNames
      exact ⟨deeper, by rw [← List.append_assoc, hdeeper]⟩
    · obtain ⟨first, hfirst, rfl⟩ :=
        exists_names_of_between ((List.suffix_append _ _).trans hloc) hmid
      have hlength : rootNames.length ≤ first.length := by
        simpa using hloc.length_le
      have hfrom : root.moves <+: first.map .into :=
        hmoves ▸ (List.prefix_of_prefix_length_le hrootNames hfirst hlength).map _
      rw [← hplace]
      refine hlonger _ hfrom (hwhole hfirst) fun heq => hne ?_
      rw [← hplace, ← hplace, heq, hmoves]

end FileTree

open FileTree

/-- **The project on the way to the start directory.** The root of a loaded configuration is the first
directory that holds a project on the way back along the start path. Where this way does not lead
upwards in between, it is the nearest one at or above the start directory, up to where the path begins:
for an absolute path the root of the file system, for a relative one the current directory. The search
ends by itself, whatever the path. -/
theorem project_root_nearest {loader left : ConfigLoader} {tree : FileTree} {env : Environment}
    {start : Path} {dir : Location} {c : Config} (henclosed : tree.Enclosed)
    (hlinks : tree.LinkFree) (hstart : tree.Denotes start dir)
    (hshort : start.bytes.length + projectFileName.bytes.length + 1 < pathLimit)
    (h : loader.loadDirectory tree env start = (.ok c, left)) :
    tree.FirstAlong start c.projectRoot ∧
      (.parent ∉ start.components →
        tree.NearestAbove (startOf tree.current start) dir c.projectRoot) ∧
      ∀ (p : Path) (fuel : Nat), p.bytes.length < fuel →
        Config.findProjectWithin tree fuel p = Config.findProject tree p := by
  obtain ⟨project, hfind, -⟩ := ConfigLoader.loadDirectory_eq_ok h
  have hfirst := Config.firstAlong_of_findProjectWithin hlinks henclosed (Nat.lt_succ_self _) hshort
    hstart hfind
  refine ⟨hfirst, fun hdots => ?_,
    fun p fuel hfuel => Config.findProjectWithin_eq hfuel (Nat.lt_succ_self _)⟩
  rw [hstart.eq_placeAlong hlinks henclosed]
  exact nearestAbove_of_firstAlong (fun hup => Path.up_notMem_steps hdots (List.mem_filter.1 hup).1)
    hfirst

namespace Rehearsal

def webDir : Path := .ofString "/shop/web/."

/-- A project within another one, and a directory that is called like a project file. -/
def webTree : FileTree :=
  (FileTree.fresh [] 0).placeAll 0
    [.file (.ofString "/grailsc.toml") (Utf8.encode "[project]\nname = \"all\"\n") 0,
      .file (.ofString "/shop/grailsc.toml") (Utf8.encode "[project]\nname = \"shop\"\n") 0,
      .directory (.ofString "/shop/web/grailsc.toml") none]

def webConfig : Config :=
  ⟨{ ProjectConfig.empty with project := some ⟨"shop"⟩ }, .empty, some (.ofString "/shop"), webDir⟩

end Rehearsal

open Rehearsal

/-- From below the inner project the outer one is not found. -/
theorem inner_project_nearest :
    let dir : Location := [Utf8.encode "web", Utf8.encode "shop"]
    let loaded := ConfigLoader.loadDirectory ⟨none⟩ webTree (destinationOnly none) webDir
    (webTree.Enclosed ∧ webTree.LinkFree ∧ webTree.Denotes webDir dir ∧
        webDir.bytes.length + projectFileName.bytes.length + 1 < pathLimit ∧
        loaded = (.ok webConfig, loaded.2)) ∧
      .parent ∉ webDir.components ∧ webTree.NearestAbove [] dir (some (.ofString "/shop")) := by
  intro dir loaded
  have henclosed : webTree.Enclosed := by decide +kernel
  have hlinks : webTree.LinkFree := by decide +kernel
  have hstart : webTree.Denotes webDir dir :=
    .inr ⟨.new .directory 0, by decide +kernel, rfl⟩
  have hshort : webDir.bytes.length + projectFileName.bytes.length + 1 < pathLimit := by
    decide +kernel
  have hloaded : loaded = (.ok webConfig, loaded.2) :=
    ConfigLoader.eq_of_toOption (by decide +kernel)
  have hdots : .parent ∉ webDir.components := by decide +kernel
  exact ⟨⟨henclosed, hlinks, hstart, hshort, hloaded⟩, hdots,
    (project_root_nearest henclosed hlinks hstart hshort hloaded).2.1 hdots⟩

/-- A start path that leads upwards finds a project that lies below the start directory, and one that
is relative misses a project above the current directory. -/
theorem enclosing_project_missed :
    (let tree := shopTree "[project]\nname = \"shop\"\n"
      let start : Path := .ofString "shop/.."
      let loaded := ConfigLoader.loadDirectory ⟨none⟩ tree (destinationOnly none) start
      (tree.Enclosed ∧ tree.LinkFree ∧ tree.Denotes start []) ∧
        loaded.1.toOption.map Config.projectRoot = some (some shop) ∧
        tree.Denotes shop [shop.bytes] ∧ ¬[shop.bytes] <:+ ([] : Location)) ∧
    let tree : FileTree := { webTree with current := [Utf8.encode "web", Utf8.encode "shop"] }
    let loaded := ConfigLoader.loadDirectory ⟨none⟩ tree (destinationOnly none) (.ofString ".")
    (tree.Enclosed ∧ tree.LinkFree ∧ tree.Denotes (.ofString ".") tree.current) ∧
      loaded.1.toOption.map Config.projectRoot = some none ∧
      [Utf8.encode "shop"] <:+ tree.current ∧ tree.holdsProject [Utf8.encode "shop"] = true := by
  let e : Entry := .new .directory 0
  refine ⟨⟨⟨?_, ?_, .inr ⟨e, ?_, rfl⟩⟩, ?_, .inr ⟨e, ?_, rfl⟩, ?_⟩,
    ⟨?_, ?_, .inr ⟨e, ?_, rfl⟩⟩, ?_⟩
  all_goals decide +kernel

end StaleBuild
