import Mathlib.Data.List.Induction
import StaleBuild.Proofs.Files.Rewalking
import StaleBuild.Rehearsal

/-!
# Chains of entries

A walk below a directory goes along chains of entries: each one lies in the directory that the one
ahead of it stands for, and a link stands for what the path leads to at which it is met. A link to a
directory that the chain is inside of ends the chain; a directory that is met as itself may be entered
once more below a link.

    t/x/f    t/x/up -> ..    s/l -> ../t/x          chains from s:  l/f    l/up/x/f    l/up/x/up

A chain ends at a regular file, at something else that is passed over, or at an entry that leads
nowhere: a link or a directory that is not found by the path at which it is met, because the link is
broken or the path is too long. The walk reports the files at the ends of chains in the order of their
names, or the first chain that leads nowhere (`discover_tells`); so it comes to an end only if no path
to a directory is too long (`length_lt_of_discover`).
-/

namespace StaleBuild

open StaleBuild.Path (segments)

/-- The path that names lead to from another one. -/
def Path.below (p : Path) (names : List Bytes) : Path := names.foldl Path.child p

theorem Path.below_concat (p : Path) (names : List Bytes) (name : Bytes) :
    p.below (names ++ [name]) = (p.below names).child name := by
  rw [below, List.foldl_append]
  rfl

/-- Names that are written behind one another are the segments of the path. -/
theorem segments_below {names : List Bytes} (hne : names ≠ [])
    (hproper : ∀ name ∈ names, ProperName name) : segments (Path.empty.below names).bytes = names := by
  induction names using List.reverseRecOn with
  | nil => exact absurd rfl hne
  | append_singleton front name ih =>
    obtain ⟨hfront, hname⟩ := List.forall_mem_append.1 hproper
    have hname : ProperName name := hname name (.head _)
    have hlast : segments name = [name] := Path.segments_of_separator_notMem hname.plain
    rw [Path.below_concat, Path.child]
    by_cases hnil : front = []
    · subst hnil
      have hempty : (Path.empty.below []).bytes = [] := rfl
      rw [Path.join_of_empty hempty]
      exact hlast
    · have hsegments := ih hnil hfront
      have hidle : ([] : Bytes) ∉ front := fun hmem => (hfront [] hmem).ne_nil rfl
      have hbytes : (Path.empty.below front).bytes ≠ [] := by
        intro hempty
        rw [hempty] at hsegments
        exact hidle (hsegments ▸ .head _)
      obtain ⟨ahead, hjoin, hahead | hahead⟩ := Path.join_of_ne_empty hbytes hname.isAbsolute
      · rw [hjoin, Path.segments_append_separator, ← hahead, hsegments, hlast]
      · rw [hahead, Path.segments_append_separator] at hsegments
        exact absurd (hsegments ▸ List.mem_append_right _ (.head _)) hidle

namespace FileTree

/-! ## Chains -/

/-- A chain of entries by their names, from a directory that is met as a path inside of others, and what
its last entry stands for. -/
inductive Chain (tree : FileTree) : List Location → Location → Path → List Bytes →
    Except FileError (Location × Entry) → Prop where
  | last {inside : List Location} {dir : Location} {path : Path} {name : Bytes} {e : Entry}
      (he : tree.get? (name :: dir) = some e) :
      Chain tree inside dir path [name] (tree.standsFor (name :: dir) e (path.child name))
  /-- A directory is entered as itself at any time, but by a link only from outside. -/
  | into {inside : List Location} {dir loc : Location} {path : Path} {name : Bytes}
      {rest : List Bytes} {e target : Entry} {goal : Except FileError (Location × Entry)}
      (he : tree.get? (name :: dir) = some e)
      (htarget : tree.standsFor (name :: dir) e (path.child name) = .ok (loc, target))
      (hdirectory : target.node = .directory)
      (hfresh : e.node.isLink = true → loc ∉ inside)
      (hrest : Chain tree (loc :: inside) loc (path.child name) rest goal) :
      Chain tree inside dir path (name :: rest) goal

variable {tree : FileTree} {inside : List Location} {dir loc : Location} {path : Path}
  {name : Bytes} {names front : List Bytes} {e target : Entry}
  {goal : Except FileError (Location × Entry)}

namespace Chain

theorem exists_cons (h : tree.Chain inside dir path names goal) :
    ∃ name rest, names = name :: rest ∧ name ∈ tree.names dir := by
  cases h with
  | last he => exact ⟨_, _, rfl, mem_names.2 (exists_get?_iff.1 ⟨_, he⟩)⟩
  | into he => exact ⟨_, _, rfl, mem_names.2 (exists_get?_iff.1 ⟨_, he⟩)⟩

theorem properName (htree : tree.Sound) (h : tree.Chain inside dir path names goal) :
    ∀ name ∈ names, ProperName name := by
  induction h with
  | last he => exact List.forall_mem_singleton.2 (htree.properName he)
  | into he _ _ _ _ ih => exact List.forall_mem_cons.2 ⟨htree.properName he, ih⟩

end Chain

/-- A chain uses up the room that a walk has. -/
theorem Chain.length_le (h : tree.Chain inside dir path names goal) :
    names.length ≤ tree.room inside dir + 1 := by
  induction h with
  | last => simp
  | into he htarget hdirectory hfresh _ ih =>
    have hlt := room_lt_of_sight
      (sight_eq_directory_iff.2 ⟨_, _, he, htarget, hdirectory, hfresh⟩)
    rw [List.length_cons]
    omega

/-! ## What a walk tells of chains -/

/-- Some chains, by their names and what their last entries stand for. -/
abbrev Chains := List Bytes → Except FileError (Location × Entry) → Prop

/-- The chains that begin with a name. -/
def Chains.startingWith (chains : Chains) (name : Bytes) : Chains :=
  fun names goal => names.head? = some name ∧ chains names goal

/-- The files at the ends of chains that all lead somewhere, named behind `front`, in the order of
their names. -/
structure Listed (chains : Chains) (front : List Bytes) (files : List Path) : Prop where
  readable : ∀ names cause, ¬chains names (.error cause)
  mem_iff : ∀ p, p ∈ files ↔ ∃ names loc e, chains names (.ok (loc, e)) ∧ e.node.isFile = true ∧
    p = Path.empty.below (front ++ names) ∧ Utf8.isValid p.bytes = true
  ordered : files.Pairwise fun p q => segments p.bytes < segments q.bytes

/-- The files at the ends of chains, or the failure of the first one that leads nowhere. -/
inductive Tells (chains : Chains) (path : Path) (front : List Bytes) :
    Except BuildError (List Path) → Prop where
  | files {files : List Path} (h : Listed chains front files) : Tells chains path front (.ok files)
  | failure {first : List Bytes} {cause : FileError} (hfails : chains first (.error cause))
      (hfirst : ∀ names cause', chains names (.error cause') → first ≤ names) :
      Tells chains path front (.error (.file (path.below first) cause))

theorem Listed.nodup {chains : Chains} {files : List Path} (h : Listed chains front files) :
    files.Nodup := by
  refine h.ordered.imp fun {p q} hlt => ?_
  rintro rfl
  exact List.lt_irrefl _ hlt

namespace Tells

variable {chains : Chains} {result : Except BuildError (List Path)}

/-- Of chains that all lead somewhere the files are told. -/
theorem exists_files (h : Tells chains path front result)
    (hreadable : ∀ names cause, ¬chains names (.error cause)) :
    ∃ files, result = .ok files ∧ Listed chains front files := by
  cases h with
  | files hlisted => exact ⟨_, rfl, hlisted⟩
  | failure hfails => exact absurd hfails (hreadable _ _)

/-- If a chain leads nowhere, the failure of the first such chain is told. -/
theorem exists_failure (h : Tells chains path front result) {cause : FileError}
    (hchain : chains names (.error cause)) :
    ∃ first cause, chains first (.error cause) ∧
      (∀ names cause', chains names (.error cause') → first ≤ names) ∧
      result = .error (.file (path.below first) cause) := by
  cases h with
  | files hlisted => exact absurd hchain (hlisted.readable _ _)
  | failure hfails hfirst => exact ⟨_, _, hfails, hfirst, rfl⟩

end Tells

/-- The names in a directory are in strict order. -/
theorem Sound.pairwise_names (h : tree.Sound) (dir : Location) :
    (tree.names dir).Pairwise (· < ·) := by
  have hle := Sprouted.pairwise_names tree dir
  have hne : (tree.names dir).Pairwise (· ≠ ·) := h.distinct.nodup_names dir
  refine (hle.and hne).imp fun hboth => ?_
  rcases List.le_iff_lt_or_eq.1 hboth.1 with hlt | heq
  · exact hlt
  · exact absurd heq hboth.2

section
variable {chains : Chains} {xs : List Bytes} {f : Bytes → Except BuildError (List Path)}

/-- The path of a file begins with the names that lead to the directory, and the one in it. -/
theorem Listed.exists_segments (hfront : ∀ name ∈ front, ProperName name)
    (hproper : ∀ names goal, chains names goal → ∀ name ∈ names, ProperName name)
    {files : List Path} (h : Listed (chains.startingWith name) front files) {p : Path}
    (hp : p ∈ files) : ∃ rest, segments p.bytes = front ++ name :: rest := by
  obtain ⟨names, loc, e, ⟨hhead, hchain⟩, -, rfl, -⟩ := (h.mem_iff p).1 hp
  obtain ⟨rest, rfl⟩ := List.head?_eq_some_iff.1 hhead
  refine ⟨rest, segments_below (by simp) ?_⟩
  exact List.forall_mem_append.2 ⟨hfront, hproper _ _ hchain⟩

/-- What is told of chains by their first names, one after another, is told of all of them. -/
theorem Tells.flatMapM (hxs : xs.Pairwise (· < ·)) (hfront : ∀ name ∈ front, ProperName name)
    (hproper : ∀ names goal, chains names goal → ∀ name ∈ names, ProperName name)
    (hstart : ∀ names goal, chains names goal → ∃ name rest, names = name :: rest ∧ name ∈ xs)
    (h : ∀ name ∈ xs, Tells (chains.startingWith name) path front (f name)) :
    Tells chains path front (xs.flatMapM f) := by
  cases hresult : xs.flatMapM f with
  | ok files =>
    obtain ⟨hparts, rfl⟩ := flatMapM_eq_ok_iff.1 hresult
    have hlisted : ∀ name ∈ xs,
        Listed (chains.startingWith name) front ((f name).toOption.getD []) := by
      intro name hname
      obtain ⟨part, hpart⟩ := hparts name hname
      have htells := h name hname
      rw [hpart] at htells ⊢
      cases htells with
      | files hlisted => exact hlisted
    refine .files ⟨?_, ?_, ?_⟩
    · intro names cause hchain
      obtain ⟨name, rest, rfl, hname⟩ := hstart _ _ hchain
      exact (hlisted name hname).readable _ _ ⟨rfl, hchain⟩
    · intro p
      rw [List.mem_flatMap]
      constructor
      · rintro ⟨name, hname, hp⟩
        obtain ⟨names, loc, e, ⟨-, hchain⟩, hfile⟩ := ((hlisted name hname).mem_iff p).1 hp
        exact ⟨names, loc, e, hchain, hfile⟩
      · rintro ⟨names, loc, e, hchain, hfile⟩
        obtain ⟨name, rest, rfl, hname⟩ := hstart _ _ hchain
        exact ⟨name, hname, ((hlisted name hname).mem_iff p).2 ⟨_, loc, e, ⟨rfl, hchain⟩, hfile⟩⟩
    · rw [List.pairwise_flatMap]
      refine ⟨fun name hname => (hlisted name hname).ordered, ?_⟩
      refine hxs.imp_of_mem fun {a b} ha hb hlt p hp q hq => ?_
      obtain ⟨rest, hrest⟩ := (hlisted a ha).exists_segments hfront hproper hp
      obtain ⟨rest', hrest'⟩ := (hlisted b hb).exists_segments hfront hproper hq
      rw [hrest, hrest']
      exact List.append_left_lt (List.cons_lt_cons_iff.2 (.inl hlt))
  | error err =>
    obtain ⟨earlier, name, later, rfl, hearlier, hstop⟩ := flatMapM_eq_error_iff.1 hresult
    have htells := h name (by simp)
    rw [hstop] at htells
    cases htells with
    | @failure first cause hfails hfirst =>
      obtain ⟨hhead, hchain⟩ := hfails
      obtain ⟨rest, rfl⟩ := List.head?_eq_some_iff.1 hhead
      refine .failure hchain fun names cause' hother => ?_
      obtain ⟨name', rest', rfl, hname'⟩ := hstart _ _ hother
      rcases List.mem_append.1 hname' with hname' | hname'
      · -- all chains through an earlier name lead somewhere
        obtain ⟨part, hpart⟩ := hearlier name' hname'
        have htells := h name' (by simp [hname'])
        rw [hpart] at htells
        cases htells with
        | files hlisted => exact absurd ⟨rfl, hother⟩ (hlisted.readable _ _)
      · rcases List.mem_cons.1 hname' with rfl | hname'
        · exact hfirst _ _ ⟨rfl, hother⟩
        · have hlt : name < name' :=
            List.rel_of_pairwise_cons (List.pairwise_append.1 hxs).2.1 hname'
          exact List.le_of_lt (List.cons_lt_cons_iff.2 (.inl hlt))

end

/-! ## One entry -/

theorem mem_reported {p q : Path} : p ∈ reported q ↔ p = q ∧ Utf8.isValid p.bytes = true := by
  unfold reported
  by_cases hvalid : Utf8.isValid q.bytes = true
  · rw [if_pos hvalid, List.mem_singleton]
    constructor
    · rintro rfl
      exact ⟨rfl, hvalid⟩
    · exact And.left
  · rw [if_neg hvalid]
    constructor
    · intro hmem
      cases hmem
    · rintro ⟨rfl, hp⟩
      exact absurd hp hvalid

section
variable (he : tree.get? (name :: dir) = some e)
include he

/-- A chain that begins with an entry ends there or goes into the directory that this stands for. -/
theorem Chain.first_cases
    (h : Chains.startingWith (tree.Chain inside dir path) name names goal) :
    names = [name] ∧ goal = tree.standsFor (name :: dir) e (path.child name) ∨
      ∃ rest loc target, names = name :: rest ∧
        tree.standsFor (name :: dir) e (path.child name) = .ok (loc, target) ∧
        target.node = .directory ∧ (e.node.isLink = true → loc ∉ inside) ∧
        tree.Chain (loc :: inside) loc (path.child name) rest goal := by
  obtain ⟨hhead, hchain⟩ := h
  obtain ⟨rest, rfl⟩ := List.head?_eq_some_iff.1 hhead
  cases hchain with
  | last he' =>
    obtain rfl := Option.some.inj (he.symm.trans he')
    exact .inl ⟨rfl, rfl⟩
  | into he' htarget hdirectory hfresh hrest =>
    obtain rfl := Option.some.inj (he.symm.trans he')
    exact .inr ⟨rest, _, _, rfl, htarget, hdirectory, hfresh, hrest⟩

/-- An entry that leads nowhere ends its chain. -/
theorem tells_unreadable {cause : FileError}
    (htarget : tree.standsFor (name :: dir) e (path.child name) = .error cause) :
    Tells (Chains.startingWith (tree.Chain inside dir path) name) path front
      (.error (.file (path.child name) cause)) := by
  have hlast : tree.Chain inside dir path [name] (.error cause) := htarget ▸ .last he
  refine @Tells.failure _ path front [name] cause ⟨rfl, hlast⟩ fun names _ hother => ?_
  obtain ⟨rest, rfl⟩ := List.head?_eq_some_iff.1 hother.1
  exact List.cons_le_cons_iff.2 (.inr ⟨rfl, List.nil_le rest⟩)

/-- What is neither a file nor entered ends its chain, and nothing is reported. -/
theorem tells_passed (htarget : tree.standsFor (name :: dir) e (path.child name) = .ok (loc, target))
    (hfile : target.node.isFile = false)
    (hends : ¬(target.node = .directory ∧ (e.node.isLink = true → loc ∉ inside))) :
    Tells (Chains.startingWith (tree.Chain inside dir path) name) path front (.ok []) := by
  have hgoal : ∀ names goal, Chains.startingWith (tree.Chain inside dir path) name names goal →
      goal = .ok (loc, target) := by
    intro names goal hchain
    rcases Chain.first_cases he hchain with
      ⟨-, hlast⟩ | ⟨_, _, _, -, hinto, hdirectory, hfresh, -⟩
    · rw [hlast, htarget]
    · rw [htarget] at hinto
      cases hinto
      exact absurd ⟨hdirectory, hfresh⟩ hends
  refine .files ⟨?_, ?_, .nil⟩
  · intro names cause hchain
    cases hgoal _ _ hchain
  · intro p
    constructor
    · intro hmem
      cases hmem
    · rintro ⟨names, _, _, hchain, hreported, -⟩
      cases hgoal _ _ hchain
      rw [hfile] at hreported
      cases hreported

/-- A file ends its chain and is reported. -/
theorem tells_file (htarget : tree.standsFor (name :: dir) e (path.child name) = .ok (loc, target))
    (hfile : target.node.isFile = true) :
    Tells (Chains.startingWith (tree.Chain inside dir path) name) path front
      (.ok (reported ((Path.empty.below front).child name))) := by
  have hlast : ∀ names goal, Chains.startingWith (tree.Chain inside dir path) name names goal →
      names = [name] ∧ goal = .ok (loc, target) := by
    intro names goal hchain
    rcases Chain.first_cases he hchain with ⟨hend, hlast⟩ | ⟨_, _, _, -, hinto, hdirectory, -⟩
    · exact ⟨hend, hlast.trans htarget⟩
    · rw [htarget] at hinto
      cases hinto
      rw [hdirectory] at hfile
      cases hfile
  refine .files ⟨?_, ?_, ?_⟩
  · intro names cause hchain
    cases (hlast _ _ hchain).2
  · intro p
    rw [mem_reported, ← Path.below_concat]
    constructor
    · rintro ⟨hp, hvalid⟩
      exact ⟨[name], loc, target, ⟨rfl, htarget ▸ .last he⟩, hfile, hp, hvalid⟩
    · rintro ⟨names, _, _, hchain, -, hp, hvalid⟩
      obtain ⟨rfl, -⟩ := hlast _ _ hchain
      exact ⟨hp, hvalid⟩
  · unfold reported
    split
    · exact List.pairwise_singleton _ _
    · exact .nil

/-- What is told of the chains in a directory is told of those through the entry that stands for it. -/
theorem tells_directory
    (htarget : tree.standsFor (name :: dir) e (path.child name) = .ok (loc, target))
    (hdirectory : target.node = .directory) (hfresh : e.node.isLink = true → loc ∉ inside)
    {result : Except BuildError (List Path)}
    (h : Tells (tree.Chain (loc :: inside) loc (path.child name)) (path.child name)
      (front ++ [name]) result) :
    Tells (Chains.startingWith (tree.Chain inside dir path) name) path front result := by
  have hinto : ∀ rest goal, tree.Chain (loc :: inside) loc (path.child name) rest goal →
      Chains.startingWith (tree.Chain inside dir path) name (name :: rest) goal :=
    fun rest goal hrest => ⟨rfl, .into he htarget hdirectory hfresh hrest⟩
  have hcases : ∀ names goal, Chains.startingWith (tree.Chain inside dir path) name names goal →
      goal = .ok (loc, target) ∨ ∃ rest, names = name :: rest ∧
        tree.Chain (loc :: inside) loc (path.child name) rest goal := by
    intro names goal hchain
    rcases Chain.first_cases he hchain with ⟨-, hlast⟩ | ⟨rest, _, _, hend, hsame, -, -, hrest⟩
    · exact .inl (hlast.trans htarget)
    · rw [htarget] at hsame
      cases hsame
      exact .inr ⟨rest, hend, hrest⟩
  cases h with
  | files hlisted =>
    refine .files ⟨?_, ?_, hlisted.ordered⟩
    · intro names cause hchain
      rcases hcases _ _ hchain with hlast | ⟨rest, -, hrest⟩
      · cases hlast
      · exact hlisted.readable _ _ hrest
    · intro p
      rw [hlisted.mem_iff]
      constructor
      · rintro ⟨rest, found, e', hrest, hfile, hp, hvalid⟩
        rw [List.append_assoc] at hp
        exact ⟨name :: rest, found, e', hinto _ _ hrest, hfile, hp, hvalid⟩
      · rintro ⟨names, found, e', hchain, hfile, hp, hvalid⟩
        rcases hcases _ _ hchain with hlast | ⟨rest, rfl, hrest⟩
        · cases hlast
          rw [hdirectory] at hfile
          cases hfile
        · refine ⟨rest, found, e', hrest, hfile, ?_, hvalid⟩
          rw [hp, List.append_assoc]
          rfl
  | @failure first cause hfails hfirst =>
    refine @Tells.failure _ path front (name :: first) cause (hinto _ _ hfails) ?_
    intro names cause' hother
    rcases hcases _ _ hother with hlast | ⟨rest, rfl, hrest⟩
    · cases hlast
    · exact List.cons_le_cons_iff.2 (.inr ⟨rfl, hfirst _ _ hrest⟩)

end

/-! ## The walk -/

/-- A walk with enough fuel tells of the chains in a directory. -/
theorem Sound.filesWithin_tells (h : tree.Sound) {fuel : Nat}
    (hfuel : tree.room inside dir < fuel) (hfront : ∀ name ∈ front, ProperName name) :
    Tells (tree.Chain inside dir path) path front
      (tree.filesWithin fuel inside dir path (Path.empty.below front)) := by
  induction fuel generalizing inside dir path front with
  | zero => exact absurd hfuel (Nat.not_lt_zero _)
  | succ fuel ih =>
    rw [filesWithin_succ]
    refine Tells.flatMapM (h.pairwise_names dir) hfront (fun _ _ hchain => hchain.properName h)
      (fun _ _ hchain => hchain.exists_cons) fun name hname => ?_
    obtain ⟨e, he⟩ := exists_get?_iff.2 (mem_names.1 hname)
    unfold filesAt
    rw [sight_eq he]
    cases htarget : tree.standsFor (name :: dir) e (path.child name) with
    | error cause => exact tells_unreadable he htarget
    | ok found =>
      obtain ⟨loc, target⟩ := found
      dsimp only
      cases hfile : target.node.isFile with
      | true => exact tells_file he htarget hfile
      | false =>
        by_cases hgoes : target.node = .directory ∧ (e.node.isLink = true → loc ∉ inside)
        · have hlt := room_lt_of_sight (sight_eq_directory_iff.2 ⟨e, target, he, htarget, hgoes⟩)
          have hproper : ∀ other ∈ front ++ [name], ProperName other :=
            List.forall_mem_append.2 ⟨hfront, List.forall_mem_singleton.2 (h.properName he)⟩
          have hwithin : Tells (tree.Chain (loc :: inside) loc (path.child name))
              (path.child name) (front ++ [name])
              (tree.filesWithin fuel (loc :: inside) loc (path.child name)
                (Path.empty.below (front ++ [name]))) :=
            ih (by omega) hproper
          rw [Path.below_concat] at hwithin
          simp only [Bool.false_eq_true, if_false, if_pos hgoes]
          exact tells_directory he htarget hgoes.1 hgoes.2 hwithin
        · simp only [Bool.false_eq_true, if_false, if_neg hgoes]
          exact tells_passed he htarget hfile hgoes

/-- A walk that comes to an end has met no directory by a path that is too long. -/
theorem length_lt_of_discover {root p : Path} {files : List Path}
    (hdiscover : tree.discover root = .ok files) (hmeets : tree.MeetsBelow root loc p)
    (he : tree.get? loc = some e) (hdirectory : e.node = .directory) :
    p.bytes.length < pathLimit := by
  obtain ⟨found, hfound⟩ := exists_find_of_discover hdiscover hmeets he hdirectory
  exact (refusal?_eq_none_iff.1 (find_eq_ok_iff_walk.1 hfound).1).2.2

end FileTree

open FileTree

/-- **What a walk reports.** If every chain from a directory leads somewhere, the walk reports the regular
files at their ends whose whole name is UTF-8, each of them once and in the order of their names, which
compares them component by component. Otherwise it reports the failure of the first chain that leads
nowhere. A chain is no longer than the square of the entries, so the walk ends by itself. -/
theorem discover_tells {tree : FileTree} (h : tree.Sound) {dir : Path} {root : Location} {e : Entry}
    (hfind : tree.find dir = .ok (root, e)) (hdirectory : e.node = .directory) :
    let limit := (tree.entries.length + 1) * (tree.entries.length + 1)
    let chains := tree.Chain [root] root dir
    ((∀ names cause, ¬chains names (.error cause)) → ∃ files, tree.discover dir = .ok files ∧
        (files.Pairwise fun p q => segments p.bytes < segments q.bytes) ∧ files.Nodup ∧
        ∀ p, p ∈ files ↔ ∃ names loc e, chains names (.ok (loc, e)) ∧ e.node.isFile = true ∧
          p = Path.empty.below names ∧ Utf8.isValid p.bytes = true) ∧
      ((∃ names cause, chains names (.error cause)) → ∃ first cause, chains first (.error cause) ∧
        (∀ names cause', chains names (.error cause') → first ≤ names) ∧
        tree.discover dir = .error (.file (dir.below first) cause)) ∧
      (∀ names goal, chains names goal → names.length ≤ limit) ∧
      ∀ fuel, limit ≤ fuel → tree.filesWithin fuel [root] root dir .empty = tree.discover dir := by
  intro limit chains
  have hroom : tree.room [root] root < limit := tree.room_lt_square [root] root
  have hdiscover : tree.discover dir = tree.filesWithin limit [root] root dir .empty := by
    unfold discover
    rw [hfind]
    simp only [hdirectory, Node.isDirectory, if_true, limit]
  have htells : Tells chains dir [] (tree.discover dir) := by
    rw [hdiscover]
    exact h.filesWithin_tells hroom (List.forall_mem_nil _)
  refine ⟨fun hreadable => ?_, ?_, fun names goal hchain => ?_, fun fuel hfuel => ?_⟩
  · obtain ⟨files, hfiles, hlisted⟩ := htells.exists_files hreadable
    exact ⟨files, hfiles, hlisted.ordered, hlisted.nodup, hlisted.mem_iff⟩
  · rintro ⟨names, cause, hchain⟩
    exact htells.exists_failure hchain
  · have hlength := hchain.length_le
    omega
  · rw [hdiscover]
    exact filesWithin_eq (Nat.lt_of_lt_of_le hroom hfuel) hroom dir .empty

namespace Rehearsal

/-- A link in `s` to a directory that holds a link to the one above it. -/
def linkedTree : FileTree :=
  (FileTree.fresh [] 0).placeAll 0
    [.file (.ofString "t/x/f") [] 0, .link (.ofString "t/x/up") (.ofString ".."),
      .link (.ofString "s/l") (.ofString "../t/x")]

theorem linkedTree_files :
    linkedTree.discover (.ofString "s") = .ok [.ofString "l/f", .ofString "l/up/x/f"] := by
  decide +kernel

end Rehearsal

open Rehearsal

/-- All chains in the tree lead somewhere, and one of them to the lower file. -/
theorem lower_file_reported :
    let s : Path := .ofString "s"
    linkedTree.Sound ∧ linkedTree.find s = .ok ([s.bytes], .new .directory 0) ∧
      ∃ names loc e, linkedTree.Chain [[s.bytes]] [s.bytes] s names (.ok (loc, e)) ∧
        e.node.isFile = true ∧ Path.ofString "l/up/x/f" = Path.empty.below names := by
  intro s
  have hsound : linkedTree.Sound := by decide +kernel
  have hfind : linkedTree.find s = .ok ([s.bytes], .new .directory 0) := by decide +kernel
  obtain ⟨hfiles, hfailure, -⟩ := discover_tells hsound hfind rfl
  have hreadable : ∀ names cause,
      ¬linkedTree.Chain [[s.bytes]] [s.bytes] s names (.error cause) := by
    intro names cause hchain
    obtain ⟨_, _, -, -, herror⟩ := hfailure ⟨names, cause, hchain⟩
    rw [linkedTree_files] at herror
    cases herror
  obtain ⟨files, hdiscover, -, -, hmem⟩ := hfiles hreadable
  rw [linkedTree_files] at hdiscover
  cases hdiscover
  obtain ⟨names, loc, e, hchain, hfile, hp, -⟩ := (hmem (.ofString "l/up/x/f")).1 (by simp)
  exact ⟨hsound, hfind, names, loc, e, hchain, hfile, hp⟩

/-- The lower file is reported though the directory that holds it is on the way twice. -/
theorem directory_entered_again :
    let s : Path := .ofString "s"
    let location (p : String) := (linkedTree.find (.ofString p)).toOption.map Prod.fst
    (linkedTree.Sound ∧ linkedTree.isDirectory s = true) ∧
      linkedTree.discover s = .ok [.ofString "l/f", .ofString "l/up/x/f"] ∧
      location "s/l" = location "s/l/up/x" ∧ location "s/l" ≠ none := by
  intro s location
  refine ⟨⟨by decide +kernel, by decide +kernel⟩, linkedTree_files, ?_⟩
  decide +kernel

end StaleBuild
