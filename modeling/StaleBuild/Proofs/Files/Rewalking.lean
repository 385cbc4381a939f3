import StaleBuild.Proofs.Files.Sprouting

/-!
# Walks in a tree that sprouted

Directories that are made hold no file, and those that were there hold the entries that they held, in
the same order, with new directories between them. So a walk reports what it reported, or it comes to
a new directory by a path that is too long (`TooDeep`):

    Sprouted tree after, tree.discover dir = .ok names →
      after.discover dir = .ok names, or after.discover dir fails too deep      (discover_sprouted)

A name that was reported leads from the directory to a regular file. The file is found by the path
that is put together from the two, unless that path is refused, as a walk may go deeper than a path
can be long; either way it looks as it looked                                           (stat_below)
-/

namespace StaleBuild

open StaleBuild.Path (Step)

/-! ## The same result or a failure -/

section
variable {α β : Type} {Fails Fails' : BuildError → Prop} {old new : Except BuildError α}

/-- What went well gives the same once more, or it fails in a certain way. -/
def Repeats (Fails : BuildError → Prop) (old new : Except BuildError α) : Prop :=
  ∀ a, old = .ok a → new = .ok a ∨ ∃ e, new = .error e ∧ Fails e

theorem Repeats.of_eq (h : new = old) : Repeats Fails old new := fun _ ha => .inl (h.trans ha)

theorem Repeats.imp (h : Repeats Fails old new) (himp : ∀ e, Fails e → Fails' e) :
    Repeats Fails' old new := by
  intro a ha
  rcases h a ha with hnew | ⟨e, hnew, he⟩
  · exact .inl hnew
  · exact .inr ⟨e, hnew, himp e he⟩

theorem Repeats.bind {f g : α → Except BuildError β} (h : Repeats Fails old new)
    (hbehind : ∀ a, old = .ok a → Repeats Fails (f a) (g a)) :
    Repeats Fails (old >>= f) (new >>= g) := by
  intro b hb
  cases hold : old with
  | error e => rw [hold] at hb; cases hb
  | ok a =>
    rw [hold] at hb
    rcases h a hold with hnew | ⟨e, hnew, he⟩
    · rw [hnew]
      exact hbehind a hold b hb
    · exact .inr ⟨e, by rw [hnew]; rfl, he⟩

/-- Parts that repeat give the same list, also with parts between them that are empty. -/
theorem Repeats.flatMapM {f g : α → Except BuildError (List β)} {keep : α → Bool} {xs : List α}
    (hkept : ∀ x ∈ xs, keep x = true → Repeats Fails (f x) (g x))
    (hmore : ∀ x ∈ xs, keep x = false → Repeats Fails (.ok []) (g x)) :
    Repeats Fails ((xs.filter keep).flatMapM f) (xs.flatMapM g) := by
  induction xs with
  | nil => exact .of_eq rfl
  | cons x rest ih =>
    obtain ⟨hx, hrest⟩ := List.forall_mem_cons.1 hkept
    obtain ⟨hx', hrest'⟩ := List.forall_mem_cons.1 hmore
    have hbehind (part : List β) :
        Repeats Fails (do let more ← (rest.filter keep).flatMapM f; pure (part ++ more))
          (do let more ← rest.flatMapM g; pure (part ++ more)) :=
      (ih hrest hrest').bind fun _ _ => .of_eq rfl
    rw [List.flatMapM_cons]
    cases hkeep : keep x with
    | true =>
      rw [List.filter_cons_of_pos hkeep, List.flatMapM_cons]
      exact (hx hkeep).bind fun part _ => hbehind part
    | false =>
      have hold : (rest.filter keep).flatMapM f = (do
          let part ← Except.ok []
          let more ← (rest.filter keep).flatMapM f
          pure (part ++ more)) := by cases (rest.filter keep).flatMapM f <;> rfl
      rw [List.filter_cons_of_neg (by simp [hkeep]), hold]
      exact (hx' hkeep).bind fun part _ => hbehind part

end

/-- A walk fails on a directory that was made, at the path by which it comes to it. -/
def FailsAnew (tree after : FileTree) (inside : List Location) (dir : Location) (path : Path)
    (e : BuildError) : Prop :=
  ∃ loc p cause, after.Meets inside dir path loc p ∧ tree.get? loc = none ∧
    (∃ made, after.get? loc = some made) ∧ after.find p = .error cause ∧ e = .file p cause

theorem FailsAnew.into {tree after : FileTree} {inside : List Location} {dir loc : Location}
    {path : Path} {name : Bytes} {e : BuildError}
    (hsight : after.sight inside dir name (path.child name) = .ok (.directory loc))
    (h : FailsAnew tree after (loc :: inside) loc (path.child name) e) :
    FailsAnew tree after inside dir path e := by
  obtain ⟨found, p, cause, hmeets, hfails⟩ := h
  exact ⟨found, p, cause, .into hsight hmeets, hfails⟩

namespace Sprouted

open FileTree

variable {tree after : FileTree}

/-! ## Names -/

theorem pairwise_insertName {name : Bytes} {names : List Bytes} (h : names.Pairwise (· ≤ ·)) :
    (insertName name names).Pairwise (· ≤ ·) := by
  induction names with
  | nil => exact List.pairwise_singleton _ _
  | cons first rest ih =>
    obtain ⟨hfirst, hrest⟩ := List.pairwise_cons.1 h
    unfold insertName
    split
    · next hle =>
      exact List.pairwise_cons.2 ⟨List.forall_mem_cons.2 ⟨hle, fun other hother =>
        List.le_trans hle (hfirst other hother)⟩, h⟩
    · next hnot =>
      refine List.pairwise_cons.2 ⟨fun other hother => ?_, ih hrest⟩
      rcases List.mem_cons.1 ((insertName_perm name rest).mem_iff.1 hother) with rfl | hother
      · exact (List.le_total other first).resolve_left hnot
      · exact hfirst other hother

theorem pairwise_names (tree : FileTree) (dir : Location) :
    (tree.names dir).Pairwise (· ≤ ·) := by
  unfold names
  generalize tree.entries.filterMap _ = found
  induction found with
  | nil => exact .nil
  | cons name rest ih => exact pairwise_insertName ih

/-- The names in a directory are in their old order, with new ones between them. -/
theorem names_filter (h : Sprouted tree after) (hdistinct : tree.Distinct) (dir : Location) :
    (after.names dir).filter (fun name => (tree.get? (name :: dir)).isSome) = tree.names dir := by
  refine List.Perm.eq_of_pairwise (fun _ _ _ _ => List.le_antisymm)
    ((pairwise_names after dir).filter _) (pairwise_names tree dir) ?_
  refine (List.perm_ext_iff_of_nodup ((h.distinct.nodup_names dir).filter _)
    (hdistinct.nodup_names dir)).2 fun name => ?_
  rw [List.mem_filter, mem_names, mem_names, ← exists_get?_iff, ← exists_get?_iff,
    Option.isSome_iff_exists]
  constructor
  · exact And.right
  · rintro ⟨e, he⟩
    obtain ⟨e', he', -⟩ := h.get? he
    exact ⟨⟨e', he'⟩, e, he⟩

/-! ## What is reported -/

theorem filesAt_made (h : Sprouted tree after) {fuel : Nat} {dir : Location} {name : Bytes}
    (hwithin : ∀ chain path relative, Repeats (FailsAnew tree after chain (name :: dir) path)
      (.ok []) (after.filesWithin fuel chain (name :: dir) path relative))
    (hold : tree.get? (name :: dir) = none) {e : Entry} (hnew : after.get? (name :: dir) = some e)
    (chain : List Location) (path relative : Path) :
    Repeats (FailsAnew tree after chain dir path) (.ok [])
      (after.filesAt fuel chain dir path relative name) := by
  unfold filesAt
  cases hfind : after.find (path.child name) with
  | error cause =>
    have hsight : after.sight chain dir name (path.child name) =
        .error (.file (path.child name) cause) := by
      simp only [sight, hnew, h.made hold hnew, hfind]
    rw [hsight]
    exact fun _ _ => .inr ⟨_, rfl, _, _, cause, .entry hnew, hold, ⟨e, hnew⟩, hfind, rfl⟩
  | ok found =>
    have hsight : after.sight chain dir name (path.child name) = .ok (.directory (name :: dir)) := by
      simp only [sight, hnew, h.made hold hnew, hfind]
    rw [hsight]
    exact (hwithin _ _ _).imp fun _ => .into hsight

/-- Below a directory that was made there is no file. -/
theorem filesWithin_made (h : Sprouted tree after) (htree : tree.Enclosed) (fuel : Nat)
    {dir : Location} (hold : tree.get? dir = none) (chain : List Location) (path relative : Path) :
    Repeats (FailsAnew tree after chain dir path) (.ok [])
      (after.filesWithin fuel chain dir path relative) := by
  induction fuel generalizing dir chain path relative with
  | zero => exact .of_eq rfl
  | succ fuel ih =>
    have hnothing : (after.names dir).filter (fun _ => false) = [] :=
      List.filter_eq_nil_iff.2 fun _ _ => Bool.false_ne_true
    have hempty : Except.ok [] = ((after.names dir).filter fun _ => false).flatMapM
        (tree.filesAt fuel chain dir path relative) := by rw [hnothing]; rfl
    rw [filesWithin_succ, hempty]
    refine .flatMapM (fun _ _ hkeep => absurd hkeep Bool.false_ne_true) fun name hname _ => ?_
    obtain ⟨e, he⟩ := exists_get?_iff.2 (mem_names.1 hname)
    have hnone := htree.get?_eq_none hold name
    exact h.filesAt_made (ih hnone) hnone he chain path relative

/-- A walk reports what it reported. -/
theorem filesWithin_sprouted (h : Sprouted tree after) (htree : tree.Enclosed)
    (hdistinct : tree.Distinct) (fuel : Nat) (chain : List Location) (dir : Location)
    (path relative : Path) :
    Repeats (FailsAnew tree after chain dir path) (tree.filesWithin fuel chain dir path relative)
      (after.filesWithin fuel chain dir path relative) := by
  induction fuel generalizing chain dir path relative with
  | zero => exact .of_eq rfl
  | succ fuel ih =>
    rw [filesWithin_succ, filesWithin_succ, ← h.names_filter hdistinct]
    refine .flatMapM (fun name _ _ => ?_) fun name hname hnone => ?_
    · intro part hpart
      unfold filesAt at hpart ⊢
      cases hsight : tree.sight chain dir name (path.child name) with
      | error e => rw [hsight] at hpart; cases hpart
      | ok seen =>
        have hsight' := h.toKept.sight_kept hsight
        rw [hsight] at hpart
        rw [hsight']
        cases seen with
        | file => exact .inl hpart
        | nothing => exact .inl hpart
        | directory loc => exact (ih _ _ _ _).imp (fun _ => .into hsight') part hpart
    · obtain ⟨e, he⟩ := exists_get?_iff.2 (mem_names.1 hname)
      rw [Option.isSome_eq_false_iff, Option.isNone_iff_eq_none] at hnone
      exact h.filesAt_made (h.filesWithin_made htree fuel hnone) hnone he chain path relative

end Sprouted

/-! ## Where reported names lead -/

namespace ProperName

variable {name : Bytes} (h : ProperName name)
include h

theorem isAbsolute : (⟨name⟩ : Path).isAbsolute = false := by
  cases name with
  | nil => rfl
  | cons b rest =>
    have hb : b ≠ Path.separator := fun hb => h.plain (hb ▸ .head _)
    simp [Path.isAbsolute, hb]

theorem ne_nil : name ≠ [] := by
  rintro rfl
  exact absurd h.moves (by decide)

theorem steps : (⟨name⟩ : Path).steps = [.into name] := by
  rw [Path.steps, Path.segments_of_separator_notMem h.plain, List.filterMap_cons, h.moves]
  rfl

theorem steps_child (p : Path) : (p.child name).steps = p.steps ++ [.into name] := by
  rw [Path.child, Path.steps_join h.isAbsolute, h.steps]

theorem isAbsolute_child (p : Path) : (p.child name).isAbsolute = p.isAbsolute :=
  Path.isAbsolute_join h.isAbsolute

theorem demand_child (p : Path) : FileTree.demand (p.child name) = [] := by
  have hend : (⟨name⟩ : Path).endsInSeparator = false := by
    unfold Path.endsInSeparator
    have hlast : name.getLast h.ne_nil ≠ Path.separator := fun hlast =>
      h.plain (hlast ▸ List.getLast_mem h.ne_nil)
    simp [List.getLast?_eq_some_getLast h.ne_nil, hlast]
  rw [FileTree.demand, Path.child, Path.endsInSeparator_join h.isAbsolute h.ne_nil, hend]
  rfl

end ProperName

namespace FileTree

variable {tree : FileTree}

/-- What a name adds to another one leads from a path to a regular file, through a directory entry
first. -/
structure FileBelow (tree : FileTree) (path relative found : Path) : Prop where
  isAbsolute : found.isAbsolute = relative.isAbsolute
  exists_steps : ∃ first more, found.steps = relative.steps ++ .into first :: more ∧
    ∃ loc e, tree.walk true linkLimit (startOf tree.current path)
      (path.steps ++ .into first :: more) = .found loc e ∧ e.node.isFile = true

namespace FileBelow

variable {path relative found : Path} {name : Bytes}

/-- A file in the directory. -/
theorem of_reported (hname : ProperName name) {loc : Location} {e : Entry}
    (hwalk : tree.walk true linkLimit (startOf tree.current path) (path.steps ++ [.into name]) =
      .found loc e) (hfile : e.node.isFile = true) (h : found ∈ reported (relative.child name)) :
    tree.FileBelow path relative found := by
  unfold reported at h
  split at h
  · obtain rfl := List.mem_singleton.1 h
    exact ⟨hname.isAbsolute_child _, name, [], hname.steps_child _, loc, e, hwalk, hfile⟩
  · cases h

/-- A file in a directory below. -/
theorem of_child (hname : ProperName name)
    (h : tree.FileBelow (path.child name) (relative.child name) found) :
    tree.FileBelow path relative found := by
  obtain ⟨habsolute, first, more, hsteps, loc, e, hwalk, hfile⟩ := h
  refine ⟨habsolute.trans (hname.isAbsolute_child _), name, .into first :: more, ?_, loc, e, ?_,
    hfile⟩
  · rw [hsteps, hname.steps_child, List.append_assoc]
    rfl
  · rw [hname.steps_child, startOf, hname.isAbsolute_child, List.append_assoc] at hwalk
    exact hwalk

end FileBelow

section
variable {chain : List Location} {dir loc : Location} {path : Path} {name : Bytes} {e : Entry}

/-- What is no link is found where it lies. -/
theorem LeadsTo.walk_entry (h : tree.LeadsTo path dir) (hname : ProperName name)
    (he : tree.get? (name :: dir) = some e) (hlink : e.node.isLink = false) :
    tree.walk true linkLimit (startOf tree.current path) (path.steps ++ [.into name]) =
      .found (name :: dir) e := by
  obtain ⟨left, hleft⟩ := h
  have hadvance : tree.advance true dir [.into name] = .arrived (.found (name :: dir) e) := by
    rw [advance, if_neg (Nat.not_lt.2 hname.short), he]
    obtain ⟨node, modified, mode, shared⟩ := e
    cases node with
    | directory => simp only [advance, he]
    | link target => cases hlink
    | _ => rfl
  rw [hleft]
  cases left <;> simp only [walk, hadvance]

/-- A directory is found by its path, unless that is refused. -/
theorem LeadsTo.find_child (h : tree.LeadsTo path dir) (hname : ProperName name)
    (he : tree.get? (name :: dir) = some e) (hlink : e.node.isLink = false)
    (hrefusal : refusal? (path.child name) = none) :
    tree.find (path.child name) = .ok (name :: dir, e) := by
  refine find_eq_ok_iff_walk.2 ⟨hrefusal, ?_⟩
  rw [hname.demand_child, hname.steps_child, startOf, hname.isAbsolute_child, List.append_nil]
  exact h.walk_entry hname he hlink

/-- A directory entry that is looked up below a path is walked to. -/
theorem walk_of_find_child (hname : ProperName name)
    (hfind : tree.find (path.child name) = .ok (loc, e)) :
    tree.walk true linkLimit (startOf tree.current path) (path.steps ++ [.into name]) =
      .found loc e := by
  have hwalk := (find_eq_ok_iff_walk.1 hfind).2
  rw [hname.demand_child, hname.steps_child, startOf, hname.isAbsolute_child,
    List.append_nil] at hwalk
  exact hwalk

/-- What a walk takes for a file is one. -/
theorem LeadsTo.walk_of_sight (h : tree.LeadsTo path dir) (hname : ProperName name)
    (hsight : tree.sight chain dir name (path.child name) = .ok .file) :
    ∃ loc e, tree.walk true linkLimit (startOf tree.current path) (path.steps ++ [.into name]) =
      .found loc e ∧ e.node.isFile = true := by
  obtain ⟨e, loc, target, he, htarget, hfile⟩ := sight_eq_file_iff.1 hsight
  cases hlink : e.node.isLink with
  | false =>
    obtain ⟨rfl, rfl⟩ := Prod.mk.inj (eq_of_standsFor hlink htarget)
    exact ⟨_, _, h.walk_entry hname he hlink, hfile⟩
  | true =>
    rw [standsFor_of_link hlink] at htarget
    exact ⟨loc, target, walk_of_find_child hname htarget, hfile⟩

/-- The path of a directory that a walk goes into leads to it. -/
theorem LeadsTo.of_sight (h : tree.LeadsTo path dir) (hname : ProperName name)
    (hsight : tree.sight chain dir name (path.child name) = .ok (.directory loc)) :
    tree.LeadsTo (path.child name) loc := by
  obtain ⟨e, target, he, htarget, hdirectory, -⟩ := sight_eq_directory_iff.1 hsight
  cases hlink : e.node.isLink with
  | false =>
    obtain ⟨rfl, rfl⟩ := Prod.mk.inj (eq_of_standsFor hlink htarget)
    exact h.of_steps (hname.isAbsolute_child path) (hname.steps_child path)
      (advance_into hname.short he hdirectory)
  | true =>
    rw [standsFor_of_link hlink] at htarget
    exact leadsTo_of_find htarget hdirectory

end

/-- A directory that a walk comes to is found by the path by which it comes, unless that is too long. -/
theorem Sound.tooLong_of_meets (h : tree.Sound) {found : Location} {p : Path}
    (hmeets : tree.Meets chain dir path found p) (hleads : tree.LeadsTo path dir)
    (hpath : (0 : UInt8) ∉ path.bytes) (he : tree.get? found = some e) (hnode : e.node = .directory)
    (hzero : ∀ name ∈ found.head?, (0 : UInt8) ∉ name) {cause : FileError}
    (hfails : tree.find p = .error cause) : cause = .nameTooLong ∧ pathLimit ≤ p.bytes.length := by
  induction hmeets with
  | @entry _ dir path name _ _ =>
    have hname := h.properName he
    have hlink : e.node.isLink = false := by rw [hnode]; rfl
    have hbytes := Path.zero_notMem_join (q := ⟨name⟩) hpath (hzero name rfl)
    have hne := Path.bytes_join_ne_nil (p := path) (q := ⟨name⟩) hname.ne_nil
    rcases refusal?_of_zero_notMem hbytes hne with hnone | ⟨hrefusal, hlong⟩
    · rw [hleads.find_child hname he hlink hnone] at hfails
      cases hfails
    · have hsame : Except.error .nameTooLong = Except.error cause :=
        (tree.find_of_refusal hrefusal).symm.trans hfails
      exact ⟨(Except.error.inj hsame).symm, hlong⟩
  | @into _ dir loc _ path _ name hsight _ ih =>
    obtain ⟨e', -, he', -⟩ := sight_eq_directory_iff.1 hsight
    obtain ⟨found, hfound⟩ := exists_find_of_sight hsight
    exact ih (hleads.of_sight (h.properName he') hsight)
      (refusal?_eq_none_iff.1 (find_eq_ok_iff_walk.1 hfound).1).1 he hzero hfails

/-- What a walk reports lies in the directory that it began with. -/
theorem Sound.filesWithin_below (h : tree.Sound) {fuel : Nat} {chain : List Location}
    {dir : Location} {path relative : Path} {names : List Path} (hleads : tree.LeadsTo path dir)
    (hnames : tree.filesWithin fuel chain dir path relative = .ok names) {found : Path}
    (hfound : found ∈ names) : tree.FileBelow path relative found := by
  induction fuel generalizing chain dir path relative names with
  | zero =>
    cases hnames
    cases hfound
  | succ fuel ih =>
    rw [filesWithin_succ] at hnames
    obtain ⟨hparts, rfl⟩ := flatMapM_eq_ok_iff.1 hnames
    obtain ⟨name, hname, hfound⟩ := List.mem_flatMap.1 hfound
    obtain ⟨part, hpart⟩ := hparts name hname
    obtain ⟨e, he⟩ := exists_get?_iff.2 (mem_names.1 hname)
    have hproper := h.properName he
    rw [hpart] at hfound
    unfold filesAt at hpart
    split at hpart
    · cases hpart
    · next hsight =>
      cases hpart
      obtain ⟨loc, e, hwalk, hfile⟩ := hleads.walk_of_sight hproper hsight
      exact .of_reported hproper hwalk hfile hfound
    · next loc hsight => exact (ih (hleads.of_sight hproper hsight) hpart hfound).of_child hproper
    · cases hpart
      cases hfound

theorem Sound.discover_below (h : tree.Sound) {dir : Path} (hdir : tree.isDirectory dir = true)
    {names : List Path} (hnames : tree.discover dir = .ok names) {found : Path}
    (hfound : found ∈ names) : tree.FileBelow dir .empty found := by
  obtain ⟨loc, e, hfind, hnode⟩ := isDirectory_iff.1 hdir
  unfold discover at hnames
  rw [hfind] at hnames
  simp only [hnode, Node.isDirectory, if_true] at hnames
  exact h.filesWithin_below (leadsTo_of_find hfind hnode) hnames hfound

/-- A reported file is found by its path, unless that is refused. -/
theorem FileBelow.find {dir found : Path} (h : tree.FileBelow dir .empty found)
    (hne : found.bytes ≠ []) (hend : found.endsInSeparator = false)
    (hrefusal : refusal? (dir.join found) = none) :
    ∃ loc e, tree.find (dir.join found) = .ok (loc, e) ∧ e.node.isFile = true := by
  obtain ⟨habsolute, first, more, hsteps, loc, e, hwalk, hfile⟩ := h
  have hrelative : found.isAbsolute = false := habsolute
  refine ⟨loc, e, find_eq_ok_iff_walk.2 ⟨hrefusal, ?_⟩, hfile⟩
  have hsteps' : found.steps = .into first :: more := hsteps
  rw [demand, Path.endsInSeparator_join hrelative hne, hend, Path.steps_join hrelative, hsteps',
    startOf, Path.isAbsolute_join hrelative, if_neg Bool.false_ne_true, List.append_nil]
  exact hwalk

end FileTree

open FileTree

/-- A walk below a root fails on a directory that was made, as it comes to it by a path that is too
long. -/
def TooDeep (tree after : FileTree) (root : Path) (e : BuildError) : Prop :=
  ∃ loc p, Unopened tree after root loc p .nameTooLong ∧ pathLimit ≤ p.bytes.length ∧
    e = .file p .nameTooLong

/-- **The files below a directory are those that were there**, in the same order, or the walk comes to
a new directory by a path that is too long. -/
theorem Sprouted.discover_sprouted {tree after : FileTree} (h : Sprouted tree after)
    (htree : tree.Sound) (dir : Path) :
    Repeats (TooDeep tree after dir) (tree.discover dir) (after.discover dir) := by
  intro names hnames
  rcases h.toKept.discover_kept hnames with
    hsame | ⟨fuel, start, e, hfind, hdirectory, hwithin, hdiscover⟩
  · exact .inl hsame
  · rw [hdiscover]
    rcases h.filesWithin_sprouted htree.toEnclosed htree.distinct fuel [start] start dir .empty names
        hwithin with hagain | ⟨e', hfails, loc, p, cause, hmeets, hold, ⟨made, hnew⟩, hp, rfl⟩
    · exact .inl hagain
    · have hnode : made.node = .directory := h.made hold hnew
      have hstart : e.node = .directory := by
        cases hnode : e.node <;> simp [hnode, Node.isDirectory] at hdirectory
        rfl
      have hzero : ∀ name ∈ loc.head?, (0 : UInt8) ∉ name := fun name hname => by
        obtain ⟨above, rfl⟩ := List.head?_eq_some_iff.1 hname
        exact (h.named hold hnew).2
      obtain ⟨rfl, hlong⟩ := (h.sound htree).tooLong_of_meets hmeets (leadsTo_of_find hfind hstart)
        (refusal?_eq_none_iff.1 (find_eq_ok_iff_walk.1 hfind).1).1 hnew hnode hzero hp
      have hunopened : Unopened tree after dir loc p .nameTooLong :=
        ⟨⟨start, e, hfind, hdirectory, hmeets⟩, hold, ⟨made, hnew, hnode⟩, hp⟩
      exact .inr ⟨_, hfails, loc, p, hunopened, hlong, rfl⟩

/-- **A reported file looks as it looked**, and where its path is refused it is refused still. -/
theorem Sprouted.stat_below {tree after : FileTree} (h : Sprouted tree after) {dir found : Path}
    (hbelow : tree.FileBelow dir .empty found) (hne : found.bytes ≠ [])
    (hend : found.endsInSeparator = false) :
    after.stat (dir.join found) = tree.stat (dir.join found) := by
  cases hrefusal : refusal? (dir.join found) with
  | some cause =>
    unfold stat FileTree.find lookup
    rw [lookupWith_eq, lookupWith_eq, hrefusal]
  | none =>
    obtain ⟨loc, e, hfind, hfile⟩ := hbelow.find hne hend hrefusal
    obtain ⟨e', hfind', -⟩ := h.toKept.find_kept hfind
    have hnode : e.node ≠ .directory := fun hnode => by
      rw [hnode] at hfile
      cases hfile
    have hsame := h.get?_of_ne_directory (get?_of_find hfind) hnode
    rw [get?_of_find hfind'] at hsame
    rw [stat, stat, hfind, hfind', Option.some.inj hsame]

end StaleBuild
