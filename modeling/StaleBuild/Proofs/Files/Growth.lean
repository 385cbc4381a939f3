import StaleBuild.Proofs.Files.Walking
import StaleBuild.Source

/-!
# Trees that grow

A compilation adds class files and directories to a tree and puts class files in the place of class
files. Where a path led it still leads, and the files below a directory are those that were there
and class files, which are no sources.

    Kept tree after, tree.find p = .ok (loc, e) → after.find p = .ok (loc, e'), e' like e   (find_kept)
    Grown tree after, tree.discover dir = .ok old → after.discover dir = .ok new,
      and new has all sources of old and no other                                           (discover_grown)

A walk can come to a directory that was made by a path that is too long (`Unopened`). Then it fails,
so this is to be excluded.
-/

namespace StaleBuild

/-! ## Nodes that are kept -/

theorem Node.exists_contents {node : Node} (h : node.isFile = true) :
    ∃ contents, node = .file contents := by
  cases node with
  | file contents => exact ⟨contents, rfl⟩
  | directory => exact absurd h Bool.false_ne_true
  | link target => exact absurd h Bool.false_ne_true
  | special kind => exact absurd h Bool.false_ne_true

/-- The same node, or a regular file and another one. -/
def Node.Alike (old new : Node) : Prop := new = old ∨ old.isFile = true ∧ new.isFile = true

namespace Node.Alike

variable {old new : Node}

theorem isFile_eq (h : old.Alike new) : new.isFile = old.isFile := by
  rcases h with rfl | ⟨hold, hnew⟩
  · rfl
  · rw [hold, hnew]

theorem isDirectory_eq (h : old.Alike new) : new.isDirectory = old.isDirectory := by
  rcases h with rfl | ⟨hold, hnew⟩
  · rfl
  · obtain ⟨_, rfl⟩ := exists_contents hold
    obtain ⟨_, rfl⟩ := exists_contents hnew
    rfl

end Node.Alike

namespace FileTree

/-- Why a path is refused ahead of any walk. -/
def refusal? (p : Path) : Option FileError :=
  if p.bytes.contains 0 then some .zeroByteInPath
  else if p.isEmpty then some .notFound
  else if pathLimit ≤ p.bytes.length then some .nameTooLong
  else none

theorem lookupWith_eq (tree : FileTree) (follow : Bool) (p : Path) (added : List Path.Step) :
    tree.lookupWith follow p added =
      match refusal? p with
      | some cause => .failed cause
      | none => tree.walk follow linkLimit (startOf tree.current p) (p.steps ++ added) := by
  unfold lookupWith refusal?
  split
  · rfl
  · split
    · rfl
    · split <;> rfl

theorem find_eq_ok_iff {tree : FileTree} {p : Path} {loc : Location} {e : Entry} :
    tree.find p = .ok (loc, e) ↔ tree.lookup p = .found loc e := by
  unfold find
  cases tree.lookup p <;> simp

end FileTree

/-- `after` has all that `tree` has, with other contents in regular files. -/
structure Kept (tree after : FileTree) : Prop where
  current : after.current = tree.current
  get? : ∀ {loc e}, tree.get? loc = some e → ∃ e', after.get? loc = some e' ∧ e.node.Alike e'.node

/-- What a walk that stood somewhere comes to when all was kept: nothing can be said of one that got
no further. -/
inductive Advance.Kept : Advance → Advance → Prop where
  | found {loc : Location} {e e' : Entry} :
      e.node.Alike e'.node → Kept (.arrived (.found loc e)) (.arrived (.found loc e'))
  | lost {old : Lookup} {other : Advance} : (∀ loc e, old ≠ .found loc e) →
      Kept (.arrived old) other
  | atLink {dir : Location} {target : Path} {rest : List Path.Step} :
      Kept (.atLink dir target rest) (.atLink dir target rest)

theorem Advance.Kept.of_failed {cause : FileError} {other : Advance} :
    Advance.Kept (.arrived (.failed cause)) other :=
  .lost fun _ _ h => by cases h

namespace Kept

open FileTree

variable {tree after : FileTree}

theorem advance_kept (h : Kept tree after) (follow : Bool) (dir : Location)
    (steps : List Path.Step) :
    (tree.advance follow dir steps).Kept (after.advance follow dir steps) := by
  induction steps generalizing dir with
  | nil =>
    simp only [advance]
    cases hdir : tree.get? dir with
    | none => exact .of_failed
    | some e =>
      obtain ⟨e', he', halike⟩ := h.get? hdir
      rw [he']
      exact .found halike
  | cons step rest ih =>
    cases step with
    | here => exact ih dir
    | up => exact ih dir.tail
    | into name =>
      simp only [advance]
      by_cases hlong : nameLimit < name.length
      · simp only [hlong, if_true]
        exact .of_failed
      · simp only [hlong, if_false]
        cases hnext : tree.get? (name :: dir) with
        | none =>
          refine .lost fun loc e h => ?_
          split at h <;> cases h
        | some e =>
          obtain ⟨e', he', halike⟩ := h.get? hnext
          rw [he']
          dsimp only
          rcases id halike with hsame | ⟨hold, hnew⟩
          · rw [hsame]
            cases e.node with
            | directory => exact ih (name :: dir)
            | link target =>
              dsimp only
              split
              · exact .found halike
              · exact .atLink
            | file contents =>
              dsimp only
              split
              · exact .found halike
              · exact .of_failed
            | special kind =>
              dsimp only
              split
              · exact .found halike
              · exact .of_failed
          · obtain ⟨contents, hnode⟩ := Node.exists_contents hold
            obtain ⟨contents', hnode'⟩ := Node.exists_contents hnew
            rw [hnode, hnode']
            dsimp only
            split
            · exact .found halike
            · exact .of_failed

theorem walk_kept (h : Kept tree after) {follow : Bool} {links : Nat} {dir loc : Location}
    {steps : List Path.Step} {e : Entry} (hwalk : tree.walk follow links dir steps = .found loc e) :
    ∃ e', after.walk follow links dir steps = .found loc e' ∧ e.node.Alike e'.node := by
  induction links generalizing dir steps with
  | zero =>
    have hadvance := h.advance_kept follow dir steps
    simp only [walk] at hwalk ⊢
    generalize tree.advance follow dir steps = old at hadvance hwalk
    generalize after.advance follow dir steps = new at hadvance ⊢
    cases hadvance with
    | found halike =>
      cases hwalk
      exact ⟨_, rfl, halike⟩
    | lost hold => exact absurd hwalk (hold loc e)
    | atLink => cases hwalk
  | succ links ih =>
    have hadvance := h.advance_kept follow dir steps
    simp only [walk] at hwalk ⊢
    generalize tree.advance follow dir steps = old at hadvance hwalk
    generalize after.advance follow dir steps = new at hadvance ⊢
    cases hadvance with
    | found halike =>
      cases hwalk
      exact ⟨_, rfl, halike⟩
    | lost hold => exact absurd hwalk (hold loc e)
    | atLink => exact ih hwalk

/-- A path leads to where it led. -/
theorem find_kept (h : Kept tree after) {p : Path} {loc : Location} {e : Entry}
    (hfind : tree.find p = .ok (loc, e)) :
    ∃ e', after.find p = .ok (loc, e') ∧ e.node.Alike e'.node := by
  simp only [find_eq_ok_iff, lookup, lookupWith_eq, h.current] at hfind ⊢
  cases hrefusal : refusal? p with
  | some cause => rw [hrefusal] at hfind; cases hfind
  | none =>
    rw [hrefusal] at hfind
    exact h.walk_kept hfind

theorem isDirectory_kept (h : Kept tree after) {p : Path} (hp : tree.isDirectory p = true) :
    after.isDirectory p = true := by
  unfold isDirectory stat at hp ⊢
  cases hfind : tree.find p with
  | error cause => simp [hfind, Except.map] at hp
  | ok found =>
    obtain ⟨loc, e⟩ := found
    obtain ⟨e', he', halike⟩ := h.find_kept hfind
    rw [hfind] at hp
    rw [he']
    exact halike.isDirectory_eq.trans hp

/-- A walk sees in an entry what it saw. -/
theorem sight_kept (h : Kept tree after) {chain : List Location} {dir : Location} {name : Bytes}
    {path : Path} {seen : Sight} (hsight : tree.sight chain dir name path = .ok seen) :
    after.sight chain dir name path = .ok seen := by
  unfold sight at hsight ⊢
  cases hget : tree.get? (name :: dir) with
  | none => simp [hget] at hsight
  | some e =>
    obtain ⟨e', he', halike⟩ := h.get? hget
    rw [hget] at hsight
    rw [he']
    dsimp only at hsight ⊢
    rcases halike with hsame | ⟨hold, hnew⟩
    · rw [hsame]
      cases hnode : e.node with
      | file contents => rw [hnode] at hsight; exact hsight
      | special kind => rw [hnode] at hsight; exact hsight
      | directory =>
        rw [hnode] at hsight
        dsimp only at hsight ⊢
        cases hfind : tree.find path with
        | error cause => simp [hfind] at hsight
        | ok found =>
          obtain ⟨e', he', -⟩ := h.find_kept hfind
          rw [hfind] at hsight
          rw [he']
          exact hsight
      | link target =>
        rw [hnode] at hsight
        dsimp only at hsight ⊢
        cases hfind : tree.find path with
        | error cause => simp [hfind] at hsight
        | ok found =>
          obtain ⟨loc, e⟩ := found
          obtain ⟨e', he', halike⟩ := h.find_kept hfind
          rw [hfind] at hsight
          rw [he']
          dsimp only at hsight ⊢
          rw [halike.isFile_eq, halike.isDirectory_eq]
          exact hsight
    · obtain ⟨contents, hnode⟩ := Node.exists_contents hold
      obtain ⟨contents', hnode'⟩ := Node.exists_contents hnew
      rw [hnode] at hsight
      rw [hnode']
      exact hsight

/-- A walk below a directory starts where it started; what is no directory gives what it gave. -/
theorem discover_kept (h : Kept tree after) {dir : Path} {names : List Path}
    (hnames : tree.discover dir = .ok names) :
    after.discover dir = .ok names ∨
      ∃ fuel loc e, after.find dir = .ok (loc, e) ∧ e.node.isDirectory = true ∧
        tree.filesWithin fuel [loc] loc dir .empty = .ok names ∧
        after.discover dir = after.filesWithin fuel [loc] loc dir .empty := by
  -- both walks can be given the fuel of the longer one
  have hfuel := Nat.le_max_left ((tree.entries.length + 1) * (tree.entries.length + 1))
    ((after.entries.length + 1) * (after.entries.length + 1))
  have hfuel' := Nat.le_max_right ((tree.entries.length + 1) * (tree.entries.length + 1))
    ((after.entries.length + 1) * (after.entries.length + 1))
  rw [discover_eq hfuel] at hnames
  rw [discover_eq hfuel']
  cases hfind : tree.find dir with
  | error cause => rw [hfind] at hnames; cases hnames
  | ok found =>
    obtain ⟨loc, e⟩ := found
    obtain ⟨e', he', halike⟩ := h.find_kept hfind
    rw [hfind] at hnames
    rw [he']
    dsimp only at hnames ⊢
    rw [halike.isDirectory_eq, halike.isFile_eq]
    split at hnames
    · next hdirectory =>
      rw [if_pos hdirectory]
      exact .inr ⟨_, loc, e', rfl, halike.isDirectory_eq.trans hdirectory, hnames, rfl⟩
    · next hdirectory => exact .inl (by rw [if_neg hdirectory, hnames])

end Kept

/-! ## Class files and directories that are made -/

/-- Whether a location is named like a class file. -/
def Location.isClassFile : Location → Bool
  | [] => false
  | name :: _ => classSuffix.isSuffixOf name

/-- `after` has all that `tree` has and class files and directories besides. -/
structure Grown (tree after : FileTree) : Prop extends Kept tree after where
  made : ∀ {loc e}, tree.get? loc = none → after.get? loc = some e →
    e.node = .directory ∨ e.node.isFile = true ∧ Location.isClassFile loc = true
  /-- In a directory that was made everything was made. -/
  within : ∀ {name dir e}, tree.get? dir = none → after.get? dir = some e →
    tree.get? (name :: dir) = none

theorem getLast?_of_suffix {suffix bytes : Bytes} (h : suffix <:+ bytes) (hne : suffix ≠ []) :
    bytes.getLast? = suffix.getLast? := by
  obtain ⟨ahead, rfl⟩ := h
  rw [List.getLast?_append, List.getLast?_eq_some_getLast hne, Option.some_or]

/-- A name that ends like a class file is no source. -/
theorem Candidate.ofName?_of_classSuffix {name : Path} (h : classSuffix <:+ name.bytes) :
    ofName? name = none := by
  have hkind : SourceKind.ofName? name = none := by
    unfold SourceKind.ofName?
    rw [List.find?_eq_none]
    intro kind _ hsuffix
    -- the last letters differ
    have hlast := (getLast?_of_suffix (List.isSuffixOf_iff_suffix.1 hsuffix)
      (List.cons_ne_nil _ _)).symm.trans (getLast?_of_suffix h (by decide))
    cases kind <;> exact absurd hlast (by decide)
  unfold ofName?
  rw [hkind]

theorem Path.suffix_child {suffix : Bytes} (relative : Path) {name : Bytes} (h : suffix <:+ name) :
    suffix <:+ (relative.child name).bytes := by
  unfold child join
  split
  · exact h
  · split
    · exact h.trans (List.suffix_append _ _)
    · exact h.trans ((List.suffix_cons _ _).trans (List.suffix_append _ _))

/-- A walk below a root comes to a directory that was made by a path at which that is not found. -/
structure Unopened (tree after : FileTree) (root : Path) (loc : Location) (p : Path)
    (cause : FileError) : Prop where
  met : after.MeetsBelow root loc p
  made : tree.get? loc = none
  directory : ∃ e, after.get? loc = some e ∧ e.node = .directory
  refused : after.find p = .error cause

/-- The directories that were made are found by the paths by which a walk comes to them. -/
def Opens (tree after : FileTree) (inside : List Location) (dir : Location) (path : Path) : Prop :=
  ∀ loc p e, after.Meets inside dir path loc p → tree.get? loc = none → after.get? loc = some e →
    e.node = .directory → ∃ found, after.find p = .ok found

/-- A walk that comes to an end has opened the directories that were made. -/
theorem not_unopened_of_discover {tree after : FileTree} {root p : Path} {loc : Location}
    {cause : FileError} {names : List Path} (h : after.discover root = .ok names) :
    ¬Unopened tree after root loc p cause := by
  rintro ⟨hmeets, -, ⟨made, hnew, hnode⟩, hfails⟩
  obtain ⟨found, hfound⟩ := FileTree.exists_find_of_discover h hmeets hnew hnode
  rw [hfails] at hfound
  cases hfound

namespace Opens

variable {tree after : FileTree} {inside : List Location} {dir loc : Location} {path : Path}
  {name : Bytes}

theorem into (h : Opens tree after inside dir path)
    (hsight : after.sight inside dir name (path.child name) = .ok (.directory loc)) :
    Opens tree after (loc :: inside) loc (path.child name) :=
  fun found p e hmeets => h found p e (.into hsight hmeets)

/-- A walk goes into a directory that was made. -/
theorem sight_made (h : Opens tree after inside dir path) {e : Entry}
    (hold : tree.get? (name :: dir) = none) (hnew : after.get? (name :: dir) = some e)
    (hnode : e.node = .directory) :
    after.sight inside dir name (path.child name) = .ok (.directory (name :: dir)) := by
  obtain ⟨found, hfind⟩ := h _ _ e (.entry hnew) hold hnew hnode
  simp only [FileTree.sight, hnew, hnode, hfind]

theorem of_not_unopened {root : Path} {start : Location} {e : Entry}
    (hfind : after.find root = .ok (start, e)) (hdirectory : e.node.isDirectory = true)
    (h : ∀ loc p cause, ¬Unopened tree after root loc p cause) :
    Opens tree after [start] start root := by
  intro loc p made hmeets hold hnew hnode
  cases hp : after.find p with
  | ok found => exact ⟨found, rfl⟩
  | error cause =>
    exact absurd ⟨⟨start, e, hfind, hdirectory, hmeets⟩, hold, ⟨made, hnew, hnode⟩, hp⟩
      (h loc p cause)

end Opens

/-- A walk that comes to an end and reports no source. -/
def Sourceless (result : Except BuildError (List Path)) : Prop :=
  ∃ names, result = .ok names ∧ ∀ name ∈ names, Candidate.ofName? name = none

namespace Grown

open FileTree

variable {tree after : FileTree}

theorem filesAt_made (h : Grown tree after) {fuel : Nat}
    (hwithin : ∀ chain dir path relative e, tree.get? dir = none → after.get? dir = some e →
      Opens tree after chain dir path → Sourceless (after.filesWithin fuel chain dir path relative))
    {chain : List Location} {dir : Location} {path : Path} (hopens : Opens tree after chain dir path)
    (relative : Path) {name : Bytes} {e : Entry} (hold : tree.get? (name :: dir) = none)
    (hnew : after.get? (name :: dir) = some e) :
    Sourceless (after.filesAt fuel chain dir path relative name) := by
  unfold filesAt
  rcases h.made hold hnew with hnode | ⟨hfile, hclass⟩
  · have hsight := hopens.sight_made hold hnew hnode
    rw [hsight]
    exact hwithin _ _ _ _ e hold hnew (hopens.into hsight)
  · obtain ⟨contents, hnode⟩ := Node.exists_contents hfile
    have hsight : after.sight chain dir name (path.child name) = .ok .file := by
      simp only [sight, hnew, hnode]
    rw [hsight]
    refine ⟨reported (relative.child name), rfl, fun found hfound => ?_⟩
    unfold reported at hfound
    split at hfound
    · obtain rfl := List.mem_singleton.1 hfound
      exact Candidate.ofName?_of_classSuffix
        (relative.suffix_child (List.isSuffixOf_iff_suffix.1 hclass))
    · cases hfound

/-- Below a directory that was made there is no source. -/
theorem filesWithin_made (h : Grown tree after) (fuel : Nat) (chain : List Location)
    (dir : Location) (path relative : Path) (e : Entry) (hold : tree.get? dir = none)
    (hnew : after.get? dir = some e) (hopens : Opens tree after chain dir path) :
    Sourceless (after.filesWithin fuel chain dir path relative) := by
  induction fuel generalizing chain dir path relative e with
  | zero => exact ⟨[], rfl, nofun⟩
  | succ fuel ih =>
    have hat : ∀ name ∈ after.names dir,
        Sourceless (after.filesAt fuel chain dir path relative name) := fun name hname => by
      obtain ⟨e', he'⟩ := exists_get?_iff.2 (mem_names.1 hname)
      exact h.filesAt_made ih hopens relative (h.within hold hnew) he'
    rw [filesWithin_succ]
    refine ⟨_, flatMapM_eq_ok_iff.2 ⟨fun name hname => ?_, rfl⟩, fun found hfound => ?_⟩
    · obtain ⟨names, hnames, -⟩ := hat name hname
      exact ⟨names, hnames⟩
    · obtain ⟨name, hname, hfound⟩ := List.mem_flatMap.1 hfound
      obtain ⟨names, hnames, hnone⟩ := hat name hname
      rw [hnames] at hfound
      exact hnone found hfound

end Grown

/-! ## What is found in a tree that grew -/

/-- No two entries are at one location. -/
def FileTree.Distinct (tree : FileTree) : Prop := (tree.entries.map Prod.fst).Nodup

theorem FileTree.Distinct.nodup_names {tree : FileTree} (h : tree.Distinct) (dir : Location) :
    (tree.names dir).Nodup := by
  rw [(names_perm dir).nodup_iff]
  refine List.Pairwise.filterMap _ (fun a b hab name hname name' hname' => ?_)
    (List.pairwise_map.1 h)
  rintro rfl
  exact hab ((nameIn?_eq_some_iff.1 hname).trans (nameIn?_eq_some_iff.1 hname').symm)

/-- More lists, and longer ones, are longer together. -/
theorem length_flatMap_le {α β : Type} {f g : α → List β} {xs ys : List α} (hxs : xs.Nodup)
    (hsub : ∀ x ∈ xs, x ∈ ys) (hle : ∀ x ∈ xs, (f x).length ≤ (g x).length) :
    (xs.flatMap f).length ≤ (ys.flatMap g).length := by
  induction xs generalizing ys with
  | nil => exact Nat.zero_le _
  | cons x rest ih =>
    obtain ⟨hx, hrest⟩ := List.nodup_cons.1 hxs
    obtain ⟨ahead, behind, rfl⟩ := List.append_of_mem (hsub x (.head _))
    have hothers : ∀ y ∈ rest, y ∈ ahead ++ behind := fun y hy => by
      rcases List.mem_append.1 (hsub y (.tail _ hy)) with hmem | hmem
      · exact List.mem_append_left _ hmem
      · rcases List.mem_cons.1 hmem with rfl | hmem
        · exact absurd hy hx
        · exact List.mem_append_right _ hmem
    have hlength := ih hrest hothers fun y hy => hle y (.tail _ hy)
    have hfirst := hle x (.head _)
    simp only [List.flatMap_cons, List.flatMap_append, List.length_append] at hlength ⊢
    omega

/-- What a walk reports when a tree has grown: no other sources, and no fewer files. -/
structure Relisted (tree : FileTree) (old new : List Path) : Prop where
  sources : ∀ name ∈ new, name ∈ old ∨ Candidate.ofName? name = none
  length : tree.Distinct → old.length ≤ new.length

theorem Relisted.refl (tree : FileTree) (names : List Path) : Relisted tree names names :=
  ⟨fun _ h => .inl h, fun _ => Nat.le_refl _⟩

namespace Grown

open FileTree

variable {tree after : FileTree}

theorem filesWithin_grown (h : Grown tree after) {fuel : Nat} {chain : List Location}
    {dir : Location} {path relative : Path} (hopens : Opens tree after chain dir path)
    {old : List Path} (hold : tree.filesWithin fuel chain dir path relative = .ok old) :
    ∃ new, after.filesWithin fuel chain dir path relative = .ok new ∧ Relisted tree old new := by
  induction fuel generalizing chain dir path relative old with
  | zero =>
    cases hold
    exact ⟨[], rfl, nofun, fun _ => Nat.le_refl 0⟩
  | succ fuel ih =>
    rw [filesWithin_succ] at hold
    rw [filesWithin_succ]
    obtain ⟨hparts, rfl⟩ := flatMapM_eq_ok_iff.1 hold
    -- an entry that was there is seen as it was
    have hkept : ∀ name ∈ tree.names dir, ∃ part part',
        tree.filesAt fuel chain dir path relative name = .ok part ∧
          after.filesAt fuel chain dir path relative name = .ok part' ∧
            Relisted tree part part' := fun name hname => by
      obtain ⟨part, hpart⟩ := hparts name hname
      refine ⟨part, ?_⟩
      rw [hpart]
      unfold filesAt at hpart ⊢
      cases hsight : tree.sight chain dir name (path.child name) with
      | error e => rw [hsight] at hpart; cases hpart
      | ok seen =>
        have hsight' := h.sight_kept hsight
        rw [hsight] at hpart
        rw [hsight']
        cases seen with
        | file => exact ⟨part, rfl, hpart, .refl tree part⟩
        | nothing => exact ⟨part, rfl, hpart, .refl tree part⟩
        | directory loc =>
          obtain ⟨part', hpart', hrelisted⟩ := ih (hopens.into hsight') hpart
          exact ⟨part', rfl, hpart', hrelisted⟩
    -- an entry that was not there adds no source
    have hat : ∀ name ∈ after.names dir, ∃ part',
        after.filesAt fuel chain dir path relative name = .ok part' ∧
          ∀ found ∈ part', Candidate.ofName? found = none ∨ name ∈ tree.names dir ∧
            found ∈ (tree.filesAt fuel chain dir path relative name).toOption.getD [] :=
        fun name hname => by
      cases hget : tree.get? (name :: dir) with
      | some e =>
        have hnames := mem_names.2 (exists_get?_iff.1 ⟨e, hget⟩)
        obtain ⟨part, part', hpart, hpart', hrelisted⟩ := hkept name hnames
        refine ⟨part', hpart', fun found hfound => ?_⟩
        rcases hrelisted.sources found hfound with hmem | hnone
        · exact .inr ⟨hnames, by rw [hpart]; exact hmem⟩
        · exact .inl hnone
      | none =>
        obtain ⟨e, he⟩ := exists_get?_iff.2 (mem_names.1 hname)
        obtain ⟨part', hpart', hnone⟩ :=
          h.filesAt_made (h.filesWithin_made fuel) hopens relative hget he
        exact ⟨part', hpart', fun found hfound => .inl (hnone found hfound)⟩
    refine ⟨_, flatMapM_eq_ok_iff.2 ⟨fun name hname => ?_, rfl⟩, fun found hfound => ?_,
      fun hdistinct => ?_⟩
    · obtain ⟨part', hpart', -⟩ := hat name hname
      exact ⟨part', hpart'⟩
    · obtain ⟨name, hname, hfound⟩ := List.mem_flatMap.1 hfound
      obtain ⟨part', hpart', hsources⟩ := hat name hname
      rw [hpart'] at hfound
      rcases hsources found hfound with hnone | ⟨hnames, hmem⟩
      · exact .inr hnone
      · exact .inl (List.mem_flatMap.2 ⟨name, hnames, hmem⟩)
    · refine length_flatMap_le (hdistinct.nodup_names dir) (fun name hname => ?_)
        fun name hname => ?_
      · obtain ⟨e, he⟩ := exists_get?_iff.2 (mem_names.1 hname)
        obtain ⟨e', he', -⟩ := h.get? he
        exact mem_names.2 (exists_get?_iff.1 ⟨e', he'⟩)
      · obtain ⟨part, part', hpart, hpart', hrelisted⟩ := hkept name hname
        rw [hpart, hpart']
        exact hrelisted.length hdistinct

/-- The files below a directory are those that were there, in their places or not, and class files
that were made, unless a directory that was made cannot be opened. -/
theorem discover_grown (h : Grown tree after) {dir : Path} {old : List Path}
    (hopens : ∀ loc p cause, ¬Unopened tree after dir loc p cause)
    (hold : tree.discover dir = .ok old) :
    ∃ new, after.discover dir = .ok new ∧ Relisted tree old new := by
  rcases h.discover_kept hold with hsame | ⟨fuel, loc, e, hfind, hdirectory, hwithin, hdiscover⟩
  · exact ⟨old, hsame, .refl tree old⟩
  · rw [hdiscover]
    exact h.filesWithin_grown (.of_not_unopened hfind hdirectory hopens) hwithin

end Grown

end StaleBuild
