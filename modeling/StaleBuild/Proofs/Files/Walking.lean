import StaleBuild.Files.Discovery
import StaleBuild.Proofs.Files.Stamping

/-!
# Walks below a directory

A walk is given more fuel than it can use. It goes on from a directory to one of its entries, which
lies deeper, or over a link to a directory that it is not inside of:

    room chain dir = directories that the walk is not inside of, then entries deeper than dir

gets smaller with every directory that the walk goes into (`room_lt_of_sight`), so that any fuel
above it gives the same names (`filesWithin_eq`), and the fuel that a walk starts with is above it
(`room_lt_square`).

What a walk sees at an entry is what the entry stands for (`sight_eq`), so that it goes into a directory
or takes an entry for a file exactly where `sight_eq_directory_iff` and `sight_eq_file_iff` say. `Meets`
says to which entries it comes, and by which paths.
-/

namespace StaleBuild

/-! ## Lists that stop at a failure -/

section
variable {α β ε : Type}

/-- The parts that functions give for the elements of a list, if each of them gives one. -/
theorem flatMapM_eq_ok_iff {f : α → Except ε (List β)} {xs : List α} {ys : List β} :
    xs.flatMapM f = .ok ys ↔
      (∀ x ∈ xs, ∃ part, f x = .ok part) ∧ ys = xs.flatMap fun x => (f x).toOption.getD [] := by
  induction xs generalizing ys with
  | nil => simp [pure, Except.pure, eq_comm]
  | cons x rest ih =>
    rw [List.flatMapM_cons, List.forall_mem_cons, List.flatMap_cons]
    cases hx : f x with
    | error e => simp [bind, Except.bind]
    | ok part =>
      cases hrest : rest.flatMapM f with
      | error e =>
        simp only [bind, Except.bind]
        constructor
        · intro h
          cases h
        · rintro ⟨⟨-, hall⟩, -⟩
          rw [ih.2 ⟨hall, rfl⟩] at hrest
          cases hrest
      | ok more =>
        obtain ⟨hall, rfl⟩ := ih.1 hrest
        simp only [bind, Except.bind, pure, Except.pure, Except.ok.injEq, Except.toOption,
          Option.getD_some]
        constructor
        · rintro rfl
          exact ⟨⟨⟨part, rfl⟩, hall⟩, rfl⟩
        · rintro ⟨-, rfl⟩
          rfl

/-- Otherwise the first failure counts. -/
theorem flatMapM_eq_error_iff {f : α → Except ε (List β)} {xs : List α} {e : ε} :
    xs.flatMapM f = .error e ↔ ∃ earlier x later, xs = earlier ++ x :: later ∧
      (∀ y ∈ earlier, ∃ part, f y = .ok part) ∧ f x = .error e := by
  induction xs with
  | nil => simp [pure, Except.pure]
  | cons x rest ih =>
    rw [List.flatMapM_cons]
    cases hx : f x with
    | error e' =>
      simp only [bind, Except.bind]
      constructor
      · rintro ⟨⟩
        exact ⟨[], x, rest, rfl, by simp, hx⟩
      · rintro ⟨earlier, y, later, hsplit, hearlier, hy⟩
        cases earlier with
        | nil =>
          obtain ⟨rfl, rfl⟩ := List.cons.inj hsplit
          rw [← hx, hy]
        | cons z _ =>
          obtain ⟨rfl, -⟩ := List.cons.inj hsplit
          obtain ⟨part, hpart⟩ := hearlier x (.head _)
          rw [hx] at hpart
          cases hpart
    | ok part =>
      have hrest : (do let more ← rest.flatMapM f; pure (part ++ more)) = .error e ↔
          rest.flatMapM f = .error e := by
        cases rest.flatMapM f <;> simp [bind, Except.bind, pure, Except.pure]
      simp only [bind, Except.bind] at hrest ⊢
      rw [hrest, ih]
      constructor
      · rintro ⟨earlier, y, later, rfl, hearlier, hy⟩
        exact ⟨x :: earlier, y, later, rfl, List.forall_mem_cons.2 ⟨⟨part, hx⟩, hearlier⟩, hy⟩
      · rintro ⟨earlier, y, later, hsplit, hearlier, hy⟩
        cases earlier with
        | nil =>
          obtain ⟨rfl, rfl⟩ := List.cons.inj hsplit
          rw [hx] at hy
          cases hy
        | cons z more =>
          obtain ⟨rfl, rfl⟩ := List.cons.inj hsplit
          exact ⟨more, y, later, rfl, fun z hz => hearlier z (.tail _ hz), hy⟩

theorem flatMapM_congr {f g : α → Except ε (List β)} {xs : List α} (h : ∀ x ∈ xs, f x = g x) :
    xs.flatMapM f = xs.flatMapM g := by
  induction xs with
  | nil => rfl
  | cons x rest ih =>
    rw [List.flatMapM_cons, List.flatMapM_cons, h x (.head _), ih fun y hy => h y (.tail _ hy)]

/-- One more element makes a count larger. -/
theorem countP_lt_countP {p q : α → Bool} {xs : List α} (h : ∀ x ∈ xs, p x = true → q x = true)
    {a : α} (ha : a ∈ xs) (hq : q a = true) (hp : p a = false) : xs.countP p < xs.countP q := by
  induction xs with
  | nil => cases ha
  | cons x rest ih =>
    have hrest := fun y hy => h y (.tail x hy)
    have hle := List.countP_mono_left hrest
    rw [List.countP_cons, List.countP_cons]
    rcases List.mem_cons.1 ha with rfl | ha
    · simp only [hp, hq]
      simpa using Nat.lt_succ_of_le hle
    · have hlt := ih hrest ha
      have hfirst := h x (.head _)
      cases hx : p x with
      | false => simp only [Bool.false_eq_true, if_false]; omega
      | true => simp only [hfirst hx, if_true]; omega

end

namespace FileTree

variable (tree : FileTree)

/-! ## One directory -/

/-- What a walk reports of one entry of a directory. -/
def filesAt (fuel : Nat) (chain : List Location) (dir : Location) (path relative : Path)
    (name : Bytes) : Except BuildError (List Path) :=
  match tree.sight chain dir name (path.child name) with
  | .error e => .error e
  | .ok .file => .ok (reported (relative.child name))
  | .ok (.directory loc) =>
    tree.filesWithin fuel (loc :: chain) loc (path.child name) (relative.child name)
  | .ok .nothing => .ok []

theorem filesWithin_succ (fuel : Nat) (chain : List Location) (dir : Location)
    (path relative : Path) :
    tree.filesWithin (fuel + 1) chain dir path relative =
      (tree.names dir).flatMapM (tree.filesAt fuel chain dir path relative) := by
  refine flatMapM_congr fun name _ => ?_
  unfold filesAt
  cases tree.sight chain dir name (path.child name) with
  | error e => rfl
  | ok seen => cases seen <;> rfl

variable {tree}

/-- The name of an entry of a directory. -/
def nameIn? (dir : Location) (e : Location × Entry) : Option Bytes :=
  match e.1 with
  | name :: above => if above = dir then some name else none
  | [] => none

theorem nameIn?_eq_some_iff {dir : Location} {e : Location × Entry} {name : Bytes} :
    nameIn? dir e = some name ↔ e.1 = name :: dir := by
  obtain ⟨loc, e⟩ := e
  cases loc with
  | nil => simp [nameIn?]
  | cons first above =>
    by_cases habove : above = dir <;> simp [nameIn?, habove]

theorem insertName_perm (name : Bytes) (names : List Bytes) :
    (insertName name names).Perm (name :: names) := by
  induction names with
  | nil => exact .refl _
  | cons first rest ih =>
    unfold insertName
    split
    · exact .refl _
    · exact (ih.cons first).trans (.swap name first rest)

theorem foldr_insertName_perm (names : List Bytes) : (names.foldr insertName []).Perm names := by
  induction names with
  | nil => exact .refl _
  | cons name rest ih => exact (insertName_perm name _).trans (ih.cons name)

theorem names_perm (dir : Location) :
    (tree.names dir).Perm (tree.entries.filterMap (nameIn? dir)) := foldr_insertName_perm _

theorem mem_names {dir : Location} {name : Bytes} :
    name ∈ tree.names dir ↔ ∃ e, (name :: dir, e) ∈ tree.entries := by
  rw [(names_perm dir).mem_iff, List.mem_filterMap]
  constructor
  · rintro ⟨⟨loc, e⟩, hmem, hname⟩
    obtain rfl : loc = name :: dir := nameIn?_eq_some_iff.1 hname
    exact ⟨e, hmem⟩
  · rintro ⟨e, hmem⟩
    exact ⟨_, hmem, nameIn?_eq_some_iff.2 rfl⟩

theorem exists_get?_iff {loc : Location} :
    (∃ e, tree.get? loc = some e) ↔ ∃ e, (loc, e) ∈ tree.entries := by
  constructor
  · rintro ⟨e, he⟩
    exact ⟨e, get?_eq_some_mem he⟩
  · rintro ⟨e, hmem⟩
    cases hfound : tree.entries.find? fun e => e.1 = loc with
    | none =>
      have hother := List.find?_eq_none.1 hfound (loc, e) hmem
      simp at hother
    | some found => exact ⟨found.2, by rw [get?, hfound]; rfl⟩

/-! ## What a walk sees -/

/-- What an entry stands for: a link for what the path leads to at which it is met, any other one for
itself. A directory must be found by that path. -/
def standsFor (tree : FileTree) (loc : Location) (e : Entry) (path : Path) :
    Except FileError (Location × Entry) :=
  match e.node with
  | .link _ => tree.find path
  | .directory => (tree.find path).map fun _ => (loc, e)
  | _ => .ok (loc, e)

section
variable {loc dir : Location} {e target : Entry} {path : Path} {name : Bytes}

theorem standsFor_of_link (hlink : e.node.isLink = true) :
    tree.standsFor loc e path = tree.find path := by
  unfold standsFor
  cases hnode : e.node with
  | link aim => rfl
  | _ => simp [hnode, Node.isLink] at hlink

theorem standsFor_of_directory (hnode : e.node = .directory) :
    tree.standsFor loc e path = (tree.find path).map fun _ => (loc, e) := by
  unfold standsFor
  rw [hnode]

/-- What is no link stands for itself, if for anything. -/
theorem eq_of_standsFor {found : Location × Entry} (hlink : e.node.isLink = false)
    (h : tree.standsFor loc e path = .ok found) : found = (loc, e) := by
  unfold standsFor at h
  cases hnode : e.node with
  | link aim => simp [hnode, Node.isLink] at hlink
  | directory =>
    rw [hnode] at h
    cases hfind : tree.find path with
    | error cause => rw [hfind] at h; cases h
    | ok _ =>
      rw [hfind] at h
      exact (Except.ok.inj h).symm
  | _ =>
    rw [hnode] at h
    exact (Except.ok.inj h).symm

/-- What a walk sees at an entry is what the entry stands for, unless that is to be passed over. -/
theorem sight_eq (he : tree.get? (name :: dir) = some e) (inside : List Location) (path : Path) :
    tree.sight inside dir name path =
      match tree.standsFor (name :: dir) e path with
      | .error cause => .error (.file path cause)
      | .ok (loc, target) =>
        if target.node.isFile then .ok .file
        else if target.node = .directory ∧ (e.node.isLink = true → loc ∉ inside) then
          .ok (.directory loc)
        else .ok .nothing := by
  obtain ⟨node, modified, mode, shared⟩ := e
  unfold sight standsFor
  rw [he]
  cases node with
  | file contents => rfl
  | special kind => simp [Node.isLink, Node.isFile]
  | directory => cases tree.find path <;> simp [Node.isLink, Node.isFile, Except.map]
  | link aim =>
    simp only [Node.isLink]
    cases tree.find path with
    | error cause => rfl
    | ok found =>
      obtain ⟨loc, target, _, _, _⟩ := found
      cases target with
      | directory => by_cases hloc : loc ∈ inside <;> simp [Node.isFile, Node.isDirectory, hloc]
      | _ => simp [Node.isFile, Node.isDirectory]

/-- A walk takes an entry for a file if it stands for one. -/
theorem sight_eq_file_iff {inside : List Location} :
    tree.sight inside dir name path = .ok .file ↔ ∃ e loc target,
      tree.get? (name :: dir) = some e ∧
        tree.standsFor (name :: dir) e path = .ok (loc, target) ∧ target.node.isFile = true := by
  constructor
  · intro h
    cases he : tree.get? (name :: dir) with
    | none => simp [sight, he] at h
    | some e =>
      rw [sight_eq he] at h
      cases htarget : tree.standsFor (name :: dir) e path with
      | error cause => simp [htarget] at h
      | ok found =>
        rw [htarget] at h
        dsimp only at h
        split at h
        · next hfile => exact ⟨e, found.1, found.2, rfl, htarget, hfile⟩
        · split at h <;> cases h
  · rintro ⟨e, loc, target, he, htarget, hfile⟩
    rw [sight_eq he, htarget]
    exact if_pos hfile

/-- A walk goes into a directory that an entry stands for, unless it is inside of it and the entry is a
link. -/
theorem sight_eq_directory_iff {inside : List Location} :
    tree.sight inside dir name path = .ok (.directory loc) ↔ ∃ e target,
      tree.get? (name :: dir) = some e ∧
        tree.standsFor (name :: dir) e path = .ok (loc, target) ∧ target.node = .directory ∧
        (e.node.isLink = true → loc ∉ inside) := by
  constructor
  · intro h
    cases he : tree.get? (name :: dir) with
    | none => simp [sight, he] at h
    | some e =>
      rw [sight_eq he] at h
      cases htarget : tree.standsFor (name :: dir) e path with
      | error cause => simp [htarget] at h
      | ok found =>
        rw [htarget] at h
        dsimp only at h
        split at h
        · cases h
        · split at h
          · next hgoes =>
            cases h
            exact ⟨e, found.2, rfl, htarget, hgoes⟩
          · cases h
  · rintro ⟨e, target, he, htarget, hdirectory, hfresh⟩
    have hfile : target.node.isFile = false := by rw [hdirectory]; rfl
    rw [sight_eq he, htarget]
    simp only [hfile, Bool.false_eq_true, if_false]
    exact if_pos ⟨hdirectory, hfresh⟩

/-- A walk goes into a directory only by a path at which one is found. -/
theorem exists_find_of_sight {inside : List Location}
    (h : tree.sight inside dir name path = .ok (.directory loc)) :
    ∃ found, tree.find path = .ok found := by
  obtain ⟨e, target, -, htarget, hdirectory, -⟩ := sight_eq_directory_iff.1 h
  cases hlink : e.node.isLink with
  | true =>
    rw [standsFor_of_link hlink] at htarget
    exact ⟨_, htarget⟩
  | false =>
    have hnode : e.node = .directory := by
      obtain ⟨-, rfl⟩ := Prod.mk.inj (eq_of_standsFor hlink htarget)
      exact hdirectory
    rw [standsFor_of_directory hnode] at htarget
    cases hfind : tree.find path with
    | error cause => rw [hfind] at htarget; cases htarget
    | ok found => exact ⟨found, rfl⟩

end

/-- A walk in `dir`, which it met as a path inside of others, comes to an entry at a location by a
path. -/
inductive Meets (tree : FileTree) : List Location → Location → Path → Location → Path → Prop where
  | entry {inside : List Location} {dir : Location} {path : Path} {name : Bytes} {e : Entry}
      (he : tree.get? (name :: dir) = some e) :
      Meets tree inside dir path (name :: dir) (path.child name)
  | into {inside : List Location} {dir loc found : Location} {path p : Path} {name : Bytes}
      (hsight : tree.sight inside dir name (path.child name) = .ok (.directory loc))
      (hrest : Meets tree (loc :: inside) loc (path.child name) found p) :
      Meets tree inside dir path found p

/-- A walk that begins with a directory comes to an entry at a location by a path. -/
def MeetsBelow (tree : FileTree) (root : Path) (loc : Location) (p : Path) : Prop :=
  ∃ start e, tree.find root = .ok (start, e) ∧ e.node.isDirectory = true ∧
    tree.Meets [start] start root loc p

/-! ## Fuel -/

variable (tree)

/-- How far a walk can still go: to directories that it is not inside of, and down from the one
where it is. -/
def room (chain : List Location) (dir : Location) : Nat :=
  tree.entries.countP (fun e => decide (e.1 ∉ chain)) * (tree.entries.length + 1) +
    tree.entries.countP fun e => decide (dir.length < e.1.length)

theorem room_lt_square (chain : List Location) (dir : Location) :
    tree.room chain dir < (tree.entries.length + 1) * (tree.entries.length + 1) := by
  have houtside := List.countP_le_length (p := fun e : Location × Entry => decide (e.1 ∉ chain))
    (l := tree.entries)
  have hdeeper := List.countP_le_length
    (p := fun e : Location × Entry => decide (dir.length < e.1.length)) (l := tree.entries)
  have hmul := Nat.mul_le_mul_right (tree.entries.length + 1) houtside
  rw [room, Nat.succ_mul]
  omega

variable {tree}

/-- A directory that the walk goes into leaves it less room. -/
theorem room_lt_of_sight {chain : List Location} {dir loc : Location} {name : Bytes} {path : Path}
    (h : tree.sight chain dir name path = .ok (.directory loc)) :
    tree.room (loc :: chain) loc < tree.room chain dir := by
  have houtside : tree.entries.countP (fun e => decide (e.1 ∉ loc :: chain)) ≤
      tree.entries.countP fun e => decide (e.1 ∉ chain) :=
    List.countP_mono_left fun e _ he => by
      have hnot : e.1 ∉ loc :: chain := by simpa using he
      exact decide_eq_true fun hmem => hnot (.tail _ hmem)
  obtain ⟨e, target, he, htarget, -, hfresh⟩ := sight_eq_directory_iff.1 h
  unfold room
  cases hlink : e.node.isLink with
  | false =>
    -- an entry of the directory lies deeper
    obtain ⟨rfl, rfl⟩ := Prod.mk.inj (eq_of_standsFor hlink htarget)
    have hdeeper : tree.entries.countP (fun e => decide ((name :: dir).length < e.1.length)) <
        tree.entries.countP fun e => decide (dir.length < e.1.length) := by
      refine countP_lt_countP (fun x _ hx => ?_) (get?_eq_some_mem he) (by simp) (by simp)
      rw [decide_eq_true_iff, List.length_cons] at hx
      exact decide_eq_true (Nat.lt_of_succ_lt hx)
    have hmul := Nat.mul_le_mul_right (tree.entries.length + 1) houtside
    omega
  | true =>
    -- a link leads to a directory that the walk is not inside of
    rw [standsFor_of_link hlink] at htarget
    have hfewer : tree.entries.countP (fun e => decide (e.1 ∉ loc :: chain)) <
        tree.entries.countP fun e => decide (e.1 ∉ chain) := by
      refine countP_lt_countP (fun x _ hx => ?_) (get?_eq_some_mem (get?_of_find htarget))
        (by simpa using hfresh hlink) (by simp)
      have hnot : x.1 ∉ loc :: chain := by simpa using hx
      exact decide_eq_true fun hmem => hnot (.tail _ hmem)
    have hdeeper := List.countP_le_length
      (p := fun e : Location × Entry => decide (loc.length < e.1.length)) (l := tree.entries)
    have hmul := Nat.mul_le_mul_right (tree.entries.length + 1) hfewer
    rw [Nat.succ_mul] at hmul
    omega

/-- Fuel above the room makes no difference. -/
theorem filesWithin_eq {fuel fuel' : Nat} {chain : List Location} {dir : Location}
    (h : tree.room chain dir < fuel) (h' : tree.room chain dir < fuel') (path relative : Path) :
    tree.filesWithin fuel chain dir path relative =
      tree.filesWithin fuel' chain dir path relative := by
  induction fuel generalizing fuel' chain dir path relative with
  | zero => omega
  | succ fuel ih =>
    cases fuel' with
    | zero => omega
    | succ fuel' =>
      rw [filesWithin_succ, filesWithin_succ]
      refine flatMapM_congr fun name _ => ?_
      unfold filesAt
      cases hsight : tree.sight chain dir name (path.child name) with
      | error e => rfl
      | ok seen =>
        cases seen with
        | file => rfl
        | nothing => rfl
        | directory loc =>
          have hlt := room_lt_of_sight hsight
          exact ih (by omega) (by omega) (path.child name) (relative.child name)

/-- A walk that comes to an end has found the directories that it came to. -/
theorem exists_find_of_filesWithin {fuel : Nat} {chain : List Location} {dir loc : Location}
    {path relative p : Path} {names : List Path} {e : Entry}
    (hmeets : tree.Meets chain dir path loc p) (hroom : tree.room chain dir < fuel)
    (hnames : tree.filesWithin fuel chain dir path relative = .ok names)
    (he : tree.get? loc = some e) (hnode : e.node = .directory) :
    ∃ found, tree.find p = .ok found := by
  induction hmeets generalizing fuel relative names with
  | @entry _ dir path name _ _ =>
    cases fuel with
    | zero => omega
    | succ fuel =>
      rw [filesWithin_succ] at hnames
      have hname := mem_names.2 (exists_get?_iff.1 ⟨e, he⟩)
      obtain ⟨part, hpart⟩ := (flatMapM_eq_ok_iff.1 hnames).1 name hname
      cases hfind : tree.find (path.child name) with
      | ok found => exact ⟨found, rfl⟩
      | error cause => simp [filesAt, sight, he, hnode, hfind] at hpart
  | @into _ dir loc _ path _ name hsight _ ih =>
    cases fuel with
    | zero => omega
    | succ fuel =>
      rw [filesWithin_succ] at hnames
      obtain ⟨e', -, he', -⟩ := sight_eq_directory_iff.1 hsight
      have hname := mem_names.2 (exists_get?_iff.1 ⟨e', he'⟩)
      obtain ⟨part, hpart⟩ := (flatMapM_eq_ok_iff.1 hnames).1 name hname
      have hlt := room_lt_of_sight hsight
      unfold filesAt at hpart
      rw [hsight] at hpart
      exact ih (by omega) hpart he

theorem exists_find_of_discover {root p : Path} {loc : Location} {names : List Path} {e : Entry}
    (hnames : tree.discover root = .ok names) (hmeets : tree.MeetsBelow root loc p)
    (he : tree.get? loc = some e) (hnode : e.node = .directory) :
    ∃ found, tree.find p = .ok found := by
  obtain ⟨start, top, hfind, hdirectory, hmeets⟩ := hmeets
  unfold discover at hnames
  rw [hfind] at hnames
  dsimp only at hnames
  rw [if_pos hdirectory] at hnames
  exact exists_find_of_filesWithin hmeets (tree.room_lt_square [start] start) hnames he hnode

/-- A walk can be given any more fuel. -/
theorem discover_eq {fuel : Nat}
    (h : (tree.entries.length + 1) * (tree.entries.length + 1) ≤ fuel) (dir : Path) :
    tree.discover dir =
      match tree.find dir with
      | .error cause => .error (.file dir cause)
      | .ok (loc, e) =>
        if e.node.isDirectory then tree.filesWithin fuel [loc] loc dir .empty
        else .ok (if e.node.isFile then reported .empty else []) := by
  unfold discover
  cases tree.find dir with
  | error cause => rfl
  | ok found =>
    have hroom := tree.room_lt_square [found.1] found.1
    dsimp only
    rw [filesWithin_eq hroom (Nat.lt_of_lt_of_le hroom h)]

end FileTree

end StaleBuild
