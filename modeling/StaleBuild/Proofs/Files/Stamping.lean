import StaleBuild.Files.Change

/-!
# Stamping files

A stamp gives one file a new time. What a path denotes is found through names, directories and
links alone, so after any number of stamps every path leads where it led before.

`Restamped now files tree after`: `after` is `tree` with the time `now` on the given files and
nothing else changed.

    stampIfPossible p now              restamps [the file of p, if there is one]  (stampIfPossible_restamped)
    Restamped now files tree after →
      after.find p = tree.find p, with the time changed on the files              (Restamped.find_eq)
-/

namespace StaleBuild

/-! ## Files and their locations -/

/-- What tells one file from another: the number it carries if it is at several locations, else
its location. -/
inductive FileId where
  | alone (loc : Location)
  | numbered (n : Nat)
deriving DecidableEq

namespace Entry

/-- The file that an entry at a location is of. -/
def fileId (e : Entry) (loc : Location) : FileId :=
  match e.shared with
  | none => .alone loc
  | some n => .numbered n

/-- The entry with a new time if it is of one of the given files. -/
def stampedIn (files : List FileId) (now : Time) (loc : Location) (e : Entry) : Entry :=
  if e.fileId loc ∈ files then { e with modified := now } else e

variable (files : List FileId) (now : Time) (loc : Location) (e : Entry)

@[simp] theorem stampedIn_node : (stampedIn files now loc e).node = e.node := by
  unfold stampedIn; split <;> rfl

@[simp] theorem stampedIn_shared : (stampedIn files now loc e).shared = e.shared := by
  unfold stampedIn; split <;> rfl

@[simp] theorem stampedIn_fileId : (stampedIn files now loc e).fileId loc = e.fileId loc := by
  unfold fileId; rw [stampedIn_shared]

@[simp] theorem stampedIn_nil : stampedIn [] now loc e = e := by
  simp [stampedIn]

variable {files loc e}

theorem stampedIn_of_mem (h : e.fileId loc ∈ files) :
    stampedIn files now loc e = { e with modified := now } := if_pos h

theorem stampedIn_of_not_mem (h : e.fileId loc ∉ files) : stampedIn files now loc e = e := if_neg h

variable (files loc e)

/-- Stamps with one time add up. -/
theorem stampedIn_append (more : List FileId) :
    stampedIn (files ++ more) now loc e = stampedIn more now loc (stampedIn files now loc e) := by
  by_cases hm : e.fileId loc ∈ more
  · rw [stampedIn_of_mem now (List.mem_append_right _ hm),
      stampedIn_of_mem now (by rwa [stampedIn_fileId])]
    unfold stampedIn
    split <;> rfl
  · rw [stampedIn_of_not_mem now (by rwa [stampedIn_fileId] : _ ∉ more)]
    simp [stampedIn, hm]

end Entry

/-- `after` is `tree` with a new time on the given files. -/
structure Restamped (now : Time) (files : List FileId) (tree after : FileTree) : Prop where
  current : after.current = tree.current
  get? : ∀ loc, after.get? loc = (tree.get? loc).map (Entry.stampedIn files now loc)

theorem Restamped.refl (now : Time) (tree : FileTree) : Restamped now [] tree tree :=
  ⟨rfl, fun loc => by cases tree.get? loc <;> simp⟩

theorem Restamped.trans {now : Time} {files more : List FileId} {tree mid after : FileTree}
    (h : Restamped now files tree mid) (h' : Restamped now more mid after) :
    Restamped now (files ++ more) tree after := by
  refine ⟨h'.current.trans h.current, fun loc => ?_⟩
  rw [h'.get?, h.get?, Option.map_map]
  congr 1
  funext e
  exact (Entry.stampedIn_append files now loc e more).symm

/-! ## Lookups -/

namespace Lookup

/-- The result of a lookup with another entry found. -/
def map (f : Location → Entry → Entry) : Lookup → Lookup
  | .found loc e => .found loc (f loc e)
  | .missing dir name => .missing dir name
  | .failed cause => .failed cause

end Lookup

/-- A walk that stands somewhere, with another entry found. -/
def Advance.map (f : Location → Entry → Entry) : Advance → Advance
  | .arrived result => .arrived (result.map f)
  | .atLink dir target rest => .atLink dir target rest

namespace Restamped

open FileTree

variable {now : Time} {files : List FileId} {tree after : FileTree}

/-- Up to the next link a walk reads nodes only. -/
theorem advance_eq (h : Restamped now files tree after) (follow : Bool) (dir : Location)
    (steps : List Path.Step) :
    after.advance follow dir steps =
      (tree.advance follow dir steps).map (Entry.stampedIn files now) := by
  induction steps generalizing dir with
  | nil =>
    simp only [advance, h.get?]
    cases tree.get? dir <;> rfl
  | cons step rest ih =>
    cases step with
    | here => exact ih dir
    | up => exact ih dir.tail
    | into name =>
      simp only [advance, h.get?]
      by_cases hlong : nameLimit < name.length
      · simp only [hlong, if_true]; rfl
      · simp only [hlong, if_false]
        cases tree.get? (name :: dir) with
        | none => simp only [Option.map_none]; split <;> rfl
        | some e =>
          simp only [Option.map_some, Entry.stampedIn_node]
          cases e.node with
          | directory => exact ih (name :: dir)
          | link target => dsimp only; split <;> rfl
          | file _ => dsimp only; split <;> rfl
          | special _ => dsimp only; split <;> rfl

theorem walk_eq (h : Restamped now files tree after) (follow : Bool) (links : Nat) (dir : Location)
    (steps : List Path.Step) :
    after.walk follow links dir steps =
      (tree.walk follow links dir steps).map (Entry.stampedIn files now) := by
  induction links generalizing dir steps with
  | zero =>
    simp only [walk, h.advance_eq]
    cases tree.advance follow dir steps <;> rfl
  | succ links ih =>
    simp only [walk, h.advance_eq]
    cases tree.advance follow dir steps with
    | arrived result => rfl
    | atLink above target rest => exact ih _ _

/-- A path leads to where it led, and what is there has the new time if it is of the files. -/
theorem find_eq (h : Restamped now files tree after) (p : Path) :
    after.find p = (tree.find p).map fun found =>
      (found.1, found.2.stampedIn files now found.1) := by
  have hlookup : after.lookup p = (tree.lookup p).map (Entry.stampedIn files now) := by
    simp only [lookup, lookupWith, h.current, h.walk_eq]
    split
    · rfl
    · split
      · rfl
      · split <;> rfl
  rw [find, find, hlookup]
  cases tree.lookup p <;> rfl

end Restamped

namespace FileTree

variable {tree : FileTree}

/-- The entry that a walk ends at is the one at its location. -/
theorem get?_of_advance {follow : Bool} {dir loc : Location} {steps : List Path.Step} {e : Entry}
    (h : tree.advance follow dir steps = .arrived (.found loc e)) : tree.get? loc = some e := by
  induction steps generalizing dir with
  | nil =>
    simp only [advance] at h
    split at h
    · next found hfound =>
      obtain ⟨rfl, rfl⟩ : dir = loc ∧ found = e := by simpa using h
      exact hfound
    · simp at h
  | cons step rest ih =>
    cases step with
    | here => exact ih h
    | up => exact ih h
    | into name =>
      simp only [advance] at h
      split at h
      · simp at h
      · split at h
        · split at h <;> simp at h
        · next found hfound =>
          split at h
          · exact ih h
          · split at h
            · obtain ⟨rfl, rfl⟩ : name :: dir = loc ∧ found = e := by simpa using h
              exact hfound
            · simp at h
          · split at h
            · obtain ⟨rfl, rfl⟩ : name :: dir = loc ∧ found = e := by simpa using h
              exact hfound
            · simp at h

theorem get?_of_walk {follow : Bool} {links : Nat} {dir loc : Location} {steps : List Path.Step}
    {e : Entry} (h : tree.walk follow links dir steps = .found loc e) : tree.get? loc = some e := by
  induction links generalizing dir steps with
  | zero =>
    simp only [walk] at h
    split at h
    · next result hresult => exact get?_of_advance (h ▸ hresult)
    · simp at h
  | succ links ih =>
    simp only [walk] at h
    split at h
    · next result hresult => exact get?_of_advance (h ▸ hresult)
    · exact ih h

theorem get?_of_find {p : Path} {loc : Location} {e : Entry} (h : tree.find p = .ok (loc, e)) :
    tree.get? loc = some e := by
  have hlookup : tree.lookup p = .found loc e := by
    rw [find] at h
    split at h
    · next found => simp only [Except.ok.injEq, Prod.mk.injEq] at h; rw [found, h.1, h.2]
    · simp at h
    · simp at h
  simp only [lookup, lookupWith] at hlookup
  split at hlookup
  · simp at hlookup
  · split at hlookup
    · simp at hlookup
    · split at hlookup
      · simp at hlookup
      · exact get?_of_walk hlookup

/-- The file that a path denotes, links followed. -/
def fileId? (tree : FileTree) (p : Path) : Option FileId :=
  match tree.find p with
  | .ok (loc, e) => some (e.fileId loc)
  | .error _ => none

/-- The files that some paths denote. -/
def fileIds (tree : FileTree) (paths : List Path) : List FileId := paths.filterMap tree.fileId?

theorem fileId?_of_find {p : Path} {loc : Location} {e : Entry} (h : tree.find p = .ok (loc, e)) :
    tree.fileId? p = some (e.fileId loc) := by
  rw [fileId?, h]

/-! ## Stamps -/

/-- A new time at a location is one at all locations of its file. -/
theorem put_restamped {loc : Location} {e : Entry} (hloc : tree.get? loc = some e) (now : Time) :
    Restamped now [e.fileId loc] tree (tree.put loc { e with modified := now }) := by
  refine ⟨rfl, fun other => ?_⟩
  by_cases ho : other = loc
  · subst ho
    simp [get?_put, hloc, Entry.stampedIn]
  · simp only [get?_put_of_ne tree _ ho]
    cases hold : tree.get? other with
    | none => rfl
    | some old =>
      simp only [Option.map_some, Option.some.injEq]
      cases hs : e.shared with
      | none =>
        -- a file at one location is nowhere else
        have hne : old.fileId other ≠ e.fileId loc := by
          unfold Entry.fileId
          rw [hs]
          cases old.shared <;> simp [ho]
        simp [Entry.stampedIn, hne]
      | some n =>
        by_cases hn : old.shared = some n
        · have hsame : old = e :=
            tree.agreeing _ (get?_eq_some_mem hold) _ (get?_eq_some_mem hloc) (by simp [hn])
              (by simp [hn, hs])
          subst hsame
          simp [Entry.stampedIn, Entry.fileId, hs]
        · have hne : old.fileId other ≠ e.fileId loc := by
            unfold Entry.fileId
            rw [hs]
            cases ho' : old.shared <;> simp_all
          simp [Entry.stampedIn, hne, hn]

/-- A stamp gives the file that its path denotes a new time. -/
theorem stampIfPossible_restamped (tree : FileTree) (p : Path) (now : Time) :
    Restamped now (tree.fileId? p).toList tree (tree.stampIfPossible p now) := by
  unfold stampIfPossible stamp fileId?
  cases hfind : tree.find p with
  | error cause => exact .refl now tree
  | ok found => exact put_restamped (get?_of_find hfind) now

end FileTree

namespace Restamped

variable {now : Time} {files : List FileId} {tree after : FileTree}

@[simp] theorem fileId?_eq (h : Restamped now files tree after) (p : Path) :
    after.fileId? p = tree.fileId? p := by
  unfold FileTree.fileId?
  rw [h.find_eq]
  cases tree.find p <;> simp [Except.map]

theorem isPresent_eq (h : Restamped now files tree after) (p : Path) :
    after.isPresent p = tree.isPresent p := by
  unfold FileTree.isPresent FileTree.stat
  rw [h.find_eq]
  cases tree.find p <;> rfl

/-- What a path shows is of a stamped file and has the new time, or it is of another file and what
the path showed before. -/
theorem stat_cases (h : Restamped now files tree after) {p : Path} {e : Entry}
    (he : after.stat p = .ok e) :
    ∃ id, tree.fileId? p = some id ∧
      (id ∈ files ∧ e.modified = now ∨ id ∉ files ∧ tree.stat p = .ok e) := by
  unfold FileTree.stat at he ⊢
  rw [h.find_eq] at he
  cases hfind : tree.find p with
  | error cause => simp [hfind, Except.map] at he
  | ok found =>
    obtain ⟨loc, old⟩ := found
    simp only [hfind, Except.map, Except.ok.injEq] at he
    refine ⟨old.fileId loc, FileTree.fileId?_of_find hfind, ?_⟩
    by_cases hmem : old.fileId loc ∈ files
    · rw [Entry.stampedIn_of_mem now hmem] at he
      exact .inl ⟨hmem, by rw [← he]⟩
    · rw [Entry.stampedIn_of_not_mem now hmem] at he
      exact .inr ⟨hmem, by rw [← he]; rfl⟩

/-- A path to another file shows what it showed. -/
theorem stat_of_not_mem (h : Restamped now files tree after) {p : Path}
    (hid : ∀ id, tree.fileId? p = some id → id ∉ files) : after.stat p = tree.stat p := by
  unfold FileTree.stat
  rw [h.find_eq]
  cases hfind : tree.find p with
  | error cause => rfl
  | ok found =>
    have hnot := hid _ (FileTree.fileId?_of_find hfind)
    simp [Except.map, Entry.stampedIn_of_not_mem now hnot]

/-- A path to a stamped file shows the new time. -/
theorem modified_of_mem {paths : List Path} (h : Restamped now (tree.fileIds paths) tree after)
    {p : Path} (hp : p ∈ paths) {e : Entry} (he : after.stat p = .ok e) : e.modified = now := by
  obtain ⟨id, hid, ⟨-, htime⟩ | ⟨hnot, -⟩⟩ := h.stat_cases he
  · exact htime
  · exact absurd (List.mem_filterMap.2 ⟨p, hp, hid⟩) hnot

end Restamped

end StaleBuild
