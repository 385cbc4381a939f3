import StaleBuild.Path
import StaleBuild.Files.Error

/-!
A file tree: regular files, directories, symbolic links and special files, each with the time of its
last modification and its permissions, and the directory that relative paths start from.

An entry is found by its *location*, the names that lead to it with the innermost first, so that
the directory of an entry is the tail of its location. Locations know no `.`, no `..` and no links;
`Files.Lookup` says which location a path denotes.

One file can be at several locations. They carry the same number and hold the same entry
(`Agreeing`), so a write at one of them is a write at all of them.

Nothing is refused for lack of permission: whoever works on a tree may read, write and search all of
it. The permissions of an entry are kept and shown, and they tell whether a file can be started as a
program (`isExecutable`), nothing else.

## Statements

`get?_put` and `get?_put_of_ne` say what a write changes: the entry at its own location and at the
other locations of the same file, and no other.
-/

namespace StaleBuild

/-- A time, in nanoseconds since the start of 1970. -/
abbrev Time := Int

/-- The names that lead to an entry, innermost first; the root has none. -/
abbrev Location := List Bytes

/-- A file that is no place for contents. -/
inductive Special where
  /-- Takes everything and gives nothing. -/
  | null
  /-- Takes everything and gives zero bytes without end. -/
  | zero
  /-- Takes nothing and gives zero bytes without end. -/
  | full
  /-- The stream of this number of whoever opens it. -/
  | descriptor (n : Nat)
  /-- Hands on what is written to it. -/
  | fifo
  /-- A device that nothing here works with. -/
  | device
deriving DecidableEq

/-- What a location holds. -/
inductive Node where
  | file (contents : Bytes)
  | directory
  | link (target : Path)
  | special (kind : Special)
deriving DecidableEq

namespace Node

def isDirectory : Node → Bool
  | .directory => true
  | _ => false

def isFile : Node → Bool
  | .file _ => true
  | _ => false

def isLink : Node → Bool
  | .link _ => true
  | _ => false

/-- The permissions of a new node. -/
def usualMode : Node → Nat
  | .directory => 0o755
  | .link _ => 0o777
  | .file _ => 0o644
  | .special .fifo => 0o644
  | .special _ => 0o666

end Node

/-- A node with the time of its last modification and its permissions. -/
structure Entry where
  node : Node
  modified : Time
  /-- The permission bits. -/
  mode : Nat
  /-- The number that all locations of one file carry, if there are several. -/
  shared : Option Nat
deriving DecidableEq

namespace Entry

/-- A new entry. -/
def new (node : Node) (now : Time) : Entry := ⟨node, now, node.usualMode, none⟩

/-- Whether someone may run the file. -/
def isExecutable (e : Entry) : Bool := e.mode &&& 0o111 ≠ 0

end Entry

/-! ## Entries at locations -/

/-- All locations of one file hold the same entry. -/
def Agreeing (entries : List (Location × Entry)) : Prop :=
  ∀ a ∈ entries, ∀ b ∈ entries, a.2.shared.isSome → a.2.shared = b.2.shared → a.2 = b.2

namespace Agreeing

theorem of_single {entries : List (Location × Entry)} (h : ∀ a ∈ entries, a.2.shared = none) :
    Agreeing entries := by
  intro a ha _ _ hs
  simp [h a ha] at hs

theorem filter {entries : List (Location × Entry)} (h : Agreeing entries)
    (keep : Location × Entry → Bool) : Agreeing (entries.filter keep) :=
  fun a ha b hb => h a (List.mem_filter.1 ha).1 b (List.mem_filter.1 hb).1

/-- Files at one location each can be added to any others. -/
theorem append_single {entries more : List (Location × Entry)} (h : Agreeing entries)
    (hmore : ∀ a ∈ more, a.2.shared = none) : Agreeing (entries ++ more) := by
  intro a ha b hb hs he
  have old : ∀ c ∈ entries ++ more, c.2.shared.isSome → c ∈ entries := by
    intro c hc hs
    rcases List.mem_append.1 hc with hc | hc
    · exact hc
    · simp [hmore c hc] at hs
  exact h a (old a ha hs) b (old b hb (he ▸ hs)) hs he

end Agreeing

/-- The entries after a write at a location: a new entry there and at all other locations of the
file that it is of. -/
def written (loc : Location) (e : Entry) (entries : List (Location × Entry)) :
    List (Location × Entry) :=
  let others := entries.filter fun old => old.1 ≠ loc
  (loc, e) :: match e.shared with
    | none => others
    | some n => others.map fun old => if old.2.shared = some n then (old.1, e) else old

/-- After a write an entry is the new one, or an old one of another file. -/
theorem mem_written {loc : Location} {e : Entry} {entries : List (Location × Entry)}
    {a : Location × Entry} (h : a ∈ written loc e entries) :
    a.2 = e ∨ a ∈ entries ∧ (e.shared.isSome → a.2.shared ≠ e.shared) := by
  simp only [written, List.mem_cons] at h
  rcases h with rfl | h
  · exact .inl rfl
  · cases hs : e.shared with
    | none =>
      rw [hs] at h
      exact .inr ⟨(List.mem_filter.1 h).1, by simp⟩
    | some n =>
      rw [hs] at h
      obtain ⟨old, hold, rfl⟩ := List.mem_map.1 h
      by_cases hn : old.2.shared = some n
      · simp [hn]
      · simp only [hn, if_false]
        exact .inr ⟨(List.mem_filter.1 hold).1, fun _ => hn⟩

theorem Agreeing.written {entries : List (Location × Entry)} (h : Agreeing entries)
    (loc : Location) (e : Entry) : Agreeing (written loc e entries) := by
  intro a ha b hb hs he
  rcases mem_written ha with ha | ⟨ha, hna⟩ <;> rcases mem_written hb with hb | ⟨hb, hnb⟩
  · rw [ha, hb]
  · rw [ha] at hs he
    exact absurd he.symm (hnb hs)
  · rw [hb] at he
    exact absurd he (hna (he ▸ hs))
  · exact h a ha b hb hs he

/-- A file tree. -/
structure FileTree where
  entries : List (Location × Entry)
  /-- Where relative paths start. -/
  current : Location
  agreeing : Agreeing entries

namespace FileTree

/-- The current directory as a path. -/
def currentPath (tree : FileTree) : Path :=
  ⟨Path.separator :: Path.joinSegments tree.current.reverse⟩

/-- The entry at a location. -/
def get? (tree : FileTree) (loc : Location) : Option Entry :=
  (tree.entries.find? fun e => e.1 = loc).map Prod.snd

/-- The tree with an entry at a location, in place of what was there, and at all other locations of
the same file. -/
def put (tree : FileTree) (loc : Location) (e : Entry) : FileTree :=
  { tree with
    entries := written loc e tree.entries
    agreeing := tree.agreeing.written loc e }

/-- The tree without the entries at and below a location. -/
def prune (tree : FileTree) (loc : Location) : FileTree :=
  { tree with
    entries := tree.entries.filter fun old => !loc.isSuffixOf old.1
    agreeing := tree.agreeing.filter _ }

/-- A location and all those above it, up to the root. -/
def upwards : Location → List Location
  | [] => [[]]
  | name :: above => (name :: above) :: upwards above

/-- A tree with nothing but the root and the directories that lead to the current one. -/
def fresh (current : Location) (now : Time) : FileTree where
  entries := (upwards current).map fun loc => (loc, .new .directory now)
  current := current
  agreeing := Agreeing.of_single fun _ h => by
    obtain ⟨_, _, rfl⟩ := List.mem_map.1 h
    rfl

/-- A name put into its place among names in increasing order. -/
def insertName (name : Bytes) : List Bytes → List Bytes
  | [] => [name]
  | first :: rest => if name ≤ first then name :: first :: rest else first :: insertName name rest

/-- The names in a directory, in increasing order of their bytes. -/
def names (tree : FileTree) (dir : Location) : List Bytes :=
  (tree.entries.filterMap fun e =>
    match e.1 with
    | name :: above => if above = dir then some name else none
    | [] => none).foldr insertName []

/-- The tree with a new time at a location. -/
def touch (tree : FileTree) (loc : Location) (now : Time) : FileTree :=
  match tree.get? loc with
  | some e => tree.put loc { e with modified := now }
  | none => tree

theorem get?_eq_some_mem {tree : FileTree} {loc : Location} {e : Entry}
    (h : tree.get? loc = some e) : (loc, e) ∈ tree.entries := by
  obtain ⟨found, hfound, rfl⟩ := Option.map_eq_some_iff.1 h
  have hloc := List.find?_some hfound
  have hmem := List.mem_of_find?_eq_some hfound
  obtain rfl : found.1 = loc := by simpa using hloc
  exact hmem

theorem get?_put (tree : FileTree) (loc : Location) (e : Entry) :
    (tree.put loc e).get? loc = some e := by
  simp [put, written, get?]

/-- Elsewhere a write changes what is of the same file. -/
theorem get?_put_of_ne (tree : FileTree) {loc other : Location} (e : Entry) (h : other ≠ loc) :
    (tree.put loc e).get? other = (tree.get? other).map fun old =>
      if e.shared.isSome ∧ old.shared = e.shared then e else old := by
  have h' : ¬loc = other := fun he => h he.symm
  have hfilter : (tree.entries.filter fun old => old.1 ≠ loc).find? (fun old => old.1 = other) =
      tree.entries.find? fun old => old.1 = other := by
    rw [List.find?_filter]
    congr 1
    funext old
    by_cases ho : old.1 = other <;> simp [ho, h]
  simp only [put, written, get?, List.find?_cons, h', decide_false]
  cases hs : e.shared with
  | none =>
    rw [hfilter]
    cases tree.entries.find? fun old => old.1 = other <;> simp
  | some n =>
    have hkeys : ((fun old : Location × Entry => decide (old.1 = other)) ∘
        fun old => if old.2.shared = some n then (old.1, e) else old) =
        fun old => decide (old.1 = other) := by
      funext old
      by_cases ho : old.2.shared = some n <;> simp [ho]
    rw [List.find?_map, hkeys, hfilter]
    cases tree.entries.find? fun old => old.1 = other with
    | none => rfl
    | some old => by_cases ho : old.2.shared = some n <;> simp [ho]

end FileTree

end StaleBuild
