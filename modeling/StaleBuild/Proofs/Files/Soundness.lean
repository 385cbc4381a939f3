import StaleBuild.Proofs.Files.Growth

/-!
# Sound trees

A tree as a file system has it. Every entry lies in a directory, and so does the place that relative
paths start from; no location is taken twice; and a name is one that a path can ask for:

    tree.Enclosed    the current directory is one, and entries lie in directories
    tree.Sound       besides, locations are distinct and names are proper

All of it is about single entries, so it can be decided.
-/

namespace StaleBuild

/-- A name that one step can ask for. -/
structure ProperName (name : Bytes) : Prop where
  moves : Path.stepOf? name = some (.into name)
  plain : Path.separator ∉ name
  short : name.length ≤ nameLimit

instance (name : Bytes) : Decidable (ProperName name) :=
  decidable_of_iff (Path.stepOf? name = some (.into name) ∧ Path.separator ∉ name ∧
      name.length ≤ nameLimit)
    ⟨fun h => ⟨h.1, h.2.1, h.2.2⟩, fun h => ⟨h.moves, h.plain, h.short⟩⟩

namespace FileTree

/-- Whether a location holds a directory. -/
def isDirectoryAt (tree : FileTree) (loc : Location) : Bool :=
  (tree.get? loc).any fun e => e.node.isDirectory

/-- Entries lie in directories. -/
structure Enclosed (tree : FileTree) : Prop where
  current : tree.isDirectoryAt tree.current = true
  within : ∀ e ∈ tree.entries, e.1 ≠ [] → tree.isDirectoryAt e.1.tail = true

/-- A tree as a file system has it. -/
structure Sound (tree : FileTree) : Prop extends Enclosed tree where
  distinct : tree.Distinct
  named : ∀ e ∈ tree.entries, ∀ name ∈ e.1.head?, ProperName name

instance (tree : FileTree) : Decidable tree.Enclosed :=
  decidable_of_iff (tree.isDirectoryAt tree.current = true ∧
      ∀ e ∈ tree.entries, e.1 ≠ [] → tree.isDirectoryAt e.1.tail = true)
    ⟨fun h => ⟨h.1, h.2⟩, fun h => ⟨h.current, h.within⟩⟩

instance (tree : FileTree) : Decidable tree.Sound :=
  decidable_of_iff (tree.Enclosed ∧ (tree.entries.map Prod.fst).Nodup ∧
      ∀ e ∈ tree.entries, ∀ name ∈ e.1.head?, ProperName name)
    ⟨fun h => ⟨h.1, h.2.1, h.2.2⟩, fun h => ⟨h.toEnclosed, h.distinct, h.named⟩⟩

variable {tree : FileTree} {loc dir : Location} {name : Bytes} {e : Entry}

theorem isDirectoryAt_iff :
    tree.isDirectoryAt loc = true ↔ ∃ e, tree.get? loc = some e ∧ e.node = .directory := by
  unfold isDirectoryAt
  cases tree.get? loc with
  | none => simp
  | some e => cases hnode : e.node <;> simp [Node.isDirectory, hnode]

namespace Enclosed

theorem isDirectoryAt_of_get? (h : tree.Enclosed) (he : tree.get? (name :: dir) = some e) :
    tree.isDirectoryAt dir = true :=
  h.within _ (get?_eq_some_mem he) (List.cons_ne_nil _ _)

/-- Nothing lies in what is not there. -/
theorem get?_eq_none (h : tree.Enclosed) (hdir : tree.get? dir = none) (name : Bytes) :
    tree.get? (name :: dir) = none := by
  cases hget : tree.get? (name :: dir) with
  | none => rfl
  | some e =>
    obtain ⟨above, habove, -⟩ := isDirectoryAt_iff.1 (h.isDirectoryAt_of_get? hget)
    rw [hdir] at habove
    cases habove

/-- What a directory lies in is a directory; the root lies in itself. -/
theorem isDirectoryAt_tail (h : tree.Enclosed) (hloc : tree.isDirectoryAt loc = true) :
    tree.isDirectoryAt loc.tail = true := by
  cases loc with
  | nil => exact hloc
  | cons name dir =>
    obtain ⟨e, he, -⟩ := isDirectoryAt_iff.1 hloc
    exact h.isDirectoryAt_of_get? he

theorem isDirectoryAt_root (h : tree.Enclosed) : tree.isDirectoryAt [] = true := by
  have hcurrent := h.current
  generalize tree.current = loc at hcurrent
  induction loc with
  | nil => exact hcurrent
  | cons name dir ih => exact ih (h.isDirectoryAt_tail hcurrent)

/-- Walks start in a directory if they are seen from one. -/
theorem isDirectoryAt_start (h : tree.Enclosed) (hdir : tree.isDirectoryAt dir = true) (p : Path) :
    tree.isDirectoryAt (startOf dir p) = true := by
  unfold startOf
  split
  · exact h.isDirectoryAt_root
  · exact hdir

theorem isDirectoryAt_startOf (h : tree.Enclosed) (p : Path) :
    tree.isDirectoryAt (startOf tree.current p) = true :=
  h.isDirectoryAt_start h.current p

end Enclosed

theorem Sound.properName (h : tree.Sound) (he : tree.get? (name :: dir) = some e) :
    ProperName name :=
  h.named _ (get?_eq_some_mem he) name rfl

end FileTree

end StaleBuild
