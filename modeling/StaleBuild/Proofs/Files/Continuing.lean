import StaleBuild.Proofs.Files.Making
import StaleBuild.Proofs.Parents

/-!
# Walks that go on

A walk that has come to a directory goes on from there as a walk of its own, with the links that are
left to it:

    tree.walk true links dir steps = .found loc e, where e is a directory →
      tree.walk true links dir (steps ++ more) = tree.walk true left loc more, for all more    (exists_walk_append)

So the directory that a path leads to decides about everything that is written behind the path
(`LeadsTo`, `LeadsTo.lookup_eq`).
-/

namespace StaleBuild

open StaleBuild.Path (Step)

namespace FileTree

variable {tree : FileTree}

/-! ## Up to the next link -/

/-- Where a walk ends at a directory, or at something that a separator is behind, more steps are taken
from there. -/
theorem advance_append {follow : Bool} {dir loc : Location} {steps added : List Step} {e : Entry}
    (hadded : added = [] ∨ added = [.here]) (he : added = [] → e.node = .directory)
    (h : tree.advance follow dir (steps ++ added) = .arrived (.found loc e)) (more : List Step) :
    tree.advance follow dir (steps ++ more) = tree.advance follow loc more := by
  induction steps generalizing dir with
  | nil =>
    have hend : tree.advance follow dir [] = .arrived (.found loc e) := by
      rcases hadded with rfl | rfl <;> exact h
    simp only [advance] at hend
    split at hend
    · obtain ⟨rfl, -⟩ : dir = loc ∧ _ := by simpa using hend
      rfl
    · simp at hend
  | cons step rest ih =>
    cases step with
    | here => exact ih h
    | up => exact ih h
    | into name =>
      simp only [List.cons_append, advance] at h ⊢
      split at h
      · simp at h
      · next hshort =>
        rw [if_neg hshort]
        split at h
        · split at h <;> simp at h
        · next found _ =>
          -- only a directory can have been found at the end
          have hlast : rest ++ added = [] → found = e → found.node = .directory := fun hnil hfound =>
            hfound ▸ he (List.append_eq_nil_iff.1 hnil).2
          split at h
          · exact ih h
          · next target hnode =>
            split at h
            · next hend =>
              obtain ⟨-, hfound⟩ : _ ∧ found = e := by simpa using h
              rw [hlast hend.1 hfound] at hnode
              cases hnode
            · cases h
          · next hdirectory _ =>
            split at h
            · next hend =>
              obtain ⟨-, hfound⟩ : _ ∧ found = e := by simpa using h
              exact absurd (hlast hend hfound) hdirectory
            · simp at h

/-- More steps wait behind a link. -/
theorem advance_append_of_atLink {dir above : Location} {steps rest : List Step} {target : Path}
    (h : tree.advance true dir steps = .atLink above target rest) (more : List Step) :
    tree.advance true dir (steps ++ more) = .atLink above target (rest ++ more) := by
  induction steps generalizing dir with
  | nil =>
    simp only [advance] at h
    split at h <;> cases h
  | cons step behind ih =>
    cases step with
    | here => exact ih h
    | up => exact ih h
    | into name =>
      simp only [List.cons_append, advance] at h ⊢
      split at h
      · cases h
      · next hshort =>
        rw [if_neg hshort]
        split at h
        · cases h
        · split at h
          · exact ih h
          · simp only [Bool.not_true, Bool.false_eq_true, and_false, if_false] at h ⊢
            obtain ⟨rfl, rfl, rfl⟩ := Advance.atLink.inj h
            rfl
          · cases h

/-- A link that a walk stops at is among its steps, not behind them. -/
theorem atLink_of_advance_append {dir above : Location} {steps added behind : List Step}
    {target : Path} (hadded : added = [] ∨ added = [.here])
    (h : tree.advance true dir (steps ++ added) = .atLink above target behind) :
    ∃ rest, tree.advance true dir steps = .atLink above target rest ∧ behind = rest ++ added := by
  induction steps generalizing dir with
  | nil =>
    have hend : tree.advance true dir [] = .atLink above target behind := by
      rcases hadded with rfl | rfl <;> exact h
    simp only [advance] at hend
    split at hend <;> cases hend
  | cons step rest ih =>
    cases step with
    | here => exact ih h
    | up => exact ih h
    | into name =>
      simp only [List.cons_append, advance] at h ⊢
      split at h
      · cases h
      · next hshort =>
        rw [if_neg hshort]
        split at h
        · cases h
        · split at h
          · exact ih h
          · simp only [Bool.not_true, Bool.false_eq_true, and_false, if_false] at h ⊢
            obtain ⟨rfl, rfl, rfl⟩ := Advance.atLink.inj h
            exact ⟨rest, rfl, rfl⟩
          · cases h

/-! ## To the end -/

/-- **A walk that has come to a directory goes on from there.** -/
theorem exists_walk_append {links : Nat} {dir loc : Location} {steps added : List Step} {e : Entry}
    (hadded : added = [] ∨ added = [.here]) (he : e.node = .directory)
    (h : tree.walk true links dir (steps ++ added) = .found loc e) :
    ∃ left, ∀ more, tree.walk true links dir (steps ++ more) = tree.walk true left loc more := by
  induction links generalizing dir steps with
  | zero =>
    refine ⟨0, fun more => ?_⟩
    simp only [walk] at h ⊢
    split at h
    · next hadvance =>
      rw [h] at hadvance
      rw [advance_append hadded (fun _ => he) hadvance]
    · cases h
  | succ links ih =>
    simp only [walk] at h
    split at h
    · next hadvance =>
      rw [h] at hadvance
      refine ⟨links + 1, fun more => ?_⟩
      simp only [walk, advance_append hadded (fun _ => he) hadvance]
    · next above target behind hadvance =>
      obtain ⟨rest, hrest, rfl⟩ := atLink_of_advance_append hadded hadvance
      obtain ⟨left, hleft⟩ := ih (by rwa [List.append_assoc])
      refine ⟨left, fun more => ?_⟩
      rw [← hleft more]
      simp only [walk, advance_append_of_atLink hrest, List.append_assoc]

/-! ## Single steps -/

theorem walk_congr {follow : Bool} {links : Nat} {dir dir' : Location} {steps steps' : List Step}
    (h : tree.advance follow dir steps = tree.advance follow dir' steps') :
    tree.walk follow links dir steps = tree.walk follow links dir' steps' := by
  cases links <;> simp only [walk, h]

/-- Steps that stay lead nowhere. -/
theorem advance_here {follow : Bool} {dir : Location} {heres : List Step}
    (h : ∀ s ∈ heres, s = .here) (more : List Step) :
    tree.advance follow dir (heres ++ more) = tree.advance follow dir more := by
  induction heres with
  | nil => rfl
  | cons s rest ih =>
    obtain ⟨rfl, hrest⟩ := List.forall_mem_cons.1 h
    exact ih hrest

/-- One step goes into a directory. -/
theorem advance_into {follow : Bool} {dir : Location} {name : Bytes} {e : Entry}
    (hshort : name.length ≤ nameLimit) (hget : tree.get? (name :: dir) = some e)
    (he : e.node = .directory) (more : List Step) :
    tree.advance follow dir (.into name :: more) = tree.advance follow (name :: dir) more := by
  rw [advance, if_neg (Nat.not_lt.2 hshort), hget]
  simp only [he]

/-- A name that nothing has is not found, whatever comes behind it. -/
theorem walk_into_ne_found {links : Nat} {dir : Location} {name : Bytes}
    (hget : tree.get? (name :: dir) = none) (more : List Step) (loc : Location) (e : Entry) :
    tree.walk true links dir (.into name :: more) ≠ .found loc e := by
  have hadvance : ∃ result, tree.advance true dir (.into name :: more) = .arrived result ∧
      ∀ loc e, result ≠ .found loc e := by
    rw [advance, hget]
    split
    · exact ⟨_, rfl, fun _ _ h => by cases h⟩
    · dsimp only
      split <;> exact ⟨_, rfl, fun _ _ h => by cases h⟩
  obtain ⟨result, hresult, hne⟩ := hadvance
  cases links <;> simp only [walk, hresult] <;> exact hne loc e

end FileTree

/-! ## Paths behind others -/

namespace Path

variable {p q : Path}

/-- A relative path is walked along behind the path that it is joined to. -/
theorem steps_join (hq : q.isAbsolute = false) : (p.join q).steps = p.steps ++ q.steps := by
  have hempty : [([] : Bytes)].filterMap stepOf? = [] := rfl
  by_cases hp : p.bytes = []
  · rw [join_of_empty hp]
    simp [steps, hp, segments, hempty]
  · obtain ⟨front, hjoin, hfront⟩ := join_of_ne_empty hp hq
    have hsteps : p.steps = (segments front).filterMap stepOf? := by
      rcases hfront with hfront | hfront
      · rw [steps, hfront]
      · rw [steps, hfront, segments_append_separator, List.filterMap_append]
        exact List.append_nil _
    rw [hsteps, steps, hjoin, segments_append_separator, List.filterMap_append, steps]

theorem isAbsolute_join (hq : q.isAbsolute = false) : (p.join q).isAbsolute = p.isAbsolute := by
  by_cases hp : p.bytes = []
  · rw [join_of_empty hp, hq]
    simp [isAbsolute, hp]
  · obtain ⟨b, rest, hbytes⟩ := List.exists_cons_of_ne_nil hp
    unfold join isAbsolute
    rw [if_neg (by simpa [isAbsolute] using hq)]
    split <;> simp [hbytes]

theorem endsInSeparator_join (hq : q.isAbsolute = false) (hne : q.bytes ≠ []) :
    (p.join q).endsInSeparator = q.endsInSeparator := by
  unfold join endsInSeparator
  rw [if_neg (by simp [hq])]
  split <;> simp [List.getLast?_append, List.getLast?_cons, List.getLast?_eq_some_getLast hne]

end Path

open FileTree

variable {tree : FileTree} {p q : Path} {loc : Location}

/-- A walk along the path comes to the location and goes on from there, whatever comes behind it. -/
def FileTree.LeadsTo (tree : FileTree) (p : Path) (loc : Location) : Prop :=
  ∃ left, ∀ more, tree.walk true linkLimit (startOf tree.current p) (p.steps ++ more) =
    tree.walk true left loc more

theorem FileTree.leadsTo_empty (tree : FileTree) : tree.LeadsTo .empty tree.current :=
  ⟨linkLimit, fun _ => rfl⟩

/-- What a path denotes is what a walk along it finds, if the path is not refused. -/
theorem FileTree.find_eq_ok_iff_walk {e : Entry} :
    tree.find p = .ok (loc, e) ↔ refusal? p = none ∧
      tree.walk true linkLimit (startOf tree.current p) (p.steps ++ demand p) = .found loc e := by
  rw [find_eq_ok_iff, lookup, lookupWith_eq]
  cases refusal? p <;> simp

theorem FileTree.refusal?_eq_none_iff :
    refusal? p = none ↔ (0 : UInt8) ∉ p.bytes ∧ p.bytes ≠ [] ∧ p.bytes.length < pathLimit := by
  unfold refusal? Path.isEmpty
  split
  · next h => simp_all
  · split
    · next h => simp_all
    · split <;> next h => simp_all

/-- A path that is something and holds no zero byte is refused for its length only. -/
theorem FileTree.refusal?_of_zero_notMem (hzero : (0 : UInt8) ∉ p.bytes) (hne : p.bytes ≠ []) :
    refusal? p = none ∨ refusal? p = some .nameTooLong ∧ pathLimit ≤ p.bytes.length := by
  rcases Nat.lt_or_ge p.bytes.length pathLimit with hshort | hlong
  · exact .inl (refusal?_eq_none_iff.2 ⟨hzero, hne, hshort⟩)
  · exact .inr ⟨by simp [refusal?, Path.isEmpty, hzero, hne, hlong], hlong⟩

/-- What is refused is not found. -/
theorem FileTree.find_of_refusal (tree : FileTree) {cause : FileError} (h : refusal? p = some cause) :
    tree.find p = .error cause := by
  rw [FileTree.find, lookup, lookupWith_eq, h]

theorem Path.zero_notMem_join (hp : (0 : UInt8) ∉ p.bytes) (hq : (0 : UInt8) ∉ q.bytes) :
    (0 : UInt8) ∉ (p.join q).bytes := by
  have hseparator : (0 : UInt8) ≠ Path.separator := by decide
  unfold join
  split
  · exact hq
  · split <;> simp [hp, hq, hseparator]

theorem Path.bytes_join_ne_nil (hq : q.bytes ≠ []) : (p.join q).bytes ≠ [] := by
  unfold join
  split
  · exact hq
  · split <;> simp [hq]

/-- A path written behind another one is not refused for what it holds, but for its length. -/
theorem FileTree.refusal?_join (hq : q.isAbsolute = false) (hne : q.bytes ≠ [])
    (hp : (0 : UInt8) ∉ p.bytes) (hzero : (0 : UInt8) ∉ q.bytes)
    (hshort : p.bytes.length + q.bytes.length + 1 < pathLimit) : refusal? (p.join q) = none := by
  refine refusal?_eq_none_iff.2 ⟨Path.zero_notMem_join hp hzero, Path.bytes_join_ne_nil hne, ?_⟩
  rw [Path.join, if_neg (by simp [hq])]
  split
  · rw [List.length_append]
    omega
  · rw [List.length_append, List.length_cons]
    omega

/-- A directory that a path denotes is one that it leads to. -/
theorem FileTree.leadsTo_of_find {e : Entry} (h : tree.find p = .ok (loc, e))
    (he : e.node = .directory) : tree.LeadsTo p loc :=
  exists_walk_append (demand_eq p) he (find_eq_ok_iff_walk.1 h).2

namespace FileTree.LeadsTo

/-- What more steps come to, a path with these steps comes to. -/
theorem of_steps {loc' : Location} {more : List Step} (h : tree.LeadsTo p loc)
    (habsolute : q.isAbsolute = p.isAbsolute) (hsteps : q.steps = p.steps ++ more)
    (hmore : ∀ rest, tree.advance true loc (more ++ rest) = tree.advance true loc' rest) :
    tree.LeadsTo q loc' := by
  obtain ⟨left, hleft⟩ := h
  have hstart : startOf tree.current q = startOf tree.current p := by rw [startOf, habsolute]; rfl
  refine ⟨left, fun rest => ?_⟩
  rw [hstart, hsteps, List.append_assoc, hleft]
  exact walk_congr (hmore rest)

/-- What is written behind a path is looked up where the path leads to. -/
theorem lookup_eq (h : tree.LeadsTo p loc) (hq : q.isAbsolute = false)
    (hrefusal : refusal? (p.join q) = none) :
    ∃ left, tree.lookup (p.join q) = tree.walk true left loc (q.steps ++ demand (p.join q)) := by
  obtain ⟨left, hleft⟩ := h
  refine ⟨left, ?_⟩
  rw [lookup, lookupWith_eq, hrefusal]
  dsimp only
  rw [← hleft, Path.steps_join hq, List.append_assoc, startOf, Path.isAbsolute_join hq]
  rfl

end FileTree.LeadsTo

end StaleBuild
