import StaleBuild.Proofs.Files.Growth

/-!
# Making directories

What is made with success is there afterwards and is a directory, and making it once more changes
nothing.

    tree.makeDirectories p now = (.ok (), made) → p is empty or made.isDirectory p
                                                                        (isDirectory_of_makeDirectories)
    tree.isDirectory p → tree.makeDirectories p now = (.ok (), tree)    (makeDirectories_of_isDirectory)

A place for a new entry is looked for with a link at the end not followed and a separator there left
aside. `walk_opened` says what such a walk comes to when both are followed.
-/

namespace StaleBuild

open StaleBuild.Path (Step)

/-! ## Places and what is there -/

/-- What a place shows and what is there when a link at its end is followed. -/
structure Lookup.Opened (place there : Lookup) : Prop where
  /-- A directory in a place is there. -/
  directory : ∀ loc e, e.node = .directory → place = .found loc e → there = .found loc e
  /-- What is there is in a place. -/
  place : ∀ loc e, there = .found loc e → ∃ loc' e', place = .found loc' e'

namespace Lookup.Opened

theorem refl (place : Lookup) : place.Opened place :=
  ⟨fun _ _ _ h => h, fun loc e h => ⟨loc, e, h⟩⟩

/-- What is no directory can lead anywhere. -/
theorem of_found {loc : Location} {e : Entry} (h : e.node ≠ .directory) (there : Lookup) :
    (Lookup.found loc e).Opened there := by
  refine ⟨fun _ _ hnode heq => ?_, fun _ _ _ => ⟨loc, e, rfl⟩⟩
  obtain ⟨-, rfl⟩ := Lookup.found.inj heq
  exact absurd hnode h

/-- What is missing in a place is not there. -/
theorem of_missing (dir : Location) (name : Bytes) (cause : FileError) :
    (Lookup.missing dir name).Opened (.failed cause) := ⟨nofun, nofun⟩

end Lookup.Opened

/-- What a walk that stood somewhere comes to when it follows a link at its end, too, and takes the
`added` steps. -/
inductive Advance.Opened (added : List Step) : Advance → Advance → Prop where
  | arrived {place there : Lookup} :
      place.Opened there → Opened added (.arrived place) (.arrived there)
  | found {loc : Location} {e : Entry} {other : Advance} : e.node ≠ .directory →
      Opened added (.arrived (.found loc e)) other
  | atLink {dir : Location} {target : Path} {rest : List Step} :
      Opened added (.atLink dir target rest) (.atLink dir target (rest ++ added))

namespace FileTree

variable {tree : FileTree}

theorem advance_opened (tree : FileTree) {added : List Step} (hadded : added = [] ∨ added = [.here])
    (dir : Location) (steps : List Step) :
    (tree.advance false dir steps).Opened added (tree.advance true dir (steps ++ added)) := by
  induction steps generalizing dir with
  | nil =>
    have hhere : tree.advance true dir ([] ++ added) = tree.advance false dir [] := by
      rcases hadded with rfl | rfl <;> rfl
    rw [hhere]
    simp only [advance]
    cases tree.get? dir <;> exact .arrived (.refl _)
  | cons step rest ih =>
    cases step with
    | here => exact ih dir
    | up => exact ih dir.tail
    | into name =>
      simp only [List.cons_append, advance]
      by_cases hlong : nameLimit < name.length
      · simp only [hlong, if_true]
        exact .arrived (.refl _)
      · simp only [hlong, if_false]
        cases tree.get? (name :: dir) with
        | none =>
          dsimp only
          by_cases hrest : rest = []
          · subst hrest
            rcases hadded with rfl | rfl
            · exact .arrived (.refl _)
            · exact .arrived (.of_missing ..)
          · simp only [hrest, List.append_eq_nil_iff, false_and, if_false]
            exact .arrived (.refl _)
        | some e =>
          dsimp only
          cases hnode : e.node with
          | directory => exact ih (name :: dir)
          | link target =>
            by_cases hrest : rest = []
            · simp only [hrest, true_and, Bool.not_false, if_true]
              exact .found (by simp [hnode])
            · simp only [hrest, false_and, if_false, Bool.not_true, Bool.false_eq_true, and_false]
              exact .atLink
          | file contents =>
            by_cases hrest : rest = []
            · simp only [hrest, if_true]
              exact .found (by simp [hnode])
            · simp only [hrest, List.append_eq_nil_iff, false_and, if_false]
              exact .arrived (.refl _)
          | special kind =>
            by_cases hrest : rest = []
            · simp only [hrest, if_true]
              exact .found (by simp [hnode])
            · simp only [hrest, List.append_eq_nil_iff, false_and, if_false]
              exact .arrived (.refl _)

/-- What a walk ends at that follows links, and what one ends at that does not. -/
theorem walk_opened (tree : FileTree) {added : List Step} (hadded : added = [] ∨ added = [.here])
    (links : Nat) (dir : Location) (steps : List Step) :
    (tree.walk false links dir steps).Opened (tree.walk true links dir (steps ++ added)) := by
  induction links generalizing dir steps with
  | zero =>
    have hopened := tree.advance_opened hadded dir steps
    simp only [walk]
    generalize tree.advance false dir steps = old at hopened ⊢
    generalize tree.advance true dir (steps ++ added) = new at hopened ⊢
    cases hopened with
    | arrived h => exact h
    | found hnode => exact .of_found hnode _
    | atLink => exact .refl _
  | succ links ih =>
    have hopened := tree.advance_opened hadded dir steps
    simp only [walk]
    generalize tree.advance false dir steps = old at hopened ⊢
    generalize tree.advance true dir (steps ++ added) = new at hopened ⊢
    cases hopened with
    | arrived h => exact h
    | found hnode => exact .of_found hnode _
    | atLink =>
      dsimp only
      rw [← List.append_assoc]
      exact ih ..

/-- A place that is empty is empty. -/
theorem get?_of_advance_missing {follow : Bool} {dir above : Location} {steps : List Step}
    {name : Bytes} (h : tree.advance follow dir steps = .arrived (.missing above name)) :
    tree.get? (name :: above) = none := by
  induction steps generalizing dir with
  | nil =>
    simp only [advance] at h
    split at h <;> simp at h
  | cons step rest ih =>
    cases step with
    | here => exact ih h
    | up => exact ih h
    | into first =>
      simp only [advance] at h
      split at h
      · simp at h
      · split at h
        · next hnone =>
          split at h
          · obtain ⟨rfl, rfl⟩ : dir = above ∧ first = name := by simpa using h
            exact hnone
          · simp at h
        · split at h
          · exact ih h
          · split at h <;> simp at h
          · split at h <;> simp at h

theorem get?_of_walk_missing {follow : Bool} {links : Nat} {dir above : Location}
    {steps : List Step} {name : Bytes} (h : tree.walk follow links dir steps = .missing above name) :
    tree.get? (name :: above) = none := by
  induction links generalizing dir steps with
  | zero =>
    simp only [walk] at h
    split at h
    · next result hresult => exact get?_of_advance_missing (h ▸ hresult)
    · simp at h
  | succ links ih =>
    simp only [walk] at h
    split at h
    · next result hresult => exact get?_of_advance_missing (h ▸ hresult)
    · exact ih h

end FileTree

namespace Kept

open FileTree

variable {tree after : FileTree}

/-- A walk that ended at an empty place ends at the directory that is made there. -/
theorem advance_filled (h : Kept tree after) {dir above : Location} {steps : List Step}
    {name : Bytes} {e : Entry} (he : after.get? (name :: above) = some e)
    (hnode : e.node = .directory) {follow : Bool}
    (hmissing : tree.advance follow dir steps = .arrived (.missing above name)) :
    after.advance follow dir steps = .arrived (.found (name :: above) e) := by
  induction steps generalizing dir with
  | nil =>
    simp only [advance] at hmissing
    split at hmissing <;> simp at hmissing
  | cons step rest ih =>
    cases step with
    | here => exact ih hmissing
    | up => exact ih hmissing
    | into first =>
      simp only [advance] at hmissing ⊢
      split at hmissing
      · simp at hmissing
      · next hlong =>
        rw [if_neg hlong]
        cases hget : tree.get? (first :: dir) with
        | none =>
          rw [hget] at hmissing
          dsimp only at hmissing
          split at hmissing
          · next hrest =>
            obtain ⟨rfl, rfl⟩ : dir = above ∧ first = name := by simpa using hmissing
            subst hrest
            simp only [he, hnode, advance]
          · simp at hmissing
        | some old =>
          obtain ⟨new, hnew, halike⟩ := h.get? hget
          rw [hget] at hmissing
          rw [hnew]
          cases hold : old.node with
          | directory =>
            have hsame : new.node = .directory := by
              rcases halike with hsame | ⟨hfile, -⟩
              · rw [hsame, hold]
              · rw [hold] at hfile; cases hfile
            simp only [hold, hsame] at hmissing ⊢
            exact ih hmissing
          | link target =>
            simp only [hold] at hmissing
            split at hmissing <;> simp at hmissing
          | file contents =>
            simp only [hold] at hmissing
            split at hmissing <;> simp at hmissing
          | special kind =>
            simp only [hold] at hmissing
            split at hmissing <;> simp at hmissing

theorem walk_filled (h : Kept tree after) {links : Nat} {dir above : Location} {steps : List Step}
    {name : Bytes} {e : Entry} (he : after.get? (name :: above) = some e)
    (hnode : e.node = .directory) {follow : Bool}
    (hmissing : tree.walk follow links dir steps = .missing above name) :
    after.walk follow links dir steps = .found (name :: above) e := by
  induction links generalizing dir steps with
  | zero =>
    simp only [walk] at hmissing ⊢
    cases hadvance : tree.advance follow dir steps with
    | arrived result =>
      rw [hadvance] at hmissing
      obtain rfl : result = .missing above name := hmissing
      rw [h.advance_filled he hnode hadvance]
    | atLink dir target rest => simp [hadvance] at hmissing
  | succ links ih =>
    simp only [walk] at hmissing ⊢
    cases hadvance : tree.advance follow dir steps with
    | arrived result =>
      rw [hadvance] at hmissing
      obtain rfl : result = .missing above name := hmissing
      rw [h.advance_filled he hnode hadvance]
    | atLink dir' target rest =>
      rw [hadvance] at hmissing
      have hkept := h.advance_kept follow dir steps
      rw [hadvance] at hkept
      generalize after.advance follow dir steps = new at hkept ⊢
      cases hkept with
      | atLink => exact ih hmissing

end Kept

/-! ## Making a directory -/

namespace FileTree

variable {tree made : FileTree} {p : Path} {now : Time}

theorem demand_eq (p : Path) : demand p = [] ∨ demand p = [.here] := by
  unfold demand
  split
  · exact .inr rfl
  · exact .inl rfl

/-- What a path denotes, and what stands in its place. -/
theorem lookupPlace_opened (tree : FileTree) (p : Path) :
    (tree.lookupPlace p).Opened (tree.lookup p) := by
  simp only [lookup, lookupPlace, lookupWith_eq, List.append_nil]
  cases refusal? p with
  | some cause => exact .refl _
  | none => exact tree.walk_opened (demand_eq p) ..

theorem get?_of_lookupPlace_missing {above : Location} {name : Bytes}
    (h : tree.lookupPlace p = .missing above name) : tree.get? (name :: above) = none := by
  simp only [lookupPlace, lookupWith_eq] at h
  cases hrefusal : refusal? p with
  | some cause => rw [hrefusal] at h; cases h
  | none =>
    rw [hrefusal] at h
    exact get?_of_walk_missing h

theorem lookupPlace_filled {after : FileTree} (h : Kept tree after) {above : Location}
    {name : Bytes} {e : Entry} (he : after.get? (name :: above) = some e)
    (hnode : e.node = .directory) (hmissing : tree.lookupPlace p = .missing above name) :
    after.lookupPlace p = .found (name :: above) e := by
  simp only [lookupPlace, lookupWith_eq, h.current] at hmissing ⊢
  cases hrefusal : refusal? p with
  | some cause => rw [hrefusal] at hmissing; cases hmissing
  | none =>
    rw [hrefusal] at hmissing
    exact h.walk_filled he hnode hmissing

theorem isDirectory_of_lookup {loc : Location} {e : Entry} (hnode : e.node = .directory)
    (h : tree.lookup p = .found loc e) : tree.isDirectory p = true := by
  simp [isDirectory, stat, find_eq_ok_iff.2 h, Except.map, hnode, Node.isDirectory]

/-- A new entry takes nothing away. -/
theorem put_kept {loc : Location} (hloc : tree.get? loc = none) (node : Node) (now : Time) :
    Kept tree (tree.put loc (.new node now)) := by
  refine ⟨rfl, fun {other e} he => ⟨e, ?_, .inl rfl⟩⟩
  have hother : other ≠ loc := by
    rintro rfl
    rw [hloc] at he
    cases he
  rw [get?_put_of_ne _ _ hother, he]
  simp [Entry.new]

theorem touch_restamped (tree : FileTree) (loc : Location) (now : Time) :
    ∃ files, Restamped now files tree (tree.touch loc now) := by
  unfold touch
  cases hloc : tree.get? loc with
  | none => exact ⟨[], .refl now tree⟩
  | some e => exact ⟨_, put_restamped hloc now⟩

end FileTree

theorem Restamped.isDirectory_eq {now : Time} {files : List FileId} {tree after : FileTree}
    (h : Restamped now files tree after) (p : Path) :
    after.isDirectory p = tree.isDirectory p := by
  unfold FileTree.isDirectory FileTree.stat
  rw [h.find_eq]
  cases tree.find p with
  | error cause => rfl
  | ok found => simp [Except.map]

namespace FileTree

variable {tree made : FileTree} {p : Path} {now : Time}

/-- A directory that was made is there. -/
theorem isDirectory_of_makeDirectory (h : tree.makeDirectory p now = .ok made) :
    made.isDirectory p = true := by
  unfold makeDirectory at h
  split at h
  · cases h
  · next above name hmissing =>
    obtain rfl := Except.ok.inj h
    obtain ⟨files, hrestamped⟩ :=
      touch_restamped (tree.put (name :: above) (.new .directory now)) above now
    rw [create, hrestamped.isDirectory_eq]
    have hkept := put_kept (get?_of_lookupPlace_missing hmissing) .directory now
    have hfound := lookupPlace_filled hkept (get?_put _ _ _) rfl hmissing
    exact isDirectory_of_lookup rfl ((lookupPlace_opened _ p).directory _ _ rfl hfound)
  · cases h

/-- A directory that is there is not made once more. -/
theorem makeDirectory_of_isDirectory (h : tree.isDirectory p = true) (now : Time) :
    tree.makeDirectory p now = .error .alreadyExists := by
  unfold isDirectory stat at h
  cases hfind : tree.find p with
  | error cause => simp [hfind, Except.map] at h
  | ok found =>
    obtain ⟨loc, e⟩ := found
    obtain ⟨loc', e', hplace⟩ := (lookupPlace_opened tree p).place _ _ (find_eq_ok_iff.1 hfind)
    rw [makeDirectory, hplace]

/-! ## Making directories -/

theorem makeDirectories_of_isEmpty (h : p.isEmpty = true) (now : Time) :
    tree.makeDirectories p now = (.ok (), tree) := by
  rw [makeDirectories, makeDirectoriesWithin, if_pos h]

theorem makeDirectories_of_isDirectory (h : tree.isDirectory p = true) (now : Time) :
    tree.makeDirectories p now = (.ok (), tree) := by
  unfold makeDirectories makeDirectoriesWithin
  split
  · rfl
  · rw [makeDirectory_of_isDirectory h]

/-- Directories that were made are there. -/
theorem isDirectory_of_makeDirectories (h : tree.makeDirectories p now = (.ok (), made)) :
    p.isEmpty = true ∨ made.isDirectory p = true := by
  unfold makeDirectories makeDirectoriesWithin at h
  split at h
  · next hempty => exact .inl hempty
  · right
    split at h
    · next hmade =>
      obtain rfl := (Prod.mk.inj h).2
      exact isDirectory_of_makeDirectory hmade
    · split at h
      · cases h
      · split at h
        · cases h
        · split at h
          · next hmade =>
            obtain rfl := (Prod.mk.inj h).2
            exact isDirectory_of_makeDirectory hmade
          · obtain ⟨hresult, rfl⟩ := Prod.mk.inj h
            split at hresult
            · assumption
            · cases hresult
    · obtain ⟨hresult, rfl⟩ := Prod.mk.inj h
      split at hresult
      · assumption
      · cases hresult

theorem Distinct.put (h : tree.Distinct) (loc : Location) (e : Entry) : (tree.put loc e).Distinct := by
  have hothers : ((tree.entries.filter fun old => decide (old.1 ≠ loc)).map Prod.fst).Nodup :=
    h.sublist (List.filter_sublist.map _)
  have hkeys : (tree.put loc e).entries.map Prod.fst =
      loc :: (tree.entries.filter fun old => decide (old.1 ≠ loc)).map Prod.fst := by
    simp only [FileTree.put, written, List.map_cons]
    cases e.shared with
    | none => rfl
    | some n =>
      rw [List.map_map]
      congr 2
      funext old
      simp only [Function.comp]
      split <;> rfl
  unfold Distinct
  rw [hkeys, List.nodup_cons]
  exact ⟨by simp, hothers⟩

theorem Distinct.makeDirectory (h : tree.Distinct) (hmade : tree.makeDirectory p now = .ok made) :
    made.Distinct := by
  unfold FileTree.makeDirectory at hmade
  split at hmade
  · cases hmade
  · next above name _ =>
    obtain rfl := Except.ok.inj hmade
    unfold create touch
    split
    · exact (h.put _ _).put _ _
    · exact h.put _ _
  · cases hmade

/-- No location is taken twice by making directories. -/
theorem Distinct.makeDirectories (h : tree.Distinct) (p : Path) (now : Time) :
    (tree.makeDirectories p now).2.Distinct := by
  unfold FileTree.makeDirectories
  generalize p.bytes.length + 1 = fuel
  induction fuel generalizing p with
  | zero => exact h
  | succ fuel ih =>
    unfold makeDirectoriesWithin
    split
    · exact h
    · split
      · next hmade => exact h.makeDirectory hmade
      · split
        · exact h
        · next above _ =>
          have habove := ih above
          split
          · next heq => rw [heq] at habove; exact habove
          · next heq =>
            rw [heq] at habove
            split
            · next hmade => exact habove.makeDirectory hmade
            · exact habove
      · exact h

end FileTree

end StaleBuild
