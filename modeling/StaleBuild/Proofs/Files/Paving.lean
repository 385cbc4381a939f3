import StaleBuild.Proofs.Files.Sprouting

/-!
# What making directories leaves, if it fails too

Whether the directories of a path could all be made or not, those that were made lie on its way, and
beyond them nothing has changed but the times of the directories that they were made in:

    Paved p now tree after       an entry of `tree` is in `after`, with the time `now` if it is a
                                 directory and has a new one in it; every other entry of `after` is
                                 a new directory that `p` or a path above it denotes

    tree.makeDirectory p now = .ok made               → Paved p now tree made         (paved_makeDirectory)
    Paved p now tree mid → Paved p now mid after      → Paved p now tree after        (Paved.trans)
    tree.makeDirectories p now = (result, after)      → Paved p now tree after        (paved_makeDirectories)

Here the path may lead upwards.
-/

namespace StaleBuild

/-- A path, its parent, the parent of that, and so on. -/
inductive Path.OnTheWay (p : Path) : Path → Prop where
  | here : OnTheWay p p
  | above {q above : Path} : OnTheWay p q → q.parent? = some above → OnTheWay p above

theorem Path.OnTheWay.of_parent {p q above : Path} (h : above.OnTheWay q)
    (hparent : p.parent? = some above) : p.OnTheWay q := by
  induction h with
  | here => exact .above .here hparent
  | above _ hnext ih => exact .above ih hnext

/-- An entry of `tree`, a directory, in which something is in `after` that was not there. -/
def FileTree.Sprouts (tree after : FileTree) (e : Entry) : Prop :=
  ∃ dir name, tree.get? dir = some e ∧ tree.get? (name :: dir) = none ∧
    (after.get? (name :: dir)).isSome = true

/-- `after` has what `tree` has, and new directories on the way of `p`. -/
structure Paved (p : Path) (now : Time) (tree after : FileTree) : Prop where
  current : after.current = tree.current
  /-- Only a directory in which one was made has changed, and only its time. -/
  kept : ∀ {loc e}, tree.get? loc = some e → after.get? loc = some e ∨
    e.node = .directory ∧ tree.Sprouts after e ∧ after.get? loc = some { e with modified := now }
  made : ∀ {loc e}, tree.get? loc = none → after.get? loc = some e →
    e = .new .directory now ∧ ∃ q, p.OnTheWay q ∧ after.find q = .ok (loc, e)

namespace Paved

open FileTree

variable {p : Path} {now : Time} {tree mid after : FileTree}

theorem refl (p : Path) (now : Time) (tree : FileTree) : Paved p now tree tree := by
  refine ⟨rfl, fun he => .inl he, fun hold hnew => ?_⟩
  rw [hold] at hnew
  cases hnew

theorem toKept (h : Paved p now tree after) : Kept tree after := by
  refine ⟨h.current, fun {loc e} he => ?_⟩
  obtain hsame | ⟨-, -, hnew⟩ := h.kept he
  · exact ⟨e, hsame, .inl rfl⟩
  · exact ⟨_, hnew, .inl rfl⟩

/-- Directories on the way of the parent are on the way. -/
theorem of_parent {above : Path} (h : Paved above now tree after) (hparent : p.parent? = some above) :
    Paved p now tree after := by
  refine ⟨h.current, h.kept, fun hold hnew => ?_⟩
  obtain ⟨he, q, hq, hfind⟩ := h.made hold hnew
  exact ⟨he, q, hq.of_parent hparent, hfind⟩

/-- What is no directory is just as it was, and nothing of the kind is new. -/
theorem get?_eq_some_iff (h : Paved p now tree after) {loc : Location} {e : Entry}
    (hnode : e.node ≠ .directory) : after.get? loc = some e ↔ tree.get? loc = some e := by
  constructor
  · intro hnew
    cases hold : tree.get? loc with
    | none =>
      obtain ⟨rfl, -⟩ := h.made hold hnew
      exact absurd rfl hnode
    | some old =>
      obtain hsame | ⟨hdirectory, -, hchanged⟩ := h.kept hold
      · rw [← hnew, hsame]
      · rw [hnew] at hchanged
        obtain rfl := Option.some.inj hchanged
        exact absurd hdirectory hnode
  · intro hold
    obtain hsame | ⟨hdirectory, -⟩ := h.kept hold
    · exact hsame
    · exact absurd hdirectory hnode

theorem isSome (h : Paved p now tree after) {loc : Location}
    (hloc : (tree.get? loc).isSome = true) : (after.get? loc).isSome = true := by
  obtain ⟨e, he⟩ := Option.isSome_iff_exists.1 hloc
  obtain ⟨e', he', -⟩ := h.toKept.get? he
  exact Option.isSome_iff_exists.2 ⟨e', he'⟩

/-- An entry in which something was made later has the later time already, or something was made in
it from the start. -/
theorem sprouts_of_sprouts (h : Paved p now tree mid) {e : Entry} (he : mid.Sprouts after e)
    (htime : e.modified ≠ now) : tree.Sprouts after e := by
  obtain ⟨dir, name, hdir, hnone, hsome⟩ := he
  refine ⟨dir, name, ?_, ?_, hsome⟩
  · cases hold : tree.get? dir with
    | none =>
      obtain ⟨rfl, -⟩ := h.made hold hdir
      exact absurd rfl htime
    | some old =>
      obtain hsame | ⟨-, -, hchanged⟩ := h.kept hold
      · rw [← hsame, hdir]
      · rw [hdir] at hchanged
        obtain rfl := Option.some.inj hchanged
        exact absurd rfl htime
  · cases hold : tree.get? (name :: dir) with
    | none => rfl
    | some old =>
      obtain ⟨e', he', -⟩ := h.toKept.get? hold
      rw [hnone] at he'
      cases he'

theorem trans (h : Paved p now tree mid) (h' : Paved p now mid after) : Paved p now tree after := by
  refine ⟨h'.current.trans h.current, fun {loc e} he => ?_, fun {loc e} hold hnew => ?_⟩
  · obtain hsame | ⟨hdirectory, ⟨dir, name, hdir, hnone, hsome⟩, hchanged⟩ := h.kept he
    · obtain hsame' | ⟨hdirectory, hsprouts, hchanged'⟩ := h'.kept hsame
      · exact .inl hsame'
      · by_cases htime : e.modified = now
        · -- the new time is the old one
          refine .inl ?_
          rw [hchanged', ← htime]
        · exact .inr ⟨hdirectory, h.sprouts_of_sprouts hsprouts htime, hchanged'⟩
    · refine .inr ⟨hdirectory, ⟨dir, name, hdir, hnone, h'.isSome hsome⟩, ?_⟩
      obtain hsame' | ⟨-, -, hchanged'⟩ := h'.kept hchanged
      · exact hsame'
      · exact hchanged'
  · cases hmid : mid.get? loc with
    | none => exact h'.made hmid hnew
    | some old =>
      obtain ⟨rfl, q, hq, hfind⟩ := h.made hold hmid
      have hsame : after.get? loc = some (.new .directory now) := by
        obtain hsame | ⟨-, -, hchanged⟩ := h'.kept hmid
        · exact hsame
        · exact hchanged
      obtain rfl := Option.some.inj (hnew.symm.trans hsame)
      refine ⟨rfl, q, hq, ?_⟩
      obtain ⟨e', he', -⟩ := h'.toKept.find_kept hfind
      rw [he']
      obtain rfl := Option.some.inj ((get?_of_find he').symm.trans hsame)
      rfl

end Paved

namespace FileTree

variable {tree made : FileTree} {p : Path} {now : Time} {above : Location} {name : Bytes}

/-- Another location of a file holds the same entry. -/
theorem eq_of_fileId {loc other : Location} {e e' : Entry} (he : tree.get? loc = some e)
    (he' : tree.get? other = some e') (hid : e.fileId loc = e'.fileId other) : e = e' := by
  unfold Entry.fileId at hid
  cases hshared : e.shared with
  | none =>
    cases hshared' : e'.shared with
    | none =>
      simp only [hshared, hshared', FileId.alone.injEq] at hid
      subst hid
      exact Option.some.inj (he.symm.trans he')
    | some n => simp only [hshared, hshared', reduceCtorEq] at hid
  | some n =>
    cases hshared' : e'.shared with
    | none => simp only [hshared, hshared', reduceCtorEq] at hid
    | some n' =>
      simp only [hshared, hshared', FileId.numbered.injEq] at hid
      exact tree.agreeing _ (get?_eq_some_mem he) _ (get?_eq_some_mem he')
        (by rw [hshared]; rfl) (by rw [hshared, hshared', hid])

/-- A new directory is put where nothing was, and the one that it is made in gets the time. -/
theorem create_restamped {dir : Entry} (hdir : tree.get? above = some dir) (name : Bytes)
    (now : Time) :
    Restamped now [dir.fileId above] (tree.put (name :: above) (.new .directory now))
      (tree.create above name .directory now) := by
  have hthere : (tree.put (name :: above) (.new .directory now)).get? above = some dir := by
    rw [get?_put_of_ne _ _ (List.cons_ne_self name above).symm, hdir]
    simp [Entry.new]
  rw [create, touch, hthere]
  exact put_restamped hthere now

theorem get?_create_self {dir : Entry} (hdir : tree.get? above = some dir) (name : Bytes)
    (now : Time) :
    (tree.create above name .directory now).get? (name :: above) = some (.new .directory now) := by
  rw [(create_restamped hdir name now).get?, get?_put, Option.map_some, Entry.stampedIn]
  split <;> rfl

theorem get?_create_of_ne {dir : Entry} (hdir : tree.get? above = some dir) {loc : Location}
    (hloc : loc ≠ name :: above) (now : Time) :
    (tree.create above name .directory now).get? loc =
      (tree.get? loc).map (Entry.stampedIn [dir.fileId above] now loc) := by
  rw [(create_restamped hdir name now).get?, get?_put_of_ne _ _ hloc]
  cases tree.get? loc <;> simp [Entry.new]

/-- Making a directory paves the way to it. -/
theorem Enclosed.paved_makeDirectory (h : tree.Enclosed) (hdistinct : tree.Distinct)
    (hmade : tree.makeDirectory p now = .ok made) : Paved p now tree made := by
  have hsprouted := (h.sprouted_makeDirectory hdistinct hmade).1
  unfold makeDirectory at hmade
  split at hmade
  · cases hmade
  · next above name hmissing =>
    obtain rfl := Except.ok.inj hmade
    obtain ⟨dir, hdir, hnode⟩ :=
      isDirectoryAt_iff.1 (h.isDirectoryAt_of_lookupPlace_missing hmissing)
    have hnone := get?_of_lookupPlace_missing hmissing
    have hself := get?_create_self hdir name now
    refine ⟨hsprouted.current, fun {loc e} he => ?_, fun {loc e} hold hnew => ?_⟩
    · have hloc : loc ≠ name :: above := by
        rintro rfl
        rw [hnone] at he
        cases he
      rw [get?_create_of_ne hdir hloc, he, Option.map_some]
      by_cases hid : e.fileId loc ∈ [dir.fileId above]
      · obtain rfl := eq_of_fileId he hdir (List.mem_singleton.1 hid)
        rw [Entry.stampedIn_of_mem now hid]
        exact .inr ⟨hnode, ⟨above, name, hdir, hnone, by rw [hself]; rfl⟩, rfl⟩
      · rw [Entry.stampedIn_of_not_mem now hid]
        exact .inl rfl
    · have hloc : loc = name :: above := by
        by_contra hloc
        rw [get?_create_of_ne hdir hloc, hold] at hnew
        cases hnew
      subst hloc
      obtain rfl := Option.some.inj (hself.symm.trans hnew)
      have hfound := lookupPlace_filled hsprouted.toKept hself rfl hmissing
      exact ⟨rfl, p, .here, find_eq_ok_iff.2 ((lookupPlace_opened _ p).directory _ _ rfl hfound)⟩
  · cases hmade

/-- One more directory behind those that were made already. -/
theorem paved_step {mid : FileTree} (h : Paved p now tree mid ∧ mid.Enclosed ∧ mid.Distinct)
    (hmade : mid.makeDirectory p now = .ok made) :
    Paved p now tree made ∧ made.Enclosed ∧ made.Distinct := by
  obtain ⟨hpaved, henclosed, hdistinct⟩ := h
  have hsprouted := (henclosed.sprouted_makeDirectory hdistinct hmade).1
  exact ⟨hpaved.trans (henclosed.paved_makeDirectory hdistinct hmade), hsprouted.enclosed,
    hsprouted.distinct⟩

/-- **Making directories paves the way**, whether all of them could be made or not. -/
theorem Enclosed.paved_makeDirectories (h : tree.Enclosed) (hdistinct : tree.Distinct) (p : Path)
    (now : Time) :
    let after := (tree.makeDirectories p now).2
    Paved p now tree after ∧ after.Enclosed ∧ after.Distinct := by
  unfold makeDirectories
  generalize p.bytes.length + 1 = fuel
  have hself (p : Path) : Paved p now tree tree ∧ tree.Enclosed ∧ tree.Distinct :=
    ⟨.refl p now tree, h, hdistinct⟩
  -- each climb is to the parent of the path, in the tree from the start
  induction fuel generalizing p with
  | zero => exact hself p
  | succ fuel ih =>
    unfold makeDirectoriesWithin
    split
    · exact hself p
    · split
      · next made hmade => exact paved_step (hself p) hmade
      · split
        · exact hself p
        · next above hparent =>
          obtain ⟨hpaved, hwell⟩ := ih above
          have hmid := And.intro (hpaved.of_parent hparent) hwell
          generalize makeDirectoriesWithin now fuel tree above = tried at hmid
          obtain ⟨result, mid⟩ := tried
          cases result with
          | error cause => exact hmid
          | ok _ =>
            dsimp only
            split
            · next made hmade => exact paved_step hmid hmade
            · exact hmid
      · exact hself p

end FileTree

end StaleBuild
