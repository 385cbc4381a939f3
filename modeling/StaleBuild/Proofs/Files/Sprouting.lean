import StaleBuild.Proofs.Files.Continuing
import StaleBuild.Proofs.Files.Soundness

/-!
# Trees that sprout

Making a directory and those above it that are missing adds directories and changes the times of
those that they are made in. Everything else is as it was (`Sprouted`), and nothing lies below a
directory that was made for the last name of the path:

    tree.makeDirectories p now = (.ok (), made)  →  made = tree and p is there, or
        made has sprouted from tree and p leads to a bare directory              (sprouted_of_makeDirectories)

The path must not lead upwards: the parent of a path that does may lie below it.
-/

namespace StaleBuild

open StaleBuild.Path (Step)

/-- `after` has what `tree` has, with other times at directories only, and directories besides. -/
structure Sprouted (tree after : FileTree) : Prop where
  current : after.current = tree.current
  get? : ∀ {loc e}, tree.get? loc = some e →
    ∃ e', after.get? loc = some e' ∧ (e' = e ∨ e.node = .directory ∧ e'.node = .directory)
  made : ∀ {loc e}, tree.get? loc = none → after.get? loc = some e → e.node = .directory
  named : ∀ {name dir e}, tree.get? (name :: dir) = none → after.get? (name :: dir) = some e →
    ProperName name ∧ (0 : UInt8) ∉ name
  enclosed : after.Enclosed
  distinct : after.Distinct

namespace Sprouted

variable {tree mid after : FileTree}

theorem toKept (h : Sprouted tree after) : Kept tree after := by
  refine ⟨h.current, fun {loc e} he => ?_⟩
  obtain ⟨e', he', rfl | ⟨hold, hnew⟩⟩ := h.get? he
  · exact ⟨_, he', .inl rfl⟩
  · exact ⟨e', he', .inl (hnew.trans hold.symm)⟩

theorem trans (h : Sprouted tree mid) (h' : Sprouted mid after) : Sprouted tree after := by
  refine ⟨h'.current.trans h.current, fun {loc e} he => ?_, fun {loc e} hold hnew => ?_,
    fun {name dir e} hold hnew => ?_, h'.enclosed, h'.distinct⟩
  · obtain ⟨e', he', hsame⟩ := h.get? he
    obtain ⟨e'', he'', hsame'⟩ := h'.get? he'
    refine ⟨e'', he'', ?_⟩
    rcases hsame with rfl | ⟨hold, hnew⟩
    · exact hsame'
    · rcases hsame' with rfl | ⟨-, hnew'⟩
      · exact .inr ⟨hold, hnew⟩
      · exact .inr ⟨hold, hnew'⟩
  · cases hmid : mid.get? loc with
    | none => exact h'.made hmid hnew
    | some e' =>
      have hnode := h.made hold hmid
      obtain ⟨e'', he'', hsame⟩ := h'.get? hmid
      obtain rfl := Option.some.inj (he''.symm.trans hnew)
      rcases hsame with rfl | ⟨-, hnode'⟩
      · exact hnode
      · exact hnode'
  · cases hmid : mid.get? (name :: dir) with
    | none => exact h'.named hmid hnew
    | some _ => exact h.named hold hmid

/-- What is no directory is just as it was. -/
theorem get?_of_ne_directory (h : Sprouted tree after) {loc : Location} {e : Entry}
    (he : tree.get? loc = some e) (hnode : e.node ≠ .directory) : after.get? loc = some e := by
  obtain ⟨e', he', rfl | ⟨hold, -⟩⟩ := h.get? he
  · exact he'
  · exact absurd hold hnode

theorem isDirectoryAt (h : Sprouted tree after) {loc : Location}
    (hloc : tree.isDirectoryAt loc = true) : after.isDirectoryAt loc = true := by
  obtain ⟨e, he, hnode⟩ := FileTree.isDirectoryAt_iff.1 hloc
  obtain ⟨e', he', hsame⟩ := h.get? he
  refine FileTree.isDirectoryAt_iff.2 ⟨e', he', ?_⟩
  rcases hsame with rfl | ⟨-, hnode'⟩
  · exact hnode
  · exact hnode'

/-- A tree that sprouts stays as a file system has it. -/
theorem sound (h : Sprouted tree after) (htree : tree.Sound) : after.Sound := by
  refine ⟨h.enclosed, h.distinct, fun e he name hname => ?_⟩
  obtain ⟨dir, hloc⟩ := List.head?_eq_some_iff.1 hname
  obtain ⟨e', he'⟩ := FileTree.exists_get?_iff.2 ⟨e.2, he⟩
  rw [hloc] at he'
  cases hold : tree.get? (name :: dir) with
  | none => exact (h.named hold he').1
  | some _ => exact htree.properName hold

end Sprouted

/-- The directory in which a walk stands that found nothing or came to a link. -/
def Advance.standing? : Advance → Option Location
  | .arrived (.missing dir _) => some dir
  | .arrived _ => none
  | .atLink dir _ _ => some dir

namespace FileTree

variable {tree made : FileTree} {p : Path} {now : Time} {dir above : Location} {name : Bytes}

/-- A location that nothing lies directly below. -/
def Bare (tree : FileTree) (loc : Location) : Prop := ∀ name, tree.get? (name :: loc) = none

/-! ## New entries -/

/-- A walk that finds nothing or comes to a link stands in a directory. -/
theorem Enclosed.isDirectoryAt_of_standing (h : tree.Enclosed) {follow : Bool} {steps : List Step}
    (hdir : tree.isDirectoryAt dir = true)
    (hstands : (tree.advance follow dir steps).standing? = some above) :
    tree.isDirectoryAt above = true := by
  induction steps generalizing dir with
  | nil =>
    simp only [advance] at hstands
    split at hstands <;> cases hstands
  | cons step rest ih =>
    cases step with
    | here => exact ih hdir hstands
    | up => exact ih (h.isDirectoryAt_tail hdir) hstands
    | into first =>
      simp only [advance] at hstands
      split at hstands
      · cases hstands
      · split at hstands
        · split at hstands <;> cases hstands
          exact hdir
        · next e he =>
          split at hstands
          · next hnode => exact ih (isDirectoryAt_iff.2 ⟨e, he, hnode⟩) hstands
          · split at hstands <;> cases hstands
            exact hdir
          · split at hstands <;> cases hstands

theorem Enclosed.isDirectoryAt_of_walk_missing (h : tree.Enclosed) {follow : Bool} {links : Nat}
    {steps : List Step} (hdir : tree.isDirectoryAt dir = true)
    (hmissing : tree.walk follow links dir steps = .missing above name) :
    tree.isDirectoryAt above = true := by
  have hstands {dir : Location} {steps : List Step} (hdir : tree.isDirectoryAt dir = true)
      (hadvance : (tree.advance follow dir steps).standing? = some above) :
      tree.isDirectoryAt above = true := h.isDirectoryAt_of_standing hdir hadvance
  induction links generalizing dir steps with
  | zero =>
    simp only [walk] at hmissing
    split at hmissing
    · next hadvance => exact hstands hdir (by rw [hadvance, hmissing]; rfl)
    · cases hmissing
  | succ links ih =>
    simp only [walk] at hmissing
    split at hmissing
    · next hadvance => exact hstands hdir (by rw [hadvance, hmissing]; rfl)
    · next at' target rest hadvance =>
      have hat := h.isDirectoryAt_of_standing hdir (congrArg Advance.standing? hadvance)
      exact ih (h.isDirectoryAt_start hat target) hmissing

theorem Enclosed.isDirectoryAt_of_lookupPlace_missing (h : tree.Enclosed)
    (hmissing : tree.lookupPlace p = .missing above name) : tree.isDirectoryAt above = true := by
  rw [lookupPlace, lookupWith_eq] at hmissing
  cases hrefusal : refusal? p with
  | some cause => rw [hrefusal] at hmissing; cases hmissing
  | none =>
    rw [hrefusal] at hmissing
    exact h.isDirectoryAt_of_walk_missing (h.isDirectoryAt_startOf p) hmissing

/-- A step stays the last one when others come ahead of it. -/
theorem getLast?_cons_of_some {s t : Step} {steps : List Step} (h : steps.getLast? = some t) :
    (s :: steps).getLast? = some t := by
  rw [List.getLast?_cons, h, Option.getD_some]

/-- What is missing is what the last step asks for, and it is not too long. -/
theorem last_of_advance_missing {steps : List Step}
    (h : tree.advance false dir steps = .arrived (.missing above name)) :
    steps.getLast? = some (.into name) ∧ name.length ≤ nameLimit := by
  induction steps generalizing dir with
  | nil =>
    simp only [advance] at h
    split at h <;> simp at h
  | cons step rest ih =>
    cases step with
    | here => exact (ih h).imp_left getLast?_cons_of_some
    | up => exact (ih h).imp_left getLast?_cons_of_some
    | into first =>
      simp only [advance] at h
      split at h
      · simp at h
      · next hshort =>
        split at h
        · split at h
          · next hrest =>
            obtain ⟨rfl, rfl⟩ : dir = above ∧ first = name := by simpa using h
            exact ⟨by rw [hrest]; rfl, Nat.not_lt.1 hshort⟩
          · simp at h
        · split at h
          · exact (ih h).imp_left getLast?_cons_of_some
          · split at h <;> simp at h
          · split at h <;> simp at h

/-- A link is only followed ahead of the last step, unless a separator is behind it. -/
theorem last_of_advance_atLink {steps rest : List Step} {target : Path}
    (h : tree.advance false dir steps = .atLink above target rest) :
    ∃ last, rest.getLast? = some last ∧ steps.getLast? = some last := by
  induction steps generalizing dir with
  | nil =>
    simp only [advance] at h
    split at h <;> simp at h
  | cons step more ih =>
    cases step with
    | here =>
      obtain ⟨last, hrest, hsteps⟩ := ih h
      exact ⟨last, hrest, getLast?_cons_of_some hsteps⟩
    | up =>
      obtain ⟨last, hrest, hsteps⟩ := ih h
      exact ⟨last, hrest, getLast?_cons_of_some hsteps⟩
    | into first =>
      simp only [advance] at h
      split at h
      · simp at h
      · split at h
        · simp at h
        · split at h
          · obtain ⟨last, hrest, hsteps⟩ := ih h
            exact ⟨last, hrest, getLast?_cons_of_some hsteps⟩
          · split at h
            · simp at h
            · next hmore =>
              obtain ⟨-, -, rfl⟩ : dir = above ∧ _ = target ∧ more = rest := by simpa using h
              have hne : more ≠ [] := by simpa using hmore
              exact ⟨_, List.getLast?_eq_some_getLast hne,
                getLast?_cons_of_some (List.getLast?_eq_some_getLast hne)⟩
          · simp at h

theorem last_of_walk_missing {links : Nat} {steps : List Step}
    (h : tree.walk false links dir steps = .missing above name) :
    steps.getLast? = some (.into name) ∧ name.length ≤ nameLimit := by
  induction links generalizing dir steps with
  | zero =>
    simp only [walk] at h
    split at h
    · next result hresult => exact last_of_advance_missing (h ▸ hresult)
    · simp at h
  | succ links ih =>
    simp only [walk] at h
    split at h
    · next result hresult => exact last_of_advance_missing (h ▸ hresult)
    · next hlink =>
      obtain ⟨last, hrest, hsteps⟩ := last_of_advance_atLink hlink
      refine (ih h).imp_left fun hlast => ?_
      rw [List.getLast?_append, hrest, Option.some_or] at hlast
      rw [hsteps, hlast]

/-- The name of an entry about to be made is one that a path can ask for. -/
theorem properName_of_lookupPlace_missing (h : tree.lookupPlace p = .missing above name) :
    ProperName name ∧ (0 : UInt8) ∉ name := by
  rw [lookupPlace, lookupWith_eq] at h
  cases hrefusal : refusal? p with
  | some cause => rw [hrefusal] at h; cases h
  | none =>
    rw [hrefusal] at h
    obtain ⟨hlast, hshort⟩ := last_of_walk_missing h
    rw [List.append_nil] at hlast
    obtain ⟨segment, hsegment, hstep⟩ := List.mem_filterMap.1 (List.mem_of_getLast? hlast)
    obtain rfl : segment = name := Path.eq_of_stepOf? hstep
    have hzero := (refusal?_eq_none_iff.1 hrefusal).1
    exact ⟨⟨hstep, Path.separator_notMem_segment hsegment, hshort⟩,
      fun hmem => hzero (Path.subset_of_mem_segments hsegment hmem)⟩

/-- What is new lies in a directory and can be asked for, and what is old is as it was or a directory
still. -/
theorem Enclosed.sprouted (h : tree.Enclosed) {after : FileTree} (hcurrent : after.current = tree.current)
    (hget : ∀ {loc e}, tree.get? loc = some e →
      ∃ e', after.get? loc = some e' ∧ (e' = e ∨ e.node = .directory ∧ e'.node = .directory))
    (hmade : ∀ {loc e}, tree.get? loc = none → after.get? loc = some e →
      e.node = .directory ∧ tree.isDirectoryAt loc.tail = true)
    (hnamed : ∀ {name dir e}, tree.get? (name :: dir) = none → after.get? (name :: dir) = some e →
      ProperName name ∧ (0 : UInt8) ∉ name)
    (hdistinct : after.Distinct) : Sprouted tree after := by
  have hdirectory {loc : Location} (hloc : tree.isDirectoryAt loc = true) :
      after.isDirectoryAt loc = true := by
    obtain ⟨e, he, hnode⟩ := isDirectoryAt_iff.1 hloc
    obtain ⟨e', he', hsame⟩ := hget he
    refine isDirectoryAt_iff.2 ⟨e', he', ?_⟩
    rcases hsame with rfl | ⟨-, hnode'⟩
    · exact hnode
    · exact hnode'
  refine ⟨hcurrent, hget, fun hold hnew => (hmade hold hnew).1, hnamed, ⟨?_, fun e he hne => ?_⟩,
    hdistinct⟩
  · rw [hcurrent]
    exact hdirectory h.current
  · obtain ⟨e', he'⟩ := exists_get?_iff.2 ⟨e.2, he⟩
    cases hold : tree.get? e.1 with
    | none => exact hdirectory (hmade hold he').2
    | some old =>
      obtain ⟨name, dir, hloc⟩ := List.exists_cons_of_ne_nil hne
      rw [hloc] at hold ⊢
      exact hdirectory (h.isDirectoryAt_of_get? hold)

/-- A directory that is made. -/
theorem Enclosed.sprouted_put (h : tree.Enclosed) (hdistinct : tree.Distinct)
    (hdir : tree.isDirectoryAt dir = true) (hnone : tree.get? (name :: dir) = none)
    (hname : ProperName name ∧ (0 : UInt8) ∉ name) (now : Time) :
    Sprouted tree (tree.put (name :: dir) (.new .directory now)) := by
  have hother {loc : Location} (hne : loc ≠ name :: dir) :
      (tree.put (name :: dir) (.new .directory now)).get? loc = tree.get? loc := by
    rw [get?_put_of_ne _ _ hne]
    cases tree.get? loc <;> simp [Entry.new]
  refine h.sprouted rfl (fun {loc e} he => ⟨e, ?_, .inl rfl⟩) (fun {loc e} hold hnew => ?_)
    (fun {other above e} hold hnew => ?_) (hdistinct.put _ _)
  · have hloc : loc ≠ name :: dir := by
      rintro rfl
      rw [hnone] at he
      cases he
    rw [hother hloc, he]
  · by_cases hloc : loc = name :: dir
    · rw [hloc, get?_put] at hnew
      cases hnew
      exact ⟨rfl, hloc ▸ hdir⟩
    · rw [hother hloc, hold] at hnew
      cases hnew
  · by_cases hloc : other :: above = name :: dir
    · exact (List.cons.inj hloc).1 ▸ hname
    · rw [hother hloc, hold] at hnew
      cases hnew

/-- A directory with another time. -/
theorem Enclosed.sprouted_touch (h : tree.Enclosed) (hdistinct : tree.Distinct)
    (hdir : tree.isDirectoryAt dir = true) (now : Time) : Sprouted tree (tree.touch dir now) := by
  obtain ⟨e, he, hnode⟩ := isDirectoryAt_iff.1 hdir
  have htouch : tree.touch dir now = tree.put dir { e with modified := now } := by rw [touch, he]
  -- nothing is new
  have hnone {loc : Location} {new : Entry} (hold : tree.get? loc = none) :
      (tree.put dir { e with modified := now }).get? loc ≠ some new := by
    have hloc : loc ≠ dir := by
      rintro rfl
      rw [he] at hold
      cases hold
    rw [get?_put_of_ne _ _ hloc, hold]
    simp
  rw [htouch]
  refine h.sprouted rfl (fun {loc old} hold => ?_) (fun {loc new} hold hnew => absurd hnew (hnone hold))
    (fun {name dir new} hold hnew => absurd hnew (hnone hold)) (hdistinct.put _ _)
  · by_cases hloc : loc = dir
    · subst hloc
      obtain rfl := Option.some.inj (he.symm.trans hold)
      exact ⟨_, get?_put _ _ _, .inr ⟨hnode, hnode⟩⟩
    · rw [get?_put_of_ne _ _ hloc, hold]
      refine ⟨_, rfl, ?_⟩
      dsimp only
      split
      · next hshared =>
        -- another location of the directory holds the same entry
        have hsame : old = e := tree.agreeing _ (get?_eq_some_mem hold) _ (get?_eq_some_mem he)
          (by rw [hshared.2]; exact hshared.1) hshared.2
        exact .inr ⟨hsame ▸ hnode, hnode⟩
      · exact .inl rfl

/-! ## One directory -/

/-- A directory that was made is bare, and its path leads to it. -/
theorem Enclosed.sprouted_makeDirectory (h : tree.Enclosed) (hdistinct : tree.Distinct)
    (hmade : tree.makeDirectory p now = .ok made) :
    Sprouted tree made ∧ ∃ loc, made.LeadsTo p loc ∧ made.Bare loc := by
  unfold makeDirectory at hmade
  split at hmade
  · cases hmade
  · next above name hmissing =>
    obtain rfl := Except.ok.inj hmade
    have habove := h.isDirectoryAt_of_lookupPlace_missing hmissing
    have hnone := get?_of_lookupPlace_missing hmissing
    have hput := h.sprouted_put hdistinct habove hnone (properName_of_lookupPlace_missing hmissing) now
    have htouch := hput.enclosed.sprouted_touch hput.distinct (hput.isDirectoryAt habove) now
    have hsprouted : Sprouted tree (tree.create above name .directory now) := hput.trans htouch
    refine ⟨hsprouted, name :: above, ?_, fun below => ?_⟩
    · obtain ⟨e, he, hsame⟩ := htouch.get? (get?_put tree (name :: above) (.new .directory now))
      have hnode : e.node = .directory := by
        rcases hsame with rfl | ⟨-, hnode⟩
        · rfl
        · exact hnode
      have hfound := lookupPlace_filled hsprouted.toKept he hnode hmissing
      exact leadsTo_of_find
        (find_eq_ok_iff.2 ((lookupPlace_opened _ p).directory _ _ hnode hfound)) hnode
    · have hbelow := h.get?_eq_none hnone below
      obtain ⟨files, hrestamped⟩ :=
        touch_restamped (tree.put (name :: above) (.new .directory now)) above now
      rw [create, hrestamped.get?, get?_put_of_ne _ _ (by simp), hbelow]
      rfl
  · cases hmade

/-! ## Directories one in another -/

/-- Nothing that is written behind a path is there if the path leads to a bare directory. -/
theorem LeadsTo.find_ne_ok {q : Path} {loc : Location} (h : tree.LeadsTo p loc)
    (hbare : tree.Bare loc) {front back : List Step}
    (habsolute : q.isAbsolute = p.isAbsolute) (hfront : ∀ s ∈ front, s = .here)
    (hsteps : q.steps = p.steps ++ front ++ .into name :: back) (found : Location × Entry) :
    tree.find q ≠ .ok found := by
  intro hfind
  obtain ⟨left, hleft⟩ := h
  have hwalk := (find_eq_ok_iff_walk.1 hfind).2
  have hstart : startOf tree.current q = startOf tree.current p := by rw [startOf, habsolute]; rfl
  rw [hstart, hsteps, List.append_assoc, List.append_assoc, hleft,
    walk_congr (advance_here hfront _)] at hwalk
  exact walk_into_ne_found (hbare name) _ _ _ hwalk

/-- The parent of a path that does not lead upwards does not, and the path goes into a name behind
it. -/
theorem up_notMem_of_parent? {q : Path} (hup : .up ∉ p.steps) (hparent : p.parent? = some q) :
    .up ∉ q.steps ∧ (q.isEmpty = true ∨ ∃ front name back,
      p.steps = q.steps ++ front ++ .into name :: back ∧ ∀ s ∈ front, s = .here) := by
  rcases Path.steps_of_parent? hparent with ⟨front, step, back, hsteps, hheres, hstep⟩ | ⟨-, rfl⟩
  · have hsub : ∀ s ∈ q.steps ++ front ++ step :: back, s ≠ .up := by
      rintro s hs rfl
      exact hup (hsteps ▸ hs)
    obtain ⟨hahead, hbehind⟩ := List.forall_mem_append.1 hsub
    refine ⟨fun hmem => (List.forall_mem_append.1 hahead).1 _ hmem rfl, .inr ?_⟩
    cases step with
    | here => exact absurd rfl hstep
    | up => exact absurd rfl (hbehind _ (.head _))
    | into name =>
      exact ⟨front, name, back, hsteps, fun s hs => hheres s (List.mem_append_left _ hs)⟩
  · exact ⟨List.not_mem_nil, .inl rfl⟩

theorem isDirectory_iff :
    tree.isDirectory p = true ↔ ∃ loc e, tree.find p = .ok (loc, e) ∧ e.node = .directory := by
  unfold isDirectory stat
  cases tree.find p with
  | error cause => simp [Except.map]
  | ok found =>
    obtain ⟨loc, e⟩ := found
    cases hnode : e.node <;> simp [Except.map, Node.isDirectory, hnode]

/-- **What making directories with success does**: nothing, as the path is there, or it makes a bare
one that the path leads to, and directories above it. -/
theorem Enclosed.sprouted_makeDirectories (h : tree.Enclosed) (hdistinct : tree.Distinct)
    (hup : .up ∉ p.steps) (hmade : tree.makeDirectories p now = (.ok (), made)) :
    made = tree ∧ (p.isEmpty = true ∨ tree.isDirectory p = true) ∨
      Sprouted tree made ∧ ∃ loc, made.LeadsTo p loc ∧ made.Bare loc := by
  unfold makeDirectories at hmade
  generalize p.bytes.length + 1 = fuel at hmade
  induction fuel generalizing p made with
  | zero => cases hmade
  | succ fuel ih =>
    unfold makeDirectoriesWithin at hmade
    split at hmade
    · next hempty =>
      cases hmade
      exact .inl ⟨rfl, .inl hempty⟩
    · split at hmade
      · next hdirect =>
        cases hmade
        exact .inr (h.sprouted_makeDirectory hdistinct hdirect)
      · next hnone =>
        split at hmade
        · cases hmade
        · next above habove =>
          obtain ⟨hup', hsteps⟩ := up_notMem_of_parent? hup habove
          split at hmade
          · cases hmade
          · next mid hmid =>
            -- what the second attempt comes to if the first one left the tree alone
            have hsame (hmid : mid = tree) :
                made = tree ∧ (p.isEmpty = true ∨ tree.isDirectory p = true) := by
              subst hmid
              rw [hnone] at hmade
              obtain ⟨hresult, rfl⟩ := Prod.mk.inj hmade
              split at hresult
              · next hdirectory => exact ⟨rfl, .inr hdirectory⟩
              · cases hresult
            rcases hsteps with hempty | ⟨front, name, back, hsteps, hfront⟩
            · refine .inl (hsame ?_)
              cases fuel with
              | zero => cases hmid
              | succ fuel =>
                rw [makeDirectoriesWithin, if_pos hempty] at hmid
                exact (Prod.mk.inj hmid).2.symm
            · rcases ih hup' hmid with ⟨hmid, -⟩ | ⟨hsprouted, loc, hleads, hbare⟩
              · exact .inl (hsame hmid)
              · right
                split at hmade
                · next hdirect =>
                  cases hmade
                  obtain ⟨hagain, hleads'⟩ :=
                    hsprouted.enclosed.sprouted_makeDirectory hsprouted.distinct hdirect
                  exact ⟨hsprouted.trans hagain, hleads'⟩
                · obtain ⟨hresult, rfl⟩ := Prod.mk.inj hmade
                  split at hresult
                  · next hdirectory =>
                    obtain ⟨found, e, hfind, -⟩ := isDirectory_iff.1 hdirectory
                    have habsolute := (Path.isAbsolute_of_parent? habove).symm
                    exact absurd hfind (hleads.find_ne_ok hbare habsolute hfront hsteps _)
                  · cases hresult
      · obtain ⟨hresult, rfl⟩ := Prod.mk.inj hmade
        split at hresult
        · next hdirectory => exact .inl ⟨rfl, .inr hdirectory⟩
        · cases hresult

end FileTree

end StaleBuild
