import StaleBuild.Proofs.Bystanders
import StaleBuild.Proofs.Files.Making

/-!
# Building again

A build has compiled what was stale, and the compiler has done nothing but make class files. Then
the same build finds the destination, the sources and their class files as they should be and ends
without another compilation (`build_again_idle`):

    scanned —compile→ left —stamp→ after

    scanned and after have the same sources                                     (Emits.grown, discover_grown)
    a source's class file in after is stamped, recent, or was up to date        (not_outdated_again)

Where a class file stood it still stands, as it was or overwritten. Two things are asked of a build
besides. It must leave the sources alone, which fails when a source is a link to a class file. And a
place where the scan found no class file must not change to something older than the source, nor
break, which fails when an old file comes up behind a link or when a class file is made where
another one's directory should be. In all these cases the second build is not idle
(`build_again_not_idle`). And the walks of the second build must be able to open the directories that
were made, by the paths by which they come to them, or it does not come to a summary
(`not_unopened_of_build`).
-/

namespace StaleBuild

/-! ## What a compiler makes -/

/-- What a location held and what it holds, when class files and directories were made and class
files overwritten, none of them older than some times. -/
def Emitted (times : List Time) (loc : Location) (before : Option Entry) : Option Entry → Prop
  | none => before = none
  | some e =>
    before = some e ∨
    (e.node = .directory ∧ ∀ old ∈ before, old.node = .directory) ∨
    (e.node.isFile = true ∧ Location.isClassFile loc = true ∧ (∀ t ∈ times, t ≤ e.modified) ∧
      ∀ old ∈ before, old.node.isFile = true)

instance (times : List Time) (loc : Location) (before : Option Entry) :
    (after : Option Entry) → Decidable (Emitted times loc before after)
  | none => inferInstanceAs (Decidable (before = none))
  | some _ => inferInstanceAs (Decidable (_ ∨ _))

/-- A compiler made class files, not older than some times, and directories for them, or overwrote
class files, and did nothing else to a tree. -/
structure Emits (times : List Time) (tree left : FileTree) : Prop where
  current : left.current = tree.current
  emitted : ∀ loc, Emitted times loc (tree.get? loc) (left.get? loc)
  /-- In a directory that was made everything was made. -/
  within : ∀ {name dir e}, tree.get? dir = none → left.get? dir = some e →
    tree.get? (name :: dir) = none

/-- Only what one of the trees has can have been made or taken away. -/
theorem emits_iff {times : List Time} {tree left : FileTree} :
    Emits times tree left ↔ left.current = tree.current ∧
      (∀ entry ∈ tree.entries ++ left.entries,
        Emitted times entry.1 (tree.get? entry.1) (left.get? entry.1)) ∧
      ∀ entry ∈ tree.entries,
        (tree.get? entry.1.tail).isSome = true ∨ left.get? entry.1.tail = none := by
  constructor
  · rintro ⟨hcurrent, hemitted, hwithin⟩
    refine ⟨hcurrent, fun entry _ => hemitted entry.1, fun entry hentry => ?_⟩
    obtain ⟨e, he⟩ := FileTree.exists_get?_iff.2 ⟨entry.2, hentry⟩
    cases hloc : entry.1 with
    | nil => exact .inl (by rw [List.tail_nil, ← hloc, he]; rfl)
    | cons name dir =>
      rw [List.tail_cons]
      cases htree : tree.get? dir with
      | some _ => exact .inl rfl
      | none =>
        cases hleft : left.get? dir with
        | none => exact .inr rfl
        | some made =>
          rw [hloc, hwithin htree hleft] at he
          cases he
  · rintro ⟨hcurrent, hemitted, hwithin⟩
    refine ⟨hcurrent, fun loc => ?_, fun {name dir e} htree hleft => ?_⟩
    · cases htree : tree.get? loc with
      | some e =>
        have hentry := hemitted _ (List.mem_append_left _ (FileTree.get?_eq_some_mem htree))
        rwa [htree] at hentry
      | none =>
        cases hleft : left.get? loc with
        | none => exact rfl
        | some e =>
          have hentry := hemitted _ (List.mem_append_right _ (FileTree.get?_eq_some_mem hleft))
          rwa [htree, hleft] at hentry
    · cases hname : tree.get? (name :: dir) with
      | none => rfl
      | some found =>
        rcases hwithin _ (FileTree.get?_eq_some_mem hname) with h | h
        · rw [List.tail_cons, htree] at h; cases h
        · rw [List.tail_cons, hleft] at h; cases h

instance (times : List Time) (tree left : FileTree) : Decidable (Emits times tree left) :=
  decidable_of_iff _ emits_iff.symm

namespace FileTree

/-- A path shows what it showed, or something no older than a time. -/
def Upheld (tree left : FileTree) (since : Option Time) (p : Path) : Prop :=
  left.stat p = tree.stat p ∨ ∃ t ∈ left.timeOf? p, ∀ s ∈ since, s ≤ t

instance (tree left : FileTree) (since : Option Time) (p : Path) :
    Decidable (tree.Upheld left since p) := inferInstanceAs (Decidable (_ ∨ _))

theorem failure?_of_isPresent {tree : FileTree} {p : Path} (h : tree.isPresent p = true) :
    tree.failure? p = none := by
  unfold isPresent at h
  unfold failure?
  cases hstat : tree.stat p with
  | ok e => rfl
  | error cause => simp [hstat, Except.toOption] at h

theorem isPresent_of_time {tree : FileTree} {p : Path} {t : Time} (h : t ∈ tree.timeOf? p) :
    tree.isPresent p = true := by
  rw [isPresent_eq_isSome, Option.mem_def.1 h, Option.isSome_some]

namespace Upheld

variable {tree left : FileTree} {since : Option Time} {p : Path}

theorem isPresent (h : tree.Upheld left since p) (hpresent : tree.isPresent p = true) :
    left.isPresent p = true := by
  rcases h with hsame | ⟨t, ht, -⟩
  · unfold FileTree.isPresent
    rwa [hsame]
  · exact isPresent_of_time ht

theorem failure?_eq_none (h : tree.Upheld left since p) (hclear : tree.failure? p = none) :
    left.failure? p = none := by
  rcases h with hsame | ⟨t, ht, -⟩
  · unfold failure? at hclear ⊢
    rwa [hsame]
  · exact failure?_of_isPresent (isPresent_of_time ht)

end Upheld

end FileTree

namespace Emits

variable {times : List Time} {tree left after : FileTree}

/-- What was made and stamped is a tree that has grown. -/
theorem grown (h : Emits times tree left) {now : Time} {files : List FileId}
    (hstamped : Restamped now files left after) : Grown tree after := by
  have hget (loc : Location) {e : Entry} (he : after.get? loc = some e) :
      ∃ e', left.get? loc = some e' ∧ e.node = e'.node := by
    rw [hstamped.get?, Option.map_eq_some_iff] at he
    obtain ⟨e', he', rfl⟩ := he
    exact ⟨e', he', Entry.stampedIn_node ..⟩
  refine ⟨⟨hstamped.current.trans h.current, fun {loc e} he => ?_⟩, fun {loc e} hnone he => ?_,
    fun {name dir e} hnone he => ?_⟩
  · have hemitted := h.emitted loc
    rw [he] at hemitted
    cases hleft : left.get? loc with
    | none => rw [hleft] at hemitted; cases hemitted
    | some e' =>
      rw [hleft] at hemitted
      refine ⟨_, by rw [hstamped.get?, hleft]; rfl, ?_⟩
      rw [Entry.stampedIn_node]
      rcases hemitted with heq | ⟨hnode, hold⟩ | ⟨hfile, -, -, hold⟩
      · exact .inl (by rw [Option.some.inj heq])
      · exact .inl (by rw [hnode, hold e rfl])
      · exact .inr ⟨hold e rfl, hfile⟩
  · obtain ⟨e', he', hnode⟩ := hget loc he
    have hemitted := h.emitted loc
    rw [hnone, he'] at hemitted
    rw [hnode]
    rcases hemitted with heq | ⟨hdirectory, -⟩ | ⟨hfile, hclass, -⟩
    · cases heq
    · exact .inl hdirectory
    · exact .inr ⟨hfile, hclass⟩
  · obtain ⟨e', he', -⟩ := hget dir he
    exact h.within hnone he'

/-- A regular file is as it was or was overwritten. -/
theorem upheld_of_isFile (h : Emits times tree left) {p : Path} (hp : tree.isFile p = true)
    {since : Option Time} (hsince : ∀ s ∈ since, s ∈ times) : tree.Upheld left since p := by
  have hkept := (h.grown (.refl 0 left)).toKept
  unfold FileTree.isFile FileTree.stat at hp
  cases hfind : tree.find p with
  | error cause => simp [hfind, Except.map] at hp
  | ok found =>
    obtain ⟨loc, old⟩ := found
    have hfile : old.node.isFile = true := by simpa [hfind, Except.map] using hp
    obtain ⟨e, hleft, -⟩ := hkept.find_kept hfind
    have hemitted := h.emitted loc
    rw [FileTree.get?_of_find hfind, FileTree.get?_of_find hleft] at hemitted
    rcases hemitted with heq | ⟨-, hold⟩ | ⟨-, -, hrecent, -⟩
    · left
      rw [FileTree.stat, FileTree.stat, hfind, hleft, Option.some.inj heq]
    · rw [hold old rfl] at hfile
      cases hfile
    · right
      refine ⟨e.modified, ?_, fun s hs => hrecent s (hsince s hs)⟩
      simp [FileTree.timeOf?, FileTree.stat, hleft, Except.map, Except.toOption]

end Emits

/-! ## One source, scanned again -/

theorem Restamped.failure?_eq {now : Time} {files : List FileId} {tree after : FileTree}
    (h : Restamped now files tree after) (p : Path) : after.failure? p = tree.failure? p := by
  unfold FileTree.failure? FileTree.stat
  rw [h.find_eq]
  cases tree.find p <;> rfl

theorem FileTree.Reaches.of_mem {tree : FileTree} {paths : List Path} {p : Path} (hp : p ∈ paths)
    (hpresent : tree.isPresent p = true) : tree.Reaches paths p := by
  unfold isPresent stat at hpresent
  cases hfind : tree.find p with
  | error cause => simp [hfind, Except.map, Except.toOption] at hpresent
  | ok found =>
    exact ⟨_, fileId?_of_find hfind, List.mem_filterMap.2 ⟨p, hp, fileId?_of_find hfind⟩⟩

namespace Candidate

variable {c : Candidate} {tree left : FileTree} {dest : Path}

/-- The class file that counts is there if there is one. -/
theorem isPresent_outputIn (h : ∃ p ∈ c.outputs dest, tree.isPresent p = true) :
    tree.isPresent (c.outputIn tree dest) = true := by
  obtain ⟨p, hp, hpresent⟩ := h
  unfold outputIn
  split
  · assumption
  · next hmirrored =>
    rcases List.mem_cons.1 hp with rfl | hp
    · exact absurd hpresent hmirrored
    · rw [Option.mem_toList] at hp
      rw [Option.mem_def.1 hp, Option.filter_some, if_pos hpresent]
      exact hpresent

theorem outputIn_mem_lookedAt (h : tree.failure? (c.mirrored dest) = none) :
    c.outputIn tree dest ∈ c.outputsLookedAt tree dest := by
  unfold outputIn outputsLookedAt
  rw [isMissing_eq tree _ h]
  cases tree.isPresent (c.mirrored dest) with
  | true => exact .head _
  | false =>
    cases c.atRoot? dest with
    | none => exact .head _
    | some p =>
      simp only [Option.filter_some, Bool.not_false, if_true, Bool.false_eq_true, if_false]
      split
      · exact .tail _ (.head _)
      · exact .head _

theorem mem_outputs_of_lookedAt {p : Path} (hp : p ∈ c.outputsLookedAt tree dest) :
    p ∈ c.outputs dest := by
  rcases List.mem_cons.1 hp with rfl | hp
  · exact .head _
  · split at hp
    · exact .tail _ hp
    · cases hp

/-- The places where a scan looked for the class file of a candidate show what they showed, or
something no older than the source. -/
def Undisturbed (c : Candidate) (tree left : FileTree) (sourceDir dest : Path) : Prop :=
  ∀ p ∈ c.outputsLookedAt tree dest, tree.Upheld left (tree.timeOf? (c.sourcePath sourceDir)) p

namespace Undisturbed

variable {sourceDir : Path}

/-- A second scan looks nowhere else. -/
theorem mem_lookedAt (h : c.Undisturbed tree left sourceDir dest)
    (hclear : tree.failure? (c.mirrored dest) = none) {p : Path}
    (hp : p ∈ c.outputsLookedAt left dest) : p ∈ c.outputsLookedAt tree dest := by
  have hleft := (h _ (.head _)).failure?_eq_none hclear
  rcases List.mem_cons.1 hp with rfl | hp
  · exact .head _
  · refine .tail _ ?_
    rw [isMissing_eq left _ hleft] at hp
    rw [isMissing_eq tree _ hclear]
    cases htree : tree.isPresent (c.mirrored dest) with
    | true => simp [(h _ (.head _)).isPresent htree] at hp
    | false =>
      split at hp
      · exact hp
      · cases hp

/-- The class file that counts now and stands as it stood is the one that counted. -/
theorem outputIn_eq (h : c.Undisturbed tree left sourceDir dest)
    (hpresent : tree.isPresent (c.outputIn left dest) = true) :
    c.outputIn tree dest = c.outputIn left dest := by
  unfold outputIn at hpresent ⊢
  by_cases hmirrored : left.isPresent (c.mirrored dest) = true
  · rw [if_pos hmirrored] at hpresent ⊢
    rw [if_pos hpresent]
  · have htree : ¬tree.isPresent (c.mirrored dest) = true :=
      fun hold => hmirrored ((h _ (.head _)).isPresent hold)
    rw [if_neg hmirrored] at hpresent ⊢
    rw [if_neg htree]
    cases hroot : c.atRoot? dest with
    | none => rfl
    | some p =>
      rw [hroot, Option.filter_some] at hpresent
      rw [Option.filter_some, Option.filter_some]
      split at hpresent
      · next hleft =>
        rw [if_pos hleft]
        simp only [Option.getD_some] at hpresent
        rw [if_pos hpresent]
      · exact absurd hpresent htree

end Undisturbed

section
variable {after : FileTree} {sourceDir : Path} {now : Time} {stamped : List Path}

/-- A second scan fails on no file that has to do with the candidate. -/
theorem failure?_again (h : c.Undisturbed tree left sourceDir dest)
    (hstamped : Restamped now (left.fileIds stamped) left after)
    (hsource : after.stat (c.sourcePath sourceDir) = tree.stat (c.sourcePath sourceDir))
    (hclear : ∀ p ∈ c.lookedAt tree sourceDir dest, tree.failure? p = none) :
    ∀ p ∈ c.lookedAt after sourceDir dest, after.failure? p = none := by
  have houtputs : ∀ p ∈ c.outputsLookedAt tree dest, tree.failure? p = none :=
    fun p hp => hclear p (List.mem_append_left _ hp)
  have hmirrored := houtputs _ (.head _)
  have hlooked : c.outputsLookedAt after dest = c.outputsLookedAt left dest := by
    have hleft := (h _ (.head _)).failure?_eq_none hmirrored
    unfold outputsLookedAt
    rw [isMissing_eq left _ hleft, isMissing_eq after _ ((hstamped.failure?_eq _).trans hleft),
      hstamped.isPresent_eq]
  intro p hp
  rcases List.mem_append.1 hp with hp | hp
  · rw [hlooked] at hp
    have hfirst := h.mem_lookedAt hmirrored hp
    rw [hstamped.failure?_eq]
    exact (h p hfirst).failure?_eq_none (houtputs p hfirst)
  · obtain rfl := List.mem_singleton.1 hp
    have hfirst := hclear _ (List.mem_append_right _ (.head _))
    unfold FileTree.failure? at hfirst ⊢
    rwa [hsource]

/-- A second scan does not find the candidate stale: the class file that counts was stamped, is no
older than the source, or was up to date. -/
theorem not_outdated_again (h : c.Undisturbed tree left sourceDir dest)
    (hstamped : Restamped now (left.fileIds stamped) left after)
    (hsource : after.stat (c.sourcePath sourceDir) = tree.stat (c.sourcePath sourceDir))
    (hclear : ∀ p ∈ c.lookedAt tree sourceDir dest, tree.failure? p = none)
    (hpast : ∀ s ∈ tree.timeOf? (c.sourcePath sourceDir), s ≤ now)
    (hproduced : c.isOutdated tree sourceDir dest = true →
      ∃ p ∈ c.outputs dest, left.isPresent p = true)
    (hledger : c.isOutdated tree sourceDir dest = true → c.outputIn tree dest ∈ stamped) :
    c.isOutdated after sourceDir dest = false := by
  have hfirst := outputIn_mem_lookedAt (hclear _ (List.mem_append_left _ (.head _)))
  rw [Bool.eq_false_iff]
  intro hout
  obtain ⟨s, hs, hnewer⟩ := (isOutdated_iff _).1 hout
  have hs' : s ∈ tree.timeOf? (c.sourcePath sourceDir) := by
    unfold FileTree.timeOf? at hs ⊢
    rwa [hsource] at hs
  rw [hstamped.outputIn_eq] at hnewer
  -- some class file counts
  have hpresent : left.isPresent (c.outputIn left dest) = true := by
    refine isPresent_outputIn ?_
    by_cases hold : c.isOutdated tree sourceDir dest = true
    · exact hproduced hold
    · refine ⟨_, mem_outputs_of_lookedAt hfirst, (h _ hfirst).isPresent ?_⟩
      rw [isPresent_eq_isSome, Option.isSome_iff_ne_none]
      intro hnone
      exact hold ((isOutdated_iff _).2 ⟨s, hs', by simp [hnone]⟩)
  obtain ⟨t, ht⟩ : ∃ t, left.timeOf? (c.outputIn left dest) = some t := by
    rwa [isPresent_eq_isSome, Option.isSome_iff_exists] at hpresent
  rw [hstamped.timeOf?_eq, ht] at hnewer
  by_cases hreach : left.Reaches stamped (c.outputIn left dest)
  · have hlt := hnewer now (by simp [hreach])
    exact Int.not_lt.2 (hpast s hs') hlt
  · have hlt : t < s := hnewer t (by simp [hreach])
    have hmem := h.mem_lookedAt (hclear _ (List.mem_append_left _ (.head _)))
      (outputIn_mem_lookedAt ((h _ (.head _)).failure?_eq_none
        (hclear _ (List.mem_append_left _ (.head _)))))
    rcases h _ hmem with hsame | ⟨t', ht', hle⟩
    · -- it stands as it stood, so it has counted all along
      have hthere : tree.isPresent (c.outputIn left dest) = true := by
        unfold FileTree.isPresent at hpresent ⊢
        rwa [hsame] at hpresent
      have hcounted := h.outputIn_eq hthere
      by_cases hold : c.isOutdated tree sourceDir dest = true
      · exact hreach (.of_mem (hcounted ▸ hledger hold) hpresent)
      · refine hold ((isOutdated_iff _).2 ⟨s, hs', fun t' ht' => ?_⟩)
        rw [hcounted] at ht'
        have htime : tree.timeOf? (c.outputIn left dest) = some t := by
          unfold FileTree.timeOf? at ht ⊢
          rwa [hsame] at ht
        obtain rfl := Option.some.inj (htime.symm.trans ht')
        exact hlt
    · obtain rfl := Option.some.inj (ht.symm.trans ht')
      exact Int.not_lt.2 (hle s hs') hlt

end

end Candidate

/-! ## All sources, scanned again -/

/-- A scan comes to nothing when it fails nowhere and no candidate is outdated. -/
theorem staleMappings_eq_nil {tree : FileTree} {sourceDir dest : Path} {names : List Path}
    (h : ∀ c ∈ candidates names, (∀ p ∈ c.lookedAt tree sourceDir dest, tree.failure? p = none) ∧
      c.isOutdated tree sourceDir dest = false) :
    staleMappings tree sourceDir dest names = .ok [] := by
  have hfirst : firstFailure? tree sourceDir dest names = none := by
    unfold firstFailure?
    rw [List.findSome?_eq_none_iff]
    intro p hp
    obtain ⟨c, hc, hp⟩ := List.mem_flatMap.1 hp
    exact (h c hc).1 p hp
  have hnone : selection tree sourceDir dest names = [] := by
    unfold selection
    rw [List.map_eq_nil_iff, List.filter_eq_nil_iff]
    intro c hc
    simp [(h c hc).2]
  rw [staleMappings_eq, hfirst, hnone]

/-- Nothing that a scan looked at for a candidate failed. -/
theorem failure?_of_isOk {call : ScanCall} (h : call.mappings.isOk = true) {c : Candidate}
    (hc : c ∈ candidates call.names) :
    ∀ p ∈ c.lookedAt call.files call.sourceDir call.dest, call.files.failure? p = none := by
  intro p hp
  have hfirst := (mappings_of_isOk h).1
  unfold firstFailure? at hfirst
  exact List.findSome?_eq_none_iff.1 hfirst p (List.mem_flatMap.2 ⟨c, hc, hp⟩)

/-- The candidates below a directory of a tree that grew are those that were there. -/
theorem Relisted.mem_candidates {tree : FileTree} {old new : List Path} (h : Relisted tree old new)
    {c : Candidate} (hc : c ∈ candidates new) : c ∈ candidates old := by
  obtain ⟨name, hname, hcandidate⟩ := List.mem_filterMap.1 hc
  rcases h.sources name hname with hold | hnone
  · exact List.mem_filterMap.2 ⟨name, hold, hcandidate⟩
  · rw [hnone] at hcandidate; cases hcandidate

/-- The call for a directory, when the tree has grown and no source of the directory is stale. -/
theorem ofDir_again {tree after : FileTree} (h : Grown tree after) {dest dir : Path}
    (hopens : ∀ loc p cause, ¬Unopened tree after dir loc p cause)
    {call : ScanCall} (hcall : ScanCall.ofDir tree dest dir = .ok call)
    (hagain : ∀ c ∈ candidates call.names, (∀ p ∈ c.lookedAt after dir dest,
      after.failure? p = none) ∧ c.isOutdated after dir dest = false) :
    ∃ call', ScanCall.ofDir after dest dir = .ok call' ∧ call'.batch = [] ∧
      (tree.Distinct → call.names.length ≤ call'.names.length) := by
  obtain ⟨hdir, old, hold, -, rfl⟩ := ofDir_eq_ok_iff.1 hcall
  obtain ⟨new, hnew, hrelisted⟩ := h.discover_grown hopens hold
  have hnil : staleMappings after dir dest new = .ok [] :=
    staleMappings_eq_nil fun c hc => hagain c (hrelisted.mem_candidates hc)
  refine ⟨⟨after, dir, dest, new⟩, ofDir_eq_ok_iff.2
    ⟨h.isDirectory_kept hdir, new, hnew, by rw [hnil]; rfl, rfl⟩, ?_, hrelisted.length⟩
  simp [ScanCall.batch, ScanCall.mappings, hnil, Except.toOption]

/-- A traversal that comes to an end has a result for its first element and results for the others. -/
theorem mapM_cons_eq_ok_iff {α β ε : Type} {f : α → Except ε β} {x : α} {xs : List α}
    {ys : List β} :
    (x :: xs).mapM f = .ok ys ↔
      ∃ y rest, f x = .ok y ∧ xs.mapM f = .ok rest ∧ y :: rest = ys := by
  rw [List.mapM_cons]
  cases f x with
  | error e => simp [bind, Except.bind]
  | ok y => cases xs.mapM f <;> simp [bind, Except.bind, pure, Except.pure]

/-- The calls for all directories then. -/
theorem mapM_ofDir_again {tree after : FileTree} {dest : Path} {dirs : List Path}
    {calls : List ScanCall} (h : dirs.mapM (ScanCall.ofDir tree dest) = .ok calls)
    (hstep : ∀ dir ∈ dirs, ∀ call, ScanCall.ofDir tree dest dir = .ok call →
      ∃ call', ScanCall.ofDir after dest dir = .ok call' ∧ call'.batch = [] ∧
        (tree.Distinct → call.names.length ≤ call'.names.length)) :
    ∃ calls', dirs.mapM (ScanCall.ofDir after dest) = .ok calls' ∧
      calls'.flatMap ScanCall.batch = [] ∧
      (tree.Distinct →
        (calls.flatMap ScanCall.names).length ≤ (calls'.flatMap ScanCall.names).length) := by
  induction dirs generalizing calls with
  | nil =>
    obtain rfl : [] = calls := by simpa [pure, Except.pure] using h
    exact ⟨[], rfl, rfl, fun _ => Nat.le_refl 0⟩
  | cons dir rest ih =>
    obtain ⟨call, more, hcall, hcalls, rfl⟩ := mapM_cons_eq_ok_iff.1 h
    obtain ⟨call', hcall', hbatch, hlength⟩ := hstep dir (.head _) call hcall
    obtain ⟨more', hmore', hbatches, hlengths⟩ :=
      ih hcalls fun dir hdir => hstep dir (.tail _ hdir)
    refine ⟨call' :: more', mapM_cons_eq_ok_iff.2 ⟨_, _, hcall', hmore', rfl⟩,
      by simp [hbatch, hbatches], fun hdistinct => ?_⟩
    have hle := hlength hdistinct
    have hles := hlengths hdistinct
    simp only [List.flatMap_cons, List.length_append]
    omega

/-- Each directory has its call. -/
theorem exists_call_of_mapM {tree : FileTree} {dest dir : Path} {dirs : List Path}
    {calls : List ScanCall} (h : dirs.mapM (ScanCall.ofDir tree dest) = .ok calls)
    (hdir : dir ∈ dirs) : ∃ call ∈ calls, ScanCall.ofDir tree dest dir = .ok call := by
  induction dirs generalizing calls with
  | nil => cases hdir
  | cons first rest ih =>
    obtain ⟨call, more, hcall, hcalls, rfl⟩ := mapM_cons_eq_ok_iff.1 h
    rcases List.mem_cons.1 hdir with rfl | hdir
    · exact ⟨call, .head _, hcall⟩
    · obtain ⟨found, hfound, heq⟩ := ih hcalls hdir
      exact ⟨found, .tail _ hfound, heq⟩

/-! ## Whole builds -/

namespace BuildConfig

/-- The sources of a build, each with the source directory that it is below. -/
def sources (config : BuildConfig) (tree : FileTree) : List (Path × Candidate) :=
  config.sourceDirs.flatMap fun dir =>
    (candidates ((tree.discover dir).toOption.getD [])).map (Prod.mk dir)

variable {σ : Type}

/-- The world in which a build scans its sources. -/
def scannedWorld (config : BuildConfig) (w : World σ) : World σ :=
  (config.publishArtefacts (config.prepareDestination w).2).2

/-- The world that the compiler of a build leaves, ahead of the stamps. -/
def leftWorld (config : BuildConfig) (base : Compiler σ) (w : World σ) : World σ :=
  let (index, scanned) := config.publishArtefacts (config.prepareDestination w).2
  let run := ((config.scan scanned.files).toOption.map ScanReport.run).getD .empty
  (Execution.attempted (base.injecting (index.toOption.getD none)) config.dest run scanned).2

end BuildConfig

/-- The times of some sources. -/
def timesOf (tree : FileTree) (sources : List (Path × Candidate)) : List Time :=
  sources.filterMap fun s => tree.timeOf? (s.2.sourcePath s.1)

section
variable {σ : Type} (sources : List (Path × Candidate)) (roots : List Path) (dest : Path)

/-- The compiler of a build did what it is for, between the scan and the stamps. -/
structure Completes (scanned left : World σ) : Prop where
  /-- It made or overwrote class files no older than any source, and made directories. -/
  emits : Emits (timesOf scanned.files sources) scanned.files left.files
  /-- Every stale source has a class file then. -/
  produced : ∀ s ∈ sources, s.2.isOutdated scanned.files s.1 dest = true →
    ∃ p ∈ s.2.outputs dest, left.files.isPresent p = true
  /-- No source is later than the time of the stamps. -/
  past : ∀ t ∈ timesOf scanned.files sources, t ≤ scanned.clock

instance (scanned left : World σ) : Decidable (Completes sources dest scanned left) :=
  decidable_of_iff (_ ∧ _ ∧ _) ⟨fun ⟨emits, produced, past⟩ => ⟨emits, produced, past⟩,
    fun ⟨emits, produced, past⟩ => ⟨emits, produced, past⟩⟩

/-- And the build did no harm to a source or to the class file of another one, nor to a walk. -/
structure Settles (scanned left after : World σ) : Prop extends
    Completes sources dest scanned left where
  /-- The sources are as they were. -/
  unchanged : ∀ s ∈ sources,
    after.files.stat (s.2.sourcePath s.1) = scanned.files.stat (s.2.sourcePath s.1)
  /-- The places of their class files where no regular file stood show what they showed, or something
  no older than the source. -/
  undisturbed : ∀ s ∈ sources, ∀ p ∈ s.2.outputsLookedAt scanned.files dest,
    scanned.files.isFile p = false →
      scanned.files.Upheld left.files (scanned.files.timeOf? (s.2.sourcePath s.1)) p
  /-- No walk comes to a directory that was made by a path at which that is not found, as one that is
  too long. -/
  opened : ∀ root ∈ roots, ∀ loc p cause, ¬Unopened scanned.files after.files root loc p cause

variable {sources roots dest}

/-- A source that was scanned is in order when it is scanned again. -/
theorem Settles.scanned_again {scanned left after : World σ}
    (h : Settles sources roots dest scanned left after) {stamped : List Path}
    (hstamped : Restamped scanned.clock (left.files.fileIds stamped) left.files after.files)
    {dir : Path} {c : Candidate} (hsource : (dir, c) ∈ sources)
    (hclear : ∀ p ∈ c.lookedAt scanned.files dir dest, scanned.files.failure? p = none)
    (hrecorded : c.isOutdated scanned.files dir dest = true →
      c.outputIn scanned.files dest ∈ stamped) :
    (∀ p ∈ c.lookedAt after.files dir dest, after.files.failure? p = none) ∧
      c.isOutdated after.files dir dest = false := by
  have hsame := h.unchanged (dir, c) hsource
  have htimes : ∀ s ∈ scanned.files.timeOf? (c.sourcePath dir), s ∈ timesOf scanned.files sources :=
    fun s hs => List.mem_filterMap.2 ⟨(dir, c), hsource, hs⟩
  have hplaces : c.Undisturbed scanned.files left.files dir dest := fun p hp => by
    cases hfile : scanned.files.isFile p with
    | true => exact h.emits.upheld_of_isFile hfile htimes
    | false => exact h.undisturbed (dir, c) hsource p hp hfile
  exact ⟨Candidate.failure?_again hplaces hstamped hsame hclear,
    Candidate.not_outdated_again hplaces hstamped hsame hclear
      (fun s hs => h.past s (htimes s hs)) (h.produced (dir, c) hsource) hrecorded⟩

end

namespace BuildConfig

variable {σ : Type}

theorem mem_sources {config : BuildConfig} {tree : FileTree} {dir : Path}
    (hdir : dir ∈ config.sourceDirs) {call : ScanCall}
    (hcall : ScanCall.ofDir tree config.dest dir = .ok call) {c : Candidate}
    (hc : c ∈ candidates call.names) : (dir, c) ∈ config.sources tree := by
  obtain ⟨-, names, hnames, -, rfl⟩ := ofDir_eq_ok_iff.1 hcall
  refine List.mem_flatMap.2 ⟨dir, hdir, List.mem_map.2 ⟨c, ?_, rfl⟩⟩
  simpa [hnames, Except.toOption] using hc

theorem files_publishArtefacts (config : BuildConfig) (w : World σ) :
    (config.publishArtefacts w).2.files = w.files := by
  unfold publishArtefacts
  split
  · rfl
  · split <;> rfl

theorem artefactsBelow_eq_error_iff {tree : FileTree} {root : Path} {e : BuildError} :
    artefactsBelow tree root = .error e ↔ tree.discover root = .error e := by
  unfold artefactsBelow
  cases tree.discover root <;> simp

theorem artefactsBelow_isOk_iff {tree : FileTree} {root : Path} :
    (∃ found, artefactsBelow tree root = .ok found) ↔ ∃ names, tree.discover root = .ok names := by
  unfold artefactsBelow
  cases tree.discover root <;> simp

/-- Artefacts can be published if all roots can be walked. -/
theorem publishArtefacts_isOk_iff {config : BuildConfig} {w : World σ} :
    (∃ index, (config.publishArtefacts w).1 = .ok index) ↔
      ∀ root ∈ config.artefactRoots, ∃ names, w.files.discover root = .ok names := by
  simp only [← artefactsBelow_isOk_iff]
  unfold publishArtefacts
  by_cases hroots : config.artefactRoots = []
  · simp [hroots]
  · rw [if_neg hroots]
    cases hresources : config.artefactRoots.flatMapM (artefactsBelow w.files) with
    | ok resources => exact iff_of_true ⟨_, rfl⟩ (flatMapM_eq_ok_iff.1 hresources).1
    | error e =>
      refine iff_of_false (fun ⟨_, h⟩ => by cases h) fun hall => ?_
      cases hresources.symm.trans (flatMapM_eq_ok_iff.2 ⟨hall, rfl⟩)

/-- A destination that was made need not be made again. -/
theorem prepareDestination_again {τ : Type} {config : BuildConfig} {w prepared : World σ}
    {again : World τ} (h : Kept prepared.files again.files)
    (hprepared : config.prepareDestination w = (.ok (), prepared)) :
    config.prepareDestination again = (.ok (), again.tick) := by
  have hthere : config.dest.isEmpty = true ∨ prepared.files.isDirectory config.dest = true := by
    unfold prepareDestination at hprepared
    split at hprepared
    · cases hprepared
    · split at hprepared
      · next files hmade =>
        obtain rfl := (Prod.mk.inj hprepared).2
        exact FileTree.isDirectory_of_makeDirectories hmade
      · cases hprepared
  rcases hthere with hempty | hdirectory
  · have hrefused : FileTree.refusal? config.dest = some .notFound := by
      have hbytes : config.dest.bytes = [] := by simpa [Path.isEmpty] using hempty
      simp [FileTree.refusal?, Path.isEmpty, hbytes]
    have habsent : again.files.isPresent config.dest = false := by
      simp [FileTree.isPresent, FileTree.stat, FileTree.find, FileTree.lookup,
        FileTree.lookupWith_eq, hrefused, Except.map, Except.toOption]
    simp [prepareDestination, habsent, FileTree.makeDirectories_of_isEmpty hempty, World.tick]
  · have hagain := h.isDirectory_kept hdirectory
    simp [prepareDestination, hagain, FileTree.makeDirectories_of_isDirectory hagain, World.tick]

theorem distinct_prepareDestination (config : BuildConfig) {w : World σ}
    (h : w.files.Distinct) : (config.prepareDestination w).2.files.Distinct := by
  have hmade := h.makeDirectories config.dest w.clock
  unfold prepareDestination
  split
  · exact h
  · split
    · next heq => rw [heq] at hmade; exact hmade
    · next heq => rw [heq] at hmade; exact hmade

/-- A build that comes to compile anything compiles the run of its scan. -/
theorem build_of_scan {config : BuildConfig} (base : Compiler σ) {w prepared scanned : World σ}
    {index : Option ArtefactIndex} {report : ScanReport}
    (hprepared : config.prepareDestination w = (.ok (), prepared))
    (hpublished : config.publishArtefacts prepared = (.ok index, scanned))
    (hscan : config.scan scanned.files = .ok report) :
    config.build base w =
        ((Execution.ofRun (base.injecting index) config.dest report.run scanned).1.map
            (summary report),
          (Execution.ofRun (base.injecting index) config.dest report.run scanned).2) ∧
      config.leftWorld base w =
        (Execution.attempted (base.injecting index) config.dest report.run scanned).2 := by
  constructor
  · simp only [build, hprepared, hpublished, hscan]
    cases Execution.ofRun (base.injecting index) config.dest report.run scanned with
    | mk result behind => cases result <;> rfl
  · simp only [leftWorld, hprepared, hpublished, hscan, Except.toOption, Option.map_some,
      Option.getD_some]

/-- What a build went through that came to a summary. -/
theorem build_stages {config : BuildConfig} {base : Compiler σ} {w after : World σ}
    {summary : BuildSummary} (h : config.build base w = (.ok summary, after)) :
    ∃ prepared index calls stamped,
      config.prepareDestination w = (.ok (), prepared) ∧
      config.publishArtefacts prepared = (.ok index, config.scannedWorld w) ∧
      config.sourceDirs.mapM (ScanCall.ofDir (config.scannedWorld w).files config.dest) =
        .ok calls ∧
      summary.scanned = (calls.flatMap ScanCall.names).length ∧
      ((Run.ofCalls calls).sources ≠ [] → ∀ p ∈ (Run.ofCalls calls).outputs, p ∈ stamped) ∧
      Restamped (config.scannedWorld w).clock ((config.leftWorld base w).files.fileIds stamped)
        (config.leftWorld base w).files after.files := by
  have hbuild := h
  unfold build at hbuild
  cases hprepared : config.prepareDestination w with
  | mk result prepared =>
    cases result with
    | error e => simp [hprepared] at hbuild
    | ok _ =>
      cases hpublished : config.publishArtefacts prepared with
      | mk result scanned =>
        cases result with
        | error e => simp [hprepared, hpublished] at hbuild
        | ok index =>
          have hworld : config.scannedWorld w = scanned := by
            rw [scannedWorld, hprepared, hpublished]
          rw [hworld]
          have hscan := scan_eq_ofCalls config scanned.files
          cases hcalls : config.sourceDirs.mapM (ScanCall.ofDir scanned.files config.dest) with
          | error e =>
            rw [hcalls] at hscan
            simp [hprepared, hpublished, hscan, Except.map] at hbuild
          | ok calls =>
            rw [hcalls] at hscan
            obtain ⟨hresult, hleft⟩ := build_of_scan base hprepared hpublished hscan
            have hstamped := Execution.ofRun_restamped (base.injecting index) config.dest
              (Run.ofCalls calls) scanned
            rw [h] at hresult
            obtain ⟨hsummary, rfl⟩ := Prod.mk.inj hresult
            rw [hleft]
            refine ⟨prepared, index, calls, (Execution.attempted (base.injecting index)
              config.dest (Run.ofCalls calls) scanned).1, rfl, hpublished, rfl, ?_,
              fun hrun p hp => Execution.mem_attempted_of_output hrun hp, hstamped⟩
            cases hran : (Execution.ofRun (base.injecting index) config.dest (Run.ofCalls calls)
                scanned).1 with
            | error stopped => rw [hran] at hsummary; cases hsummary
            | ok execution =>
              rw [hran] at hsummary
              rw [Except.ok.inj hsummary]
              rfl

/-- A build that comes to a summary has opened all directories that its walks came to. -/
theorem not_unopened_of_build {config : BuildConfig} {base : Compiler σ} {w after : World σ}
    {summary : BuildSummary} (h : config.build base w = (.ok summary, after)) {root : Path}
    (hroot : root ∈ config.sourceDirs ++ config.artefactRoots) (tree : FileTree) (loc : Location)
    (p : Path) (cause : FileError) :
    ¬Unopened tree (config.scannedWorld w).files root loc p cause := by
  obtain ⟨prepared, index, calls, stamped, -, hpublished, hcalls, -⟩ := build_stages h
  rcases List.mem_append.1 hroot with hroot | hroot
  · obtain ⟨call, -, hcall⟩ := exists_call_of_mapM hcalls hroot
    obtain ⟨-, names, hnames, -⟩ := ofDir_eq_ok_iff.1 hcall
    exact not_unopened_of_discover hnames
  · have hscanned : (config.scannedWorld w).files = prepared.files := by
      have hfiles := files_publishArtefacts config prepared
      rwa [hpublished] at hfiles
    obtain ⟨names, hnames⟩ :=
      publishArtefacts_isOk_iff.1 ⟨index, congrArg Prod.fst hpublished⟩ root hroot
    rw [hscanned]
    exact not_unopened_of_discover hnames

end BuildConfig

/-! ## A rehearsal -/

namespace Rehearsal

def srcDir : Path := .ofString "src"

/-- A project below `src` that is built into a directory by a compiler that makes some files. -/
structure Trial where
  entries : List PlannedEntry
  dest : Path
  writes : List PlannedEntry

namespace Trial

variable (t : Trial)

def stage : Stage := staged t.entries 100

def config : BuildConfig := ⟨[srcDir], t.dest, []⟩

def compiler : Compiler Notes := succeeding t.writes

def built : Except Stopped BuildSummary × Stage := t.config.build t.compiler t.stage

/-- The same build once more. -/
def builtAgain : Except Stopped BuildSummary × Stage := t.config.build t.compiler t.built.2

def scanned : Stage := t.config.scannedWorld t.stage

def left : Stage := t.config.leftWorld t.compiler t.stage

def sources : List (Path × Candidate) := t.config.sources t.scanned.files

/-- The first build succeeds and its compiler does what it is for. -/
def GoesWell : Prop :=
  t.built.1.map BuildSummary.state = .ok .succeeded ∧ Completes t.sources t.dest t.scanned t.left

instance : Decidable t.GoesWell := inferInstanceAs (Decidable (_ ∧ _))

end Trial

/-- A stale source, and one that is up to date with a class file at the root of a destination that
lies below the sources. The compiler makes class files for both in their packages. -/
def pageTrial : Trial :=
  ⟨[.file bookSource [] 90, .file (.ofString "src/web/Page.groovy") [] 60,
    .file (.ofString "src/out/Page.class") [] 70], .ofString "src/out",
    [.file (.ofString "src/out/org/Book.class") [] 150,
      .file (.ofString "src/out/web/Page.class") [] 150]⟩

theorem pageTrial_settles :
    Settles pageTrial.sources [srcDir] pageTrial.dest pageTrial.scanned pageTrial.left
      pageTrial.built.2 where
  toCompletes := by decide +kernel
  unchanged := by decide +kernel
  undisturbed := by decide +kernel
  opened root hroot loc p cause := by
    obtain rfl := List.mem_singleton.1 hroot
    obtain ⟨names, hnames⟩ := isOk_iff_exists.1
      (show (pageTrial.built.2.files.discover srcDir).isOk = true by decide +kernel)
    exact not_unopened_of_discover hnames

/-- A class file is made where the class file of a source would need a directory. -/
def shadowTrial : Trial :=
  ⟨[.file (.ofString "src/Pair.class/Inner.groovy") [] 90, .file pairSource [] 90], outDir,
    [.file pairOutput [] 150, .file innerOutput [] 150]⟩

/-- A source that is up to date is a link to the class file of one that is stale. -/
def linkTrial : Trial :=
  ⟨[.file pairSource [] 90, .file pairOutput [] 50, .file innerOutput [] 70,
    .link (.ofString "src/Inner.java") (.ofString "../out/Pair.class")], outDir, []⟩

/-- An old class file comes up behind a link that leads over a directory that is made. -/
def revivalTrial : Trial :=
  ⟨[.file bookSource [] 90, .file (.ofString "src/web/Pair.java") [] 90, .file bookAtRoot [] 95,
    .file (.ofString "out/old/Book.class") [] 50,
    .link (.ofString "out/org") (.ofString "web/../old")], outDir,
    [.file (.ofString "out/web/Pair.class") [] 150]⟩

theorem shadowTrial_goesWell : shadowTrial.GoesWell := by decide +kernel

theorem linkTrial_goesWell : linkTrial.GoesWell := by decide +kernel

theorem revivalTrial_goesWell : revivalTrial.GoesWell := by decide +kernel

end Rehearsal

namespace BuildConfig

variable {σ : Type}

/-! ## The second build -/

/-- **A second build is idle.** A build that came to a summary and settled is not repeated: the same
build, in any world with the files that it left, finds nothing stale, calls no compiler and leaves
the files as they are. It sees no fewer files. -/
theorem build_again_idle {τ : Type} {config : BuildConfig} {base : Compiler σ} {w after : World σ}
    {summary : BuildSummary} (hbuild : config.build base w = (.ok summary, after))
    (hsettles : Settles (config.sources (config.scannedWorld w).files)
      (config.sourceDirs ++ config.artefactRoots) config.dest (config.scannedWorld w)
      (config.leftWorld base w) after) (again : World τ) (hagain : again.files = after.files) :
    ∃ seen final, (∀ other : Compiler τ,
        config.build other again = (.ok ⟨seen, [], .idle, 0, []⟩, final)) ∧
      final.files = again.files ∧ (w.files.Distinct → summary.scanned ≤ seen) := by
  obtain ⟨prepared, index, calls, stamped, hprepared, hpublished, hcalls, hsummary, hledger,
    hstamped⟩ := build_stages hbuild
  generalize config.scannedWorld w = scanned at *
  generalize config.leftWorld base w = left at *
  have hscanned : scanned.files = prepared.files := by
    have hfiles := files_publishArtefacts config prepared
    rwa [hpublished] at hfiles
  have hgrown := hsettles.emits.grown hstamped
  -- no source of any directory is stale
  have hstep : ∀ dir ∈ config.sourceDirs, ∀ call,
      ScanCall.ofDir scanned.files config.dest dir = .ok call →
      ∃ call', ScanCall.ofDir after.files config.dest dir = .ok call' ∧ call'.batch = [] ∧
        (scanned.files.Distinct → call.names.length ≤ call'.names.length) := by
    intro dir hdir call hcall
    obtain ⟨found, hfound, hsame⟩ := exists_call_of_mapM hcalls hdir
    obtain rfl : found = call := Except.ok.inj (hsame.symm.trans hcall)
    refine ofDir_again hgrown (hsettles.opened dir (List.mem_append_left _ hdir)) hcall
      fun c hc => ?_
    have hsource := mem_sources hdir hcall hc
    obtain ⟨-, names, -, hmappings, rfl⟩ := ofDir_eq_ok_iff.1 hcall
    have hok : (ScanCall.mk scanned.files dir config.dest names).mappings.isOk = true := hmappings
    refine hsettles.scanned_again hstamped hsource (failure?_of_isOk hok hc) fun hout => ?_
    obtain ⟨name, hname, hcandidate⟩ := List.mem_filterMap.1 hc
    have hselects := (selects_iff hcandidate).2 ⟨hname, hok, hout, rfl⟩
    exact hledger (hselects.sources_ne_nil hfound) _ (hselects.output_mem hfound)
  obtain ⟨calls', hcalls', hnil, hlength⟩ := mapM_ofDir_again hcalls hstep
  -- the destination and the artefacts are as the first build left them
  have hopens : ∀ root ∈ config.artefactRoots, ∀ loc p cause,
      ¬Unopened prepared.files again.files root loc p cause := fun root hroot => by
    rw [← hscanned, hagain]
    exact hsettles.opened root (List.mem_append_right _ hroot)
  rw [hscanned, ← hagain] at hgrown
  have hprepared' := prepareDestination_again hgrown.toKept hprepared
  have hroots : ∀ root ∈ config.artefactRoots, ∃ names,
      again.tick.files.discover root = .ok names := fun root hroot => by
    obtain ⟨names, hnames⟩ :=
      publishArtefacts_isOk_iff.1 ⟨index, congrArg Prod.fst hpublished⟩ root hroot
    obtain ⟨names', hnames', -⟩ := hgrown.discover_grown (hopens root hroot) hnames
    exact ⟨names', hnames'⟩
  obtain ⟨index', hindex'⟩ := publishArtefacts_isOk_iff.2 hroots
  have hfinal : (config.publishArtefacts again.tick).2.files = again.files :=
    files_publishArtefacts config again.tick
  refine ⟨(calls'.flatMap ScanCall.names).length, (config.publishArtefacts again.tick).2,
    fun other => ?_, hfinal, fun hdistinct => ?_⟩
  · have hpublished' : config.publishArtefacts again.tick =
        (.ok index', (config.publishArtefacts again.tick).2) := by rw [← hindex']
    have hrun : Run.ofCalls calls' = .empty := by
      rw [ofCalls_eq, hnil]
      rfl
    have hscan : config.scan (config.publishArtefacts again.tick).2.files =
        .ok ⟨.empty, (calls'.flatMap ScanCall.names).length⟩ := by
      rw [hfinal, hagain, scan_eq_ofCalls, hcalls', Except.map, hrun]
    rw [(build_of_scan other hprepared' hpublished' hscan).1]
    rfl
  · rw [hsummary]
    refine hlength ?_
    have hprepares := distinct_prepareDestination config hdistinct
    rw [hprepared] at hprepares
    rwa [hscanned]

end BuildConfig

open Rehearsal

/-- With the destination below the sources the second build only sees more files. -/
theorem build_again_idle_below_sources :
    (pageTrial.built =
        (.ok ⟨3, [⟨bookSource, .ofString "src/out/org/Book.class"⟩], .succeeded, 1, []⟩,
          pageTrial.built.2) ∧
      Settles pageTrial.sources [srcDir] pageTrial.dest pageTrial.scanned pageTrial.left
        pageTrial.built.2) ∧
    pageTrial.stage.files.Distinct ∧
    ∃ seen final, (∀ other : Compiler Notes, pageTrial.config.build other pageTrial.built.2 =
        (.ok ⟨seen, [], .idle, 0, []⟩, final)) ∧
      final.files = pageTrial.built.2.files ∧ 3 ≤ seen := by
  have hresult : pageTrial.built.1 = .ok ⟨3, [⟨bookSource, .ofString "src/out/org/Book.class"⟩],
      .succeeded, 1, []⟩ := by decide +kernel
  have hbuilt : pageTrial.built = (.ok ⟨3, [⟨bookSource, .ofString "src/out/org/Book.class"⟩],
      .succeeded, 1, []⟩, pageTrial.built.2) := by rw [← hresult]
  have hdistinct : pageTrial.stage.files.Distinct := by
    unfold FileTree.Distinct
    decide +kernel
  obtain ⟨seen, final, hagain, hfiles, hseen⟩ :=
    BuildConfig.build_again_idle hbuilt pageTrial_settles pageTrial.built.2 rfl
  exact ⟨⟨hbuilt, pageTrial_settles⟩, hdistinct, seen, final, hagain, hfiles, hseen hdistinct⟩

/-- It is not enough that the compiler did what it is for: a class file can stand in the way of another
one, a source can be a link to a class file, and an old class file can come up behind a link. -/
theorem build_again_not_idle :
    (shadowTrial.GoesWell ∧ shadowTrial.builtAgain.1 =
      .error (.error (.file (.ofString "out/Pair.class/Inner.class") .notADirectory))) ∧
    (linkTrial.GoesWell ∧ linkTrial.builtAgain.1 =
      .ok ⟨2, [⟨.ofString "src/Inner.java", innerOutput⟩], .succeeded, 1, []⟩) ∧
    revivalTrial.GoesWell ∧ revivalTrial.builtAgain.1 =
      .ok ⟨2, [⟨bookSource, bookInPackage⟩], .succeeded, 1, []⟩ :=
  ⟨⟨shadowTrial_goesWell, by decide +kernel⟩, ⟨linkTrial_goesWell, by decide +kernel⟩,
    revivalTrial_goesWell, by decide +kernel⟩

end StaleBuild
