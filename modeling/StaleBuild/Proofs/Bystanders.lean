import StaleBuild.Proofs.Lockstep
import StaleBuild.Proofs.Rescan

/-!
# Sources that a build did not compile

One list of names is scanned and compiled while a source of another list, which was stale too, waits.
The compilation itself may leave everything about that source as it was; what can still make it look
compiled is the stamp, and only where it falls on the source's class file or on the source.

    after.timeOf? q = the time of the attempt   if a stamped path denotes the file of q
                      as it was                 otherwise                            (timeOf?_eq)

`bystander_selected_iff` says from this when the source is still selected. Names with different bases
record different paths except at the destination's root, where a source in a package directory
takes the class file of any source of the same simple name for its own: there, a build does clear
the staleness of a source that it did not compile (`bystander_not_selected`).
-/

namespace StaleBuild

open Execution (Exit exitOf)

/-! ## What a stamp falls on -/

namespace FileTree

/-- One of some paths denotes the file that `q` denotes. -/
def Reaches (tree : FileTree) (paths : List Path) (q : Path) : Prop :=
  ∃ id ∈ tree.fileId? q, id ∈ tree.fileIds paths

instance (tree : FileTree) (paths : List Path) (q : Path) : Decidable (tree.Reaches paths q) :=
  inferInstanceAs (Decidable (∃ id ∈ tree.fileId? q, id ∈ tree.fileIds paths))

theorem Reaches.exists_time {tree : FileTree} {paths : List Path} {q : Path}
    (h : tree.Reaches paths q) : ∃ t, tree.timeOf? q = some t := by
  obtain ⟨id, hq, -⟩ := h
  unfold fileId? at hq
  cases hfind : tree.find q with
  | error cause => simp [hfind] at hq
  | ok found => exact ⟨found.2.modified, by simp [timeOf?, stat, hfind, Except.map, Except.toOption]⟩

end FileTree

/-- A path to a stamped file shows the new time, any other path what it showed. -/
theorem Restamped.timeOf?_eq {now : Time} {paths : List Path} {tree after : FileTree}
    (h : Restamped now (tree.fileIds paths) tree after) (q : Path) :
    after.timeOf? q =
      if tree.Reaches paths q then (tree.timeOf? q).map fun _ => now else tree.timeOf? q := by
  unfold FileTree.timeOf?
  by_cases hreach : tree.Reaches paths q
  · rw [if_pos hreach]
    obtain ⟨id, hq, hid⟩ := hreach
    have hpresent := h.isPresent_eq q
    unfold FileTree.isPresent at hpresent
    cases hafter : after.stat q with
    | error cause =>
      cases hstat : tree.stat q with
      | error _ => rfl
      | ok e => simp [hafter, hstat, Except.toOption] at hpresent
    | ok e =>
      obtain ⟨id', hid', ⟨-, htime⟩ | ⟨hnot, -⟩⟩ := h.stat_cases hafter
      · cases hstat : tree.stat q with
        | error _ => simp [hafter, hstat, Except.toOption] at hpresent
        | ok old => simp [htime, Except.toOption]
      · obtain rfl : id = id' := Option.some.inj ((Option.mem_def.1 hq).symm.trans hid')
        exact absurd hid hnot
  · rw [if_neg hreach, h.stat_of_not_mem]
    intro id hq hid
    exact hreach ⟨id, hq, hid⟩

namespace Execution

variable {σ : Type}

/-- The paths that compiling a run stamps and the world ahead of the first stamp. An empty run is not
attempted. -/
def attempted (compiler : Compiler σ) (dest : Path) (run : Run) (w : World σ) :
    List Path × World σ :=
  if run.sources = [] then ([], w)
  else
    let (exit, left) := exitOf compiler run.sources dest w.tick
    (exit.stamped dest run, left)

/-- Nothing but the ledger and the destination is stamped. -/
theorem mem_attempted {compiler : Compiler σ} {dest : Path} {run : Run} {w : World σ} {p : Path}
    (h : p ∈ (attempted compiler dest run w).1) : p = dest ∨ p ∈ run.outputs := by
  unfold attempted at h
  split at h
  · cases h
  · unfold Exit.stamped at h
    rcases List.mem_append.1 h with hdest | houtput
    · split at hdest
      · exact .inl (List.mem_singleton.1 hdest)
      · cases hdest
    · exact .inr houtput

/-- The ledger of a run that is attempted is stamped. -/
theorem mem_attempted_of_output {compiler : Compiler σ} {dest : Path} {run : Run} {w : World σ}
    (hrun : run.sources ≠ []) {p : Path} (hp : p ∈ run.outputs) :
    p ∈ (attempted compiler dest run w).1 := by
  unfold attempted
  rw [if_neg hrun]
  exact List.mem_append_right _ hp

/-- Compiling a run stamps what was attempted, whatever came of it. -/
theorem ofRun_restamped (compiler : Compiler σ) (dest : Path) (run : Run) (w : World σ) :
    let (stamped, left) := attempted compiler dest run w
    Restamped w.clock (left.files.fileIds stamped) left.files
      (ofRun compiler dest run w).2.files := by
  unfold attempted
  by_cases hrun : run.sources = []
  · rw [if_pos hrun, ofRun_empty compiler dest w hrun]
    exact .refl w.clock w.files
  · rw [if_neg hrun, ofRun_eq compiler dest w hrun]
    exact stampAll_restamped _ _ w.clock

end Execution

/-! ## Class files and names -/

/-- Relative paths are written behind the same bytes. -/
theorem Path.join_of_relative (dest : Path) :
    ∃ gap : Bytes, ∀ p : Path, p.isAbsolute = false → dest.join p = ⟨dest.bytes ++ gap ++ p.bytes⟩ := by
  by_cases hend : dest.bytes = [] ∨ dest.bytes.getLast? = some separator
  · exact ⟨[], fun p hp => by simp [join, hp, hend]⟩
  · exact ⟨[separator], fun p hp => by simp [join, hp, hend]⟩

namespace Candidate

/-- The places where a class file of the candidate can be. -/
def outputs (c : Candidate) (dest : Path) : List Path :=
  c.mirrored dest :: (c.atRoot? dest).toList

theorem outputIn_mem (c : Candidate) (tree : FileTree) (dest : Path) :
    c.outputIn tree dest ∈ c.outputs dest := by
  unfold outputIn outputs
  split
  · exact .head _
  · cases c.atRoot? dest with
    | none => exact .head _
    | some p =>
      rw [Option.filter_some]
      split
      · exact .tail _ (.head _)
      · exact .head _

/-- Two trees that agree on these places agree on which one counts. -/
theorem outputIn_congr {c : Candidate} {dest : Path} {tree tree' : FileTree}
    (h : ∀ p ∈ c.outputs dest, tree.timeOf? p = tree'.timeOf? p) :
    c.outputIn tree dest = c.outputIn tree' dest := by
  have hpresent (p : Path) (hp : p ∈ c.outputs dest) : tree.isPresent p = tree'.isPresent p := by
    rw [isPresent_eq_isSome, isPresent_eq_isSome, h p hp]
  unfold outputIn
  rw [hpresent _ (.head _)]
  cases hroot : c.atRoot? dest with
  | none => rfl
  | some p => rw [Option.filter_some, Option.filter_some, hpresent p (by simp [outputs, hroot])]

/-- The class file at the destination's root, whether or not the source may have one. -/
def simpleOutput (c : Candidate) (dest : Path) : Path := dest.join ⟨c.simpleBase ++ classSuffix⟩

theorem simpleBase_of_no_separator {c : Candidate} (h : ∀ b ∈ c.base, b ≠ Path.separator) :
    c.simpleBase = c.base := by
  have hall : (c.base.reverse ++ []).takeWhile (fun b => decide (b ≠ Path.separator)) =
      c.base.reverse ++ [].takeWhile fun b => decide (b ≠ Path.separator) :=
    List.takeWhile_append_of_pos fun b hb => by simpa using h b (List.mem_reverse.1 hb)
  simp only [List.append_nil, List.takeWhile_nil] at hall
  rw [simpleBase, hall, List.reverse_reverse]

theorem ne_separator_of_mem_simpleBase {c : Candidate} {b : UInt8} (h : b ∈ c.simpleBase) :
    b ≠ Path.separator := by
  have hall := List.all_takeWhile (l := c.base.reverse) (p := fun b => decide (b ≠ Path.separator))
  simpa using List.all_eq_true.1 hall b (List.mem_reverse.1 h)

theorem rootOutput?_eq_some {c : Candidate} {out : Path} (h : c.rootOutput? = some out) :
    out = ⟨c.simpleBase ++ classSuffix⟩ := by
  unfold rootOutput? at h
  split at h
  · exact (Option.some.inj h).symm
  · cases h

/-- The class file that counts is written with the base or with what follows its last separator. -/
theorem outputIn_cases (c : Candidate) (tree : FileTree) (dest : Path) :
    c.outputIn tree dest = c.mirrored dest ∨ c.outputIn tree dest = c.simpleOutput dest := by
  unfold outputIn
  split
  · exact .inl rfl
  · cases hroot : c.atRoot? dest with
    | none => exact .inl rfl
    | some p =>
      obtain ⟨out, hout, rfl⟩ := Option.map_eq_some_iff.1 hroot
      have hp : dest.join out = c.simpleOutput dest := by
        rw [rootOutput?_eq_some hout]
        rfl
      rw [hp, Option.filter_some]
      split
      · exact .inr rfl
      · exact .inl rfl

/-- A candidate is named as the file that it was read from. -/
theorem name_of_ofName? {name : Path} {c : Candidate} (h : ofName? name = some c) : c.name = name := by
  unfold ofName? at h
  split at h
  · cases h
  · next kind hkind =>
    dsimp only at h
    split at h
    · cases h
    · obtain rfl := Option.some.inj h
      unfold SourceKind.ofName? at hkind
      have hfound := List.find?_some hkind
      have hsuffix : kind.suffix <:+ name.bytes := List.isSuffixOf_iff_suffix.1 hfound
      rw [Candidate.name, List.suffix_iff_eq_append.1 hsuffix]

/-- A relative name has a relative base. -/
theorem isAbsolute_packageOutput {name : Path} {c : Candidate} (hc : ofName? name = some c)
    (hname : name.isAbsolute = false) : c.packageOutput.isAbsolute = false := by
  obtain ⟨b, rest, hbase⟩ := List.exists_cons_of_ne_nil c.base_ne_nil
  rw [← name_of_ofName? hc] at hname
  simpa [Candidate.name, packageOutput, Path.isAbsolute, hbase] using hname

theorem isAbsolute_simple (c : Candidate) :
    (⟨c.simpleBase ++ classSuffix⟩ : Path).isAbsolute = false := by
  unfold Path.isAbsolute
  cases hsimple : c.simpleBase with
  | nil => decide
  | cons b rest =>
    have hb : b ≠ Path.separator := ne_separator_of_mem_simpleBase (by rw [hsimple]; exact .head _)
    simpa using hb

/-- No class file of a relative name is the destination itself. -/
theorem outputIn_ne_dest {name : Path} {c : Candidate} (hc : ofName? name = some c)
    (hname : name.isAbsolute = false) (tree : FileTree) (dest : Path) :
    c.outputIn tree dest ≠ dest := by
  obtain ⟨gap, hjoin⟩ := Path.join_of_relative dest
  have hlong (bytes : Bytes) : (⟨dest.bytes ++ gap ++ (bytes ++ classSuffix)⟩ : Path) ≠ dest := by
    intro heq
    have hlength := congrArg (fun p : Path => p.bytes.length) heq
    have hsuffix : classSuffix.length = 6 := by decide
    simp only [List.length_append, hsuffix] at hlength
    omega
  rcases c.outputIn_cases tree dest with hout | hout
  · rw [hout, mirrored, hjoin _ (isAbsolute_packageOutput hc hname)]
    exact hlong c.base
  · rw [hout, simpleOutput, hjoin _ c.isAbsolute_simple]
    exact hlong c.simpleBase

/-- Two relative names with different bases have one class file only at the destination's root,
and then the same simple name. -/
theorem simpleBase_eq_of_outputIn_eq {name₁ name₂ : Path} {c₁ c₂ : Candidate}
    (hc₁ : ofName? name₁ = some c₁) (hc₂ : ofName? name₂ = some c₂)
    (hname₁ : name₁.isAbsolute = false) (hname₂ : name₂.isAbsolute = false)
    (hbases : c₁.base ≠ c₂.base) {tree₁ tree₂ : FileTree} {dest : Path}
    (hsame : c₁.outputIn tree₁ dest = c₂.outputIn tree₂ dest) :
    c₁.simpleBase = c₂.simpleBase ∧ c₂.outputIn tree₂ dest = c₂.simpleOutput dest := by
  obtain ⟨gap, hjoin⟩ := Path.join_of_relative dest
  have hmirrored₁ : c₁.mirrored dest = ⟨dest.bytes ++ gap ++ (c₁.base ++ classSuffix)⟩ :=
    hjoin _ (isAbsolute_packageOutput hc₁ hname₁)
  have hmirrored₂ : c₂.mirrored dest = ⟨dest.bytes ++ gap ++ (c₂.base ++ classSuffix)⟩ :=
    hjoin _ (isAbsolute_packageOutput hc₂ hname₂)
  have hsimple₁ : c₁.simpleOutput dest = ⟨dest.bytes ++ gap ++ (c₁.simpleBase ++ classSuffix)⟩ :=
    hjoin _ c₁.isAbsolute_simple
  have hsimple₂ : c₂.simpleOutput dest = ⟨dest.bytes ++ gap ++ (c₂.simpleBase ++ classSuffix)⟩ :=
    hjoin _ c₂.isAbsolute_simple
  rcases c₁.outputIn_cases tree₁ dest with h₁ | h₁ <;>
    rcases c₂.outputIn_cases tree₂ dest with h₂ | h₂ <;>
    simp only [h₁, h₂, hmirrored₁, hmirrored₂, hsimple₁, hsimple₂, Path.mk.injEq,
      List.append_cancel_left_eq, List.append_cancel_right_eq] at hsame
  · exact absurd hsame hbases
  · -- the first one lies at the root as it is
    refine ⟨?_, h₂⟩
    rw [← hsame]
    exact simpleBase_of_no_separator fun b hb => ne_separator_of_mem_simpleBase (hsame ▸ hb)
  · -- the second one does
    have hflat : c₂.simpleBase = c₂.base :=
      simpleBase_of_no_separator fun b hb => ne_separator_of_mem_simpleBase (hsame ▸ hb)
    refine ⟨hsame.trans hflat.symm, ?_⟩
    rw [h₂, hmirrored₂, hsimple₂, hflat]
  · exact ⟨hsame, h₂⟩

end Candidate

/-! ## A rehearsal -/

namespace Rehearsal

def flatName : Path := .ofString "Book.groovy"

def pairName : Path := .ofString "Pair.java"

/-- A name in a directory that is called like a class file. -/
def innerName : Path := .ofString "Pair.class/Inner.java"

/-- Two stale sources of one simple name with the class file of the one outside any package, and a
stale source of another name. -/
def shelfStage : Stage :=
  staged [.file (.ofString "src/Book.groovy") [] 60, .file bookSource [] 90,
    .file bookAtRoot [] 50, .file pairSource [] 60] 100

def pairWrites : List PlannedEntry := [.file pairOutput [] 150]

/-- A scan of some of the sources. -/
def shelfCall (names : List Path) : ScanCall := ⟨shelfStage.files, .ofString "src", outDir, names⟩

/-- Scanning some of the sources and compiling them. -/
def shelfRun (names : List Path) (writes : List PlannedEntry) : Except Stopped Execution × Stage :=
  Execution.ofRun (succeeding writes) outDir (Run.ofCalls [shelfCall names]) shelfStage

/-- What is stamped then, and the files ahead of it. -/
def shelfAttempt (names : List Path) (writes : List PlannedEntry) : List Path × Stage :=
  Execution.attempted (succeeding writes) outDir (Run.ofCalls [shelfCall names]) shelfStage

theorem ofRun_shelfCall (names : List Path) (writes : List PlannedEntry) :
    Execution.ofRun (succeeding writes) outDir (Run.ofCalls [shelfCall names]) shelfStage =
      ((shelfRun names writes).1, (shelfRun names writes).2) := rfl

theorem attempted_shelfCall (names : List Path) (writes : List PlannedEntry) :
    Execution.attempted (succeeding writes) outDir (Run.ofCalls [shelfCall names]) shelfStage =
      ((shelfAttempt names writes).1, (shelfAttempt names writes).2) := rfl

/-- The source in the package has the class file of the other one for its own. -/
theorem shelfCall_selects : ∀ more ∈ [[], [innerName]],
    (shelfCall (bookName :: more)).Selects bookName ⟨bookSource, bookAtRoot⟩ := by
  decide +kernel

end Rehearsal

open Rehearsal

/-! ## The waiting source -/

/-- The stamps make the class file of a mapping look no older than its source. -/
def Cleared (files : FileTree) (stamped : List Path) (now : Time) (m : OutputMapping) : Prop :=
  files.Reaches stamped m.output ∧
      (files.Reaches stamped m.source ∨ ∃ s ∈ files.timeOf? m.source, s ≤ now) ∨
    files.Reaches stamped m.source ∧ ∃ t ∈ files.timeOf? m.output, now ≤ t

instance (files : FileTree) (stamped : List Path) (now : Time) (m : OutputMapping) :
    Decidable (Cleared files stamped now m) := inferInstanceAs (Decidable (_ ∨ _))

/-- Stamps clear a source that was outdated before exactly if they fall so. -/
theorem isOutdated_restamped_iff {now : Time} {stamped : List Path} {tree after : FileTree}
    (h : Restamped now (tree.fileIds stamped) tree after) {c : Candidate} {sourceDir dest : Path}
    (hout : c.isOutdated tree sourceDir dest = true) :
    c.isOutdated after sourceDir dest = true ↔
      ¬Cleared tree stamped now (c.mapping tree sourceDir dest) := by
  obtain ⟨s, hs, hnewer⟩ := (isOutdated_iff _).1 hout
  simp only [isOutdated_iff, h.outputIn_eq, h.timeOf?_eq, Cleared, Candidate.mapping,
    Option.mem_def.1 hs]
  by_cases houtput : tree.Reaches stamped (c.outputIn tree dest)
  · obtain ⟨t, ht⟩ := houtput.exists_time
    by_cases hsource : tree.Reaches stamped (c.sourcePath sourceDir) <;>
      simp [houtput, hsource, ht]
  · by_cases hsource : tree.Reaches stamped (c.sourcePath sourceDir)
    · simp [houtput, hsource]
    · simpa [houtput, hsource] using hnewer

/-- **The waiting source.** A run is scanned from some names and compiled, however that ends, while a
selected source of other names waits, and the compiler changes the time of neither the source nor
its class files. Then the scan that selected it selects it again, if it fails on no file, unless the
stamps clear it. Between names with different bases, where no stamped path denotes the source's files
under another name, they clear it only at the destination's root: a compiled source of the same simple
name was resolved to the class file there, and so was the waiting one. -/
theorem bystander_selected_iff {σ : Type} {compiler : Compiler σ} {sourceDir dest : Path}
    {compiled waiting : List Path} {w left after : World σ} {stamped : List Path}
    {result : Except Stopped Execution}
    (hattempt : Execution.attempted compiler dest
      (Run.ofCalls [⟨w.files, sourceDir, dest, compiled⟩]) w = (stamped, left))
    (hrun : Execution.ofRun compiler dest
      (Run.ofCalls [⟨w.files, sourceDir, dest, compiled⟩]) w = (result, after))
    {name : Path} {m : OutputMapping}
    (hfirst : (ScanCall.mk w.files sourceDir dest waiting).Selects name m)
    {c : Candidate} (hc : Candidate.ofName? name = some c)
    (hkept : ∀ p ∈ m.source :: c.outputs dest, left.files.timeOf? p = w.files.timeOf? p) :
    ((∃ m', (ScanCall.mk after.files sourceDir dest waiting).Selects name m') ↔
      (ScanCall.mk after.files sourceDir dest waiting).mappings.isOk = true ∧
        ¬Cleared left.files stamped w.clock m) ∧
    ((∀ other ∈ name :: compiled, other.isAbsolute = false) →
      (∀ other ∈ compiled, ∀ c₁, Candidate.ofName? other = some c₁ → c₁.base ≠ c.base) →
      ¬left.files.Reaches stamped m.source →
      (∀ p ∈ stamped, left.files.Reaches [p] m.output → p = m.output) →
      Cleared left.files stamped w.clock m →
      m.output = c.simpleOutput dest ∧ ∃ other ∈ compiled, ∃ c₁ m₁,
        (ScanCall.mk w.files sourceDir dest compiled).Selects other m₁ ∧
          Candidate.ofName? other = some c₁ ∧ c₁.simpleBase = c.simpleBase ∧
          m₁.output = m.output) := by
  have hstamped := Execution.ofRun_restamped compiler dest
    (Run.ofCalls [⟨w.files, sourceDir, dest, compiled⟩]) w
  rw [hattempt, hrun] at hstamped
  obtain ⟨hlisted, -, hout, rfl⟩ := (selects_iff hc).1 hfirst
  -- what the scan saw of the source is still there when the stamps come
  have houtput : c.outputIn w.files dest = c.outputIn left.files dest :=
    (Candidate.outputIn_congr fun p hp => hkept p (.tail _ hp)).symm
  have hsame : c.mapping w.files sourceDir dest = c.mapping left.files sourceDir dest := by
    rw [Candidate.mapping, Candidate.mapping, houtput]
  have hleft : c.isOutdated left.files sourceDir dest = true := by
    rw [← hout]
    unfold Candidate.isOutdated
    rw [hkept (c.sourcePath sourceDir) (.head _), ← houtput,
      hkept _ (.tail _ (c.outputIn_mem w.files dest))]
  refine ⟨?_, fun hnames hbases hsource hplain hcleared => ?_⟩
  · rw [hsame, ← isOutdated_restamped_iff hstamped hleft]
    constructor
    · rintro ⟨m', hagain⟩
      obtain ⟨-, hok, hout', -⟩ := (selects_iff hc).1 hagain
      exact ⟨hok, hout'⟩
    · rintro ⟨hok, hout'⟩
      exact ⟨_, (selects_iff hc).2 ⟨hlisted, hok, hout', rfl⟩⟩
  · -- of all stamped paths only the class file itself can have been the one
    obtain ⟨id, hid, hmem⟩ := (hcleared.resolve_right fun h => hsource h.1).1
    obtain ⟨p, hp, hpid⟩ := List.mem_filterMap.1 hmem
    obtain rfl : p = c.outputIn w.files dest :=
      hplain p hp ⟨id, hid, List.mem_filterMap.2 ⟨p, .head _, hpid⟩⟩
    have hpaths : (Execution.attempted compiler dest
        (Run.ofCalls [⟨w.files, sourceDir, dest, compiled⟩]) w).1 = stamped := by rw [hattempt]
    have hrecorded : c.outputIn w.files dest ∈
        (Run.ofCalls [⟨w.files, sourceDir, dest, compiled⟩]).outputs :=
      (Execution.mem_attempted (hpaths.symm ▸ hp)).resolve_left
        (Candidate.outputIn_ne_dest hc (hnames name (.head _)) w.files dest)
    rw [ofCalls_eq] at hrecorded
    obtain ⟨m₁, hm₁, houtput₁⟩ := List.mem_map.1 hrecorded
    rw [List.flatMap_singleton] at hm₁
    obtain ⟨other, c₁, hselects, hc₁, -⟩ := resolved_of_mem_batch hm₁
    have hother : other ∈ compiled := hselects.listed
    obtain ⟨-, -, -, rfl⟩ := (selects_iff hc₁).1 hselects
    obtain ⟨hsimple, hroot⟩ := Candidate.simpleBase_eq_of_outputIn_eq hc₁ hc
      (hnames other (.tail _ hother)) (hnames name (.head _)) (hbases other hother c₁ hc₁) houtput₁
    exact ⟨hroot, other, hother, c₁, _, hselects, hc₁, hsimple, houtput₁⟩

/-- The source in the package waits for its turn beside a source of another name. Beside the source of
its own simple name it does not: both have the class file at the root. -/
theorem bystander_selected_beside_pair :
    ((shelfCall [bookName]).Selects bookName ⟨bookSource, bookAtRoot⟩ ∧
      ∃ m', ((shelfCall [bookName]).on (shelfRun [pairName] []).2.files).Selects bookName m') ∧
    ∃ other ∈ [flatName], ∃ m₁, (shelfCall [flatName]).Selects other m₁ ∧
      m₁.output = bookAtRoot := by
  have hpair := bystander_selected_iff (attempted_shelfCall [pairName] [])
    (ofRun_shelfCall [pairName] []) (shelfCall_selects [] (by decide)) rfl fun _ _ => rfl
  have hflat := bystander_selected_iff (attempted_shelfCall [flatName] [])
    (ofRun_shelfCall [flatName] []) (shelfCall_selects [] (by decide)) rfl fun _ _ => rfl
  refine ⟨⟨shelfCall_selects [] (by decide), hpair.1.2 ⟨by decide +kernel, by decide +kernel⟩⟩, ?_⟩
  have hbases : ∀ other ∈ [flatName], ∀ c₁, Candidate.ofName? other = some c₁ →
      c₁.base ≠ Utf8.encode "org/Book" := by
    intro other hother c₁ hc₁
    obtain rfl := List.mem_singleton.1 hother
    obtain rfl := Option.some.inj hc₁
    decide
  obtain ⟨-, other, hother, c₁, m₁, hselects, -, -, houtput⟩ :=
    hflat.2 (by decide) hbases (by decide +kernel) (by decide +kernel) (by decide +kernel)
  exact ⟨other, hother, m₁, hselects, houtput⟩

/-- A build can lose a source that it did not compile. One that changes nothing but times clears it
when the class file of the compiled source, at the destination's root, is taken for the class file
of the one in the package. One that makes a class file where the scan of the waiting names expects a
directory breaks that scan off. -/
theorem bystander_not_selected :
    ((∀ name ∈ [flatName], name ∉ [bookName]) ∧
      (∀ base ∈ (candidates [flatName]).map Candidate.base,
        base ∉ (candidates [bookName]).map Candidate.base) ∧
      (shelfCall [bookName]).Selects bookName ⟨bookSource, bookAtRoot⟩ ∧
      (shelfAttempt [flatName] []).2.files = shelfStage.files ∧
      (shelfRun [flatName] []).1 = .ok ⟨.succeeded, 1, 1, some shelfStage.clock, []⟩ ∧
      ((shelfCall [bookName]).on (shelfRun [flatName] []).2.files).mappings = .ok [] ∧
      ¬∃ m', ((shelfCall [bookName]).on (shelfRun [flatName] []).2.files).Selects bookName m') ∧
    ((∀ name ∈ [pairName], name ∉ [bookName, innerName]) ∧
      (∀ base ∈ (candidates [pairName]).map Candidate.base,
        base ∉ (candidates [bookName, innerName]).map Candidate.base) ∧
      (shelfCall [bookName, innerName]).Selects bookName ⟨bookSource, bookAtRoot⟩ ∧
      (∀ p ∈ [bookSource, bookInPackage, bookAtRoot],
        (shelfAttempt [pairName] pairWrites).2.files.stat p = shelfStage.files.stat p) ∧
      ((shelfCall [bookName, innerName]).on (shelfRun [pairName] pairWrites).2.files).mappings =
        .error (.file (.ofString "out/Pair.class/Inner.class") .notADirectory) ∧
      ¬∃ m', ((shelfCall [bookName, innerName]).on
        (shelfRun [pairName] pairWrites).2.files).Selects bookName m') := by
  constructor
  · have hnil : ((shelfCall [bookName]).on (shelfRun [flatName] []).2.files).mappings = .ok [] := by
      decide +kernel
    exact ⟨by decide, by decide, shelfCall_selects [] (by decide), rfl, by decide +kernel, hnil,
      ScanCall.not_selects_of_nil hnil⟩
  · have herror : ((shelfCall [bookName, innerName]).on
        (shelfRun [pairName] pairWrites).2.files).mappings =
          .error (.file (.ofString "out/Pair.class/Inner.class") .notADirectory) := by
      decide +kernel
    refine ⟨by decide, by decide, shelfCall_selects [innerName] (by decide), by decide +kernel, herror, ?_⟩
    rintro ⟨m', -, hok, -⟩
    rw [herror] at hok
    cases hok

end StaleBuild
