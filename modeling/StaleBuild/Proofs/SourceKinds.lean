import StaleBuild.Proofs.Bystanders
import StaleBuild.Proofs.Files.Sprouting
import StaleBuild.Proofs.Naming

/-!
# Two ways to the kind of a source

A scan takes a name for a source by how it ends, and a compilation takes a path for one by its
extension:

    the name ends in .groovy, and something is ahead of it        (Candidate.ofName?_eq_some_iff)
    the last segment of the path ends in .groovy, and something
      in the segment is ahead of it                               (Path.extension?_eq_groovy_iff)

Where a file can be read, the last segment of its path is a name, and it is the last segment of the
name below the source directory too (`lastSegment_join`). So the two agree except for a file in a
directory that is called by nothing but a suffix: it is a candidate, and no class is read from it
(`read_as_scanned_iff_based`).
-/

namespace StaleBuild

open StaleBuild.Path (Step)

/-! ## The last segment -/

namespace Path

/-- What follows the last separator. -/
def lastSegment (p : Path) : Bytes := (p.bytes.reverse.takeWhile (· ≠ separator)).reverse

variable {p q : Path} {s front : Bytes}

theorem lastSegment_suffix (p : Path) : p.lastSegment <:+ p.bytes :=
  List.rtakeWhile_suffix _ _

theorem lastSegment_append_separator (front rest : Bytes) :
    lastSegment ⟨front ++ separator :: rest⟩ = lastSegment ⟨rest⟩ := by
  have hstop : (separator :: front.reverse).takeWhile (· ≠ separator) = [] := by simp
  unfold lastSegment
  rw [List.reverse_append, List.reverse_cons, List.append_assoc, List.singleton_append,
    List.takeWhile_append, hstop]
  split
  · next hall => rw [List.append_nil, (List.takeWhile_prefix _).eq_of_length hall]
  · rfl

/-- What holds no separator is in the last segment with all that is behind it. -/
theorem lastSegment_append (front : Bytes) (h : separator ∉ s) :
    lastSegment ⟨front ++ s⟩ = lastSegment ⟨front⟩ ++ s := by
  unfold lastSegment
  rw [List.reverse_append,
    List.takeWhile_append_of_pos (decide_ne_of_notMem (List.mem_reverse.not.2 h)),
    List.reverse_append, List.reverse_reverse]

theorem lastSegment_of_separator_notMem (h : separator ∉ s) : lastSegment ⟨s⟩ = s :=
  lastSegment_append [] h

theorem getLast?_segments (p : Path) : (segments p.bytes).getLast? = some p.lastSegment := by
  obtain ⟨bytes⟩ := p
  by_cases hmem : separator ∈ bytes
  · obtain ⟨front, back, rfl, hback⟩ := exists_last_occurrence hmem
    rw [lastSegment_append_separator, lastSegment_of_separator_notMem hback,
      segments_append_separator, segments_of_separator_notMem hback, List.getLast?_concat]
  · rw [lastSegment_of_separator_notMem hmem, segments_of_separator_notMem hmem]
    rfl

/-- A path asks for a directory if there is nothing behind its last separator. -/
theorem endsInSeparator_iff (hne : p.bytes ≠ []) :
    p.endsInSeparator = true ↔ p.lastSegment = [] := by
  obtain ⟨bytes⟩ := p
  obtain ⟨front, b, rfl⟩ := (List.eq_nil_or_concat' bytes).resolve_left hne
  rw [endsInSeparator, List.getLast?_concat, decide_eq_true_eq, Option.some.injEq]
  by_cases hb : b = separator
  · subst hb
    exact iff_of_true rfl (lastSegment_append_separator front [])
  · refine iff_of_false hb ?_
    rw [lastSegment_append front (by simpa using Ne.symm hb)]
    simp

/-- The last segment is that of what is joined. -/
theorem lastSegment_join (p q : Path) : (p.join q).lastSegment = q.lastSegment := by
  cases hq : q.isAbsolute with
  | true => rw [join_of_absolute p hq]
  | false =>
    by_cases hp : p.bytes = []
    · rw [join_of_empty hp]
    · obtain ⟨front, hjoin, -⟩ := join_of_ne_empty hp hq
      have hbytes : p.join q = ⟨front ++ separator :: q.bytes⟩ := congrArg Path.mk hjoin
      rw [hbytes, lastSegment_append_separator]

/-- The last segment is the file name, if it is not idle and does not lead upwards. -/
theorem getLast?_components {c : Component} (h : componentOf? p.lastSegment = some c) :
    p.components.getLast? = some c := by
  obtain ⟨ahead, hsegments⟩ := List.getLast?_eq_some_iff.1 p.getLast?_segments
  have hnames : p.names = ahead.filterMap componentOf? ++ [c] := by
    rw [names, hsegments, List.filterMap_append, List.filterMap_cons_some h, List.filterMap_nil]
  rw [components_eq, hnames, ← List.append_assoc, List.getLast?_concat]

/-! ## Extensions -/

theorem splitName_snd_eq_some_iff {name extension : Bytes} :
    (splitName name).2 = some extension ↔
      ∃ stem, stem ≠ [] ∧ fullStop ∉ extension ∧ name = stem ++ fullStop :: extension := by
  constructor
  · intro h
    by_cases hmem : fullStop ∈ name
    · obtain ⟨stem, behind, rfl, hbehind⟩ := exists_last_occurrence hmem
      by_cases hstem : stem = []
      · subst hstem
        rw [List.nil_append, splitName_of_tail (by simpa using hbehind)] at h
        cases h
      · rw [splitName_append hstem hbehind] at h
        obtain rfl := Option.some.inj h
        exact ⟨stem, hstem, hbehind, rfl⟩
    · rw [splitName_of_tail fun htail => hmem (List.mem_of_mem_tail htail)] at h
      cases h
  · rintro ⟨stem, hstem, hextension, rfl⟩
    rw [splitName_append hstem hextension]

/-- A path whose last segment is not idle has the extension of a Groovy source exactly if the
segment ends in the suffix and has something ahead of it. -/
theorem extension?_eq_groovy_iff (h : isIdle p.lastSegment = false) :
    p.extension? = some CompilationUnit.classExtension ↔
      ∃ stem, stem ≠ [] ∧ p.lastSegment = stem ++ SourceKind.groovy.suffix := by
  have hextension : fullStop ∉ CompilationUnit.classExtension := by decide
  by_cases hup : p.lastSegment = upSegment
  · have hlast : p.components.getLast? = some .parent :=
      getLast?_components (by rw [componentOf?, h, hup]; rfl)
    have hlength : SourceKind.groovy.suffix.length = 7 := by decide
    refine iff_of_false (by simp [extension?, fileName?, hlast]) ?_
    rintro ⟨stem, -, hstem⟩
    have hlong := congrArg List.length (hup.symm.trans hstem)
    rw [List.length_append, hlength] at hlong
    exact absurd hlong (by simp [upSegment])
  · have hlast : p.components.getLast? = some (.normal p.lastSegment) :=
      getLast?_components (by rw [componentOf?, h, if_neg Bool.false_ne_true, if_neg hup])
    rw [extension?, fileName?, hlast, Option.bind_some, splitName_snd_eq_some_iff]
    simp only [hextension, not_false_eq_true, true_and]
    rfl

end Path

/-! ## Files that can be read -/

namespace FileTree

variable {tree : FileTree} {p : Path} {dir loc : Location} {steps : List Step} {e : Entry}

/-- A step that stays is taken in a directory. -/
theorem Enclosed.advance_stays (h : tree.Enclosed) (hdir : tree.isDirectoryAt dir = true)
    (hadvance : tree.advance true dir (steps ++ [.here]) = .arrived (.found loc e)) :
    e.node = .directory := by
  induction steps generalizing dir with
  | nil =>
    obtain ⟨held, hget, hnode⟩ := isDirectoryAt_iff.1 hdir
    simp only [List.nil_append, advance, hget] at hadvance
    obtain ⟨-, rfl⟩ : dir = loc ∧ held = e := by simpa using hadvance
    exact hnode
  | cons step more ih =>
    cases step with
    | here => exact ih hdir hadvance
    | up => exact ih (h.isDirectoryAt_tail hdir) hadvance
    | into name =>
      have hmore : more ++ [Step.here] ≠ [] := by simp
      simp only [List.cons_append, advance, hmore, if_false, false_and] at hadvance
      split at hadvance
      · simp at hadvance
      · split at hadvance
        · simp at hadvance
        · next found hget =>
          split at hadvance
          · next hnode => exact ih (isDirectoryAt_iff.2 ⟨found, hget, hnode⟩) hadvance
          · cases hadvance
          · simp at hadvance

theorem Enclosed.walk_stays (h : tree.Enclosed) {links : Nat}
    (hdir : tree.isDirectoryAt dir = true)
    (hwalk : tree.walk true links dir (steps ++ [.here]) = .found loc e) : e.node = .directory := by
  induction links generalizing dir steps with
  | zero =>
    simp only [walk] at hwalk
    split at hwalk
    · next hadvance => exact h.advance_stays hdir (hwalk ▸ hadvance)
    · cases hwalk
  | succ links ih =>
    simp only [walk] at hwalk
    split at hwalk
    · next hadvance => exact h.advance_stays hdir (hwalk ▸ hadvance)
    · next above target behind hadvance =>
      obtain ⟨rest, -, rfl⟩ := atLink_of_advance_append (.inr rfl) hadvance
      have habove := h.isDirectoryAt_of_standing hdir (congrArg Advance.standing? hadvance)
      exact ih (h.isDirectoryAt_start habove target) (by rwa [← List.append_assoc] at hwalk)

/-- A path that ends in an idle segment asks for a directory. -/
theorem exists_steps_of_idle (hne : p.bytes ≠ []) (hidle : Path.isIdle p.lastSegment = true) :
    ∃ front, p.steps ++ demand p = front ++ [.here] := by
  have hlast := p.getLast?_segments
  rw [Path.isIdle, Bool.or_eq_true, decide_eq_true_eq, decide_eq_true_eq] at hidle
  rcases hidle with hnone | hdot
  · exact ⟨p.steps, by rw [demand, if_pos ((Path.endsInSeparator_iff hne).2 hnone)]⟩
  · obtain ⟨ahead, hsegments⟩ := List.getLast?_eq_some_iff.1 hlast
    have hsteps : p.steps = ahead.filterMap Path.stepOf? ++ [.here] := by
      rw [Path.steps, hsegments, hdot, List.filterMap_append]
      rfl
    have hends : ¬p.endsInSeparator = true := by simp [Path.endsInSeparator_iff hne, hdot]
    exact ⟨ahead.filterMap Path.stepOf?, by rw [hsteps, demand, if_neg hends, List.append_nil]⟩

/-- What can be read is no directory, so the last segment of its path is a name or leads upwards. -/
theorem Enclosed.not_isIdle_of_read (h : tree.Enclosed) {contents : Bytes}
    (hread : tree.read p = .ok contents) : Path.isIdle p.lastSegment = false := by
  obtain ⟨loc, e, hfind, hnode⟩ : ∃ loc e, tree.find p = .ok (loc, e) ∧ e.node ≠ .directory := by
    unfold read stat at hread
    cases hfind : tree.find p with
    | error cause =>
      rw [hfind] at hread
      cases hread
    | ok found =>
      refine ⟨found.1, found.2, rfl, fun hnode => ?_⟩
      rw [hfind] at hread
      simp [Except.map, hnode] at hread
  obtain ⟨hrefusal, hwalk⟩ := find_eq_ok_iff_walk.1 hfind
  rw [← Bool.not_eq_true]
  intro hidle
  obtain ⟨front, hsteps⟩ := exists_steps_of_idle (refusal?_eq_none_iff.1 hrefusal).2.1 hidle
  rw [hsteps] at hwalk
  exact hnode (h.walk_stays (h.isDirectoryAt_startOf p) hwalk)

end FileTree

/-! ## Candidates -/

/-- No name ends in the suffixes of two kinds. -/
theorem SourceKind.eq_of_suffix {bytes : Bytes} {kind kind' : SourceKind}
    (h : kind.suffix <:+ bytes) (h' : kind'.suffix <:+ bytes) : kind = kind' := by
  have hlast := (getLast?_of_suffix h (List.cons_ne_nil _ _)).symm.trans
    (getLast?_of_suffix h' (List.cons_ne_nil _ _))
  revert hlast
  cases kind <;> cases kind' <;> decide

/-- Nothing stands ahead of a suffix in a suffix. -/
theorem SourceKind.eq_nil_of_append_suffix {bytes : Bytes} {kind kind' : SourceKind}
    (h : bytes ++ kind.suffix = kind'.suffix) : bytes = [] := by
  obtain rfl : kind = kind' := eq_of_suffix (h ▸ List.suffix_append _ _) (List.suffix_refl _)
  exact List.append_left_eq_self.1 h

theorem SourceKind.suffix_of_ofName? {name : Path} {kind : SourceKind}
    (h : ofName? name = some kind) : kind.suffix <:+ name.bytes := by
  unfold ofName? at h
  have hfound := List.find?_some h
  exact List.isSuffixOf_iff_suffix.1 hfound

theorem SourceKind.ofName?_eq_some_iff {name : Path} {kind : SourceKind} :
    ofName? name = some kind ↔ kind.suffix <:+ name.bytes := by
  refine ⟨suffix_of_ofName?, fun h => ?_⟩
  have hkind : kind ∈ all := by cases kind <;> decide
  cases hfind : ofName? name with
  | none => exact absurd (List.isSuffixOf_iff_suffix.2 h) (List.find?_eq_none.1 hfind kind hkind)
  | some found => rw [eq_of_suffix (suffix_of_ofName? hfind) h]

namespace Candidate

variable {c : Candidate} {name : Path}

/-- **A name is read as the candidate that it is the name of.** -/
theorem ofName?_eq_some_iff : ofName? name = some c ↔ c.name = name := by
  refine ⟨name_of_ofName?, ?_⟩
  rintro rfl
  have hkind : SourceKind.ofName? c.name = some c.kind :=
    SourceKind.ofName?_eq_some_iff.2 (List.suffix_append _ _)
  have hbase : c.name.bytes.take (c.name.bytes.length - c.kind.suffix.length) = c.base := by
    rw [name, List.length_append, Nat.add_sub_cancel, List.take_left]
  unfold ofName?
  rw [hkind]
  simp [hbase, c.base_ne_nil]

theorem separator_notMem_suffix (kind : SourceKind) : Path.separator ∉ kind.suffix := by
  cases kind <;> decide

theorem lastSegment_name (c : Candidate) : c.name.lastSegment = c.simpleBase ++ c.kind.suffix :=
  Path.lastSegment_append c.base (separator_notMem_suffix c.kind)

/-- A last segment is a suffix with something ahead of it exactly if the name is a candidate whose
base does not end in a separator. -/
theorem exists_stem_iff {kind : SourceKind} :
    (∃ stem, stem ≠ [] ∧ name.lastSegment = stem ++ kind.suffix) ↔
      ∃ c, ofName? name = some c ∧ c.kind = kind ∧ c.simpleBase ≠ [] := by
  constructor
  · rintro ⟨stem, hstem, hlast⟩
    have hsuffix : kind.suffix <:+ name.lastSegment := ⟨stem, hlast.symm⟩
    obtain ⟨base, hbase⟩ := hsuffix.trans name.lastSegment_suffix
    obtain rfl : name = ⟨base ++ kind.suffix⟩ := congrArg Path.mk hbase.symm
    rw [Path.lastSegment_append base (separator_notMem_suffix kind),
      List.append_cancel_right_eq] at hlast
    have hne : base ≠ [] := by
      rintro rfl
      exact hstem hlast.symm
    exact ⟨⟨kind, base, hne⟩, ofName?_eq_some_iff.2 rfl, rfl,
      fun hnil => hstem (hlast.symm.trans hnil)⟩
  · rintro ⟨c, hc, rfl, hbased⟩
    exact ⟨c.simpleBase, hbased, name_of_ofName? hc ▸ c.lastSegment_name⟩

theorem simpleBase_eq_nil {kind : SourceKind} (hc : ofName? name = some c)
    (hlast : name.lastSegment = kind.suffix) : c.simpleBase = [] := by
  rw [← name_of_ofName? hc, lastSegment_name] at hlast
  exact SourceKind.eq_nil_of_append_suffix hlast

/-- A name that ends in a segment that is a suffix is a candidate unless it is that suffix. -/
theorem ofName?_eq_none_iff {kind : SourceKind} (hlast : name.lastSegment = kind.suffix) :
    ofName? name = none ↔ name.bytes = kind.suffix := by
  constructor
  · intro hnone
    obtain ⟨base, hbase⟩ := name.lastSegment_suffix
    rw [hlast] at hbase
    by_cases hnil : base = []
    · rw [← hbase, hnil, List.nil_append]
    · have hc : ofName? name = some ⟨kind, base, hnil⟩ :=
        ofName?_eq_some_iff.2 (congrArg Path.mk hbase)
      rw [hc] at hnone
      cases hnone
  · intro hbytes
    rw [Option.eq_none_iff_forall_ne_some]
    intro c hc
    have hname := (congrArg Path.bytes (name_of_ofName? hc)).trans hbytes
    exact c.base_ne_nil (SourceKind.eq_nil_of_append_suffix hname)

end Candidate

/-! ## Classes -/

namespace CompilationUnit

variable {σ : Type} {u : CompilationUnit σ} {tree : FileTree} {source : Path} {contents : Bytes}

/-- With one more source, a unit reads just these classes besides its own. -/
def Gains (u : CompilationUnit σ) (tree : FileTree) (source : Path) (more : List ClassNode) :
    Prop :=
  ((u.addSources [source]).loadClasses tree).classes = (u.loadClasses tree).classes ++ more

theorem gains_iff {more : List ClassNode} :
    u.Gains tree source more ↔ more = (loadedClass? tree source).toList := by
  have hsources : [source].filterMap (loadedClass? tree) = (loadedClass? tree source).toList := by
    cases h : loadedClass? tree source <;> simp [h]
  rw [Gains, loadClasses, addSources, List.filterMap_append, hsources, ← List.append_assoc,
    loadClasses, List.append_cancel_left_eq, eq_comm]

theorem loadedClass?_of_read (hread : tree.read source = .ok contents) :
    loadedClass? tree source = if source.extension? = some classExtension
      then some (.plain (ClassNode.nameOf source contents) source) else none := by
  rw [loadedClass?, ClassNode.ofSource, hread]
  rfl

theorem gains_class_iff (hread : tree.read source = .ok contents) :
    u.Gains tree source [.plain (ClassNode.nameOf source contents) source] ↔
      source.extension? = some classExtension := by
  rw [gains_iff, loadedClass?_of_read hread]
  split <;> simp [*]

theorem gains_nil_iff (hread : tree.read source = .ok contents) :
    u.Gains tree source [] ↔ source.extension? ≠ some classExtension := by
  rw [gains_iff, loadedClass?_of_read hread]
  split <;> simp [*]

end CompilationUnit

open CompilationUnit

variable {σ : Type} {tree : FileTree} {sourceDir name : Path} {contents : Bytes}

/-- A file that can be read has the extension of a Groovy source exactly if its name is a Groovy
candidate whose base does not end in a separator. -/
theorem extension?_join_iff (htree : tree.Enclosed)
    (hread : tree.read (sourceDir.join name) = .ok contents) :
    (sourceDir.join name).extension? = some classExtension ↔
      ∃ c, Candidate.ofName? name = some c ∧ c.kind = .groovy ∧ c.simpleBase ≠ [] := by
  rw [Path.extension?_eq_groovy_iff (htree.not_isIdle_of_read hread), Path.lastSegment_join,
    Candidate.exists_stem_iff]

/-- **A class is read from every Groovy candidate whose base does not end in a separator**, and from
nothing else. -/
theorem read_as_scanned_iff_based (htree : tree.Enclosed)
    (hread : tree.read (sourceDir.join name) = .ok contents) (u : CompilationUnit σ) :
    (∀ c, Candidate.ofName? name = some c → c.kind = .groovy →
      (u.Gains tree (c.sourcePath sourceDir)
          [.plain (ClassNode.nameOf (c.sourcePath sourceDir) contents) (c.sourcePath sourceDir)] ↔
        c.simpleBase ≠ []) ∧
      (c.simpleBase = [] → u.Gains tree (c.sourcePath sourceDir) [])) ∧
    ((∀ c, Candidate.ofName? name = some c → c.kind ≠ .groovy) →
      u.Gains tree (sourceDir.join name) []) ∧
    ∀ kind : SourceKind, name.lastSegment = kind.suffix →
      u.Gains tree (sourceDir.join name) [] ∧
        (Candidate.ofName? name = none ↔ name.bytes = kind.suffix) := by
  have hextension := extension?_join_iff htree hread
  refine ⟨fun c hc hkind => ?_, fun hnone => (gains_nil_iff hread).2 ?_, fun kind hlast =>
    ⟨(gains_nil_iff hread).2 ?_, Candidate.ofName?_eq_none_iff hlast⟩⟩
  · have hpath : c.sourcePath sourceDir = sourceDir.join name := by
      rw [Candidate.sourcePath, Candidate.name_of_ofName? hc]
    have hbased : (sourceDir.join name).extension? = some classExtension ↔ c.simpleBase ≠ [] := by
      rw [hextension]
      simp [hc, hkind]
    rw [hpath]
    exact ⟨(gains_class_iff hread).trans hbased,
      fun hnone => (gains_nil_iff hread).2 fun h => hbased.1 h hnone⟩
  · intro h
    obtain ⟨c, hc, hkind, -⟩ := hextension.1 h
    exact hnone c hc hkind
  · intro h
    obtain ⟨c, hc, -, hbased⟩ := hextension.1 h
    exact hbased (Candidate.simpleBase_eq_nil hc hlast)

namespace Rehearsal

def sourceRoot : Path := .ofString "src"

/-- A tree whose one source has the given name below the source directory. -/
def keeping (name : Path) : FileTree :=
  (staged [.file (sourceRoot.join name) (Utf8.encode "package org\n") 20] 100).files

/-- A source in a directory of its package. -/
def packagedBook : Candidate := ⟨.groovy, Utf8.encode "org/Book", by decide⟩

/-- A source in that directory that is called by nothing but the suffix. -/
def packagedSuffix : Candidate := ⟨.groovy, Utf8.encode "org/", by decide⟩

end Rehearsal

open Rehearsal

theorem packaged_book_read :
    let path := packagedBook.sourcePath sourceRoot
    let tree := keeping packagedBook.name
    (tree.Enclosed ∧
      tree.read (sourceRoot.join packagedBook.name) = .ok (Utf8.encode "package org\n") ∧
      Candidate.ofName? packagedBook.name = some packagedBook ∧ packagedBook.kind = .groovy ∧
      packagedBook.simpleBase ≠ []) ∧
    (empty : CompilationUnit Notes).Gains tree path [.plain "org.Book" path] := by
  intro path tree
  have htree : tree.Enclosed := by decide +kernel
  have hread : tree.read (sourceRoot.join packagedBook.name) =
      .ok (Utf8.encode "package org\n") := by decide +kernel
  have hc : Candidate.ofName? packagedBook.name = some packagedBook :=
    Candidate.ofName?_eq_some_iff.2 rfl
  have hbased : packagedBook.simpleBase ≠ [] := by decide +kernel
  have hname : ClassNode.nameOf path (Utf8.encode "package org\n") = "org.Book" := by decide +kernel
  have hgains := ((read_as_scanned_iff_based htree hread (empty : CompilationUnit Notes)).1
    packagedBook hc rfl).1.2 hbased
  exact ⟨⟨htree, hread, hc, rfl, hbased⟩, hname ▸ hgains⟩

/-- A candidate whose last segment is a suffix. No class is read from it, though it can be read. -/
theorem packaged_suffix_not_read :
    let tree := keeping packagedSuffix.name
    (packagedSuffix.name = .ofString "org/.groovy" ∧
      packagedSuffix.name.lastSegment = SourceKind.groovy.suffix ∧
      (tree.read (packagedSuffix.sourcePath sourceRoot)).isOk = true) ∧
    (Candidate.ofName? packagedSuffix.name).isSome = true ∧
    (((empty : CompilationUnit Notes).addSources
      [packagedSuffix.sourcePath sourceRoot]).loadClasses tree).classes = [] := by
  decide +kernel

end StaleBuild
