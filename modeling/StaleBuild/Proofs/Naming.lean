import Mathlib.Data.List.DropRight
import StaleBuild.Artefact
import StaleBuild.CompilationUnit

/-!
# Two ways to the name of a class

A source is named by what it says and an artefact by where it lies:

    contents   package d₁.….dₖ      stem of the file Name.groovy          (nameOf)
    path       …/grails-app/kind/d₁/…/dₖ/Name.groovy                      (className?)

If the package line spells the directories below the kind, both give `d₁.….dₖ.Name`
(`className?_eq_nameOf`). The line may have blanks around the package and semicolons behind it
(`DeclaresPackage`), so a directory whose name begins or ends in them could not be spelled
(`PlainName`).
-/

namespace StaleBuild

/-! ## Trimming -/

namespace Text

theorem dropWhile_eq_self {α : Type} {p : α → Bool} {cs : List α}
    (h : ∀ c ∈ cs.head?, p c = false) : cs.dropWhile p = cs := by
  cases cs with
  | nil => rfl
  | cons c rest => exact List.dropWhile_cons_of_neg (by simpa using h c rfl)

/-- Behind an element that stays, everything ahead of it stays. -/
theorem dropWhileEnd_append_of_last {α : Type} {p : α → Bool} {front : List α}
    (hlast : ∀ c ∈ front.getLast?, p c = false) (cs : List α) :
    dropWhileEnd p (front ++ cs) = front ++ dropWhileEnd p cs := by
  unfold dropWhileEnd
  rw [List.reverse_append, List.dropWhile_append]
  split
  · next hnone =>
    rw [List.isEmpty_iff.1 hnone, dropWhile_eq_self (by simpa using hlast), List.reverse_reverse,
      List.reverse_nil, List.append_nil]
  · rw [List.reverse_append, List.reverse_reverse]

theorem dropWhileEnd_eq_nil {α : Type} {p : α → Bool} {cs : List α} (h : ∀ c ∈ cs, p c = true) :
    dropWhileEnd p cs = [] :=
  List.rdropWhile_eq_nil_iff.2 h

theorem dropWhileEnd_append {α : Type} {p : α → Bool} {cs ends : List α}
    (hends : ∀ c ∈ ends, p c = true) (hlast : ∀ c ∈ cs.getLast?, p c = false) :
    dropWhileEnd p (cs ++ ends) = cs := by
  rw [dropWhileEnd_append_of_last hlast, dropWhileEnd_eq_nil hends, List.append_nil]

/-- Trimming takes the blanks ahead of a text that begins with none, and what is behind it loses
blanks at the end only. -/
theorem trimChars_append_of_last {before front : List Char}
    (hbefore : ∀ c ∈ before, isBlank c = true) (hne : front ≠ [])
    (hfirst : ∀ c ∈ front.head?, isBlank c = false)
    (hlast : ∀ c ∈ front.getLast?, isBlank c = false) (cs : List Char) :
    trimChars (before ++ front ++ cs) = front ++ dropWhileEnd isBlank cs := by
  have hhead : (front ++ cs).head? = front.head? := List.head?_append_of_ne_nil front hne
  rw [trimChars, List.append_assoc, List.dropWhile_append_of_pos hbefore,
    dropWhile_eq_self (hhead ▸ hfirst), dropWhileEnd_append_of_last hlast]

/-- Trimming takes the blanks around a text that has none at its ends. -/
theorem trimChars_append {before cs after : List Char} (hbefore : ∀ c ∈ before, isBlank c = true)
    (hafter : ∀ c ∈ after, isBlank c = true) (hne : cs ≠ [])
    (hfirst : ∀ c ∈ cs.head?, isBlank c = false) (hlast : ∀ c ∈ cs.getLast?, isBlank c = false) :
    trimChars (before ++ cs ++ after) = cs := by
  rw [trimChars_append_of_last hbefore hne hfirst hlast, dropWhileEnd_eq_nil hafter,
    List.append_nil]

end Text

/-! ## The package that a text declares -/

/-- A name that can stand in a package line. -/
structure PlainName (name : List Char) : Prop where
  ne_nil : name ≠ []
  first : ∀ c ∈ name.head?, Text.isBlank c = false
  last : ∀ c ∈ name.getLast?, Text.isBlank c = false ∧ c ≠ ';'

/-- Plain names with full stops between them are a plain name. -/
theorem PlainName.intercalate {names : List (List Char)} (hne : names ≠ [])
    (h : ∀ name ∈ names, PlainName name) : PlainName (List.intercalate ['.'] names) := by
  induction names with
  | nil => exact absurd rfl hne
  | cons name rest ih =>
    have hname := h name List.mem_cons_self
    cases rest with
    | nil => simpa using hname
    | cons next more =>
      have hrest := ih (List.cons_ne_nil next more) fun n hn => h n (List.mem_cons_of_mem _ hn)
      rw [List.intercalate_cons_cons]
      refine ⟨by simp, fun c hc => hname.first c ?_, fun c hc => hrest.last c ?_⟩
      · rwa [List.append_assoc, List.head?_append_of_ne_nil _ hname.ne_nil] at hc
      · rwa [List.getLast?_append_of_ne_nil _ hrest.ne_nil] at hc

namespace ClassNode

/-- A line that, trimmed, begins with the keyword. -/
def IsPackageLine (line : List Char) : Prop := packageKeyword <+: Text.trimChars line

/-- A package line of a name: blanks may stand around the name and semicolons behind it. -/
def Spells (line name : List Char) : Prop :=
  ∃ gap pad semicolons,
    Text.trimChars line = packageKeyword ++ (gap ++ name ++ pad ++ semicolons) ∧
      (∀ c ∈ gap, Text.isBlank c = true) ∧ (∀ c ∈ pad, Text.isBlank c = true) ∧
      ∀ c ∈ semicolons, c = ';'

/-- The first package line of a text is one of the given directories with full stops between them; a
text for no directories has none. -/
def Declares (text : List Char) (package : List String) : Prop :=
  if package = [] then ∀ line ∈ Text.lines text, ¬IsPackageLine line
  else ∃ before line after, Text.lines text = before ++ line :: after ∧
    (∀ l ∈ before, ¬IsPackageLine l) ∧ Spells line (".".intercalate package).toList

/-- What is left of a text that stands behind a package: blanks go at its end, then semicolons, then
blanks again. -/
def withoutEnd (cs : List Char) : List Char :=
  Text.dropWhileEnd Text.isBlank (Text.dropWhileEnd (· = ';') (Text.dropWhileEnd Text.isBlank cs))

/-- Blanks may stand around some semicolons. -/
theorem withoutEnd_eq_nil {pad semicolons more : List Char}
    (hpad : ∀ c ∈ pad, Text.isBlank c = true) (hsemicolons : ∀ c ∈ semicolons, c = ';')
    (hmore : ∀ c ∈ more, Text.isBlank c = true) : withoutEnd (pad ++ semicolons ++ more) = [] := by
  unfold withoutEnd
  by_cases hnone : semicolons = []
  · have hblank : ∀ c ∈ pad ++ semicolons ++ more, Text.isBlank c = true := by
      rw [hnone, List.append_nil]
      exact List.forall_mem_append.2 ⟨hpad, hmore⟩
    rw [Text.dropWhileEnd_eq_nil hblank]
    rfl
  · have hend : ∀ c ∈ (pad ++ semicolons).getLast?, Text.isBlank c = false := by
      intro c hc
      rw [List.getLast?_append_of_ne_nil _ hnone] at hc
      rw [hsemicolons c (List.mem_of_getLast? hc)]
      decide
    have hblank : ∀ c ∈ pad.getLast?, decide (c = ';') = false := by
      intro c hc
      have hc := hpad c (List.mem_of_getLast? hc)
      refine decide_eq_false ?_
      rintro rfl
      exact absurd hc (by decide)
    rw [Text.dropWhileEnd_append hmore hend,
      Text.dropWhileEnd_append (by simpa using hsemicolons) hblank, Text.dropWhileEnd_eq_nil hpad]

/-- A package begins behind the gap, and nothing of it is lost ahead of a character that is neither
blank nor a semicolon. -/
theorem packageOf_append {gap front : List Char} (hgap : ∀ c ∈ gap, Text.isBlank c = true)
    (hfront : PlainName front) (cs : List Char) :
    packageOf (gap ++ front ++ cs) = front ++ withoutEnd cs := by
  have hblank : ∀ c ∈ front.getLast?, Text.isBlank c = false := fun c hc => (hfront.last c hc).1
  have hstop : ∀ c ∈ front.getLast?, decide (c = ';') = false := fun c hc =>
    decide_eq_false (hfront.last c hc).2
  have hempty : ∀ c ∈ ([] : List Char), Text.isBlank c = true := fun c hc => nomatch hc
  have hinner (ds : List Char) : Text.trimChars (front ++ ds) =
      front ++ Text.dropWhileEnd Text.isBlank ds := by
    simpa using Text.trimChars_append_of_last hempty hfront.ne_nil hfront.first hblank ds
  rw [packageOf, Text.trimChars_append_of_last hgap hfront.ne_nil hfront.first hblank,
    Text.dropWhileEnd_append_of_last hstop, hinner, withoutEnd]

theorem packageOf_eq {gap name pad semicolons : List Char} (hname : PlainName name)
    (hgap : ∀ c ∈ gap, Text.isBlank c = true) (hpad : ∀ c ∈ pad, Text.isBlank c = true)
    (hsemicolons : ∀ c ∈ semicolons, c = ';') :
    packageOf (gap ++ name ++ pad ++ semicolons) = name := by
  have hend : withoutEnd (pad ++ semicolons) = [] := by
    simpa using withoutEnd_eq_nil hpad hsemicolons (List.forall_mem_nil _)
  rw [List.append_assoc, packageOf_append hgap hname, hend, List.append_nil]

/-- The keyword is taken off a package line and off no other. -/
theorem isPrefixOf?_eq_none_iff {line : List Char} :
    packageKeyword.isPrefixOf? (Text.trimChars line) = none ↔ ¬IsPackageLine line := by
  rw [Option.eq_none_iff_forall_ne_some, IsPackageLine, List.IsPrefix, not_exists]
  exact forall_congr' fun rest => not_congr List.isPrefixOf?_eq_some_iff_append_eq

theorem package?_eq_none {text : List Char} (h : ∀ line ∈ Text.lines text, ¬IsPackageLine line) :
    package? text = none := by
  have hfind : ((Text.lines text).map Text.trimChars).findSome? packageKeyword.isPrefixOf? =
      none := by
    rw [List.findSome?_eq_none_iff]
    intro trimmed hmem
    obtain ⟨line, hline, rfl⟩ := List.mem_map.1 hmem
    exact isPrefixOf?_eq_none_iff.2 (h line hline)
  rw [package?, hfind]

/-- The first package line of a text tells its package. -/
theorem package?_eq_packageOf {text line rest : List Char} {before after : List (List Char)}
    (hlines : Text.lines text = before ++ line :: after) (hbefore : ∀ l ∈ before, ¬IsPackageLine l)
    (hline : Text.trimChars line = packageKeyword ++ rest) :
    package? text = if packageOf rest = [] then none else some (packageOf rest) := by
  have hfind : ((Text.lines text).map Text.trimChars).findSome? packageKeyword.isPrefixOf? =
      some rest := by
    refine List.findSome?_eq_some_iff.2 ⟨before.map Text.trimChars, Text.trimChars line,
      after.map Text.trimChars, by rw [hlines, List.map_append, List.map_cons], ?_, ?_⟩
    · rw [List.isPrefixOf?_eq_some_iff_append_eq, hline]
    · intro trimmed hmem
      obtain ⟨l, hl, rfl⟩ := List.mem_map.1 hmem
      exact isPrefixOf?_eq_none_iff.2 (hbefore l hl)
  rw [package?, hfind]

theorem package?_eq_some {text name line : List Char} {before after : List (List Char)}
    (hlines : Text.lines text = before ++ line :: after) (hbefore : ∀ l ∈ before, ¬IsPackageLine l)
    (hline : Spells line name) (hname : PlainName name) : package? text = some name := by
  obtain ⟨gap, pad, semicolons, htrimmed, hgap, hpad, hsemicolons⟩ := hline
  rw [package?_eq_packageOf hlines hbefore htrimmed, packageOf_eq hname hgap hpad hsemicolons,
    if_neg hname.ne_nil]

/-- A source is named by the package that it declares and by its stem. -/
theorem nameOf_eq {source : Path} {contents : Bytes} {package : List String}
    (hdeclares : Declares (Utf8.decodeLossyChars contents) package)
    (hplain : ∀ d ∈ package, PlainName d.toList) :
    nameOf source contents = ".".intercalate (package ++ [stemText source]) := by
  unfold Declares at hdeclares
  split at hdeclares
  · next hnone =>
    subst hnone
    rw [nameOf, package?_eq_none hdeclares, List.nil_append, String.intercalate_singleton]
  · next hsome =>
    obtain ⟨before, line, after, hlines, hbefore, hline⟩ := hdeclares
    have hname : PlainName (".".intercalate package).toList := by
      rw [String.toList_intercalate]
      refine PlainName.intercalate (by simpa using hsome) fun name hname => ?_
      obtain ⟨d, hd, rfl⟩ := List.mem_map.1 hname
      exact hplain d hd
    simp only [nameOf, package?_eq_some hlines hbefore hline hname, String.ofList_toList]
    rw [String.intercalate_append_of_ne_nil hsome (List.cons_ne_nil _ _),
      String.intercalate_singleton]

end ClassNode

/-! ## The name that a path spells -/

theorem decide_ne_of_notMem {α : Type} [DecidableEq α] {a : α} {l : List α} (h : a ∉ l) :
    ∀ b ∈ l, decide (b ≠ a) = true := fun _ hb => decide_eq_true fun heq => h (heq ▸ hb)

/-- Behind the last occurrence of an element there is no other one. -/
theorem exists_last_occurrence {α : Type} {a : α} {l : List α} (h : a ∈ l) :
    ∃ front back, l = front ++ a :: back ∧ a ∉ back := by
  obtain ⟨back, front, hreverse, hback⟩ := List.eq_append_cons_of_mem (List.mem_reverse.2 h)
  refine ⟨front.reverse, back.reverse, ?_, fun hmem => hback (List.mem_reverse.1 hmem)⟩
  simpa using congrArg List.reverse hreverse

/-- A name cut at its last full stop. -/
theorem Path.splitName_append {stem extension : Bytes} (hstem : stem ≠ [])
    (hextension : Path.fullStop ∉ extension) :
    Path.splitName (stem ++ Path.fullStop :: extension) = (stem, some extension) := by
  have hbehind : ((stem ++ Path.fullStop :: extension).reverse.takeWhile
      (· ≠ Path.fullStop)).reverse = extension := by
    rw [List.reverse_append, List.reverse_cons, List.append_assoc,
      List.takeWhile_append_of_pos (decide_ne_of_notMem (List.mem_reverse.not.2 hextension))]
    simp
  have hahead : (stem ++ Path.fullStop :: extension).take
      ((stem ++ Path.fullStop :: extension).length - extension.length - 1) = stem := by
    have hlength : (stem ++ Path.fullStop :: extension).length - extension.length - 1 =
        stem.length := by
      simp only [List.length_append, List.length_cons]
      omega
    rw [hlength, List.take_left]
  unfold Path.splitName
  simp only [hbehind, hahead]
  rw [if_pos ⟨by simp only [List.length_append, List.length_cons]; omega, hstem⟩]

/-- A name is not cut where only its first byte may be a full stop. -/
theorem Path.splitName_of_tail {name : Bytes} (h : Path.fullStop ∉ name.tail) :
    Path.splitName name = (name, none) := by
  cases name with
  | nil => rfl
  | cons b rest =>
    have hrest : Path.fullStop ∉ rest.reverse := List.mem_reverse.not.2 h
    unfold Path.splitName
    rw [List.reverse_cons, List.takeWhile_append_of_pos (decide_ne_of_notMem hrest)]
    by_cases hb : b = Path.fullStop <;> simp [hb]

namespace Artefact

/-- `p` is `…/grails-app/kind/d₁/…/dₖ/name.extension`, and no earlier directory is called
`grails-app`. -/
def LiesAt (p : Path) (kind : Bytes) (package : List String) (name : String)
    (extension : Bytes) : Prop :=
  ∃ (above : List Path.Component) (dirs : List Bytes) (stem : Bytes),
    p.components = above ++ .normal appDirectory :: .normal kind :: (dirs.map .normal ++
      [.normal (stem ++ Path.fullStop :: extension)]) ∧
    .normal appDirectory ∉ above ∧ dirs.map Utf8.decode? = package.map some ∧
    Utf8.decode? stem = some name ∧ stem ≠ [] ∧ Path.fullStop ∉ extension

variable {p : Path} {kind extension : Bytes} {package : List String} {name : String}

theorem componentsBelowApp?_eq {above below : List Path.Component}
    (h : p.components = above ++ .normal appDirectory :: below)
    (habove : .normal appDirectory ∉ above) : componentsBelowApp? p = some below := by
  rw [componentsBelowApp?, h, List.dropWhile_append_of_pos (decide_ne_of_notMem habove)]
  simp

theorem LiesAt.kind?_eq (h : LiesAt p kind package name extension) :
    kind? p = Utf8.decode? kind := by
  obtain ⟨above, dirs, stem, hcomponents, habove, -⟩ := h
  rw [kind?, componentsBelowApp?_eq hcomponents habove]
  rfl

theorem LiesAt.className?_eq (h : LiesAt p kind package name extension) :
    className? p = some (".".intercalate (package ++ [name])) := by
  obtain ⟨above, dirs, stem, hcomponents, habove, hdirs, hstem, hne, hextension⟩ := h
  have hnames : (dirs.map Path.Component.normal).filterMap nameText? = package := by
    have hcomp : nameText? ∘ Path.Component.normal = Utf8.decode? := rfl
    have hid : dirs.filterMap Utf8.decode? = (dirs.map Utf8.decode?).filterMap id := by
      rw [List.filterMap_map, Function.id_comp]
    rw [List.filterMap_map, hcomp, hid, hdirs, List.filterMap_map]
    simp
  simp [className?, componentsBelowApp?_eq hcomponents habove, hnames,
    Path.splitName_append hne hextension, hstem]

theorem LiesAt.fileName?_eq (h : LiesAt p kind package name extension) :
    ∃ stem, p.fileName? = some (stem ++ Path.fullStop :: extension) ∧
      Utf8.decode? stem = some name ∧
      Path.splitName (stem ++ Path.fullStop :: extension) = (stem, some extension) := by
  obtain ⟨above, dirs, stem, hcomponents, -, -, hstem, hne, hextension⟩ := h
  refine ⟨stem, ?_, hstem, Path.splitName_append hne hextension⟩
  have hlast : p.components.getLast? =
      some (.normal (stem ++ Path.fullStop :: extension)) := by
    rw [hcomponents, ← List.cons_append, ← List.cons_append, ← List.append_assoc,
      List.getLast?_concat]
  rw [Path.fileName?, hlast]

theorem LiesAt.extension?_eq (h : LiesAt p kind package name extension) :
    p.extension? = some extension := by
  obtain ⟨stem, hname, -, hsplit⟩ := h.fileName?_eq
  rw [Path.extension?, hname, Option.bind_some, hsplit]

theorem LiesAt.stemText_eq (h : LiesAt p kind package name extension) :
    ClassNode.stemText p = name := by
  obtain ⟨stem, hname, hstem, hsplit⟩ := h.fileName?_eq
  rw [ClassNode.stemText, Path.fileStem?, hname, Option.map_some, hsplit, Option.bind_some, hstem,
    Option.getD_some]

/-- An artefact that declares the directories it lies in goes by one name. -/
theorem LiesAt.className?_eq_nameOf (h : LiesAt p kind package name extension) {contents : Bytes}
    (hdeclares : ClassNode.Declares (Utf8.decodeLossyChars contents) package)
    (hplain : ∀ d ∈ package, PlainName d.toList) :
    className? p = some (ClassNode.nameOf p contents) ∧
      ClassNode.nameOf p contents = ".".intercalate (package ++ [name]) := by
  have hname : ClassNode.nameOf p contents = ".".intercalate (package ++ [name]) := by
    rw [ClassNode.nameOf_eq hdeclares hplain, h.stemText_eq]
  exact ⟨by rw [h.className?_eq, hname], hname⟩

end Artefact

end StaleBuild
