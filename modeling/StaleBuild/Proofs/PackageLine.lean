import StaleBuild.Proofs.Decoding
import StaleBuild.Proofs.Reconciliation
import StaleBuild.Proofs.Seam

/-!
# The package line of a source

The first package line of a source is cut by what it begins with and what it ends in. For a line that
is put together from blanks, the keyword, blanks, a name that begins and ends in neither blanks nor
semicolons, and some text:

    package? text = some (name ++ withoutEnd rest)                          (package?_of_line)

Blanks around some semicolons leave nothing (`withoutEnd_eq_nil`), so a name with these behind it is
the package. A comment leaves itself: it belongs to the package that is taken from the line
(`package_named_iff_uncommented`).

The bytes of other lines do not matter, decodable or not, as long as they make no package line
themselves (`package_found_among_any_bytes`): a line feed is a byte of ASCII, and no bytes ahead of
it or behind it take it away.
-/

namespace StaleBuild

/-! ## A line and its break -/

/-- What parts a line from the next one. -/
def Text.lineBreak (returned : Bool) : List Char := if returned then ['\r', '\n'] else ['\n']

theorem Text.lines_append_lineBreak {line : List Char} (h : ∀ c ∈ line, c ≠ '\n' ∧ c ≠ '\r')
    (returned : Bool) (rest : List Char) :
    lines (line ++ lineBreak returned ++ rest) = line :: lines rest := by
  induction line with
  | nil => cases returned <;> rfl
  | cons c more ih =>
    obtain ⟨⟨hfeed, hreturn⟩, hmore⟩ := List.forall_mem_cons.1 h
    exact lines_cons_of_eq hfeed (fun _ hc => absurd hc hreturn) (ih hmore)

namespace ClassNode

/-! ## What a package line tells -/

/-- A name without blanks and semicolons; every qualified name is one. -/
structure Solid (name : List Char) : Prop where
  ne_nil : name ≠ []
  free : ∀ c ∈ name, Text.isBlank c = false ∧ c ≠ ';'

theorem solid_iff {name : List Char} :
    Solid name ↔ name ≠ [] ∧ (name.all fun c => !Text.isBlank c && c ≠ ';') = true := by
  have hall : (name.all fun c => !Text.isBlank c && c ≠ ';') = true ↔
      ∀ c ∈ name, Text.isBlank c = false ∧ c ≠ ';' := by simp
  rw [hall]
  exact ⟨fun h => ⟨h.ne_nil, h.free⟩, fun h => ⟨h.1, h.2⟩⟩

instance (name : List Char) : Decidable (Solid name) := decidable_of_iff' _ solid_iff

theorem Solid.plainName {name : List Char} (h : Solid name) : PlainName name where
  ne_nil := h.ne_nil
  first c hc := (h.free c (List.mem_of_head? hc)).1
  last c hc := h.free c (List.mem_of_getLast? hc)

/-- The package of a text whose first package line is put together from its parts. -/
theorem package?_of_line {text line lead gap front cs : List Char} {before after : List (List Char)}
    (hlines : Text.lines text = before ++ line :: after) (hbefore : ∀ l ∈ before, ¬IsPackageLine l)
    (hline : line = lead ++ packageKeyword ++ gap ++ front ++ cs)
    (hlead : ∀ c ∈ lead, Text.isBlank c = true) (hgap : ∀ c ∈ gap, Text.isBlank c = true)
    (hfront : PlainName front) : package? text = some (front ++ withoutEnd cs) := by
  have htrimmed : Text.trimChars line =
      packageKeyword ++ (gap ++ front ++ Text.dropWhileEnd Text.isBlank cs) := by
    have hshape : line = lead ++ (packageKeyword ++ gap ++ front) ++ cs := by
      rw [hline]
      simp only [List.append_assoc]
    have hne : packageKeyword ++ gap ++ front ≠ [] := by simp [hfront.ne_nil]
    have hfirst : ∀ c ∈ (packageKeyword ++ gap ++ front).head?, Text.isBlank c = false := by
      rintro c ⟨⟩
      decide
    have hlast : ∀ c ∈ (packageKeyword ++ gap ++ front).getLast?, Text.isBlank c = false := by
      rw [List.getLast?_append_of_ne_nil _ hfront.ne_nil]
      exact fun c hc => (hfront.last c hc).1
    rw [hshape, Text.trimChars_append_of_last hlead hne hfirst hlast]
    simp only [List.append_assoc]
  have hend : withoutEnd (Text.dropWhileEnd Text.isBlank cs) = withoutEnd cs := by
    have htwice : Text.dropWhileEnd Text.isBlank (Text.dropWhileEnd Text.isBlank cs) =
        Text.dropWhileEnd Text.isBlank cs := List.rdropWhile_idempotent Text.isBlank cs
    rw [withoutEnd, htwice, withoutEnd]
  rw [package?_eq_packageOf hlines hbefore htrimmed, packageOf_append hgap hfront, hend,
    if_neg (List.append_ne_nil_of_left_ne_nil hfront.ne_nil _)]

/-! ## Comments -/

/-- A comment as it stands in a line, or nothing. -/
def slashed : Option (List Char) → List Char
  | none => []
  | some text => '/' :: '/' :: text

/-- The line is a package line of the name. Behind the name stand blanks with at most one semicolon
among them, and perhaps a comment up to the end of the line. -/
structure Reads (line name tail : List Char) (comment : Option (List Char)) : Prop where
  written : ∃ lead gap, line = lead ++ packageKeyword ++ gap ++ name ++ (tail ++ slashed comment) ∧
    (∀ c ∈ lead, Text.isBlank c = true) ∧ ∀ c ∈ gap, Text.isBlank c = true
  name : Solid name
  loose : ∀ c ∈ tail, Text.isBlank c = true ∨ c = ';'
  single : tail.count ';' ≤ 1

/-- Blanks with at most one semicolon among them are cut off. -/
theorem withoutEnd_tail {tail : List Char} (h : ∀ c ∈ tail, Text.isBlank c = true ∨ c = ';')
    (hsingle : tail.count ';' ≤ 1) : withoutEnd tail = [] := by
  have hblank {part : List Char} (hpart : ∀ c ∈ part, c ∈ tail) (hnone : ';' ∉ part) :
      ∀ c ∈ part, Text.isBlank c = true := fun c hc =>
    (h c (hpart c hc)).resolve_right fun heq => hnone (heq ▸ hc)
  by_cases hmem : ';' ∈ tail
  · obtain ⟨pad, more, rfl, hpad⟩ := List.eq_append_cons_of_mem hmem
    have hmore : ';' ∉ more := by
      rw [List.count_append, List.count_cons_self] at hsingle
      exact List.count_eq_zero.1 (by omega)
    have hcut := withoutEnd_eq_nil (hblank (fun c hc => List.mem_append_left _ hc) hpad)
      (List.forall_mem_singleton.2 rfl) (hblank (fun c hc => by simp [hc]) hmore)
    simpa using hcut
  · have hcut := withoutEnd_eq_nil (hblank (fun _ => id) hmem) (List.forall_mem_nil _)
      (List.forall_mem_nil _)
    simpa using hcut

/-- A comment behind the name is taken with it, and with what stands between them. -/
theorem Reads.package?_eq {text line name tail : List Char} {comment : Option (List Char)}
    {before after : List (List Char)} (h : Reads line name tail comment)
    (hlines : Text.lines text = before ++ line :: after)
    (hbefore : ∀ l ∈ before, ¬IsPackageLine l) :
    package? text = some (name ++ (match comment with
      | none => []
      | some text => tail ++ '/' :: '/' :: withoutEnd text)) := by
  obtain ⟨lead, gap, hline, hlead, hgap⟩ := h.written
  have hplain := h.name.plainName
  cases comment with
  | none =>
    rw [slashed, List.append_nil] at hline
    rw [package?_of_line hlines hbefore hline hlead hgap hplain, withoutEnd_tail h.loose h.single]
  | some text =>
    -- nothing is cut off ahead of the slashes
    have hfront : PlainName (name ++ tail ++ ['/', '/']) := by
      refine ⟨by simp, fun c hc => hplain.first c ?_, fun c hc => ?_⟩
      · rwa [List.append_assoc, List.head?_append_of_ne_nil _ hplain.ne_nil] at hc
      · rw [List.getLast?_append_of_ne_nil _ (List.cons_ne_nil _ _)] at hc
        obtain rfl : '/' = c := by simpa using hc
        decide
    have hline : line = lead ++ packageKeyword ++ gap ++ (name ++ tail ++ ['/', '/']) ++ text := by
      rw [hline, slashed]
      simp only [List.append_assoc, List.cons_append, List.nil_append]
    rw [package?_of_line hlines hbefore hline hlead hgap hfront]
    simp only [List.append_assoc, List.cons_append, List.nil_append]

/-! ## The class of a file -/

variable {tree : FileTree} {source : Path} {contents : Bytes} {stem : String}

theorem stemText_eq (hstem : source.fileStem? = some (Utf8.encode stem)) :
    stemText source = stem := by
  rw [stemText, hstem, Option.bind_some, Utf8.decode?_encode, Option.getD_some]

theorem ofSource_of_package? (hread : tree.read source = .ok contents)
    (hstem : source.fileStem? = some (Utf8.encode stem)) {package : List Char}
    (hpackage : package? (Utf8.decodeLossyChars contents) = some package) :
    ofSource tree source = .ok (plain (String.ofList package ++ "." ++ stem) source) := by
  simp only [ofSource, hread, nameOf, hpackage, stemText_eq hstem]

theorem ofSource_of_package?_eq_none (hread : tree.read source = .ok contents)
    (hstem : source.fileStem? = some (Utf8.encode stem))
    (hpackage : package? (Utf8.decodeLossyChars contents) = none) :
    ofSource tree source = .ok (plain stem source) := by
  simp only [ofSource, hread, nameOf, hpackage, stemText_eq hstem]

/-- **A source is named by the package that it declares exactly if no comment stands behind the
name.** A comment becomes a part of the class's name. -/
theorem package_named_iff_uncommented {line name tail : List Char} {comment : Option (List Char)}
    {before after : List (List Char)} (hread : tree.read source = .ok contents)
    (hstem : source.fileStem? = some (Utf8.encode stem))
    (hlines : Text.lines (Utf8.decodeLossyChars contents) = before ++ line :: after)
    (hbefore : ∀ l ∈ before, ¬IsPackageLine l) (hline : Reads line name tail comment) :
    (ofSource tree source = .ok (plain (String.ofList name ++ "." ++ stem) source) ↔
        comment = none) ∧
      ∀ text, comment = some text → ofSource tree source = .ok (plain
        (String.ofList (name ++ tail ++ '/' :: '/' :: withoutEnd text) ++ "." ++ stem) source) := by
  have hnamed := ofSource_of_package? hread hstem (hline.package?_eq hlines hbefore)
  cases comment with
  | none =>
    rw [List.append_nil] at hnamed
    exact ⟨iff_of_true hnamed rfl, fun _ h => nomatch h⟩
  | some text =>
    refine ⟨iff_of_false (fun h => ?_) (fun h => nomatch h), fun _ heq => ?_⟩
    · rw [hnamed] at h
      have hname := congrArg (fun c => c.name.toList.length) (Except.ok.inj h)
      simp only [plain, String.toList_append, String.toList_ofList, List.length_append,
        List.length_cons] at hname
      omega
    · obtain rfl := Option.some.inj heq
      rw [hnamed, List.append_assoc]

end ClassNode

namespace Rehearsal

def libraryBook : Path := .ofString "src/org/library/Book.groovy"

/-- A tree with one source. -/
def holdingBook (contents : Bytes) : FileTree := (staged [.file libraryBook contents 20] 100).files

/-- A source whose second line is the given one. -/
def withLine (line : List Char) : Bytes :=
  Utf8.encode "// stock\n" ++ Utf8.encodeChars line ++ Utf8.encode "\nclass Book {}\n"

end Rehearsal

open Rehearsal

/-- Blanks around the line and a semicolon between blanks behind the name. -/
theorem spaced_package_named :
    let line := "  package org.library ; ".toList
    let contents := withLine line
    let lines := ["// stock".toList] ++ line :: ["class Book {}".toList]
    ((holdingBook contents).read libraryBook = .ok contents ∧
      libraryBook.fileStem? = some (Utf8.encode "Book") ∧
      Text.lines (Utf8.decodeLossyChars contents) = lines ∧
      (∀ l ∈ ["// stock".toList], ¬ClassNode.IsPackageLine l) ∧
      ClassNode.Reads line "org.library".toList [' ', ';', ' '] none) ∧
    ClassNode.ofSource (holdingBook contents) libraryBook =
      .ok (.plain "org.library.Book" libraryBook) := by
  intro line contents lines
  have hread : (holdingBook contents).read libraryBook = .ok contents := by decide +kernel
  have hstem : libraryBook.fileStem? = some (Utf8.encode "Book") := by decide +kernel
  have hlines : Text.lines (Utf8.decodeLossyChars contents) = lines := by decide +kernel
  have hbefore : ∀ l ∈ ["// stock".toList], ¬ClassNode.IsPackageLine l := by
    unfold ClassNode.IsPackageLine
    decide +kernel
  have hblank : Text.isBlank ' ' = true := by decide
  have hline : ClassNode.Reads line "org.library".toList [' ', ';', ' '] none :=
    ⟨⟨[' ', ' '], [], by decide +kernel, by simp [hblank], List.forall_mem_nil _⟩,
      by decide +kernel, by simp [hblank], by decide⟩
  have hname : String.ofList "org.library".toList ++ "." ++ "Book" = "org.library.Book" := by
    decide +kernel
  have hnamed := (ClassNode.package_named_iff_uncommented hread hstem hlines hbefore hline).1.2 rfl
  exact ⟨⟨hread, hstem, hlines, hbefore, hline⟩, hname ▸ hnamed⟩

/-- A comment behind the name, with the semicolon and the blanks ahead of it, stands in the name of
the class. -/
theorem commented_package_misnamed :
    let line := "package org.library; // core".toList
    (Text.lines (Utf8.decodeLossyChars (withLine line)) =
        ["// stock".toList, line, "class Book {}".toList] ∧
      ¬ClassNode.IsPackageLine "// stock".toList ∧
      ClassNode.Reads line "org.library".toList [';', ' '] (some " core".toList)) ∧
    ClassNode.ofSource (holdingBook (withLine line)) libraryBook =
        .ok (.plain "org.library; // core.Book" libraryBook) ∧
      ClassNode.ofSource (holdingBook (withLine line)) libraryBook ≠
        .ok (.plain "org.library.Book" libraryBook) := by
  intro line
  have hblank : Text.isBlank ' ' = true := by decide
  have hline : ClassNode.Reads line "org.library".toList [';', ' '] (some " core".toList) :=
    ⟨⟨[], [], by decide +kernel, List.forall_mem_nil _, List.forall_mem_nil _⟩,
      by decide +kernel, by simp [hblank], by decide⟩
  refine ⟨⟨by decide +kernel, by unfold ClassNode.IsPackageLine; decide +kernel, hline⟩,
    by decide +kernel, by decide +kernel⟩

namespace ClassNode

variable {tree : FileTree} {source : Path} {contents : Bytes} {stem : String}

/-! ## Bytes that are no text -/

/-- The bytes hold a package line of the package behind whole lines that are none: the keyword, the
package, spaces, semicolons, spaces and a line break. What is ahead of the line and behind it need not
be text. -/
def HoldsPackageLine (contents : Bytes) (package : List Char) : Prop :=
  ∃ (ahead behind : Bytes) (spaces semicolons more : Nat) (returned : Bool),
    contents = ahead ++ Utf8.encodeChars (packageKeyword ++ package ++ (List.replicate spaces ' ' ++
        List.replicate semicolons ';' ++ List.replicate more ' ') ++ Text.lineBreak returned) ++
      behind ∧
    (ahead = [] ∨ ahead.getLast? = some 0x0A) ∧
    ∀ line ∈ Text.lines (Utf8.decodeLossyChars ahead), ¬IsPackageLine line

theorem not_break_of_not_isBlank {c : Char} (h : Text.isBlank c = false) : c ≠ '\n' ∧ c ≠ '\r' := by
  constructor <;> rintro rfl <;> exact absurd h (by decide)

theorem not_break_of_mem_packageKeyword : ∀ c ∈ packageKeyword, c ≠ '\n' ∧ c ≠ '\r' := by
  have hall : (packageKeyword.all fun c => c ≠ '\n' && c ≠ '\r') = true := by decide
  simpa using hall

/-- A line behind whole lines is read on its own, whatever bytes stand ahead of it and behind it. -/
theorem lines_around {line : List Char} (hline : ∀ c ∈ line, c ≠ '\n' ∧ c ≠ '\r') {ahead : Bytes}
    (hahead : ahead = [] ∨ ahead.getLast? = some 0x0A) (returned : Bool) (behind : Bytes) :
    Text.lines (Utf8.decodeLossyChars
        (ahead ++ Utf8.encodeChars (line ++ Text.lineBreak returned) ++ behind)) =
      Text.lines (Utf8.decodeLossyChars ahead) ++
        line :: Text.lines (Utf8.decodeLossyChars behind) := by
  rw [List.append_assoc]
  obtain rfl | hended := hahead
  · rw [List.nil_append, Utf8.decodeLossyChars_encodeChars_append,
      Text.lines_append_lineBreak hline]
    rfl
  · rw [Utf8.decodeLossyChars_append (by decide) hended,
      Utf8.decodeLossyChars_encodeChars_append, Text.lines_append_of_ended _
        (Utf8.getLast?_decodeLossyChars (by decide) hended), Text.lines_append_lineBreak hline]

theorem HoldsPackageLine.package?_eq {package : List Char} (h : HoldsPackageLine contents package)
    (hpackage : Solid package) : package? (Utf8.decodeLossyChars contents) = some package := by
  obtain ⟨ahead, behind, spaces, semicolons, more, returned, rfl, hahead, hbefore⟩ := h
  have hspace (n : Nat) : ∀ c ∈ List.replicate n ' ', c = ' ' := fun c hc =>
    List.eq_of_mem_replicate hc
  have hblank (n : Nat) : ∀ c ∈ List.replicate n ' ', Text.isBlank c = true := fun c hc => by
    rw [hspace n c hc]
    decide
  have hsemicolons : ∀ c ∈ List.replicate semicolons ';', c = ';' := fun c hc =>
    List.eq_of_mem_replicate hc
  generalize htail : List.replicate spaces ' ' ++ List.replicate semicolons ';' ++
    List.replicate more ' ' = tail
  have hcut : withoutEnd tail = [] := htail ▸ withoutEnd_eq_nil (hblank _) hsemicolons (hblank _)
  -- no character of the line breaks it
  have hline : ∀ c ∈ packageKeyword ++ package ++ tail, c ≠ '\n' ∧ c ≠ '\r' := by
    have htailed : ∀ c ∈ tail, c = ' ' ∨ c = ';' := by
      rw [← htail]
      exact List.forall_mem_append.2 ⟨List.forall_mem_append.2
        ⟨fun c hc => .inl (hspace _ c hc), fun c hc => .inr (hsemicolons c hc)⟩,
        fun c hc => .inl (hspace _ c hc)⟩
    refine List.forall_mem_append.2 ⟨List.forall_mem_append.2
      ⟨not_break_of_mem_packageKeyword, fun c hc => ?_⟩, fun c hc => ?_⟩
    · exact not_break_of_not_isBlank (hpackage.free c hc).1
    · obtain rfl | rfl := htailed c hc <;> decide
  have hshape : packageKeyword ++ package ++ tail =
      [] ++ packageKeyword ++ [] ++ package ++ tail := by simp
  rw [package?_of_line (lines_around hline hahead returned behind) hbefore hshape
    (List.forall_mem_nil _) (List.forall_mem_nil _) hpackage.plainName, hcut, List.append_nil]

/-- **The package line is found among any bytes.** A source in which no line is a package line has no
package. -/
theorem package_found_among_any_bytes (hread : tree.read source = .ok contents)
    (hstem : source.fileStem? = some (Utf8.encode stem)) :
    (∀ package, HoldsPackageLine contents package → Solid package →
        ofSource tree source = .ok (plain (String.ofList package ++ "." ++ stem) source)) ∧
      ((∀ line ∈ Text.lines (Utf8.decodeLossyChars contents), ¬IsPackageLine line) →
        ofSource tree source = .ok (plain stem source)) :=
  ⟨fun _ hholds hpackage => ofSource_of_package? hread hstem (hholds.package?_eq hpackage),
    fun hnone => ofSource_of_package?_eq_none hread hstem (package?_eq_none hnone)⟩

end ClassNode

/-- A line that is no UTF-8 ahead of the package line, and a character behind it that breaks off. -/
theorem package_found_among_broken_bytes :
    let ahead := Utf8.encode "// caf" ++ [0xE9, 0x0A]
    let line := Utf8.encode "package org.menu ;; \r\n"
    let contents := ahead ++ line ++ [0xE2, 0x82]
    ((holdingBook contents).read libraryBook = .ok contents ∧
      libraryBook.fileStem? = some (Utf8.encode "Book") ∧
      ClassNode.HoldsPackageLine contents "org.menu".toList ∧
      ClassNode.Solid "org.menu".toList) ∧
    ClassNode.ofSource (holdingBook contents) libraryBook =
      .ok (.plain "org.menu.Book" libraryBook) := by
  intro ahead line contents
  have hread : (holdingBook contents).read libraryBook = .ok contents := by decide +kernel
  have hstem : libraryBook.fileStem? = some (Utf8.encode "Book") := by decide +kernel
  have hholds : ClassNode.HoldsPackageLine contents "org.menu".toList := by
    refine ⟨ahead, [0xE2, 0x82], 1, 2, 1, true, by decide +kernel, .inr (by decide +kernel), ?_⟩
    unfold ClassNode.IsPackageLine
    decide +kernel
  have hsolid : ClassNode.Solid "org.menu".toList := by decide +kernel
  have hname : String.ofList "org.menu".toList ++ "." ++ "Book" = "org.menu.Book" := by
    decide +kernel
  have hnamed := (ClassNode.package_found_among_any_bytes hread hstem).1 _ hholds hsolid
  exact ⟨⟨hread, hstem, hholds, hsolid⟩, hname ▸ hnamed⟩

end StaleBuild
