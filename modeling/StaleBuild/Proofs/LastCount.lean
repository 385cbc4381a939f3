import Mathlib.Data.Nat.Digits.Defs
import Mathlib.Tactic.Ring
import StaleBuild.Proofs.PackageLine
import StaleBuild.Proofs.Seam

/-!
# The last count decides

A report of a failed compiler is chatter with a count in some of its lines. It tells of several errors
if the marker stands somewhere, or if the last count is above one:

    classify report = several  ↔  marker <:+: report ∨ ∃ n > 1, LastCount (lines report) n

Both sides of the disjunction are read line by line. The marker holds no line break, so it stands in
the report exactly if it stands in a line (`infix_iff_exists_line`), and of the lines only the counts
matter, in their order (`classify_congr`). Lines that are no counts can come and go
(`last_count_decides`).
-/

namespace StaleBuild

/-! ## Numbers -/

namespace Text

/-- The text is a number of at most 64 bits: digits, with a plus sign ahead of them or none. -/
def Spells (number : List Char) (n : Nat) : Prop :=
  ∃ sign digits, number = sign ++ digits ∧ (sign = [] ∨ sign = ['+']) ∧ digits ≠ [] ∧
    (∀ d ∈ digits, '0' ≤ d ∧ d ≤ '9') ∧
    n = Nat.ofDigits 10 (digits.reverse.map fun d => d.toNat - '0'.toNat) ∧ n < 2 ^ 64

theorem isDigit_iff {c : Char} : c.isDigit = true ↔ '0' ≤ c ∧ c ≤ '9' := by
  rw [Char.isDigit, Bool.and_eq_true, decide_eq_true_eq, decide_eq_true_eq]
  rfl

/-- Digits are read from the left. -/
theorem digitsFrom?_eq_some_iff {value n : Nat} {cs : List Char} :
    digitsFrom? value cs = some n ↔ (∀ d ∈ cs, '0' ≤ d ∧ d ≤ '9') ∧
      n = value * 10 ^ cs.length +
        Nat.ofDigits 10 (cs.reverse.map fun d => d.toNat - '0'.toNat) := by
  induction cs generalizing value with
  | nil => simp [digitsFrom?, eq_comm]
  | cons c rest ih =>
    have hvalue : (value * 10 + (c.toNat - '0'.toNat)) * 10 ^ rest.length +
        Nat.ofDigits 10 (rest.reverse.map fun d => d.toNat - '0'.toNat) =
        value * 10 ^ (c :: rest).length +
          Nat.ofDigits 10 ((c :: rest).reverse.map fun d => d.toNat - '0'.toNat) := by
      rw [List.reverse_cons, List.map_append, Nat.ofDigits_append, List.length_map,
        List.length_reverse, List.length_cons, List.map_singleton, Nat.ofDigits_singleton]
      ring
    rw [digitsFrom?, List.forall_mem_cons, ← hvalue, ← isDigit_iff]
    by_cases hdigit : c.isDigit = true
    · rw [if_pos hdigit, and_assoc, and_iff_right hdigit]
      exact ih
    · simp [hdigit]

theorem count?_eq_some_iff {number : List Char} {n : Nat} :
    count? number = some n ↔ Spells number n := by
  have hlimit : countLimit = 2 ^ 64 - 1 := rfl
  constructor
  · intro h
    unfold count? at h
    dsimp only at h
    split at h
    · cases h
    · next hne =>
      split at h
      · next value hvalue =>
        split at h
        · next hle =>
          cases h
          obtain ⟨hdigits, rfl⟩ := digitsFrom?_eq_some_iff.1 hvalue
          obtain ⟨sign, hnumber, hsign⟩ :
              ∃ sign, number = sign ++ withoutPlus number ∧ (sign = [] ∨ sign = ['+']) := by
            unfold withoutPlus
            split
            · exact ⟨['+'], rfl, .inr rfl⟩
            · exact ⟨[], rfl, .inl rfl⟩
          exact ⟨sign, withoutPlus number, hnumber, hsign, hne, hdigits, by omega, by omega⟩
        · cases h
      · cases h
  · rintro ⟨sign, digits, rfl, hsign, hne, hdigits, hn, hlt⟩
    have hplus : withoutPlus (sign ++ digits) = digits := by
      obtain rfl | rfl := hsign
      · obtain ⟨d, more, rfl⟩ := List.exists_cons_of_ne_nil hne
        -- a digit is no plus sign
        have hd : d ≠ '+' := by
          rintro rfl
          exact absurd (hdigits '+' List.mem_cons_self).1 (by decide)
        unfold withoutPlus
        split
        · next heq => exact absurd (List.cons.inj heq).1 hd
        · rfl
      · rfl
    have hread : digitsFrom? 0 digits = some n := digitsFrom?_eq_some_iff.2 ⟨hdigits, by omega⟩
    unfold count?
    dsimp only
    rw [hplus, if_neg hne, hread]
    exact if_pos (by omega)

end Text

namespace Report

variable {line front word : List Char} {xs ys : List (List Char)} {n : Nat}

/-! ## Counts -/

/-- Trimmed, the line is a number, blanks of which the last one is a space, and `error` or
`errors`. -/
def Counts (line : List Char) (n : Nat) : Prop :=
  ∃ number gap word, Text.trimChars line = number ++ gap ++ ' ' :: word ∧ Text.Spells number n ∧
    (∀ c ∈ gap, Text.isBlank c = true) ∧ (word = "error".toList ∨ word = "errors".toList)

/-- The last of the lines that are counts has the number `n`. -/
def LastCount (lines : List (List Char)) (n : Nat) : Prop :=
  ∃ before line after, lines = before ++ line :: after ∧ Counts line n ∧
    ∀ l ∈ after, ∀ m, ¬Counts l m

theorem announced?_eq_some_iff_counts : announced? line = some n ↔ Counts line n := by
  rw [announced?_eq_some_iff]
  constructor
  · rintro ⟨number, gap, word, hline, hgap, hword, hcount⟩
    exact ⟨number, gap, word, hline, Text.count?_eq_some_iff.1 hcount, hgap, hword⟩
  · rintro ⟨number, gap, word, hline, hnumber, hgap, hword⟩
    exact ⟨number, gap, word, hline, hgap, hword, Text.count?_eq_some_iff.2 hnumber⟩

theorem announced?_eq_none_iff : announced? line = none ↔ ∀ m, ¬Counts line m := by
  rw [Option.eq_none_iff_forall_ne_some]
  exact forall_congr' fun m => not_congr announced?_eq_some_iff_counts

/-- The last count is the last of the counts. -/
theorem lastCount_iff : LastCount xs n ↔ (xs.filterMap announced?).getLast? = some n := by
  rw [List.getLast?_filterMap, List.findSome?_eq_some_iff]
  constructor
  · rintro ⟨before, line, after, rfl, hline, hafter⟩
    refine ⟨after.reverse, line, before.reverse, by simp, announced?_eq_some_iff_counts.2 hline, ?_⟩
    intro l hl
    exact announced?_eq_none_iff.2 (hafter l (List.mem_reverse.1 hl))
  · rintro ⟨after, line, before, hxs, hline, hafter⟩
    refine ⟨before.reverse, line, after.reverse, ?_, announced?_eq_some_iff_counts.1 hline, ?_⟩
    · simpa using congrArg List.reverse hxs
    · intro l hl
      exact announced?_eq_none_iff.1 (hafter l (List.mem_reverse.1 hl))

/-! ## The marker -/

theorem contains_eq_true_iff {part cs : List Char} : contains part cs = true ↔ part <:+: cs := by
  induction cs with
  | nil => simp [contains, List.isEmpty_iff]
  | cons c rest ih =>
    rw [contains, Bool.or_eq_true, ih, List.isPrefixOf_iff_prefix, List.infix_cons_iff]

/-- Behind its first line a text has nothing or a line break. -/
theorem exists_behind_first {cs line : List Char} {more : List (List Char)}
    (h : Text.lines cs = line :: more) :
    ∃ behind, cs = line ++ behind ∧ ∀ c ∈ behind.head?, c = '\n' ∨ c = '\r' := by
  induction cs using Text.lines.induct generalizing line more with
  | case1 => cases h
  | case2 rest ih =>
    cases h
    exact ⟨'\n' :: rest, rfl, by simp⟩
  | case3 rest ih =>
    cases h
    exact ⟨'\r' :: '\n' :: rest, rfl, by simp⟩
  | case4 c rest hfeed hreturn hrest =>
    rw [Text.lines_eq_nil_iff.1 hrest, Text.lines_singleton hfeed] at h
    cases h
    exact ⟨[], by rw [Text.lines_eq_nil_iff.1 hrest]; rfl, by simp⟩
  | case5 c rest hfeed hreturn first lines hrest ih =>
    rw [Text.lines_cons_of_eq hfeed hreturn hrest] at h
    cases h
    obtain ⟨behind, hcs, hbreak⟩ := ih hrest
    exact ⟨behind, by rw [hcs]; rfl, hbreak⟩

/-- What holds no line break begins a text exactly if it begins its first line. -/
theorem prefix_append_iff {part line behind : List Char} (hfree : '\n' ∉ part ∧ '\r' ∉ part)
    (hbehind : ∀ c ∈ behind.head?, c = '\n' ∨ c = '\r') :
    part <+: line ++ behind ↔ part <+: line := by
  constructor
  · rintro ⟨rest, hrest⟩
    rw [List.append_eq_append_iff] at hrest
    obtain ⟨between, rfl, -⟩ | ⟨over_, rfl, hover⟩ := hrest
    · exact List.prefix_append part between
    · cases over_ with
      | nil => simp
      | cons c over_ =>
        have hc : c = '\n' ∨ c = '\r' := hbehind c (by simp [hover])
        obtain rfl | rfl := hc
        · exact absurd (by simp) hfree.1
        · exact absurd (by simp) hfree.2
  · intro h
    exact h.trans (List.prefix_append line behind)

/-- **What holds no line break stands in a text exactly if it stands in a line.** -/
theorem infix_iff_exists_line {part cs : List Char} (hne : part ≠ [])
    (hfree : '\n' ∉ part ∧ '\r' ∉ part) :
    part <:+: cs ↔ ∃ line ∈ Text.lines cs, part <:+: line := by
  have hbreak (c : Char) (hc : c = '\n' ∨ c = '\r') (rest : List Char) :
      part <:+: c :: rest ↔ part <:+: rest := by
    have hnot : ¬part <+: c :: rest := by
      have h : part <+: [] ++ c :: rest ↔ part <+: [] :=
        prefix_append_iff hfree (by simpa using hc)
      rw [List.nil_append, List.prefix_nil] at h
      exact fun hprefix => hne (h.1 hprefix)
    rw [List.infix_cons_iff, or_iff_right hnot]
  have hempty : ¬part <:+: [] := by simpa using hne
  induction cs using Text.lines.induct with
  | case1 => simp [Text.lines, hempty]
  | case2 rest ih =>
    refine (hbreak '\n' (.inl rfl) rest).trans (ih.trans ?_)
    simp [Text.lines, hempty]
  | case3 rest ih =>
    refine (hbreak '\r' (.inr rfl) _).trans ((hbreak '\n' (.inl rfl) rest).trans (ih.trans ?_))
    simp [Text.lines, hempty]
  | case4 c rest hfeed hreturn hrest =>
    rw [Text.lines_eq_nil_iff.1 hrest, Text.lines_singleton hfeed]
    simp
  | case5 c rest hfeed hreturn line more hrest ih =>
    obtain ⟨behind, hcs, hbehind⟩ := exists_behind_first hrest
    have hbegins : part <+: c :: rest ↔ part <+: c :: line := by
      rw [hcs, ← List.cons_append]
      exact prefix_append_iff hfree hbehind
    have hfurther : part <:+: rest ↔ part <:+: line ∨ ∃ line ∈ more, part <:+: line := by
      rw [← List.exists_mem_cons_iff, ← hrest]
      exact ih
    rw [Text.lines_cons_of_eq hfeed hreturn hrest, List.exists_mem_cons_iff, List.infix_cons_iff,
      List.infix_cons_iff, hbegins, hfurther, or_assoc]

theorem marker_infix_iff {report : List Char} :
    severalMarker <:+: report ↔ ∃ line ∈ Text.lines report, severalMarker <:+: line :=
  infix_iff_exists_line (by decide) (by decide)

/-! ## Classifying -/

/-- A report tells of several errors if it holds the marker or its last count is above one. -/
theorem classify_eq_multipleErrors_iff {report : List Char} :
    classify report = .multipleErrors ↔
      severalMarker <:+: report ∨ ∃ n, 1 < n ∧ LastCount (Text.lines report) n := by
  have hlast (n : Nat) : LastCount (Text.lines report) n ↔
      (Text.lines report).reverse.findSome? announced? = some n := by
    rw [lastCount_iff, List.getLast?_filterMap]
  unfold classify
  split
  · next hmarker => exact iff_of_true rfl (.inl (contains_eq_true_iff.1 hmarker))
  · next hmarker =>
    rw [contains_eq_true_iff] at hmarker
    simp only [hlast, or_iff_right hmarker]
    cases (Text.lines report).reverse.findSome? announced? with
    | none => simp
    | some n => simp

/-- Two reports of which the lines hold the marker alike and are the same counts in the same order are
classified alike. -/
theorem classify_congr {report other : List Char}
    (hmarker : (∃ line ∈ Text.lines report, severalMarker <:+: line) ↔
      ∃ line ∈ Text.lines other, severalMarker <:+: line)
    (hcounts : (Text.lines report).filterMap announced? = (Text.lines other).filterMap announced?) :
    classify report = classify other := by
  have hsame : classify report = .multipleErrors ↔ classify other = .multipleErrors := by
    rw [classify_eq_multipleErrors_iff, classify_eq_multipleErrors_iff, marker_infix_iff,
      marker_infix_iff, hmarker]
    simp only [lastCount_iff, hcounts]
  cases h : classify report <;> cases h' : classify other <;> simp_all

/-! ## Further lines -/

/-- The line is no count and does not hold the marker. -/
structure Silent (line : List Char) : Prop where
  no_count : ∀ n, ¬Counts line n
  no_marker : ¬severalMarker <:+: line

/-- The second list holds the lines of the first one in their order, and silent lines around them. -/
inductive Padded : List (List Char) → List (List Char) → Prop
  | nil : Padded [] []
  | keep (line : List Char) {xs ys : List (List Char)} : Padded xs ys → Padded (line :: xs) (line :: ys)
  | add {line : List Char} {xs ys : List (List Char)} :
      Silent line → Padded xs ys → Padded xs (line :: ys)

theorem Padded.refl (xs : List (List Char)) : Padded xs xs := by
  induction xs with
  | nil => exact .nil
  | cons line more ih => exact .keep line ih

theorem Padded.insert (hline : Silent line) (before after : List (List Char)) :
    Padded (before ++ after) (before ++ line :: after) := by
  induction before with
  | nil => exact .add hline (.refl after)
  | cons first more ih => exact .keep first ih

theorem Padded.filterMap_eq (h : Padded xs ys) :
    xs.filterMap announced? = ys.filterMap announced? := by
  induction h with
  | nil => rfl
  | keep line _ ih => simp only [List.filterMap_cons, ih]
  | add hline _ ih => rw [List.filterMap_cons_none (announced?_eq_none_iff.2 hline.no_count), ih]

theorem Padded.marker_iff (h : Padded xs ys) :
    (∃ line ∈ xs, severalMarker <:+: line) ↔ ∃ line ∈ ys, severalMarker <:+: line := by
  induction h with
  | nil => rfl
  | keep line _ ih => rw [List.exists_mem_cons_iff, List.exists_mem_cons_iff, ih]
  | add hline _ ih => rw [List.exists_mem_cons_iff, or_iff_right hline.no_marker, ih]

/-- A line whose word has no number ahead of it is no count. -/
theorem not_counts_of_front (hline : Text.trimChars line = front ++ ' ' :: word)
    (hword : word = "error".toList ∨ word = "errors".toList)
    (hfront : ∀ n, ¬Text.Spells (Text.trimChars front) n) : ∀ n, ¬Counts line n := by
  have hnone : Text.count? (Text.trimChars front) = none := by
    rw [Option.eq_none_iff_forall_ne_some]
    intro n hn
    exact hfront n (Text.count?_eq_some_iff.1 hn)
  rw [← announced?_eq_none_iff]
  simp only [announced?, suffix_of_word hline hword, hnone]

/-- **The last count decides.** A report tells of several errors exactly if it holds the marker or the
last of its counts is above one; with silent lines anywhere between its own it is classified as it was,
and a line whose word has no number ahead of it is passed over. -/
theorem last_count_decides (report : List Char) :
    (classify report = .multipleErrors ↔
      severalMarker <:+: report ∨ ∃ n, 1 < n ∧ LastCount (Text.lines report) n) ∧
    (∀ padded, Padded (Text.lines report) (Text.lines padded) →
      classify padded = classify report) ∧
    (∀ ahead line behind returned, report = ahead ++ behind →
      (ahead = [] ∨ ahead.getLast? = some '\n') → (∀ c ∈ line, c ≠ '\n' ∧ c ≠ '\r') → Silent line →
      classify (ahead ++ line ++ Text.lineBreak returned ++ behind) = classify report) ∧
    ∀ before line after front word, Text.lines report = before ++ line :: after →
      Text.trimChars line = front ++ ' ' :: word →
      (word = "error".toList ∨ word = "errors".toList) →
      (∀ n, ¬Text.Spells (Text.trimChars front) n) →
      ∀ n, LastCount (Text.lines report) n ↔ LastCount (before ++ after) n := by
  have hpadded (other padded : List Char) (h : Padded (Text.lines other) (Text.lines padded)) :
      classify padded = classify other :=
    classify_congr h.marker_iff.symm h.filterMap_eq.symm
  refine ⟨classify_eq_multipleErrors_iff, hpadded report, ?_, ?_⟩
  · rintro ahead line behind returned rfl hahead hline hsilent
    refine hpadded _ _ ?_
    obtain rfl | hended := hahead
    · rw [List.nil_append, List.nil_append, Text.lines_append_lineBreak hline]
      exact .add hsilent (.refl _)
    · rw [List.append_assoc, List.append_assoc, Text.lines_append_of_ended _ hended,
        Text.lines_append_of_ended _ hended, ← List.append_assoc, Text.lines_append_lineBreak hline]
      exact .insert hsilent _ _
  · intro before line after front word hlines hline hword hfront n
    have hnone : announced? line = none :=
      announced?_eq_none_iff.2 (not_counts_of_front hline hword hfront)
    rw [lastCount_iff, lastCount_iff, hlines, List.filterMap_append, List.filterMap_append,
      List.filterMap_cons_none hnone]

/-- A warning behind the count. -/
theorem warning_passed_over :
    let ahead := "2 errors\n".toList
    let line := "warning: unchecked".toList
    ((ahead = [] ∨ ahead.getLast? = some '\n') ∧ (∀ c ∈ line, c ≠ '\n' ∧ c ≠ '\r') ∧ Silent line) ∧
      classify (ahead ++ line ++ Text.lineBreak false ++ []) = classify ahead := by
  intro ahead line
  have hahead : ahead = [] ∨ ahead.getLast? = some '\n' := .inr (by decide)
  have hline : ∀ c ∈ line, c ≠ '\n' ∧ c ≠ '\r' := by
    intro c hc
    have hchar : c ∈ "warning: unchecked".toList := hc
    constructor <;> rintro rfl <;> revert hchar <;> decide
  have hsilent : Silent line := by
    refine ⟨announced?_eq_none_iff.1 (by decide), ?_⟩
    rw [← contains_eq_true_iff]
    decide
  have hreport : ahead = ahead ++ [] := by decide
  exact ⟨⟨hahead, hline, hsilent⟩,
    (last_count_decides ahead).2.2.1 ahead line [] false hreport hahead hline hsilent⟩

end Report

end StaleBuild
