import Mathlib.Data.List.DropRight
import StaleBuild.Compiler.External
import StaleBuild.Proofs.Naming

/-!
# Where the two outputs of a compiler meet

What a failed program wrote to its two outputs is decoded one by one, joined with nothing in between
and read as one report. Its messages come from `entries`, the trimmed lines that are not blank:

    entries (out ++ err) = entries out ++ entries err                       (entries_append)
    entries (out ++ err) = init ++ (a ++ gap ++ b) :: rest                  (entries_append_of_not)
        where entries out = init ++ [a] and entries err = b :: rest

The first equation holds exactly if no line is running where the outputs meet (`Seamless`): the first
output ends in a line feed, or one of the two lines that come together is blank. Otherwise the last
message of the first output and the first one of the second are a single message.
-/

namespace StaleBuild

/-! ## Trimmed texts -/

namespace Text

variable {cs ds : List Char}

/-- A text is its trimmed form between blanks. -/
theorem exists_trimChars_eq (cs : List Char) : ∃ before after,
    cs = before ++ trimChars cs ++ after ∧ (∀ c ∈ before, isBlank c = true) ∧
      ∀ c ∈ after, isBlank c = true := by
  refine ⟨cs.takeWhile isBlank, (cs.dropWhile isBlank).rtakeWhile isBlank, ?_,
    fun c hc => List.mem_takeWhile_imp hc, fun c hc => List.mem_rtakeWhile_imp hc⟩
  have hend : trimChars cs ++ (cs.dropWhile isBlank).rtakeWhile isBlank = cs.dropWhile isBlank :=
    List.rdropWhile_append_rtakeWhile
  rw [List.append_assoc, hend, List.takeWhile_append_dropWhile]

theorem trimChars_eq_nil_iff : trimChars cs = [] ↔ ∀ c ∈ cs, isBlank c = true := by
  constructor
  · intro h
    obtain ⟨before, after, hcs, hbefore, hafter⟩ := exists_trimChars_eq cs
    rw [h, List.append_nil] at hcs
    rw [hcs]
    exact List.forall_mem_append.2 ⟨hbefore, hafter⟩
  · intro h
    rw [trimChars, List.dropWhile_eq_nil_iff.2 h]
    rfl

/-- A trimmed text begins with no blank. -/
theorem not_isBlank_head?_trimChars : ∀ c ∈ (trimChars cs).head?, isBlank c = false := by
  intro c hc
  have hprefix : trimChars cs <+: cs.dropWhile isBlank := List.rdropWhile_prefix isBlank _
  obtain ⟨rest, hrest⟩ := hprefix
  have hhead : (cs.dropWhile isBlank).head? = some c := by
    rw [← hrest, List.head?_append, Option.mem_def.1 hc, Option.some_or]
  have hnot := List.head?_dropWhile_not isBlank cs
  rwa [hhead] at hnot

/-- A trimmed text ends in no blank. -/
theorem not_isBlank_getLast?_trimChars : ∀ c ∈ (trimChars cs).getLast?, isBlank c = false := by
  intro c hc
  obtain ⟨hne, rfl⟩ := List.mem_getLast?_eq_getLast hc
  exact Bool.eq_false_iff.2 (List.rdropWhile_last_not isBlank (cs.dropWhile isBlank) hne)

/-- Blanks ahead of a text go when it is trimmed. -/
theorem trimChars_append_left {blanks : List Char} (h : trimChars blanks = []) :
    trimChars (blanks ++ cs) = trimChars cs := by
  rw [trimChars, List.dropWhile_append_of_pos (trimChars_eq_nil_iff.1 h), ← trimChars]

/-- Blanks behind a text go when it is trimmed. -/
theorem trimChars_append_right {blanks : List Char} (h : trimChars blanks = []) :
    trimChars (cs ++ blanks) = trimChars cs := by
  have hblanks := trimChars_eq_nil_iff.1 h
  by_cases hnone : trimChars cs = []
  · rw [hnone, trimChars_eq_nil_iff]
    exact List.forall_mem_append.2 ⟨trimChars_eq_nil_iff.1 hnone, hblanks⟩
  · obtain ⟨before, after, hcs, hbefore, hafter⟩ := exists_trimChars_eq cs
    have hall : ∀ c ∈ after ++ blanks, isBlank c = true :=
      List.forall_mem_append.2 ⟨hafter, hblanks⟩
    have hshape : cs ++ blanks = before ++ trimChars cs ++ (after ++ blanks) := by
      conv_lhs => rw [hcs]
      rw [List.append_assoc]
    rw [hshape, trimChars_append hbefore hall hnone not_isBlank_head?_trimChars
      not_isBlank_getLast?_trimChars]

theorem trimChars_trimChars : trimChars (trimChars cs) = trimChars cs := by
  by_cases hnone : trimChars cs = []
  · rw [hnone]
    rfl
  · have hempty : ∀ c ∈ ([] : List Char), isBlank c = true := fun c hc => nomatch hc
    simpa using trimChars_append hempty hempty hnone not_isBlank_head?_trimChars
      not_isBlank_getLast?_trimChars

/-- Two texts that are not blank keep both of their trimmed forms when they are joined. -/
theorem trimChars_append_of_ne_nil (hcs : trimChars cs ≠ []) (hds : trimChars ds ≠ []) :
    ∃ gap, (∀ c ∈ gap, isBlank c = true) ∧
      trimChars (cs ++ ds) = trimChars cs ++ gap ++ trimChars ds := by
  obtain ⟨before, gap, hc, hbefore, hgap⟩ := exists_trimChars_eq cs
  obtain ⟨gap', after, hd, hgap', hafter⟩ := exists_trimChars_eq ds
  refine ⟨gap ++ gap', List.forall_mem_append.2 ⟨hgap, hgap'⟩, ?_⟩
  have hshape : cs ++ ds =
      before ++ (trimChars cs ++ (gap ++ gap') ++ trimChars ds) ++ after := by
    conv_lhs => rw [hc, hd]
    simp only [List.append_assoc]
  rw [hshape]
  refine trimChars_append hbefore hafter (by simp [hcs]) (fun c h => ?_) fun c h => ?_
  · rw [List.append_assoc, List.head?_append_of_ne_nil _ hcs] at h
    exact not_isBlank_head?_trimChars c h
  · rw [List.getLast?_append_of_ne_nil _ hds] at h
    exact not_isBlank_getLast?_trimChars c h

/-! ## The lines of two texts in a row -/

theorem lines_cons_of_eq {c : Char} {rest line : List Char} {more : List (List Char)}
    (hfeed : c ≠ '\n') (hreturn : ∀ after, c = '\r' → rest ≠ '\n' :: after)
    (h : lines rest = line :: more) : lines (c :: rest) = (c :: line) :: more := by
  rw [lines, h]
  · exact hfeed
  · exact hreturn

theorem lines_singleton {c : Char} (hfeed : c ≠ '\n') : lines [c] = [[c]] := by
  rw [lines]
  · rfl
  · exact hfeed
  · exact fun _ _ h => nomatch h

theorem lines_eq_nil_iff {cs : List Char} : lines cs = [] ↔ cs = [] := by
  refine ⟨fun h => ?_, fun h => h ▸ rfl⟩
  induction cs using lines.induct with
  | case1 => rfl
  | case2 | case3 => simp [lines] at h
  | case4 c rest hfeed hreturn hrest => rw [lines, hrest] at h <;> simp_all
  | case5 c rest hfeed hreturn line more hrest => rw [lines, hrest] at h <;> simp_all

/-- Behind a line feed the lines are those of the rest. -/
theorem lines_append_of_ended {out : List Char} (err : List Char)
    (h : out.getLast? = some '\n') : lines (out ++ err) = lines out ++ lines err := by
  induction out using lines.induct with
  | case1 => simp at h
  | case2 rest ih | case3 rest ih =>
    cases rest with
    | nil => rfl
    | cons d rest => exact congrArg (List.cons []) (ih h)
  | case4 c rest hfeed hreturn hrest =>
    rw [lines_eq_nil_iff.1 hrest, List.getLast?_singleton, Option.some_inj] at h
    exact absurd h hfeed
  | case5 c rest hfeed hreturn line more hrest ih =>
    cases rest with
    | nil => cases hrest
    | cons d rest =>
      have hboth := ih h
      rw [hrest, List.cons_append] at hboth
      rw [lines_cons_of_eq hfeed hreturn hrest]
      refine lines_cons_of_eq hfeed (fun after hc heq => ?_) hboth
      obtain ⟨rfl, -⟩ := List.cons.inj heq
      exact hreturn rest hc rfl

/-- The line in which two lines meet. It is one behind the other; a carriage return between them and
a line feed goes. -/
def Meeting (tail first joined : List Char) : Prop :=
  tail ++ first = joined ∨ first = [] ∧ tail = joined ++ ['\r']

theorem Meeting.cons {tail first joined : List Char} (h : Meeting tail first joined) (c : Char) :
    Meeting (c :: tail) first (c :: joined) := by
  obtain rfl | ⟨hfirst, rfl⟩ := h
  · exact .inl rfl
  · exact .inr ⟨hfirst, rfl⟩

theorem Meeting.trimChars_eq {tail first joined : List Char} (h : Meeting tail first joined) :
    trimChars joined = trimChars (tail ++ first) := by
  obtain rfl | ⟨rfl, rfl⟩ := h
  · rfl
  · rw [List.append_nil, trimChars_append_right (by decide)]

/-- Behind a text whose last line has no end, the first line of the rest meets that line. -/
theorem lines_append_of_unended {out err first : List Char} {more : List (List Char)}
    (hne : out ≠ []) (h : out.getLast? ≠ some '\n') (herr : lines err = first :: more) :
    ∃ init tail joined, lines out = init ++ [tail] ∧
      lines (out ++ err) = init ++ joined :: more ∧ Meeting tail first joined := by
  induction out using lines.induct with
  | case1 => exact absurd rfl hne
  | case2 rest ih | case3 rest ih =>
    -- a line that has its end
    cases rest with
    | nil => exact absurd rfl h
    | cons d rest =>
      obtain ⟨init, tail, joined, hout, hboth, hmeet⟩ := ih (List.cons_ne_nil d rest) h
      exact ⟨[] :: init, tail, joined, congrArg (List.cons []) hout,
        congrArg (List.cons []) hboth, hmeet⟩
  | case4 c rest hfeed hreturn hrest =>
    -- the last character, which may be the carriage return ahead of a line feed
    obtain rfl := lines_eq_nil_iff.1 hrest
    by_cases hcr : ∃ after, c = '\r' ∧ err = '\n' :: after
    · obtain ⟨after, rfl, rfl⟩ := hcr
      obtain ⟨rfl, rfl⟩ := List.cons.inj herr
      exact ⟨[], ['\r'], [], rfl, rfl, .inr ⟨rfl, rfl⟩⟩
    · refine ⟨[], [c], c :: first, lines_singleton hfeed, ?_, .inl rfl⟩
      exact lines_cons_of_eq hfeed (fun after hc heq => hcr ⟨after, hc, heq⟩) herr
  | case5 c rest hfeed hreturn line lines' hrest ih =>
    cases rest with
    | nil => cases hrest
    | cons d rest =>
      obtain ⟨init, tail, joined, hout, hboth, hmeet⟩ := ih (List.cons_ne_nil d rest) h
      have hfree : ∀ after, c = '\r' → d :: rest ++ err ≠ '\n' :: after := fun after hc heq => by
        obtain ⟨rfl, -⟩ := List.cons.inj heq
        exact hreturn rest hc rfl
      cases init with
      | nil =>
        exact ⟨[], c :: tail, c :: joined, lines_cons_of_eq hfeed hreturn hout,
          lines_cons_of_eq hfeed hfree hboth, hmeet.cons c⟩
      | cons line init =>
        exact ⟨(c :: line) :: init, tail, joined, lines_cons_of_eq hfeed hreturn hout,
          lines_cons_of_eq hfeed hfree hboth, hmeet⟩

end Text

/-! ## The lines that are not blank -/

namespace Report

variable {out err report : List Char}

/-- The trimmed lines that are not blank. -/
def entriesOf (lines : List (List Char)) : List (List Char) :=
  (lines.map Text.trimChars).filter (· ≠ [])

/-- The lines of a report that are not blank, trimmed. -/
def entries (report : List Char) : List (List Char) := entriesOf (Text.lines report)

theorem messages_eq (report : List Char) : messages report = (entries report).map String.ofList :=
  rfl

theorem entriesOf_append (xs ys : List (List Char)) :
    entriesOf (xs ++ ys) = entriesOf xs ++ entriesOf ys := by
  rw [entriesOf, List.map_append, List.filter_append]
  rfl

theorem entriesOf_cons_of_blank {line : List Char} {more : List (List Char)}
    (h : Text.trimChars line = []) : entriesOf (line :: more) = entriesOf more := by
  rw [entriesOf, List.map_cons, List.filter_cons_of_neg (by simpa using h), entriesOf]

theorem entriesOf_cons_of_ne {line : List Char} {more : List (List Char)}
    (h : Text.trimChars line ≠ []) :
    entriesOf (line :: more) = Text.trimChars line :: entriesOf more := by
  rw [entriesOf, List.map_cons, List.filter_cons_of_pos (by simpa using h), entriesOf]

/-- The entries of some lines depend on the trimmed lines only. -/
theorem entriesOf_cons_congr {line line' : List Char} {more : List (List Char)}
    (h : Text.trimChars line = Text.trimChars line') :
    entriesOf (line :: more) = entriesOf (line' :: more) := by
  rw [entriesOf, List.map_cons, h, ← List.map_cons, entriesOf]

/-- No line is running where two texts meet: the first ends in a line feed, or one of the lines that
come together is blank. -/
def Seamless (out err : List Char) : Prop :=
  out.getLast? = some '\n' ∨ (∀ tail ∈ (Text.lines out).getLast?, Text.trimChars tail = []) ∨
    ∀ first ∈ (Text.lines err).head?, Text.trimChars first = []

instance (out err : List Char) : Decidable (Seamless out err) :=
  inferInstanceAs (Decidable (_ ∨ _ ∨ _))

/-- Without a seam the entries of both texts stand one behind the other. -/
theorem entries_append (h : Seamless out err) :
    entries (out ++ err) = entries out ++ entries err := by
  by_cases hended : out.getLast? = some '\n'
  · rw [entries, Text.lines_append_of_ended err hended, entriesOf_append, ← entries, ← entries]
  by_cases hnone : out = []
  · rw [hnone]
    rfl
  cases herr : Text.lines err with
  | nil =>
    rw [Text.lines_eq_nil_iff.1 herr, List.append_nil]
    exact (List.append_nil _).symm
  | cons first more =>
    obtain ⟨init, tail, joined, hout, hboth, hmeet⟩ :=
      Text.lines_append_of_unended hnone hended herr
    rw [entries, entries, entries, hboth, hout, herr, entriesOf_append, entriesOf_append,
      List.append_assoc, ← entriesOf_append [tail]]
    congr 1
    have hblank : Text.trimChars tail = [] ∨ Text.trimChars first = [] := by
      obtain h | h | h := h
      · exact absurd h hended
      · exact .inl (h tail (by rw [hout, List.getLast?_concat, Option.mem_some_iff]))
      · exact .inr (h first (by rw [herr, List.head?_cons, Option.mem_some_iff]))
    obtain htail | hfirst := hblank
    · -- the line that ends the first text is blank
      rw [List.singleton_append, entriesOf_cons_of_blank htail]
      refine entriesOf_cons_congr ?_
      rw [hmeet.trimChars_eq, Text.trimChars_append_left htail]
    · -- the line that begins the second one is blank
      rw [entriesOf_append, entriesOf_cons_of_blank hfirst, ← entriesOf_append]
      refine entriesOf_cons_congr ?_
      rw [hmeet.trimChars_eq, Text.trimChars_append_right hfirst]

/-- At a seam the last entry of one text and the first entry of the other one are a single entry. -/
theorem entries_append_of_not (h : ¬Seamless out err) :
    ∃ init a gap b rest, entries out = init ++ [a] ∧ entries err = b :: rest ∧
      (∀ c ∈ gap, Text.isBlank c = true) ∧
      entries (out ++ err) = init ++ (a ++ gap ++ b) :: rest := by
  simp only [Seamless, not_or] at h
  obtain ⟨hended, htail, hfirst⟩ := h
  have hnone : out ≠ [] := by
    rintro rfl
    exact htail fun tail h => nomatch h
  cases herr : Text.lines err with
  | nil => exact absurd (fun first h => by rw [herr] at h; cases h) hfirst
  | cons first more =>
    obtain ⟨init, tail, joined, hout, hboth, hmeet⟩ :=
      Text.lines_append_of_unended hnone hended herr
    have htail : Text.trimChars tail ≠ [] := by simpa [hout] using htail
    have hfirst : Text.trimChars first ≠ [] := by simpa [herr] using hfirst
    obtain ⟨gap, hgap, hjoined⟩ := Text.trimChars_append_of_ne_nil htail hfirst
    rw [← hmeet.trimChars_eq] at hjoined
    refine ⟨entriesOf init, Text.trimChars tail, gap, Text.trimChars first, entriesOf more,
      ?_, ?_, hgap, ?_⟩
    · rw [entries, hout, entriesOf_append, entriesOf_cons_of_ne htail]
      rfl
    · rw [entries, herr, entriesOf_cons_of_ne hfirst]
    · have hne : Text.trimChars joined ≠ [] := by simp [hjoined, htail]
      rw [entries, hboth, entriesOf_append, entriesOf_cons_of_ne hne, hjoined]

/-- The messages of both texts stand one behind the other exactly if there is no seam. -/
theorem messages_append_iff :
    messages (out ++ err) = messages out ++ messages err ↔ Seamless out err := by
  constructor
  · intro hmessages
    by_contra hseam
    obtain ⟨init, a, gap, b, rest, hout, herr, -, hboth⟩ := entries_append_of_not hseam
    have hlength := congrArg List.length hmessages
    simp only [messages_eq, hout, herr, hboth, List.length_append, List.length_map,
      List.length_cons, List.length_nil] at hlength
    omega
  · intro h
    rw [messages_eq, entries_append h, List.map_append, ← messages_eq, ← messages_eq]

/-! ## The line that counts errors -/

/-- Trimmed, the line is a number, blanks of which the last one is a space, and `error` or
`errors`. -/
def Announces (line : List Char) (n : Nat) : Prop :=
  ∃ number gap word, Text.trimChars line = number ++ gap ++ ' ' :: word ∧
    (∀ c ∈ gap, Text.isBlank c = true) ∧ (word = "error".toList ∨ word = "errors".toList) ∧
    Text.count? number = some n

/-- Behind the lines `before` stands the last one that announces a number, which is `n`. -/
def LastAnnounced (lines before : List (List Char)) (n : Nat) : Prop :=
  ∃ line after, lines = before ++ line :: after ∧ Announces line n ∧
    ∀ l ∈ after, ∀ m, ¬Announces l m

theorem isDigit_of_digitsFrom? {value n : Nat} {cs : List Char}
    (h : Text.digitsFrom? value cs = some n) : ∀ c ∈ cs, c.isDigit = true := by
  induction cs generalizing value with
  | nil => exact fun c hc => nomatch hc
  | cons d rest ih =>
    rw [Text.digitsFrom?] at h
    split at h
    · next hdigit => exact List.forall_mem_cons.2 ⟨hdigit, ih h⟩
    · cases h

theorem not_isBlank_of_isDigit {c : Char} (h : c.isDigit = true) : Text.isBlank c = false := by
  simp only [Char.isDigit, Bool.and_eq_true, decide_eq_true_eq, ge_iff_le,
    UInt32.le_iff_toNat_le] at h
  have hlow : 48 ≤ c.toNat := h.1
  have hhigh : c.toNat ≤ 57 := h.2
  simp only [Text.isBlank, Bool.or_eq_false_iff, Bool.and_eq_false_iff, decide_eq_false_iff_not]
  omega

/-- A number is some digits, with nothing but a plus sign ahead of them. -/
theorem not_isBlank_of_count? {n : Nat} {number : List Char} (h : Text.count? number = some n) :
    number ≠ [] ∧ ∀ c ∈ number, Text.isBlank c = false := by
  have hdigits : Text.withoutPlus number ≠ [] ∧
      ∀ c ∈ Text.withoutPlus number, Text.isBlank c = false := by
    unfold Text.count? at h
    dsimp only at h
    split at h
    · cases h
    · next hne =>
      split at h
      · next value hvalue =>
        exact ⟨hne, fun c hc => not_isBlank_of_isDigit (isDigit_of_digitsFrom? hvalue c hc)⟩
      · cases h
  unfold Text.withoutPlus at hdigits
  split at hdigits
  · exact ⟨List.cons_ne_nil _ _, List.forall_mem_cons.2 ⟨by decide, hdigits.2⟩⟩
  · exact hdigits

theorem announces_of_suffix {line ahead word : List Char} {n : Nat}
    (hword : word = "error".toList ∨ word = "errors".toList)
    (hline : ahead ++ ' ' :: word = Text.trimChars line)
    (hcount : Text.count? (Text.trimChars ahead) = some n) : Announces line n := by
  obtain ⟨before, gap, hahead, hbefore, hgap⟩ := Text.exists_trimChars_eq ahead
  have hnone : before = [] := by
    cases before with
    | nil => rfl
    | cons c rest =>
      -- the line is trimmed, so it begins with no blank
      have hc : c ∈ (Text.trimChars line).head? := by rw [← hline, hahead]; rfl
      have hblank := hbefore c List.mem_cons_self
      rw [Text.not_isBlank_head?_trimChars c hc] at hblank
      cases hblank
  refine ⟨Text.trimChars ahead, gap, word, ?_, hgap, hword, hcount⟩
  rw [← hline]
  conv_lhs => rw [hahead, hnone]
  rfl

/-- What stands ahead of the word, whichever of the two it is. -/
theorem suffix_of_word {text ahead word : List Char} (htext : text = ahead ++ ' ' :: word)
    (hword : word = "error".toList ∨ word = "errors".toList) :
    (" errors".toList.isSuffixOf? text).or (" error".toList.isSuffixOf? text) = some ahead := by
  obtain rfl | rfl := hword
  · -- a text that ends in `error` does not end in `errors`
    have hother : " errors".toList.isSuffixOf? text = none := by
      rw [Option.eq_none_iff_forall_ne_some]
      intro front heq
      have hends := List.isSuffixOf?_eq_some_iff_append_eq.1 heq
      rw [htext] at hends
      have hlast := congrArg List.getLast? hends
      simp at hlast
    rw [hother, Option.none_or]
    exact List.isSuffixOf?_eq_some_iff_append_eq.2 htext.symm
  · have hplural : " errors".toList.isSuffixOf? text = some ahead :=
      List.isSuffixOf?_eq_some_iff_append_eq.2 htext.symm
    rw [hplural, Option.some_or]

/-- The number read off a line is the one that it announces. -/
theorem announced?_eq_some_iff {line : List Char} {n : Nat} :
    announced? line = some n ↔ Announces line n := by
  constructor
  · intro h
    unfold announced? at h
    dsimp only at h
    split at h
    · next ahead hahead =>
      obtain hplural | ⟨-, hsingular⟩ := Option.or_eq_some_iff.1 hahead
      · exact announces_of_suffix (.inr rfl) (List.isSuffixOf?_eq_some_iff_append_eq.1 hplural) h
      · exact announces_of_suffix (.inl rfl) (List.isSuffixOf?_eq_some_iff_append_eq.1 hsingular) h
    · cases h
  · rintro ⟨number, gap, word, hline, hgap, hword, hcount⟩
    obtain ⟨hne, hplain⟩ := not_isBlank_of_count? hcount
    have htrim : Text.trimChars (number ++ gap) = number := by
      rw [Text.trimChars_append_right (Text.trimChars_eq_nil_iff.2 hgap)]
      have hempty : ∀ c ∈ ([] : List Char), Text.isBlank c = true := fun c hc => nomatch hc
      simpa using Text.trimChars_append hempty hempty hne
        (fun c hc => hplain c (List.mem_of_mem_head? hc))
        fun c hc => hplain c (List.mem_of_getLast? hc)
    simp only [announced?, suffix_of_word hline hword, htrim, hcount]

/-- The number announced last, as it is looked for from the end. -/
theorem LastAnnounced.findSome? {lines before : List (List Char)} {n : Nat}
    (h : LastAnnounced lines before n) : lines.reverse.findSome? announced? = some n := by
  obtain ⟨line, after, hlines, hline, hafter⟩ := h
  have hnone : after.reverse.findSome? announced? = none := by
    refine List.findSome?_eq_none_iff.2 fun l hl => Option.eq_none_iff_forall_ne_some.2 fun m hm => ?_
    exact hafter l (List.mem_reverse.1 hl) m (announced?_eq_some_iff.1 hm)
  rw [hlines, List.reverse_append, List.reverse_cons, List.findSome?_append, List.findSome?_append,
    hnone, List.findSome?_singleton, announced?_eq_some_iff.2 hline]
  rfl

/-- Lines that are blank announce nothing. -/
theorem findSome?_entriesOf (lines : List (List Char)) :
    (entriesOf lines).reverse.findSome? announced? = lines.reverse.findSome? announced? := by
  induction lines with
  | nil => rfl
  | cons line more ih =>
    rw [List.reverse_cons, List.findSome?_append, ← ih, List.findSome?_singleton]
    by_cases hblank : Text.trimChars line = []
    · have hnone : announced? line = none := by
        rw [announced?, hblank]
        rfl
      rw [entriesOf_cons_of_blank hblank, hnone, Option.or_none]
    · have htrim : announced? (Text.trimChars line) = announced? line := by
        rw [announced?, Text.trimChars_trimChars, announced?]
      rw [entriesOf_cons_of_ne hblank, List.reverse_cons, List.findSome?_append,
        List.findSome?_singleton, htrim]

theorem classify_eq_multipleErrors {report : List Char} {n : Nat}
    (h : (Text.lines report).reverse.findSome? announced? = some n) (hn : 1 < n) :
    classify report = .multipleErrors := by
  unfold classify
  split
  · rfl
  · simp only [h, Option.getD_some, hn, if_true]

/-- A count in the second text decides about both, unless it stands in a line that is running on. -/
theorem findSome?_lines_append {before : List (List Char)} {n : Nat}
    (h : LastAnnounced (Text.lines err) before n) (hplace : Seamless out err ∨ before ≠ []) :
    (Text.lines (out ++ err)).reverse.findSome? announced? = some n := by
  by_cases hseam : Seamless out err
  · rw [← findSome?_entriesOf, ← entries, entries_append hseam, List.reverse_append,
      List.findSome?_append, entries, findSome?_entriesOf, h.findSome?, Option.some_or]
  · have hbefore := hplace.resolve_left hseam
    simp only [Seamless, not_or] at hseam
    have hnone : out ≠ [] := by
      rintro rfl
      exact hseam.2.1 fun tail h => nomatch h
    obtain ⟨first, ahead, rfl⟩ := List.exists_cons_of_ne_nil hbefore
    obtain ⟨line, after, herr, hline, hafter⟩ := h
    obtain ⟨init, tail, joined, -, hboth, -⟩ :=
      Text.lines_append_of_unended hnone hseam.1 herr
    have hlast : LastAnnounced (Text.lines (out ++ err)) (init ++ joined :: ahead) n :=
      ⟨line, after, by rw [hboth, List.append_assoc]; rfl, hline, hafter⟩
    exact hlast.findSome?

/-! ## What is reported of a failed program -/

/-- The diagnostics of a program that wrote `out` and `err` before it failed. -/
structure ReadJoined (out err : List Char) (d : Diagnostics) : Prop where
  apart : d.messages = messages out ++ messages err ↔ Seamless out err
  merged : ¬Seamless out err → ∃ init a gap b rest, messages out = init ++ [a] ∧
    messages err = b :: rest ∧ Text.isAllBlank gap = true ∧
      d.messages = init ++ (a ++ gap ++ b) :: rest
  several : ∀ before n, LastAnnounced (Text.lines err) before n → 1 < n →
    (Seamless out err ∨ before ≠ []) → d.kind = .multipleErrors

theorem readJoined_diagnostics (output errors : Bytes) :
    ReadJoined (Utf8.decodeLossyChars output) (Utf8.decodeLossyChars errors)
      (diagnostics output errors) where
  apart := messages_append_iff
  merged hseam := by
    obtain ⟨init, a, gap, b, rest, hout, herr, hgap, hboth⟩ := entries_append_of_not hseam
    refine ⟨init.map String.ofList, String.ofList a, String.ofList gap, String.ofList b,
      rest.map String.ofList, ?_, ?_, ?_, ?_⟩
    · rw [messages_eq, hout, List.map_append]
      rfl
    · rw [messages_eq, herr, List.map_cons]
    · rw [Text.isAllBlank, String.toList_ofList, List.all_eq_true]
      exact hgap
    · rw [← String.ofList_append, ← String.ofList_append]
      exact (messages_eq _).trans (by rw [hboth, List.map_append, List.map_cons])
  several before n h hn hplace := classify_eq_multipleErrors (findSome?_lines_append h hplace) hn

end Report

namespace ExternalCompiler

variable {σ : Type}

/-- **The outputs of a failed program are reported apart exactly if no line runs from one into the
other.** If one does, it is a single message, and a count that begins the second output need not be
read as such; every later count is. -/
theorem failed_outputs_joined (ext : ExternalCompiler) {launch : Launcher σ} {sources : List Path}
    {dest : Path} {w left : World σ} {finished : Finished}
    (hrun : launch (ext.command sources dest) w = (.ok finished, left))
    (hfailed : finished.succeeded = false) :
    ∃ d, ext.generate launch sources dest w = (.diagnostics d, left) ∧
      Report.ReadJoined (Utf8.decodeLossyChars finished.output)
        (Utf8.decodeLossyChars finished.errors) d := by
  refine ⟨Report.diagnostics finished.output finished.errors, ?_, Report.readJoined_diagnostics _ _⟩
  simp only [generate, hrun, hfailed, Bool.false_eq_true, if_false]

end ExternalCompiler

namespace Rehearsal

def groovyc : ExternalCompiler := ⟨"groovyc", []⟩

/-- Nothing there and nothing to remember. -/
def bareStage : World Unit := ⟨FileTree.fresh [] 0, 0, none, ()⟩

/-- A program that writes to its two outputs and fails. -/
def failing (output errors : Bytes) : Launcher Unit := fun _ w => (.ok ⟨false, output, errors⟩, w)

/-- The second output of a program that counts what it found. -/
def twoErrors : Bytes := Utf8.encode "2 errors\n"

end Rehearsal

open Rehearsal

/-- The first output ends in a line feed. -/
theorem ended_output_reported_apart :
    let ended := Utf8.encode "Foo.groovy: 3: bad\n"
    let launch := failing ended twoErrors
    ∃ d, (launch (groovyc.command [] (.ofString "out")) bareStage =
        (.ok ⟨false, ended, twoErrors⟩, bareStage)) ∧
      groovyc.generate launch [] (.ofString "out") bareStage = (.diagnostics d, bareStage) ∧
      Report.ReadJoined (Utf8.decodeLossyChars ended) (Utf8.decodeLossyChars twoErrors) d ∧
      d = ⟨.multipleErrors, ["Foo.groovy: 3: bad", "2 errors"]⟩ := by
  intro ended launch
  have hrun : launch (groovyc.command [] (.ofString "out")) bareStage =
    (.ok ⟨false, ended, twoErrors⟩, bareStage) := rfl
  obtain ⟨d, hd, hjoined⟩ := groovyc.failed_outputs_joined hrun rfl
  have hshown : (groovyc.generate launch [] (.ofString "out") bareStage).1 =
      .diagnostics ⟨.multipleErrors, ["Foo.groovy: 3: bad", "2 errors"]⟩ := by decide +kernel
  rw [hd] at hshown
  exact ⟨d, hrun, hd, hjoined, CompileOutcome.diagnostics.inj hshown⟩

/-- A first output without a line feed takes the count away from the second. -/
theorem unended_output_runs_on :
    (groovyc.generate (failing (Utf8.encode "done") twoErrors) [] (.ofString "out") bareStage).1 =
        .diagnostics ⟨.compilationFailed, ["done2 errors"]⟩ ∧
      Report.messages (Utf8.decodeLossyChars (Utf8.encode "done")) ++
        Report.messages (Utf8.decodeLossyChars twoErrors) = ["done", "2 errors"] ∧
      Report.LastAnnounced (Text.lines (Utf8.decodeLossyChars twoErrors)) [] 2 := by
  refine ⟨by decide +kernel, by decide +kernel, "2 errors".toList, [], by decide +kernel,
    ⟨['2'], [], "errors".toList, by decide +kernel, List.forall_mem_nil _, .inr rfl,
      by decide +kernel⟩, List.forall_mem_nil _⟩

end StaleBuild
