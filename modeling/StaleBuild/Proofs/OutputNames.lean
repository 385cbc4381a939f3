import StaleBuild.Proofs.Decoding
import StaleBuild.Proofs.Prediction
import StaleBuild.Proofs.SourceKinds

/-!
# From the name of a source to those of its class files

A source is named by a base with the suffix of its kind. The class files are named by the same base,
or by what stands behind its last separator:

    name           base ++ ".groovy"  or  base ++ ".java"
    packageOutput  base ++ ".class"
    rootOutput?    simple ++ ".class"        if the source is Groovy and base = front ++ "/" ++ simple

Bytes are cut for this in two places, ahead of the full stop of the suffix and behind a separator.
Both bytes are of ASCII, and an encoded text holds one of ASCII only as a character
(`Utf8.exists_of_encode_eq_append`), so every cut is between two characters (`outputs_of_name`). The
base is not lost in the name of the class file: two sources that share it are of different kinds, or
they are the same.
-/

namespace StaleBuild

/-! ## Cutting encoded texts -/

namespace Utf8

theorem encode_append (s t : String) : encode (s ++ t) = encode s ++ encode t := by
  simp only [encode, encodeChars, String.toList_append, List.flatMap_append]

theorem encode_injective {s t : String} (h : encode s = encode t) : s = t := by
  have hdecoded := congrArg decode? h
  rwa [decode?_encode, decode?_encode, Option.some_inj] at hdecoded

theorem encodeChars_cons (c : Char) (cs : List Char) :
    encodeChars (c :: cs) = String.utf8EncodeChar c ++ encodeChars cs :=
  List.flatMap_cons

/-- The end of a text, as a position in it. -/
theorem length_encode (s : String) : (encode s).length = s.utf8ByteSize := by
  have hbytes : s.toByteArray = (encode s).toByteArray := by
    conv_lhs => rw [← String.ofList_toList (s := s)]
    rfl
  rw [← String.size_toByteArray, hbytes, List.size_toByteArray]

/-- A position behind the first of two texts lies between two characters. -/
theorem isValid_append (s t : String) :
    (String.Pos.Raw.mk (encode s).length).IsValid (s ++ t) := by
  rw [String.Pos.Raw.isValid_iff_exists_append]
  exact ⟨s, t, rfl, congrArg String.Pos.Raw.mk (length_encode s)⟩

/-- A byte of ASCII is the only byte of its character. -/
theorem utf8EncodeChar_of_mem {b : UInt8} (hb : b < 0x80) {c : Char}
    (h : b ∈ String.utf8EncodeChar c) :
    c = Char.ofNat b.toNat ∧ String.utf8EncodeChar c = [b] := by
  have hc : c = Char.ofNat b.toNat := by
    have hmem : b ∈ encodeChars [c] := by simpa [encodeChars] using h
    simpa [eq_comm] using mem_of_ascii_mem_encodeChars hb hmem
  have hlow : c.toNat ≤ 0x7F := by
    have hbyte : b.toNat < 0x80 := hb
    have hvalid : b.toNat.isValidChar := .inl (by omega)
    have hsame : (Char.ofNat b.toNat).toNat = b.toNat := by
      rw [Char.ofNat, dif_pos hvalid]
      rfl
    rw [hc, hsame]
    omega
  have hone : String.utf8EncodeChar c = [UInt8.ofNat c.toNat] := by
    simp [String.utf8EncodeChar, hlow]
  rw [hone, List.mem_singleton] at h
  exact ⟨hc, by rw [hone, h]⟩

/-- **An encoded text holds a byte of ASCII only as a character**, with encoded texts around it. -/
theorem encodeChars_eq_append {cs : List Char} {front rest : Bytes} {b : UInt8} (hb : b < 0x80)
    (h : encodeChars cs = front ++ b :: rest) :
    ∃ before after, cs = before ++ Char.ofNat b.toNat :: after ∧ front = encodeChars before ∧
      rest = encodeChars after := by
  induction cs generalizing front with
  | nil => simp [encodeChars] at h
  | cons c more ih =>
    rw [encodeChars_cons, List.append_eq_append_iff] at h
    obtain ⟨front', rfl, hmore⟩ | ⟨behind, hc, hrest⟩ := h
    · obtain ⟨before, after, rfl, rfl, hafter⟩ := ih hmore
      exact ⟨c :: before, after, rfl, rfl, hafter⟩
    · cases behind with
      | nil =>
        -- the character ends where `front` does
        have hends : encodeChars more = [] ++ b :: rest := hrest.symm
        obtain ⟨before, after, rfl, hbefore, hafter⟩ := ih hends
        refine ⟨c :: before, after, rfl, ?_, hafter⟩
        rw [encodeChars_cons, ← hbefore, hc, List.append_nil, List.append_nil]
      | cons b' behind =>
        -- the byte is one of the character's, so it is the only one
        obtain ⟨rfl, htail⟩ := List.cons.inj hrest
        have hmem : b ∈ String.utf8EncodeChar c := by
          rw [hc]
          exact List.mem_append_right _ List.mem_cons_self
        obtain ⟨rfl, hone⟩ := utf8EncodeChar_of_mem hb hmem
        have halone : front ++ b :: behind = [b] := hc.symm.trans hone
        obtain ⟨rfl, hbehind⟩ : front = [] ∧ b :: behind = [b] := by
          refine (List.append_eq_singleton_iff.1 halone).resolve_right ?_
          simp
        refine ⟨[], more, rfl, rfl, ?_⟩
        rw [htail, (List.cons.inj hbehind).2]
        rfl

theorem exists_of_encode_eq_append {s : String} {front rest : Bytes} {b : UInt8} (hb : b < 0x80)
    (h : encode s = front ++ b :: rest) :
    ∃ before after : String, s = before ++ String.singleton (Char.ofNat b.toNat) ++ after ∧
      front = encode before ∧ rest = encode after := by
  obtain ⟨before, after, hs, hfront, hrest⟩ := encodeChars_eq_append hb h
  refine ⟨String.ofList before, String.ofList after, ?_, ?_, ?_⟩
  · rw [← String.toList_inj]
    simp [hs]
  · rw [encode, String.toList_ofList, hfront]
  · rw [encode, String.toList_ofList, hrest]

end Utf8

/-! ## Names with a suffix -/

/-- The suffix of a kind, as a text. -/
def SourceKind.ending : SourceKind → String
  | .groovy => ".groovy"
  | .java => ".java"

theorem SourceKind.suffix_eq (kind : SourceKind) : kind.suffix = Utf8.encode kind.ending := by
  cases kind <;> decide

theorem SourceKind.ending_eq (kind : SourceKind) : kind.ending = "." ++ kind.name := by
  cases kind <;> decide

namespace Candidate

variable {c : Candidate} {n base : String}

/-- The name of a candidate, if it is a text, is a text with the suffix behind it. -/
theorem exists_base_of_name (h : c.name = .ofString n) :
    ∃ base : String, n = base ++ c.kind.ending ∧ c.base = Utf8.encode base := by
  have hbytes : Utf8.encode n = c.base ++ Path.fullStop :: Utf8.encode c.kind.name :=
    (congrArg Path.bytes h).symm
  obtain ⟨before, after, hn, hbefore, hafter⟩ :=
    Utf8.exists_of_encode_eq_append (by decide) hbytes
  refine ⟨before, ?_, hbefore⟩
  have hstop : String.singleton (Char.ofNat Path.fullStop.toNat) = "." := by decide
  rw [hn, hstop, ← Utf8.encode_injective hafter, c.kind.ending_eq, String.append_assoc]

theorem name_eq (h : c.base = Utf8.encode base) : c.name = .ofString (base ++ c.kind.ending) := by
  rw [name, h, c.kind.suffix_eq, Path.ofString, Utf8.encode_append]

/-- A text with a suffix behind it is a candidate if there is something of it. -/
theorem exists_ofName? (hbase : base ≠ "") (kind : SourceKind) :
    ∃ c, ofName? (.ofString (base ++ kind.ending)) = some c ∧ c.kind = kind ∧
      c.base = Utf8.encode base := by
  have hne : Utf8.encode base ≠ [] := by
    intro hnil
    exact hbase (Utf8.encode_injective (t := "") hnil)
  let c : Candidate := ⟨kind, Utf8.encode base, hne⟩
  exact ⟨c, ofName?_eq_some_iff.2 (c.name_eq rfl), rfl, rfl⟩

/-! ## Names of class files -/

theorem packageOutput_eq (h : c.base = Utf8.encode base) :
    c.packageOutput = .ofString (base ++ ".class") := by
  rw [packageOutput, h, Path.ofString, Utf8.encode_append, classSuffix]

/-- Behind its last separator the base is the simple name. -/
theorem simpleBase_of_base {front simple : Bytes} (h : c.base = front ++ Path.separator :: simple)
    (hsimple : Path.separator ∉ simple) : c.simpleBase = simple := by
  have hlast : c.simpleBase = Path.lastSegment ⟨c.base⟩ := rfl
  rw [hlast, h, Path.lastSegment_append_separator, Path.lastSegment_of_separator_notMem hsimple]

theorem lastSegment_packageOutput (c : Candidate) :
    c.packageOutput.lastSegment = c.simpleBase ++ classSuffix :=
  Path.lastSegment_append c.base separator_notMem_classSuffix

theorem fileName?_of_lastSegment {p : Path} {stem : Bytes}
    (h : p.lastSegment = stem ++ classSuffix) : p.fileName? = some (stem ++ classSuffix) := by
  have hne {bytes : Bytes} (hshort : bytes.length ≤ 2) : stem ++ classSuffix ≠ bytes :=
    append_classSuffix_ne stem hshort
  have hidle : Path.isIdle (stem ++ classSuffix) = false := by
    rw [Path.isIdle, decide_eq_false (hne (by decide)), decide_eq_false (hne (by decide))]
    rfl
  have hcomponent : Path.componentOf? p.lastSegment = some (.normal (stem ++ classSuffix)) := by
    rw [h, Path.componentOf?, hidle, if_neg Bool.false_ne_true, if_neg (hne (by decide))]
  rw [Path.fileName?, Path.getLast?_components hcomponent]

/-- The class file `out` at the destination's root is named by `simple`, which stands behind the last
separator of the base. -/
structure RootNamed (c : Candidate) (base front simple : String) (out : Path) : Prop where
  base_eq : base = front ++ "/" ++ simple
  simple_flat : '/' ∉ simple.toList
  out_eq : out = .ofString (simple ++ ".class")
  out_flat : Path.separator ∉ out.bytes
  out_fileName : out.fileName? = some out.bytes
  package_fileName : c.packageOutput.fileName? = some out.bytes
  /-- The last separator is met behind `front`, -/
  found : (Utf8.encode base)[(Utf8.encode front).length]? = some Path.separator
  /-- the cut is made behind it, -/
  cut : c.simpleBase = (Utf8.encode base).drop ((Utf8.encode front).length + 1)
  /-- and lies between two characters. -/
  valid : (String.Pos.Raw.mk ((Utf8.encode front).length + 1)).IsValid base

/-- The candidate that is read from the name `n`, a text with the suffix of the kind behind it, and the
names of its class files. -/
structure Named (c : Candidate) (n base : String) : Prop where
  name_eq : n = base ++ c.kind.ending
  base_eq : c.base = Utf8.encode base
  output_eq : c.packageOutput = .ofString (base ++ ".class")
  /-- The name is longer than the suffix that is cut off, -/
  longer : c.kind.suffix.length < (Utf8.encode n).length
  cut : c.base = (Utf8.encode n).take ((Utf8.encode n).length - c.kind.suffix.length)
  /-- and the cut lies between two characters. -/
  valid : (String.Pos.Raw.mk ((Utf8.encode n).length - c.kind.suffix.length)).IsValid n
  root_iff : c.rootOutput?.isSome = true ↔ c.kind = .groovy ∧ '/' ∈ base.toList
  root : ∀ out, c.rootOutput? = some out → ∃ front simple, c.RootNamed base front simple out

theorem separator_mem_encode_iff : Path.separator ∈ Utf8.encode base ↔ '/' ∈ base.toList := by
  constructor
  · intro h
    exact Utf8.mem_of_ascii_mem_encodeChars (by decide) h
  · intro h
    have hbyte : Path.separator ∈ String.utf8EncodeChar '/' := by decide
    exact List.mem_flatMap_of_mem h hbyte

theorem rootNamed (h : c.base = Utf8.encode base) {out : Path} (hout : c.rootOutput? = some out) :
    ∃ front simple, c.RootNamed base front simple out := by
  have hmem : Path.separator ∈ c.base := by
    unfold rootOutput? at hout
    split at hout
    · next hboth => simpa using hboth.2
    · cases hout
  obtain ⟨front, simple, hbase, hsimple⟩ := exists_last_occurrence hmem
  obtain ⟨before, after, htext, rfl, rfl⟩ :=
    Utf8.exists_of_encode_eq_append (by decide) (h.symm.trans hbase)
  have hslash : String.singleton (Char.ofNat Path.separator.toNat) = "/" := by decide
  rw [hslash] at htext
  have hsimpleBase : c.simpleBase = Utf8.encode after := simpleBase_of_base hbase hsimple
  have hbytes : out.bytes = Utf8.encode after ++ classSuffix := by
    rw [rootOutput?_eq_some hout, hsimpleBase]
  have hflat : Path.separator ∉ out.bytes := by
    rw [hbytes, List.mem_append, not_or]
    exact ⟨hsimple, separator_notMem_classSuffix⟩
  have hlast : out.lastSegment = Utf8.encode after ++ classSuffix := by
    rw [← hbytes]
    exact Path.lastSegment_of_separator_notMem hflat
  have hplace : (Utf8.encode (before ++ "/")).length = (Utf8.encode before).length + 1 := by
    rw [Utf8.encode_append, List.length_append]
    rfl
  refine ⟨before, after, htext, ?_, ?_, hflat, ?_, ?_, ?_, ?_, ?_⟩
  · rwa [← separator_mem_encode_iff]
  · rw [rootOutput?_eq_some hout, hsimpleBase, Path.ofString, Utf8.encode_append, classSuffix]
  · rw [hbytes, fileName?_of_lastSegment hlast]
  · rw [hbytes, fileName?_of_lastSegment c.lastSegment_packageOutput, hsimpleBase]
  · rw [← h, hbase, List.getElem?_append_right (Nat.le_refl _), Nat.sub_self]
    rfl
  · rw [hsimpleBase, ← h, hbase, ← List.drop_drop, List.drop_left]
    rfl
  · rw [htext, ← hplace]
    exact Utf8.isValid_append (before ++ "/") after

theorem rootOutput?_isSome_iff (h : c.base = Utf8.encode base) :
    c.rootOutput?.isSome = true ↔ c.kind = .groovy ∧ '/' ∈ base.toList := by
  have hprimary : c.kind.isPrimary = true ↔ c.kind = .groovy := by
    cases c.kind <;> decide
  have hmem : c.base.contains Path.separator = true ↔ '/' ∈ base.toList := by
    rw [List.contains_iff_mem, h, separator_mem_encode_iff]
  rw [← hprimary, ← hmem]
  unfold rootOutput?
  split
  · next hboth => exact iff_of_true rfl hboth
  · next hnot => exact iff_of_false Bool.false_ne_true hnot

theorem named_of_base (h : c.base = Utf8.encode base) : c.Named (base ++ c.kind.ending) base := by
  have hsuffix : c.kind.suffix = Utf8.encode c.kind.ending := c.kind.suffix_eq
  have hlength : (Utf8.encode (base ++ c.kind.ending)).length =
      (Utf8.encode base).length + c.kind.suffix.length := by
    rw [Utf8.encode_append, List.length_append, hsuffix]
  have hplace : (Utf8.encode (base ++ c.kind.ending)).length - c.kind.suffix.length =
      (Utf8.encode base).length := by
    omega
  have hpos : 0 < (Utf8.encode base).length := by
    rw [← h]
    exact List.length_pos_iff.2 c.base_ne_nil
  refine ⟨rfl, h, packageOutput_eq h, by omega, ?_, ?_, rootOutput?_isSome_iff h,
    fun out hout => rootNamed h hout⟩
  · rw [hplace, h, Utf8.encode_append, List.take_left]
  · rw [hplace]
    exact Utf8.isValid_append base c.kind.ending

/-- **How a name is mapped.** A name is a candidate exactly if it is a text that is not empty with a
suffix behind it, and then its class files are named by that text. Two candidates that share the
class file in the package directory have one base, and differ in kind if they differ at all. -/
theorem outputs_of_name (n : String) :
    ((ofName? (.ofString n)).isSome = true ↔
      ∃ base, base ≠ "" ∧ (n = base ++ ".groovy" ∨ n = base ++ ".java")) ∧
    (∀ base kind, base ≠ "" → n = base ++ kind.ending →
      ∃ c, ofName? (.ofString n) = some c ∧ c.kind = kind ∧ c.Named n base) ∧
    ∀ n' c c', ofName? (.ofString n) = some c → ofName? (.ofString n') = some c' →
      c.packageOutput = c'.packageOutput →
      c.base = c'.base ∧
        (n = n' ∨ c.kind = .groovy ∧ c'.kind = .java ∨ c.kind = .java ∧ c'.kind = .groovy) := by
  refine ⟨⟨?_, ?_⟩, ?_, ?_⟩
  · intro hsome
    obtain ⟨c, hc⟩ := Option.isSome_iff_exists.1 hsome
    obtain ⟨base, hn, hbase⟩ := exists_base_of_name (ofName?_eq_some_iff.1 hc)
    refine ⟨base, ?_, ?_⟩
    · rintro rfl
      exact c.base_ne_nil hbase
    · cases hkind : c.kind with
      | groovy => exact .inl (by rw [hn, hkind]; rfl)
      | java => exact .inr (by rw [hn, hkind]; rfl)
  · rintro ⟨base, hne, rfl | rfl⟩
    · obtain ⟨c, hc, -⟩ := exists_ofName? hne .groovy
      exact Option.isSome_of_eq_some hc
    · obtain ⟨c, hc, -⟩ := exists_ofName? hne .java
      exact Option.isSome_of_eq_some hc
  · rintro base kind hne rfl
    obtain ⟨c, hc, rfl, hbase⟩ := exists_ofName? hne kind
    exact ⟨c, hc, rfl, named_of_base hbase⟩
  · intro n' c c' hc hc' hout
    have hbase : c.base = c'.base := List.append_cancel_right (congrArg Path.bytes hout)
    refine ⟨hbase, ?_⟩
    have hequal (hkind : c.kind = c'.kind) : n = n' := by
      have hname : c.name = c'.name := by rw [name, name, hbase, hkind]
      rw [ofName?_eq_some_iff.1 hc, ofName?_eq_some_iff.1 hc'] at hname
      exact Utf8.encode_injective (congrArg Path.bytes hname)
    cases hkind : c.kind with
    | groovy =>
      cases hkind' : c'.kind with
      | groovy => exact .inl (hequal (hkind.trans hkind'.symm))
      | java => exact .inr (.inl ⟨rfl, rfl⟩)
    | java =>
      cases hkind' : c'.kind with
      | groovy => exact .inr (.inr ⟨rfl, rfl⟩)
      | java => exact .inl (hequal (hkind.trans hkind'.symm))

/-- A character of two bytes in the name is left whole. -/
theorem umlaut_source_named :
    ("org/Bücher" ≠ "" ∧ "org/Bücher.groovy" = "org/Bücher" ++ SourceKind.groovy.ending) ∧
      ∃ c, ofName? (.ofString "org/Bücher.groovy") = some c ∧ c.kind = .groovy ∧
        c.Named "org/Bücher.groovy" "org/Bücher" := by
  have hbase : "org/Bücher" ≠ "" := by decide
  have hname : "org/Bücher.groovy" = "org/Bücher" ++ SourceKind.groovy.ending := by decide
  exact ⟨⟨hbase, hname⟩, (outputs_of_name _).2.1 _ .groovy hbase hname⟩

end Candidate

end StaleBuild
