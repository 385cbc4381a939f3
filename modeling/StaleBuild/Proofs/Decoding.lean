import StaleBuild.Text.Utf8

/-!
# Reading raw bytes as text

What a reader makes of UTF-8 and of bytes that are none. Encoded characters are read back, whatever
bytes stand behind them, and a byte of ASCII is always read as itself, so that the bytes on its two
sides never see each other:

    scalars (encodeChars cs ++ rest) = cs.map some ++ scalars rest          (scalars_encodeChars_append)
    scalars (front ++ b :: rest) =
      scalars front ++ some (Char.ofNat b.toNat) :: scalars rest            (scalars_append_ascii)

The second equation holds for a `front` that breaks off in the middle of a character as well: no
encoding goes on with a byte of ASCII.
-/

namespace StaleBuild.Utf8

/-! ## One encoded character -/

/-- The byte `b` opens a scalar, and `b₂` may stand behind it. -/
structure Opens (b b₂ : UInt8) (o : Opening) : Prop where
  not_ascii : ¬b < 0x80
  opening : opening? b = some o
  low : o.low.toNat ≤ b₂.toNat
  high : b₂.toNat ≤ o.high.toNat

section
variable {b b₂ b₃ b₄ : UInt8} {o : Opening} {rest : Bytes}

theorem isContinuation_iff : isContinuation b = true ↔ 0x80 ≤ b.toNat ∧ b.toNat ≤ 0xBF := by
  rw [isContinuation, Bool.and_eq_true, decide_eq_true_eq, decide_eq_true_eq]
  rfl

theorem opens_two (hlow : 0xC2 ≤ b.toNat) (hhigh : b.toNat < 0xE0)
    (h₂ : isContinuation b₂ = true) : Opens b b₂ ⟨2, b.toNat - 0xC0, 0x80, 0xBF⟩ := by
  obtain ⟨h₂, h₂'⟩ := isContinuation_iff.1 h₂
  have hopened : ¬b < 0xC2 := Nat.not_lt.2 hlow
  have htwo : b < 0xE0 := hhigh
  refine ⟨Nat.not_lt.2 (Nat.le_trans (by decide) hlow), ?_, h₂, h₂'⟩
  rw [opening?, if_neg hopened, if_pos htwo]

/-- The byte behind the first of three leaves out overlong forms and surrogates. -/
theorem opens_three (hlow : 0xE0 ≤ b.toNat) (hhigh : b.toNat < 0xF0)
    (h₂ : isContinuation b₂ = true) (hoverlong : b.toNat = 0xE0 → 0xA0 ≤ b₂.toNat)
    (hsurrogate : b.toNat = 0xED → b₂.toNat ≤ 0x9F) :
    ∃ low high, Opens b b₂ ⟨3, b.toNat - 0xE0, low, high⟩ := by
  obtain ⟨h₂, h₂'⟩ := isContinuation_iff.1 h₂
  have hascii : ¬b < 0x80 := Nat.not_lt.2 (Nat.le_trans (by decide) hlow)
  have hopened : ¬b < 0xC2 := Nat.not_lt.2 (Nat.le_trans (by decide) hlow)
  have htwo : ¬b < 0xE0 := Nat.not_lt.2 hlow
  have hthree : b < 0xF0 := hhigh
  by_cases hE0 : b = 0xE0
  · subst hE0
    exact ⟨0xA0, 0xBF, hascii, rfl, hoverlong rfl, h₂'⟩
  by_cases hED : b = 0xED
  · subst hED
    exact ⟨0x80, 0x9F, hascii, rfl, h₂, hsurrogate rfl⟩
  refine ⟨0x80, 0xBF, hascii, ?_, h₂, h₂'⟩
  rw [opening?, if_neg hopened, if_neg htwo, if_neg hE0, if_neg hED, if_pos hthree]

/-- The byte behind the first of four leaves out overlong forms and what lies above U+10FFFF. -/
theorem opens_four (hlow : 0xF0 ≤ b.toNat) (hhigh : b.toNat ≤ 0xF4)
    (h₂ : isContinuation b₂ = true) (hoverlong : b.toNat = 0xF0 → 0x90 ≤ b₂.toNat)
    (hlast : b.toNat = 0xF4 → b₂.toNat ≤ 0x8F) :
    ∃ low high, Opens b b₂ ⟨4, b.toNat - 0xF0, low, high⟩ := by
  obtain ⟨h₂, h₂'⟩ := isContinuation_iff.1 h₂
  have hascii : ¬b < 0x80 := Nat.not_lt.2 (Nat.le_trans (by decide) hlow)
  have hopened : ¬b < 0xC2 := Nat.not_lt.2 (Nat.le_trans (by decide) hlow)
  have htwo : ¬b < 0xE0 := Nat.not_lt.2 (Nat.le_trans (by decide) hlow)
  have hthree : ¬b < 0xF0 := Nat.not_lt.2 hlow
  by_cases hF0 : b = 0xF0
  · subst hF0
    exact ⟨0x90, 0xBF, hascii, rfl, hoverlong rfl, h₂'⟩
  by_cases hF4 : b = 0xF4
  · subst hF4
    exact ⟨0x80, 0x8F, hascii, rfl, h₂, hlast rfl⟩
  have hE0 : b ≠ 0xE0 := fun h => hthree (h ▸ by decide)
  have hED : b ≠ 0xED := fun h => hthree (h ▸ by decide)
  have hfour : b < 0xF4 := Nat.lt_of_le_of_ne hhigh fun h => hF4 (UInt8.toNat_inj.1 h)
  refine ⟨0x80, 0xBF, hascii, ?_, h₂, h₂'⟩
  rw [opening?, if_neg hopened, if_neg htwo, if_neg hE0, if_neg hED, if_neg hthree, if_neg hF0,
    if_pos hfour]

theorem scalars_ascii (hb : b < 0x80) (rest : Bytes) :
    scalars (b :: rest) = some (Char.ofNat b.toNat) :: scalars rest := by
  rw [scalars, if_pos hb]

namespace Opens

theorem not_outside (h : Opens b b₂ o) :
    (decide (b₂ < o.low) || decide (o.high < b₂)) = false := by
  simpa [UInt8.le_iff_toNat_le] using And.intro h.low h.high

theorem scalars_two (h : Opens b b₂ o) (hwidth : o.width = 2) :
    scalars (b :: b₂ :: rest) = some (Char.ofNat (o.bits * 64 + payload b₂)) :: scalars rest := by
  rw [scalars, if_neg h.not_ascii, h.opening]
  simp [h.not_outside, hwidth]

theorem scalars_three (h : Opens b b₂ o) (hwidth : o.width = 3)
    (h₃ : isContinuation b₃ = true) :
    scalars (b :: b₂ :: b₃ :: rest) =
      some (Char.ofNat ((o.bits * 64 + payload b₂) * 64 + payload b₃)) :: scalars rest := by
  rw [scalars, if_neg h.not_ascii, h.opening]
  simp [h.not_outside, hwidth, h₃]

theorem scalars_four (h : Opens b b₂ o) (hwidth : o.width = 4)
    (h₃ : isContinuation b₃ = true) (h₄ : isContinuation b₄ = true) :
    scalars (b :: b₂ :: b₃ :: b₄ :: rest) =
      some (Char.ofNat (((o.bits * 64 + payload b₂) * 64 + payload b₃) * 64 + payload b₄)) ::
        scalars rest := by
  rw [scalars, if_neg h.not_ascii, h.opening]
  simp [h.not_outside, hwidth, h₃, h₄]

end Opens

end

/-- The byte that carries six bits. -/
theorem toNat_tail (n : Nat) : (UInt8.ofNat (n % 64 + 128)).toNat = n % 64 + 128 :=
  UInt8.toNat_ofNat_of_lt' (Nat.lt_of_lt_of_le (m := 192) (by omega) (by decide))

theorem isContinuation_tail (n : Nat) : isContinuation (UInt8.ofNat (n % 64 + 128)) = true := by
  rw [isContinuation_iff, toNat_tail]
  omega

theorem payload_tail (n : Nat) : payload (UInt8.ofNat (n % 64 + 128)) = n % 64 := by
  unfold payload
  rw [toNat_tail, Nat.add_sub_cancel]

/-- **An encoded character is read back**, whatever stands behind it. -/
theorem scalars_utf8EncodeChar (c : Char) (rest : Bytes) :
    scalars (String.utf8EncodeChar c ++ rest) = some c :: scalars rest := by
  have hc : Char.ofNat c.val.toNat = c := Char.ofNat_toNat c
  have hvalid : c.val.toNat < 0xD800 ∨ 0xDFFF < c.val.toNat ∧ c.val.toNat < 0x110000 := c.valid
  have htoNat {m : Nat} (hm : m < 256) : (UInt8.ofNat m).toNat = m := UInt8.toNat_ofNat_of_lt' hm
  unfold String.utf8EncodeChar
  dsimp only
  generalize c.val.toNat = n at hc hvalid ⊢
  rw [← hc]
  split
  · next hone =>
    have hb := htoNat (m := n) (by omega)
    have hascii : UInt8.ofNat n < 0x80 := by
      rw [UInt8.lt_iff_toNat_lt, hb]
      exact Nat.lt_succ_of_le hone
    rw [List.singleton_append, scalars_ascii hascii, hb]
  · split
    · have hb := htoNat (m := n / 64 % 32 + 192) (by omega)
      have hopens := opens_two (b := UInt8.ofNat (n / 64 % 32 + 192)) (by omega) (by omega)
        (isContinuation_tail n)
      have hn : (n / 64 % 32 + 192 - 192) * 64 + n % 64 = n := by omega
      rw [List.cons_append, List.singleton_append, hopens.scalars_two rfl, payload_tail, hb, hn]
    · have h₂ := toNat_tail (n / 64)
      have h₃ := toNat_tail (n / 4096)
      split
      · have hb := htoNat (m := n / 4096 % 16 + 224) (by omega)
        obtain ⟨low, high, hopens⟩ := opens_three (b := UInt8.ofNat (n / 4096 % 16 + 224))
          (by omega) (by omega) (isContinuation_tail (n / 64)) (by omega) (by omega)
        have hn : ((n / 4096 % 16 + 224 - 224) * 64 + n / 64 % 64) * 64 + n % 64 = n := by omega
        rw [List.cons_append, List.cons_append, List.singleton_append,
          hopens.scalars_three rfl (isContinuation_tail n), payload_tail, payload_tail, hb, hn]
      · have hb := htoNat (m := n / 262144 % 8 + 240) (by omega)
        obtain ⟨low, high, hopens⟩ := opens_four (b := UInt8.ofNat (n / 262144 % 8 + 240))
          (by omega) (by omega) (isContinuation_tail (n / 4096)) (by omega) (by omega)
        have hn : (((n / 262144 % 8 + 240 - 240) * 64 + n / 4096 % 64) * 64 + n / 64 % 64) * 64 +
            n % 64 = n := by omega
        rw [List.cons_append, List.cons_append, List.cons_append, List.singleton_append,
          hopens.scalars_four rfl (isContinuation_tail (n / 64)) (isContinuation_tail n),
          payload_tail, payload_tail, payload_tail, hb, hn]

/-! ## Texts -/

/-- **Encoded characters are read back**, whatever stands behind them. -/
theorem scalars_encodeChars_append (cs : List Char) (rest : Bytes) :
    scalars (encodeChars cs ++ rest) = cs.map some ++ scalars rest := by
  induction cs with
  | nil => rfl
  | cons c more ih =>
    rw [encodeChars, List.flatMap_cons, List.append_assoc, scalars_utf8EncodeChar, ← encodeChars, ih]
    rfl

theorem scalars_encodeChars (cs : List Char) : scalars (encodeChars cs) = cs.map some := by
  have h := scalars_encodeChars_append cs []
  rwa [scalars, List.append_nil, List.append_nil] at h

theorem decodeLossyChars_encodeChars_append (cs : List Char) (rest : Bytes) :
    decodeLossyChars (encodeChars cs ++ rest) = cs ++ decodeLossyChars rest := by
  rw [decodeLossyChars, scalars_encodeChars_append, List.map_append, List.map_map]
  exact congrArg (· ++ decodeLossyChars rest) (List.map_id cs)

theorem decode?_encode (s : String) : decode? (encode s) = some s := by
  have hall : (s.toList.map some).all Option.isSome = true := by simp
  have hid : (s.toList.map some).filterMap id = s.toList := by simp
  unfold decode? encode
  dsimp only
  rw [scalars_encodeChars, if_pos hall, hid, String.ofList_toList]

/-! ## Around a byte of ASCII -/

theorem le_low_of_opening? {b : UInt8} {o : Opening} (h : opening? b = some o) :
    128 ≤ o.low.toNat := by
  unfold opening? at h
  repeat' split at h
  all_goals cases h
  all_goals exact of_decide_eq_true rfl

/-- **The bytes on the two sides of one of ASCII are read apart.** -/
theorem scalars_append_ascii (front : Bytes) {b : UInt8} (hb : b < 0x80) (rest : Bytes) :
    scalars (front ++ b :: rest) = scalars front ++ some (Char.ofNat b.toNat) :: scalars rest := by
  have hstart := scalars_ascii hb rest
  have hends : isContinuation b = false := by
    have hlow : b.toNat < 0x80 := hb
    rw [Bool.eq_false_iff, ne_eq, isContinuation_iff]
    omega
  fun_induction scalars front with
  | case1 => exact hstart
  | case2 first more hascii ih => rw [List.cons_append, scalars_ascii hascii, ih, List.cons_append]
  | case3 first more hhigh hnone ih =>
    rw [List.cons_append, scalars, if_neg hhigh, hnone]
    exact congrArg (List.cons none) ih
  | case4 first hhigh o ho =>
    -- `front` breaks off where `b` is no second byte
    have hlow : b < o.low := Nat.lt_of_lt_of_le (m := 128) hb (le_low_of_opening? ho)
    rw [List.cons_append, scalars, if_neg hhigh, ho]
    simp [hlow, hstart]
  | case5 first hhigh o ho second more hout ih =>
    rw [List.cons_append, scalars, if_neg hhigh, ho]
    simp only [List.cons_append, if_pos hout]
    exact congrArg (List.cons none) ih
  | case6 first hhigh o ho second more hin hwidth ih =>
    rw [List.cons_append, scalars, if_neg hhigh, ho]
    simp only [List.cons_append, if_neg hin, if_pos hwidth, ih]
  | case7 first hhigh o ho second hin hwidth =>
    -- `front` breaks off where `b` is no third byte
    rw [List.cons_append, scalars, if_neg hhigh, ho]
    simp only [List.cons_append, List.nil_append, if_neg hin, if_neg hwidth, hends, Bool.not_false,
      if_true, hstart]
  | case8 first hhigh o ho second hin hwidth third more hout ih =>
    rw [List.cons_append, scalars, if_neg hhigh, ho]
    simp only [List.cons_append, if_neg hin, if_neg hwidth, if_pos hout]
    exact congrArg (List.cons none) ih
  | case9 first hhigh o ho second hin hwidth third more hgoes hwidth' ih =>
    rw [List.cons_append, scalars, if_neg hhigh, ho]
    simp only [List.cons_append, if_neg hin, if_neg hwidth, if_neg hgoes, if_pos hwidth', ih]
  | case10 first hhigh o ho second hin hwidth third hgoes hwidth' =>
    -- `front` breaks off where `b` is no fourth byte
    rw [List.cons_append, scalars, if_neg hhigh, ho]
    simp only [List.cons_append, List.nil_append, if_neg hin, if_neg hwidth, if_neg hgoes,
      if_neg hwidth', hends, Bool.not_false, if_true, hstart]
  | case11 first hhigh o ho second hin hwidth third hgoes hwidth' fourth more hout ih =>
    rw [List.cons_append, scalars, if_neg hhigh, ho]
    simp only [List.cons_append, if_neg hin, if_neg hwidth, if_neg hgoes, if_neg hwidth',
      if_pos hout]
    exact congrArg (List.cons none) ih
  | case12 first hhigh o ho second hin hwidth third hgoes hwidth' fourth more hgoes' ih =>
    rw [List.cons_append, scalars, if_neg hhigh, ho]
    simp only [List.cons_append, if_neg hin, if_neg hwidth, if_neg hgoes, if_neg hwidth',
      if_neg hgoes', ih]

/-- A text is read on its own if it ends in a byte of ASCII. -/
theorem decodeLossyChars_append {front : Bytes} {b : UInt8} (hb : b < 0x80)
    (hlast : front.getLast? = some b) (rest : Bytes) :
    decodeLossyChars (front ++ rest) = decodeLossyChars front ++ decodeLossyChars rest := by
  obtain ⟨more, rfl⟩ := List.getLast?_eq_some_iff.1 hlast
  have hnone : scalars [] = [] := rfl
  rw [decodeLossyChars, List.append_assoc, List.singleton_append, scalars_append_ascii more hb,
    decodeLossyChars, scalars_append_ascii more hb, hnone]
  simp [decodeLossyChars]

/-- It ends in the character that the byte stands for. -/
theorem getLast?_decodeLossyChars {front : Bytes} {b : UInt8} (hb : b < 0x80)
    (hlast : front.getLast? = some b) :
    (decodeLossyChars front).getLast? = some (Char.ofNat b.toNat) := by
  obtain ⟨more, rfl⟩ := List.getLast?_eq_some_iff.1 hlast
  have hnone : scalars [] = [] := rfl
  rw [decodeLossyChars, scalars_append_ascii more hb, hnone]
  simp

/-- A byte of ASCII stands in an encoded text for its character only. -/
theorem mem_of_ascii_mem_encodeChars {cs : List Char} {b : UInt8} (hb : b < 0x80)
    (h : b ∈ encodeChars cs) : Char.ofNat b.toNat ∈ cs := by
  obtain ⟨front, rest, hbytes⟩ := List.append_of_mem h
  have hread := scalars_encodeChars cs
  rw [hbytes, scalars_append_ascii front hb] at hread
  have hmem : some (Char.ofNat b.toNat) ∈ cs.map some := hread ▸ List.mem_append_right _ (.head _)
  obtain ⟨c, hc, heq⟩ := List.mem_map.1 hmem
  exact Option.some.inj heq ▸ hc

end StaleBuild.Utf8
