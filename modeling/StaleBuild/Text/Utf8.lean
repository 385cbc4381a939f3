import StaleBuild.Power

/-!
UTF-8 text in raw bytes. File names and file contents are byte lists, and most of them hold
UTF-8. `scalars` reads a byte list into scalar values and gives `none` once for each maximal
stretch that no encoding can continue; the lossy reading (`decodeLossy`) puts U+FFFD there and
the strict one (`decode?`) refuses.
-/

namespace StaleBuild

/-- Raw bytes, as a file or a file name holds them. -/
abbrev Bytes := List UInt8

namespace Utf8

/-- The bytes of a list of characters. -/
def encodeChars (cs : List Char) : Bytes := cs.flatMap String.utf8EncodeChar

/-- The bytes of a text. -/
def encode (s : String) : Bytes := encodeChars s.toList

/-- What a leading byte above ASCII announces: how many bytes the scalar takes, the bits that the
leading byte carries, and the range of the byte after it. The range keeps out overlong forms,
surrogates and values above U+10FFFF. -/
structure Opening where
  width : Nat
  bits : Nat
  low : UInt8
  high : UInt8

/-- The opening that a byte above ASCII announces, if any scalar starts with it. -/
def opening? (b : UInt8) : Option Opening :=
  if b < 0xC2 then none
  else if b < 0xE0 then some ⟨2, b.toNat - 0xC0, 0x80, 0xBF⟩
  else if b = 0xE0 then some ⟨3, 0, 0xA0, 0xBF⟩
  else if b = 0xED then some ⟨3, 0xD, 0x80, 0x9F⟩
  else if b < 0xF0 then some ⟨3, b.toNat - 0xE0, 0x80, 0xBF⟩
  else if b = 0xF0 then some ⟨4, 0, 0x90, 0xBF⟩
  else if b < 0xF4 then some ⟨4, b.toNat - 0xF0, 0x80, 0xBF⟩
  else if b = 0xF4 then some ⟨4, 4, 0x80, 0x8F⟩
  else none

/-- The six bits that a byte after the first one carries. -/
def payload (b : UInt8) : Nat := b.toNat - 0x80

def isContinuation (b : UInt8) : Bool := 0x80 ≤ b && b ≤ 0xBF

/-- The scalar values of a byte list, `none` for each undecodable stretch. -/
def scalars : Bytes → List (Option Char)
  | [] => []
  | b :: rest =>
    if b < 0x80 then some (Char.ofNat b.toNat) :: scalars rest
    else match opening? b with
      | none => none :: scalars rest
      | some o =>
        match rest with
        | [] => [none]
        | b₂ :: rest₂ =>
          if b₂ < o.low || o.high < b₂ then none :: scalars (b₂ :: rest₂)
          else if o.width = 2 then
            some (Char.ofNat (o.bits * 64 + payload b₂)) :: scalars rest₂
          else match rest₂ with
            | [] => [none]
            | b₃ :: rest₃ =>
              if !isContinuation b₃ then none :: scalars (b₃ :: rest₃)
              else if o.width = 3 then
                some (Char.ofNat ((o.bits * 64 + payload b₂) * 64 + payload b₃)) :: scalars rest₃
              else match rest₃ with
                | [] => [none]
                | b₄ :: rest₄ =>
                  if !isContinuation b₄ then none :: scalars (b₄ :: rest₄)
                  else
                    some (Char.ofNat
                        (((o.bits * 64 + payload b₂) * 64 + payload b₃) * 64 + payload b₄))
                      :: scalars rest₄

/-- The characters of a byte list, U+FFFD for each undecodable stretch. -/
def decodeLossyChars (bytes : Bytes) : List Char :=
  (scalars bytes).map (·.getD '\uFFFD')

/-- The text of a byte list, U+FFFD for each undecodable stretch. -/
def decodeLossy (bytes : Bytes) : String := String.ofList (decodeLossyChars bytes)

/-- The text of a byte list that is UTF-8 throughout. -/
def decode? (bytes : Bytes) : Option String :=
  let read := scalars bytes
  if read.all Option.isSome then some (String.ofList (read.filterMap id)) else none

/-- Whether a byte list is UTF-8 throughout. -/
def isValid (bytes : Bytes) : Bool := (scalars bytes).all Option.isSome

end Utf8

end StaleBuild
