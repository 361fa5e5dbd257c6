/-!
# Text in bytes

Bytes that are to be shown although they may not be well-formed UTF-8: every longest part that
begins a character without finishing it is shown as one replacement character.
-/

namespace GenModel

namespace Text

/-- The character that stands for bytes that make up no character. -/
def replacement : Char :=
  '\uFFFD'

/-- A character of which some bytes are read: the bits so far, the number of bytes still missing
and the range of the next one. -/
structure PartialChar where
  bits : Nat
  missing : Nat
  low : Nat
  high : Nat

namespace PartialChar

/-- What a first byte begins: a character of two to four bytes. The range of the second byte
leaves out surrogates, overlong forms and numbers above the last code point. -/
def ofFirst? (byte : Nat) : Option PartialChar :=
  if 0xC2 ≤ byte ∧ byte ≤ 0xDF then some ⟨byte - 0xC0, 1, 0x80, 0xBF⟩
  else if byte = 0xE0 then some ⟨0, 2, 0xA0, 0xBF⟩
  else if byte = 0xED then some ⟨0xD, 2, 0x80, 0x9F⟩
  else if 0xE1 ≤ byte ∧ byte ≤ 0xEF then some ⟨byte - 0xE0, 2, 0x80, 0xBF⟩
  else if byte = 0xF0 then some ⟨0, 3, 0x90, 0xBF⟩
  else if 0xF1 ≤ byte ∧ byte ≤ 0xF3 then some ⟨byte - 0xF0, 3, 0x80, 0xBF⟩
  else if byte = 0xF4 then some ⟨4, 3, 0x80, 0x8F⟩
  else none

/-- The character after one more byte, which is in the range. -/
def extend (char : PartialChar) (byte : Nat) : PartialChar :=
  ⟨char.bits * 64 + (byte - 0x80), char.missing - 1, 0x80, 0xBF⟩

end PartialChar

/-- What a byte at the beginning of a character gives: the text that is finished with it, or the
character that it begins. -/
def beginChar (byte : Nat) : List Char × Option PartialChar :=
  if byte < 0x80 then ([Char.ofNat byte], none)
  else
    match PartialChar.ofFirst? byte with
    | some char => ([], some char)
    | none => ([replacement], none)

/-- What a byte gives after the bytes read before it. -/
def readByte (byte : Nat) : Option PartialChar → List Char × Option PartialChar
  | none => beginChar byte
  | some char =>
    if char.low ≤ byte ∧ byte ≤ char.high then
      let extended := char.extend byte
      if extended.missing = 0 then ([Char.ofNat extended.bits], none) else ([], some extended)
    else
      let (finished, begun) := beginChar byte
      (replacement :: finished, begun)

/-- The text of the bytes that follow a character of which some bytes are read. -/
def decodeLossyFrom (char : Option PartialChar) : List UInt8 → List Char
  | [] => if char.isSome then [replacement] else []
  | byte :: rest =>
    let (finished, begun) := readByte byte.toNat char
    finished ++ decodeLossyFrom begun rest

/-- The text of the bytes, with replacement characters for what is not well-formed. -/
def decodeLossy (bytes : ByteArray) : String :=
  String.ofList (decodeLossyFrom none bytes.data.toList)

end Text

end GenModel
