/-!
# Bytes and text

Files and their names are sequences of bytes; text is written to them in UTF-8. `decode?` reads
bytes back as text and refuses what is no UTF-8, `display` shows any bytes by putting the
replacement character where they are not.
-/

namespace ModuleReadme.Text

/-! ### UTF-8 -/

def encode (text : String) : List UInt8 := text.toUTF8.data.toList

/-- The text that the bytes encode, if they are UTF-8. -/
def decode? (bytes : List UInt8) : Option String := String.fromUTF8? ⟨⟨bytes⟩⟩

@[simp] theorem decode?_encode (text : String) : decode? (encode text) = some text := by
  have h : (⟨⟨(encode text)⟩⟩ : ByteArray) = text.toByteArray := by simp [encode]
  simp [decode?, h, String.fromUTF8?, String.fromUTF8, text.isValidUTF8]

/-!
### Showing bytes that are not UTF-8

The bytes are read one character after the other. Where the encoding breaks off, what has been read
of it is shown as one replacement character, and reading goes on with the byte that does not fit.
-/

/-- For the first byte of an encoded character: how many bytes follow it, the bounds of the next
one, and the bits that the byte itself contributes. -/
def leadByte? (b : UInt8) : Option (Nat × UInt8 × UInt8 × Nat) :=
  if b < 0x80 then some (0, 0x80, 0xBF, b.toNat)
  else if b < 0xC2 then none  -- a byte that follows others, or too long an encoding
  else if b < 0xE0 then some (1, 0x80, 0xBF, b.toNat - 0xC0)
  else if b = 0xE0 then some (2, 0xA0, 0xBF, 0)
  -- The narrower bounds leave out surrogates and what has a shorter encoding.
  else if b = 0xED then some (2, 0x80, 0x9F, 0xD)
  else if b < 0xF0 then some (2, 0x80, 0xBF, b.toNat - 0xE0)
  else if b = 0xF0 then some (3, 0x90, 0xBF, 0)
  else if b < 0xF4 then some (3, 0x80, 0xBF, b.toNat - 0xF0)
  else if b = 0xF4 then some (3, 0x80, 0x8F, 4)
  else none

/-- Reads the bytes that follow a first byte: the character, unless one is out of bounds, and the
bytes that were not used. -/
def trailBytes (missing : Nat) (low high : UInt8) (value : Nat) :
    List UInt8 → Option Char × List UInt8
  | [] => (if missing = 0 then some (Char.ofNat value) else none, [])
  | b :: rest =>
    match missing with
    | 0 => (some (Char.ofNat value), b :: rest)
    | missing + 1 =>
      if low ≤ b && b ≤ high then trailBytes missing 0x80 0xBF (value * 64 + b.toNat % 64) rest
      else (none, b :: rest)

theorem length_trailBytes_le (missing : Nat) (low high : UInt8) (value : Nat) (bytes : List UInt8) :
    (trailBytes missing low high value bytes).2.length ≤ bytes.length := by
  fun_induction trailBytes <;> simp_all
  omega

/-- The bytes as text, with a replacement character for each part that is no character. -/
def decodeLossy : List UInt8 → List Char
  | [] => []
  | b :: rest =>
    match leadByte? b with
    | none => '\uFFFD' :: decodeLossy rest
    | some (missing, low, high, value) =>
      have := length_trailBytes_le missing low high value rest
      (trailBytes missing low high value rest).1.getD '\uFFFD'
        :: decodeLossy (trailBytes missing low high value rest).2
termination_by bytes => bytes.length

def display (bytes : List UInt8) : String :=
  (decode? bytes).getD (String.ofList (decodeLossy bytes))

@[simp] theorem display_encode (text : String) : display (encode text) = text := by
  simp [display]

end ModuleReadme.Text
