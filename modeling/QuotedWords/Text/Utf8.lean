import QuotedWords.Text.Basic

/-!
# UTF-8

Reads bytes as characters.  Only the well-formed sequences are read: no
sequence longer than its character needs, none for a surrogate and none above
the last code point.  A sequence is refused at its first byte that cannot stand
there, whose offset is part of the answer, and bytes that end inside a sequence
are told from bytes that hold a bad one.  A surrogate is refused at its third
byte: bytes that end before it end inside a sequence like any other.
-/

namespace QuotedWords
namespace Utf8

/-- How many bytes a text takes. -/
def length : Text → Nat
  | [] => 0
  | c :: rest => c.utf8Size + length rest

/-- How reading some bytes ended. -/
inductive Ending where
  /-- Every byte belongs to a character. -/
  | complete
  /-- The bytes end inside a character. -/
  | truncated
  /-- The byte at this offset cannot stand there. -/
  | invalid (offset : Nat)
  deriving DecidableEq, Repr

/-- The characters read from some bytes, and how the reading ended. -/
structure Decoding where
  text : Text
  ending : Ending

/-- A character of which the first bytes have been read. -/
structure Begun where
  /-- How many bytes are missing after the next one. -/
  missing : Nat
  /-- The least value that the next byte may have. -/
  low : Nat
  /-- The greatest value that the next byte may have. -/
  high : Nat
  /-- The bits read so far. -/
  bits : Nat

/-- What a first byte from 0x80 on begins, if anything. -/
def begin? (byte : Nat) : Option Begun :=
  if 0xC2 ≤ byte ∧ byte ≤ 0xDF then some ⟨0, 0x80, 0xBF, byte - 0xC0⟩
  else if byte = 0xE0 then some ⟨1, 0xA0, 0xBF, 0⟩
  else if 0xE1 ≤ byte ∧ byte ≤ 0xEF then some ⟨1, 0x80, 0xBF, byte - 0xE0⟩
  else if byte = 0xF0 then some ⟨2, 0x90, 0xBF, 0⟩
  else if 0xF1 ≤ byte ∧ byte ≤ 0xF3 then some ⟨2, 0x80, 0xBF, byte - 0xF0⟩
  else if byte = 0xF4 then some ⟨2, 0x80, 0x8F, 4⟩
  else none

/-- The bits after one more byte. -/
def Begun.add (begun : Begun) (byte : Nat) : Nat :=
  begun.bits * 0x40 + (byte - 0x80)

/--
A character of which at least two bytes have been read.  Its next byte may be any
that can stand inside a character, but no byte lies between the bounds where it
could only end a surrogate.
-/
def Begun.middle (missing bits : Nat) : Begun :=
  if 0x360 ≤ bits ∧ bits ≤ 0x37F then ⟨missing, 0x80, 0x7F, bits⟩
  else ⟨missing, 0x80, 0xBF, bits⟩

/-- Puts a character in front of what the rest of the bytes hold. -/
def Decoding.cons (c : Char) (rest : Decoding) : Decoding :=
  { rest with text := c :: rest.text }

/-- Reads bytes from an offset on, possibly from inside a character. -/
def decodeFrom : Option Begun → Nat → List UInt8 → Decoding
  | none, _, [] => ⟨[], .complete⟩
  | some _, _, [] => ⟨[], .truncated⟩
  | none, offset, byte :: bytes =>
      if byte.toNat < 0x80 then
        (decodeFrom none (offset + 1) bytes).cons (Char.ofNat byte.toNat)
      else match begin? byte.toNat with
        | some begun => decodeFrom (some begun) (offset + 1) bytes
        | none => ⟨[], .invalid offset⟩
  | some begun, offset, byte :: bytes =>
      if begun.low ≤ byte.toNat ∧ byte.toNat ≤ begun.high then
        match begun.missing with
        | 0 =>
            (decodeFrom none (offset + 1) bytes).cons
              (Char.ofNat (begun.add byte.toNat))
        | missing + 1 =>
            decodeFrom (some (.middle missing (begun.add byte.toNat))) (offset + 1) bytes
      else ⟨[], .invalid offset⟩

def decode (bytes : List UInt8) : Decoding :=
  decodeFrom none 0 bytes

/-- The characters of some bytes, if they are well-formed to their end. -/
def decode? (bytes : List UInt8) : Option Text :=
  match decode bytes with
  | ⟨text, .complete⟩ => some text
  | _ => none

example : decode? [0x61, 0xC3, 0xA9, 0xE2, 0x82, 0xAC, 0xF0, 0x9F, 0x98, 0x80] =
    some "aé€😀".toList := by decide

example : (decode [0x61, 0xE2, 0x82]).ending = .truncated := by decide

example : (decode [0x61, 0xED, 0xA0]).ending = .truncated := by decide

example : (decode [0x61, 0xED, 0xA0, 0x80]).ending = .invalid 3 := by decide

end Utf8
end QuotedWords
