/-!
# Bytes of UTF-8

The number of bytes that a text takes; reading the bytes of a file as text, and
where the first fault lies when they are not UTF-8.
-/

namespace BuildHost
namespace Utf8

def byteLength (text : List Char) : Nat :=
  text.foldl (fun length c => length + c.utf8Size) 0

structure Fault where
  /-- How many bytes before the fault are sound. -/
  offset : Nat
  /-- How many bytes form no part of a character; none when the text ends inside
  a character. -/
  length? : Option Nat
deriving DecidableEq, Repr

def Fault.message (fault : Fault) : String :=
  match fault.length? with
  | some length =>
    s!"invalid utf-8 sequence of {length} bytes from index {fault.offset}"
  | none => s!"incomplete utf-8 byte sequence from index {fault.offset}"

/-- The least and the greatest second byte after a first byte, with the number
of bytes that follow the second; none when no character starts with the byte. -/
def secondByte? (first : UInt8) : Option (UInt8 × UInt8 × Nat) :=
  if first < 0xc2 then none
  else if first < 0xe0 then some (0x80, 0xbf, 0)
  else if first = 0xe0 then some (0xa0, 0xbf, 1)
  else if first = 0xed then some (0x80, 0x9f, 1)
  else if first < 0xf0 then some (0x80, 0xbf, 1)
  else if first = 0xf0 then some (0x90, 0xbf, 2)
  else if first < 0xf4 then some (0x80, 0xbf, 2)
  else if first = 0xf4 then some (0x80, 0x8f, 2)
  else none

/-- How far a character that starts with `first` reads on: the number of its
sound bytes, and whether it is whole. -/
def characterLength (first : UInt8) (rest : List UInt8) : Nat × Bool :=
  if first < 0x80 then (1, true)
  else
    match secondByte? first, rest with
    | none, _ => (1, false)
    | some _, [] => (1, false)
    | some (low, high, more), second :: rest =>
      if second < low || high < second then (1, false)
      else
        let sound := (rest.take more).takeWhile fun b => 0x80 ≤ b && b ≤ 0xbf
        (2 + sound.length, sound.length = more)

/-- Whether bytes that stop short of a character end with the text. -/
def endsShort (first : UInt8) (rest : List UInt8) (sound : Nat) : Bool :=
  (secondByte? first).isSome && rest.length + 1 = sound

/-- The first fault of bytes that are not UTF-8; `skip` counts the bytes of a
sound character that are still to pass. -/
def faultFrom (offset skip : Nat) : List UInt8 → Fault
  | [] => ⟨offset, none⟩
  | first :: rest =>
    match skip with
    | skip + 1 => faultFrom (offset + 1) skip rest
    | 0 =>
      match characterLength first rest with
      | (length, true) => faultFrom (offset + 1) (length - 1) rest
      | (length, false) =>
        ⟨offset, if endsShort first rest length then none else some length⟩

def decode (bytes : ByteArray) : Except Fault String :=
  match String.fromUTF8? bytes with
  | some text => .ok text
  | none => .error (faultFrom 0 0 bytes.toList)

end Utf8
end BuildHost
