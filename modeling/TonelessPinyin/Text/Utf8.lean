import TonelessPinyin.Text.Quoted

/-!
Strict UTF-8. Bytes that are not the encoding of a character are refused, with the place and the
reason.
-/
namespace TonelessPinyin.Text.Utf8

/-- The number of bytes that a text takes. -/
def byteCount (t : Text) : Nat := t.foldr (fun c n => c.utf8Size + n) 0

inductive Fault
  | startByte
  | continuationByte
  | endOfData
  deriving DecidableEq

/-- The first bytes that are no character: how many bytes come before them, and the bytes. -/
structure DecodeError where
  fault : Fault
  position : Nat
  bytes : List UInt8
  deriving DecidableEq

def Fault.reason : Fault → String
  | .startByte => "invalid start byte"
  | .continuationByte => "invalid continuation byte"
  | .endOfData => "unexpected end of data"

def DecodeError.message (e : DecodeError) : String :=
  let place :=
    match e.bytes with
    | [b] => "byte 0x" ++ asString (hex 2 b.toNat) ++ s!" in position {e.position}: "
    | bytes => s!"bytes in position {e.position}-{e.position + bytes.length - 1}: "
  "'utf-8' codec can't decode " ++ place ++ e.fault.reason

/-- What a first byte announces: the number of bytes that follow, the bounds of the next byte, and
the bits it carries itself. -/
structure Lead where
  more : Nat
  low : Nat
  high : Nat
  bits : Nat

def lead? (b : Nat) : Option Lead :=
  if b < 0x80 then some ⟨0, 0x80, 0xBF, b⟩
  else if b < 0xC2 then none
  else if b < 0xE0 then some ⟨1, 0x80, 0xBF, b - 0xC0⟩
  else if b < 0xF0 then
    some ⟨2, if b = 0xE0 then 0xA0 else 0x80, if b = 0xED then 0x9F else 0xBF, b - 0xE0⟩
  else if b < 0xF5 then
    some ⟨3, if b = 0xF0 then 0x90 else 0x80, if b = 0xF4 then 0x8F else 0xBF, b - 0xF0⟩
  else none

/-- Adds the continuation bytes to the bits read so far. A fault comes with the number of
continuation bytes that are sound. -/
def follow : Lead → Nat → List UInt8 → Except (Fault × Nat) (Nat × List UInt8)
  | ⟨0, _, _, bits⟩, _, rest => .ok (bits, rest)
  | ⟨_ + 1, _, _, _⟩, sound, [] => .error (.endOfData, sound)
  | ⟨more + 1, low, high, bits⟩, sound, b :: rest =>
    if low ≤ b.toNat ∧ b.toNat ≤ high then
      follow ⟨more, 0x80, 0xBF, bits * 64 + (b.toNat - 0x80)⟩ (sound + 1) rest
    else .error (.continuationByte, sound)
termination_by _ _ rest => rest.length

/-- Reads at most `count` characters, the first of them after `position` bytes. -/
def decodeAt : Nat → Nat → List UInt8 → Except DecodeError Text
  | _, _, [] => .ok []
  | 0, _, _ :: _ => .ok []
  | count + 1, position, b :: rest =>
    match lead? b.toNat with
    | none => .error ⟨.startByte, position, [b]⟩
    | some lead =>
      match follow lead 0 rest with
      | .error (fault, sound) => .error ⟨fault, position, b :: rest.take sound⟩
      | .ok (code, after) => do
        let t ← decodeAt count (position + 1 + lead.more) after
        return Char.ofNat code :: t

def decode (bytes : List UInt8) : Except DecodeError Text := decodeAt bytes.length 0 bytes

end TonelessPinyin.Text.Utf8
