import GLDispatch.Text.Basic

/-! # UTF-8

Decoding never fails: each longest start of a sequence that turns out not to be one becomes a
single replacement character. -/
namespace GLDispatch

abbrev Bytes := List UInt8

namespace Utf8

def replacement : Char := '\ufffd'

/-- A sequence whose last `missing` bytes are to come, the next of them from `low` to `high`. -/
structure Pending where
  missing : Nat
  low : UInt8
  high : UInt8
  value : Nat
  deriving DecidableEq, Repr

/-- What the first byte of a longer sequence promises. The ranges leave out overlong forms,
surrogates and code points past the last one. -/
def Pending.ofLead? (b : UInt8) : Option Pending :=
  if 0xc2 ≤ b ∧ b ≤ 0xdf then some ⟨1, 0x80, 0xbf, b.toNat - 0xc0⟩
  else if b = 0xe0 then some ⟨2, 0xa0, 0xbf, 0⟩
  else if b = 0xed then some ⟨2, 0x80, 0x9f, 0xd⟩
  else if 0xe1 ≤ b ∧ b ≤ 0xef then some ⟨2, 0x80, 0xbf, b.toNat - 0xe0⟩
  else if b = 0xf0 then some ⟨3, 0x90, 0xbf, 0⟩
  else if b = 0xf4 then some ⟨3, 0x80, 0x8f, 4⟩
  else if 0xf1 ≤ b ∧ b ≤ 0xf3 then some ⟨3, 0x80, 0xbf, b.toNat - 0xf0⟩
  else none

/-- A decoder between two bytes. The characters are kept latest first. -/
structure Decoder where
  pending : Option Pending := none
  decoded : Text := []
  deriving DecidableEq, Repr

/-- A byte where no sequence is pending. -/
def Decoder.start (decoded : Text) (b : UInt8) : Decoder :=
  if b < 0x80 then ⟨none, Char.ofNat b.toNat :: decoded⟩
  else match Pending.ofLead? b with
    | some pending => ⟨some pending, decoded⟩
    | none => ⟨none, replacement :: decoded⟩

/-- A byte which the pending sequence cannot take ends that sequence and is read afresh. -/
def Decoder.feed (d : Decoder) (b : UInt8) : Decoder :=
  match d.pending with
  | none => .start d.decoded b
  | some p =>
    if p.low ≤ b ∧ b ≤ p.high then
      let value := p.value * 0x40 + (b.toNat - 0x80)
      if p.missing ≤ 1 then ⟨none, Char.ofNat value :: d.decoded⟩
      else ⟨some ⟨p.missing - 1, 0x80, 0xbf, value⟩, d.decoded⟩
    else .start (replacement :: d.decoded) b

def Decoder.finish (d : Decoder) : Text :=
  match d.pending with
  | none => d.decoded.reverse
  | some _ => (replacement :: d.decoded).reverse

def decode (bytes : Bytes) : Text :=
  (bytes.foldl Decoder.feed {}).finish

def encode (t : Text) : Bytes :=
  t.flatMap String.utf8EncodeChar

end Utf8
end GLDispatch
