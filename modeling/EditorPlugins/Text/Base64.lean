import EditorPlugins.Octets

/-! # Octets written as letters

Four figures of sixty-four make three octets. Whatever is no figure is passed over. Marks fill up
the last four figures, and nothing behind these marks is read.
-/

namespace EditorPlugins.Text.Base64

def figure? (c : Char) : Option Nat :=
  if 'A' ≤ c && c ≤ 'Z' then some (c.toNat - 0x41)
  else if 'a' ≤ c && c ≤ 'z' then some (c.toNat - 0x61 + 26)
  else if '0' ≤ c && c ≤ '9' then some (c.toNat - 0x30 + 52)
  else if c = '+' then some 62
  else if c = '/' then some 63
  else none

/-- The octets from a place on. Of the last four figures `place` have been read, whose bits that
have not made an octet yet are `left`, with `marks` behind them. -/
def decodeFrom (place left marks : Nat) : List Char → Option Octets
  | [] => if place = 0 then some [] else none
  | c :: cs =>
    if c = '=' then
      if place < 2 then decodeFrom place left marks cs
      else if 4 ≤ place + marks + 1 then some []
      else decodeFrom place left (marks + 1) cs
    else
      match figure? c, place with
      | none, _ => decodeFrom place left marks cs
      | some n, 0 => decodeFrom 1 n 0 cs
      | some n, 1 => (decodeFrom 2 (n % 16) 0 cs).map (UInt8.ofNat (left * 4 + n / 16) :: ·)
      | some n, 2 => (decodeFrom 3 (n % 4) 0 cs).map (UInt8.ofNat (left * 16 + n / 4) :: ·)
      | some n, _ => (decodeFrom 0 0 0 cs).map (UInt8.ofNat (left * 64 + n) :: ·)

/-- The octets that a text writes; `none` when its last figures are not filled up. -/
def decode? (cs : List Char) : Option Octets := decodeFrom 0 0 0 cs

end EditorPlugins.Text.Base64
