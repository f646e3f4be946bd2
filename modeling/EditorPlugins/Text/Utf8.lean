import EditorPlugins.Number.Decimal
import EditorPlugins.Octets

/-! # Strict UTF-8

Octets are decoded one at a time; an open sequence remembers how many octets it still needs and
what the next of them may be, so overlong forms, halves of pairs and numbers beyond the last
character are refused at the first octet that rules them out. A refusal names the octets of the
sequence seen so far.
-/

namespace EditorPlugins.Text.Utf8

/-- Why a sequence of octets is refused. -/
inductive Reason where
  | invalidStart
  | invalidContinuation
  | unexpectedEnd
deriving DecidableEq, Repr

/-- A refusal: the place and count of the octets at fault, the first of which is `octet`. -/
structure Failure where
  reason : Reason
  octet : UInt8
  start : Nat
  count : Nat
deriving DecidableEq, Repr

/-- A sequence that still needs octets, the next of them between two bounds. -/
structure Open where
  lead : UInt8
  need : Nat
  low : Nat
  high : Nat
  value : Nat
  seen : Nat

/-- The sequence that an octet outside ASCII opens. -/
def open? (octet : UInt8) : Option Open :=
  let n := octet.toNat
  if 0xC2 ≤ n && n ≤ 0xDF then some ⟨octet, 1, 0x80, 0xBF, n - 0xC0, 1⟩
  else if n = 0xE0 then some ⟨octet, 2, 0xA0, 0xBF, 0, 1⟩
  else if n = 0xED then some ⟨octet, 2, 0x80, 0x9F, 0xD, 1⟩
  else if 0xE1 ≤ n && n ≤ 0xEF then some ⟨octet, 2, 0x80, 0xBF, n - 0xE0, 1⟩
  else if n = 0xF0 then some ⟨octet, 3, 0x90, 0xBF, 0, 1⟩
  else if 0xF1 ≤ n && n ≤ 0xF3 then some ⟨octet, 3, 0x80, 0xBF, n - 0xF0, 1⟩
  else if n = 0xF4 then some ⟨octet, 3, 0x80, 0x8F, 4, 1⟩
  else none

/-- Put a character in front of those that are decoded. -/
def consChar (c : Char) (rest : Except Failure (List Char)) : Except Failure (List Char) :=
  rest.map (c :: ·)

/-- Decode octets from a place on, with the sequence that is open there. -/
def decodeFrom : (place : Nat) → Option Open → Octets → Except Failure (List Char)
  | _, none, [] => .ok []
  | place, some o, [] => .error ⟨.unexpectedEnd, o.lead, place - o.seen, o.seen⟩
  | place, none, octet :: octets =>
    if octet.toNat < 0x80 then
      consChar (Char.ofNat octet.toNat) (decodeFrom (place + 1) none octets)
    else
      match open? octet with
      | some o => decodeFrom (place + 1) (some o) octets
      | none => .error ⟨.invalidStart, octet, place, 1⟩
  | place, some o, octet :: octets =>
    let n := octet.toNat
    if o.low ≤ n && n ≤ o.high then
      let value := 0x40 * o.value + (n - 0x80)
      if o.need ≤ 1 then consChar (Char.ofNat value) (decodeFrom (place + 1) none octets)
      else
        decodeFrom (place + 1) (some ⟨o.lead, o.need - 1, 0x80, 0xBF, value, o.seen + 1⟩) octets
    else .error ⟨.invalidContinuation, o.lead, place - o.seen, o.seen⟩

def decode (octets : Octets) : Except Failure String :=
  (decodeFrom 0 none octets).map String.ofList

def encode (text : String) : Octets := text.toList.flatMap String.utf8EncodeChar

namespace Reason

def message : Reason → String
  | invalidStart => "invalid start byte"
  | invalidContinuation => "invalid continuation byte"
  | unexpectedEnd => "unexpected end of data"

end Reason

/-- A refusal names a single octet by its value, and several by their places. -/
def Failure.message (failure : Failure) : String :=
  let place :=
    if failure.count = 1 then
      "byte 0x" ++ String.ofList (hexDigits 2 failure.octet.toNat) ++ " in position " ++
        Number.natText failure.start
    else
      "bytes in position " ++ Number.natText failure.start ++ "-" ++
        Number.natText (failure.start + failure.count - 1)
  "'utf-8' codec can't decode " ++ place ++ ": " ++ failure.reason.message

end EditorPlugins.Text.Utf8
