/-!
Decoding of UTF-8. The first octets that do not make a character are reported with their position and the reason.
-/

namespace StackScript.Text.Utf8

inductive Reason where
  | startByte
  | continuationByte
  | endOfData
deriving DecidableEq, Repr

def Reason.text : Reason → String
  | startByte => "invalid start byte"
  | continuationByte => "invalid continuation byte"
  | endOfData => "unexpected end of data"

/-- Octets that do not make a character: the first one, and those after it that could have continued it. -/
structure Fault where
  position : Nat
  octets : List UInt8
  reason : Reason
deriving DecidableEq, Repr

/-- A character of which the octets given have been read. `missing` octets are to follow, the next of them from `low` to `high`. -/
structure Pending where
  octets : List UInt8
  code : Nat
  missing : Nat
  low : UInt8 := 0x80
  high : UInt8 := 0xBF
deriving DecidableEq, Repr

/-- What the first octet of a character of several octets announces. The narrower bounds after some of them leave out overlong forms, surrogates and codes above 0x10FFFF. -/
def lead? (b : UInt8) : Option Pending :=
  if 0xC2 ≤ b ∧ b ≤ 0xDF then some ⟨[b], b.toNat - 0xC0, 1, 0x80, 0xBF⟩
  else if b = 0xE0 then some ⟨[b], 0, 2, 0xA0, 0xBF⟩
  else if b = 0xED then some ⟨[b], 0xD, 2, 0x80, 0x9F⟩
  else if 0xE1 ≤ b ∧ b ≤ 0xEF then some ⟨[b], b.toNat - 0xE0, 2, 0x80, 0xBF⟩
  else if b = 0xF0 then some ⟨[b], 0, 3, 0x90, 0xBF⟩
  else if 0xF1 ≤ b ∧ b ≤ 0xF3 then some ⟨[b], b.toNat - 0xF0, 3, 0x80, 0xBF⟩
  else if b = 0xF4 then some ⟨[b], 4, 3, 0x80, 0x8F⟩
  else none

def Pending.accepts (pending : Pending) (b : UInt8) : Bool :=
  pending.low ≤ b && b ≤ pending.high

/-- The code with the six bits of one more octet. -/
def Pending.codeWith (pending : Pending) (b : UInt8) : Nat :=
  pending.code * 64 + (b.toNat - 0x80)

/-- Decodes from a position on, where the character that is pending began, and adds to the text. -/
def decodeFrom (position : Nat) (text : String) : Option Pending → List UInt8 → Except Fault String
  | none, [] => .ok text
  | some pending, [] => .error ⟨position, pending.octets, .endOfData⟩
  | none, b :: rest =>
    if b < 0x80 then decodeFrom (position + 1) (text.push (Char.ofNat b.toNat)) none rest
    else
      match lead? b with
      | some pending => decodeFrom position text (some pending) rest
      | none => .error ⟨position, [b], .startByte⟩
  | some pending, b :: rest =>
    if pending.accepts b then
      if pending.missing ≤ 1 then
        decodeFrom (position + pending.octets.length + 1)
          (text.push (Char.ofNat (pending.codeWith b))) none rest
      else
        decodeFrom position text
          (some
            { octets := pending.octets ++ [b]
              code := pending.codeWith b
              missing := pending.missing - 1 })
          rest
    else .error ⟨position, pending.octets, .continuationByte⟩

def decode (octets : List UInt8) : Except Fault String :=
  decodeFrom 0 "" none octets

def hex (b : UInt8) : String :=
  String.ofList [Nat.digitChar (b.toNat / 16), Nat.digitChar (b.toNat % 16)]

def Fault.message (fault : Fault) : String :=
  let where? :=
    match fault.octets with
    | [b] => "byte 0x" ++ hex b ++ " in position " ++ toString fault.position
    | octets =>
      "bytes in position " ++ toString fault.position ++ "-" ++
        toString (fault.position + octets.length - 1)
  "'utf-8' codec can't decode " ++ where? ++ ": " ++ fault.reason.text

end StackScript.Text.Utf8
