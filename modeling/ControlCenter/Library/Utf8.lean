import ControlCenter.Library.Go

/-!
# Reading UTF-8

The decoder of the Go standard library takes one character at a time. A byte that does
not start a character stands for the replacement character.
-/

set_option autoImplicit false

namespace ControlCenter.Library

/-- What a decoder puts for a byte that starts no character. -/
def replacement : Char := '�'

/-- A byte that continues a character, within the bounds its first byte sets. -/
def continues (low high : Nat) (b : UInt8) : Bool := low ≤ b.toNat && b.toNat ≤ high

/-- The low six bits of a continuing byte. -/
def payload (b : UInt8) : Nat := b.toNat - 0x80

/-- `utf8.DecodeRune`: the first character of the bytes, and the bytes after it. -/
def decodeRune (b0 : UInt8) (rest : Bytes) : Char × Bytes :=
  let first := b0.toNat
  if first < 0x80 then (Char.ofNat first, rest)
  else if 0xc2 ≤ first ∧ first ≤ 0xdf then
    match rest with
    | b1 :: after =>
        if continues 0x80 0xbf b1 then (Char.ofNat ((first - 0xc0) * 64 + payload b1), after)
        else (replacement, rest)
    | [] => (replacement, rest)
  else if 0xe0 ≤ first ∧ first ≤ 0xef then
    match rest with
    | b1 :: b2 :: after =>
        if continues (if first = 0xe0 then 0xa0 else 0x80) (if first = 0xed then 0x9f else 0xbf) b1
            ∧ continues 0x80 0xbf b2 then
          (Char.ofNat ((first - 0xe0) * 4096 + payload b1 * 64 + payload b2), after)
        else (replacement, rest)
    | _ => (replacement, rest)
  else if 0xf0 ≤ first ∧ first ≤ 0xf4 then
    match rest with
    | b1 :: b2 :: b3 :: after =>
        if continues (if first = 0xf0 then 0x90 else 0x80) (if first = 0xf4 then 0x8f else 0xbf) b1
            ∧ continues 0x80 0xbf b2 ∧ continues 0x80 0xbf b3 then
          (Char.ofNat ((first - 0xf0) * 262144 + payload b1 * 4096 + payload b2 * 64 +
            payload b3), after)
        else (replacement, rest)
    | _ => (replacement, rest)
  else (replacement, rest)

/-- The characters of at most `fuel` starts. -/
def decodeRunes : Nat → Bytes → List Char
  | 0, _ => []
  | _ + 1, [] => []
  | fuel + 1, b0 :: rest => (decodeRune b0 rest).1 :: decodeRunes fuel (decodeRune b0 rest).2

/-- The characters of the bytes. No character takes less than one byte. -/
def decodeUtf8 (bytes : Bytes) : List Char := decodeRunes bytes.length bytes

end ControlCenter.Library
