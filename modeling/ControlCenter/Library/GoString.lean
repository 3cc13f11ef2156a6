import ControlCenter.Library.Json
import ControlCenter.Library.Utf8

/-!
# Strings of any bytes

A Go string may hold bytes that are no characters. `json.Marshal` writes an escape for each
of them, and the same one for all (`quoteBytes`). So two strings may have one literal.
-/

set_option autoImplicit false

namespace ControlCenter.Library

/-! ## Characters of bytes -/

/-- The first character of the bytes, if they start with one, and the bytes after it. -/
def rune (b0 : UInt8) (rest : Bytes) : Option Char × Bytes :=
  if decodeRune b0 rest = (replacement, rest) then (none, rest)
  else (some (decodeRune b0 rest).1, (decodeRune b0 rest).2)

/-- The characters of at most `fuel` starts, and the bytes that are none. -/
def runesFrom : Nat → Bytes → List (Option Char)
  | 0, _ => []
  | _ + 1, [] => []
  | fuel + 1, b0 :: rest => (rune b0 rest).1 :: runesFrom fuel (rune b0 rest).2

def runes (bytes : Bytes) : List (Option Char) := runesFrom bytes.length bytes

/-! ## Their literals -/

namespace Json

/-- A character or a byte that is none, as `json.Marshal` writes it. -/
def escapeRune : Option Char → List Char
  | none => '\\' :: 'u' :: hexDigits replacement.toNat
  | some c => escape c

def quoteBytes (bytes : Bytes) : List Char := (runes bytes).flatMap escapeRune

/-- A string of any bytes. -/
def bytesString (bytes : Bytes) : Json := .str (quoteBytes bytes)

end Json

end ControlCenter.Library
