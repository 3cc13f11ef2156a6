import ControlCenter.Library.Go

/-!
# JSON texts

A JSON value as it is written: numbers and strings keep their literals, members keep
their order and may repeat. Only white space between tokens is left out, so the compact
text of a value (`render`) is what `json.Compact` makes of any text it was read from.

The reader (`parse`) accepts what the scanner of the Go standard library accepts: one
value with white space around its tokens, and at most ten thousand open composite
values.

A string is written with the escapes of `json.Marshal` (`quote`) and read with those of
the decoder (`unquote`).
-/

set_option autoImplicit false

namespace ControlCenter.Library

/-- A JSON value, with the literals it is written with. -/
inductive Json where
  | null
  | bool (value : Bool)
  | num (literal : List Char)
  | str (literal : List Char)
  | arr (items : List Json)
  | obj (members : List (List Char × Json))

namespace Json

/-! ## Equality is decidable -/

mutual
def decEq : (v w : Json) → Decidable (v = w)
  | .null, .null => isTrue rfl
  | .bool a, .bool b => decidable_of_iff (a = b) (by simp)
  | .num a, .num b => decidable_of_iff (a = b) (by simp)
  | .str a, .str b => decidable_of_iff (a = b) (by simp)
  | .arr a, .arr b =>
      match decEqItems a b with
      | isTrue same => isTrue (by rw [same])
      | isFalse differ => isFalse (by simpa using differ)
  | .obj a, .obj b =>
      match decEqMembers a b with
      | isTrue same => isTrue (by rw [same])
      | isFalse differ => isFalse (by simpa using differ)
  | .null, .bool _ | .null, .num _ | .null, .str _ | .null, .arr _ | .null, .obj _
  | .bool _, .null | .bool _, .num _ | .bool _, .str _ | .bool _, .arr _ | .bool _, .obj _
  | .num _, .null | .num _, .bool _ | .num _, .str _ | .num _, .arr _ | .num _, .obj _
  | .str _, .null | .str _, .bool _ | .str _, .num _ | .str _, .arr _ | .str _, .obj _
  | .arr _, .null | .arr _, .bool _ | .arr _, .num _ | .arr _, .str _ | .arr _, .obj _
  | .obj _, .null | .obj _, .bool _ | .obj _, .num _ | .obj _, .str _ | .obj _, .arr _ =>
      isFalse nofun

def decEqItems : (v w : List Json) → Decidable (v = w)
  | [], [] => isTrue rfl
  | [], _ :: _ | _ :: _, [] => isFalse nofun
  | a :: v, b :: w =>
      match decEq a b, decEqItems v w with
      | isTrue head, isTrue tail => isTrue (by rw [head, tail])
      | isFalse differ, _ => isFalse fun same => differ (List.cons.inj same).1
      | _, isFalse differ => isFalse fun same => differ (List.cons.inj same).2

def decEqMembers : (v w : List (List Char × Json)) → Decidable (v = w)
  | [], [] => isTrue rfl
  | [], _ :: _ | _ :: _, [] => isFalse nofun
  | (k, a) :: v, (l, b) :: w =>
      match decEq a b, decEqMembers v w with
      | isTrue head, isTrue tail => decidable_of_iff (k = l) (by simp [head, tail])
      | isFalse differ, _ => isFalse fun same => differ (Prod.mk.inj (List.cons.inj same).1).2
      | _, isFalse differ => isFalse fun same => differ (List.cons.inj same).2
end

instance : DecidableEq Json := decEq

/-! ## Writing -/

mutual
/-- The compact text of a value. -/
def render : Json → List Char
  | .null => "null".toList
  | .bool true => "true".toList
  | .bool false => "false".toList
  | .num literal => literal
  | .str literal => '"' :: (literal ++ ['"'])
  | .arr items => '[' :: (renderItems items ++ [']'])
  | .obj members => '{' :: (renderMembers members ++ ['}'])

def renderItems : List Json → List Char
  | [] => []
  | [v] => v.render
  | v :: rest => v.render ++ ',' :: renderItems rest

def renderMembers : List (List Char × Json) → List Char
  | [] => []
  | [(key, v)] => '"' :: (key ++ '"' :: ':' :: v.render)
  | (key, v) :: rest => '"' :: (key ++ '"' :: ':' :: (v.render ++ ',' :: renderMembers rest))
end

/-! ## Tokens -/

def isBlank (c : Char) : Bool := c == ' ' || c == '\t' || c == '\r' || c == '\n'

def skipBlanks (text : List Char) : List Char := text.dropWhile isBlank

def isHexDigit (c : Char) : Bool :=
  c.isDigit || ('a' ≤ c && c ≤ 'f') || ('A' ≤ c && c ≤ 'F')

/-- The characters that stand after a backslash, the one of a code point apart. -/
def escapable : List Char := ['b', 'f', 'n', 'r', 't', '\\', '/', '"']

/-- A string literal up to its closing quote, and the text after the quote. -/
def scanString : List Char → Option (List Char × List Char)
  | [] => none
  | c :: rest =>
      if c = '"' then some ([], rest)
      else if c = '\\' then
        match rest with
        | [] => none
        | e :: rest =>
            if e = 'u' then
              match rest with
              | h1 :: h2 :: h3 :: h4 :: rest =>
                  if [h1, h2, h3, h4].all isHexDigit then
                    (scanString rest).map fun (literal, after) =>
                      (c :: e :: h1 :: h2 :: h3 :: h4 :: literal, after)
                  else none
              | _ => none
            else if e ∈ escapable then
              (scanString rest).map fun (literal, after) => (c :: e :: literal, after)
            else none
      else if c < ' ' then none
      else (scanString rest).map fun (literal, after) => (c :: literal, after)

/-- Digits, at least one. -/
def scanDigits (text : List Char) : Option (List Char × List Char) :=
  let digits := text.takeWhile Char.isDigit
  if digits = [] then none else some (digits, text.dropWhile Char.isDigit)

/-- The integer part of a number. A leading zero stands alone. -/
def scanInteger : List Char → Option (List Char × List Char)
  | [] => none
  | c :: rest => if c = '0' then some (['0'], rest) else scanDigits (c :: rest)

/-- The fraction of a number, if a point follows. -/
def scanFraction : List Char → Option (List Char × List Char)
  | [] => some ([], [])
  | c :: rest =>
      if c = '.' then (scanDigits rest).map fun (digits, after) => (c :: digits, after)
      else some ([], c :: rest)

/-- The exponent of a number, if its letter follows. -/
def scanExponent : List Char → Option (List Char × List Char)
  | [] => some ([], [])
  | c :: rest =>
      if c = 'e' ∨ c = 'E' then
        match rest with
        | [] => none
        | sign :: digits =>
            if sign = '+' ∨ sign = '-' then
              (scanDigits digits).map fun (digits, after) => (c :: sign :: digits, after)
            else (scanDigits rest).map fun (digits, after) => (c :: digits, after)
      else some ([], c :: rest)

/-- A number without its sign. -/
def scanMagnitude (text : List Char) : Option (List Char × List Char) :=
  (scanInteger text).bind fun (whole, rest) =>
    (scanFraction rest).bind fun (fraction, rest) =>
      (scanExponent rest).map fun (exponent, rest) => (whole ++ fraction ++ exponent, rest)

def scanNumber : List Char → Option (List Char × List Char)
  | [] => none
  | c :: rest =>
      if c = '-' then (scanMagnitude rest).map fun (literal, after) => (c :: literal, after)
      else scanMagnitude (c :: rest)

/-! ## Reading -/

/-- The values that may be open at one time. -/
def maxNesting : Nat := 10000

/-- Drop an expected word. -/
def expect (word : List Char) (v : Json) (text : List Char) : Option (Json × List Char) :=
  if word.isPrefixOf text then some (v, text.drop word.length) else none

mutual
/-- A value at the start of the text, and the text after it. The first number bounds the
calls, the second the values that may still be opened. -/
def readValue : Nat → Nat → List Char → Option (Json × List Char)
  | 0, _, _ => none
  | fuel + 1, depth, text =>
      match skipBlanks text with
      | [] => none
      | c :: rest =>
          if c = '"' then (scanString rest).map fun (literal, after) => (.str literal, after)
          else if c = '[' then
            match depth with
            | 0 => none
            | depth + 1 =>
                match skipBlanks rest with
                | [] => none
                | d :: after =>
                    if d = ']' then some (.arr [], after)
                    else (readItems fuel depth (d :: after)).map fun (items, after) =>
                      (.arr items, after)
          else if c = '{' then
            match depth with
            | 0 => none
            | depth + 1 =>
                match skipBlanks rest with
                | [] => none
                | d :: after =>
                    if d = '}' then some (.obj [], after)
                    else (readMembers fuel depth (d :: after)).map fun (members, after) =>
                      (.obj members, after)
          else if c = 't' then expect "true".toList (.bool true) (c :: rest)
          else if c = 'f' then expect "false".toList (.bool false) (c :: rest)
          else if c = 'n' then expect "null".toList .null (c :: rest)
          else (scanNumber (c :: rest)).map fun (literal, after) => (.num literal, after)

/-- The items of an array from its first one, with the closing bracket. -/
def readItems : Nat → Nat → List Char → Option (List Json × List Char)
  | 0, _, _ => none
  | fuel + 1, depth, text =>
      (readValue fuel depth text).bind fun (v, rest) =>
        match skipBlanks rest with
        | [] => none
        | c :: rest =>
            if c = ']' then some ([v], rest)
            else if c = ',' then
              (readItems fuel depth rest).map fun (items, after) => (v :: items, after)
            else none

/-- The members of an object from its first one, with the closing brace. -/
def readMembers : Nat → Nat → List Char → Option (List (List Char × Json) × List Char)
  | 0, _, _ => none
  | fuel + 1, depth, text =>
      match skipBlanks text with
      | [] => none
      | quote :: text =>
          if quote ≠ '"' then none
          else
            (scanString text).bind fun (key, rest) =>
              match skipBlanks rest with
              | [] => none
              | colon :: rest =>
                  if colon ≠ ':' then none
                  else
                    (readValue fuel depth rest).bind fun (v, rest) =>
                      match skipBlanks rest with
                      | [] => none
                      | c :: rest =>
                          if c = '}' then some ([(key, v)], rest)
                          else if c = ',' then
                            (readMembers fuel depth rest).map fun (members, after) =>
                              ((key, v) :: members, after)
                          else none
end

/-- One value, with nothing but white space around it. -/
def parse (text : List Char) : Option Json :=
  (readValue (2 * text.length + 2) maxNesting text).bind fun (v, rest) =>
    if skipBlanks rest = [] then some v else none

example : parse "[1,-0.5e3, \x7b\"a\":true\x7d ]".toList = some (.arr [.num "1".toList,
    .num "-0.5e3".toList, .obj [("a".toList, .bool true)]]) := by
  decide +kernel

mutual
/-- The number literals of a value. -/
def numbers : Json → List (List Char)
  | .num literal => [literal]
  | .arr items => itemNumbers items
  | .obj members => memberNumbers members
  | .null | .bool _ | .str _ => []

def itemNumbers : List Json → List (List Char)
  | [] => []
  | v :: rest => numbers v ++ itemNumbers rest

def memberNumbers : List (List Char × Json) → List (List Char)
  | [] => []
  | (_, v) :: rest => numbers v ++ memberNumbers rest
end

/-! ## Reading what was written -/

/-- The text does not continue a number. -/
def Delimits (rest : List Char) : Prop :=
  ∀ c after, rest = c :: after → c.isDigit = false ∧ c ≠ '.' ∧ c ≠ 'e' ∧ c ≠ 'E'

/-- A literal the reader takes as one number. -/
structure IsNumber (literal : List Char) : Prop where
  start : ∃ c rest, literal = c :: rest ∧ (c.isDigit = true ∨ c = '-')
  scans : ∀ rest, Delimits rest → scanNumber (literal ++ rest) = some (literal, rest)

/-! ## Strings -/

def hexDigits (n : Nat) : List Char :=
  [(n / 4096 % 16).digitChar, (n / 256 % 16).digitChar, (n / 16 % 16).digitChar,
    (n % 16).digitChar]

/-- The control characters with an escape of their own, and the letters of their escapes. -/
def controlEscapes : List (Char × Char) :=
  [('\x08', 'b'), ('\x0c', 'f'), ('\n', 'n'), ('\r', 'r'), ('\t', 't')]

/-- The characters of a text that a page could take for markup or for a line end. -/
def isMarkup (c : Char) : Bool :=
  c == '<' || c == '>' || c == '&' || c == '\u2028' || c == '\u2029'

/-- One character of a string, as `json.Marshal` writes it. -/
def escape (c : Char) : List Char :=
  if c = '"' ∨ c = '\\' then ['\\', c]
  else
    match controlEscapes.find? fun entry => entry.1 == c with
    | some entry => ['\\', entry.2]
    | none =>
        if c < ' ' ∨ isMarkup c = true then '\\' :: 'u' :: hexDigits c.toNat else [c]

/-- The literal of a string. -/
def quote (text : List Char) : List Char := text.flatMap escape

def hexValue (c : Char) : Nat :=
  if c.isDigit then c.toNat - '0'.toNat
  else if 'a' ≤ c then c.toNat - 'a'.toNat + 10
  else c.toNat - 'A'.toNat + 10

def codeUnit (h1 h2 h3 h4 : Char) : Nat :=
  hexValue h1 * 4096 + hexValue h2 * 256 + hexValue h3 * 16 + hexValue h4

/-- What an escape other than that of a code point stands for. -/
def escaped (e : Char) : Char :=
  match controlEscapes.find? fun entry => entry.2 == e with
  | some entry => entry.1
  | none => e

/-- The code point of a pair of surrogates, if the text goes on with the second one. -/
def surrogatePair (high : Nat) : List Char → Option Char
  | backslash :: u :: h1 :: h2 :: h3 :: h4 :: _ =>
      let low := codeUnit h1 h2 h3 h4
      if backslash = '\\' ∧ u = 'u' ∧ [h1, h2, h3, h4].all isHexDigit = true ∧
          high < 0xdc00 ∧ 0xdc00 ≤ low ∧ low < 0xe000 then
        some (Char.ofNat ((high - 0xd800) * 1024 + (low - 0xdc00) + 0x10000))
      else none
  | _ => none

/-- The text a literal stands for. A surrogate without its partner is replaced. -/
def unquote : List Char → List Char
  | [] => []
  | c :: rest =>
      if c = '\\' then
        match rest with
        | [] => []
        | e :: rest =>
            if e = 'u' then
              match rest with
              | h1 :: h2 :: h3 :: h4 :: rest =>
                  let unit := codeUnit h1 h2 h3 h4
                  if 0xd800 ≤ unit ∧ unit < 0xe000 then
                    match surrogatePair unit rest with
                    | some pair =>
                        match rest with
                        | _ :: _ :: _ :: _ :: _ :: _ :: rest => pair :: unquote rest
                        | _ => [pair]
                    | none => '\ufffd' :: unquote rest
                  else Char.ofNat unit :: unquote rest
              | _ => []
            else escaped e :: unquote rest
      else c :: unquote rest

/-- The three ways a character is written. -/
inductive Escape (c : Char) : List Char → Prop where
  | letter {e : Char} (known : e ∈ escapable) (back : escaped e = c) : Escape c ['\\', e]
  | code (below : c.toNat < 0x10000) : Escape c ('\\' :: 'u' :: hexDigits c.toNat)
  | itself (quoted : c ≠ '"') (backslash : c ≠ '\\') (printable : ¬ c < ' ') : Escape c [c]

theorem escape_spec (c : Char) : Escape c (escape c) := by
  unfold escape
  split
  · next special => rcases special with rfl | rfl <;> exact .letter (by decide) (by decide)
  · next plain =>
      split
      · next entry found =>
          have member := List.mem_of_find?_eq_some found
          have own : entry.1 = c := by simpa using List.find?_some found
          have all : ∀ entry ∈ controlEscapes,
              entry.2 ∈ escapable ∧ escaped entry.2 = entry.1 := by decide
          exact .letter (all entry member).1 ((all entry member).2.trans own)
      · split
        · next hidden =>
            refine .code ?_
            rcases hidden with control | markup
            · have : c.toNat < 32 := control
              omega
            · simp only [isMarkup, Bool.or_eq_true, beq_iff_eq] at markup
              rcases markup with (((rfl | rfl) | rfl) | rfl) | rfl <;> decide
        · next visible =>
            rw [not_or] at plain visible
            exact .itself plain.1 plain.2 visible.1

/-- A string, as `json.Marshal` writes it. -/
def string (text : String) : Json := .str (quote text.toList)

end Json

end ControlCenter.Library
