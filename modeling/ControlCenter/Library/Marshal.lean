import ControlCenter.Library.Json
import ControlCenter.Library.JsonScan
import ControlCenter.Library.Rfc3339

/-!
# Marshalling

The members of a struct as `json.Marshal` writes them, and the text it returns. An
instant outside the years 0 to 9999 cannot be written.
-/

set_option autoImplicit false

namespace ControlCenter.Library

namespace Json

/-- A count in decimal. -/
def nat (n : Nat) : Json := .num n.repr.toList

/-- An instant, if its year has four digits. -/
def time (t : Time) : Option Json :=
  if Time.yearInRange t = true then some (.str (formatTime t)) else none

/-- What `json.Marshal` answers for any other instant. -/
def timeError : String :=
  "json: error calling MarshalJSON for type time.Time: " ++
    "Time.MarshalJSON: year outside of range [0,9999]"

/-- A struct, with the names of its members in the order of its fields. -/
def record (members : List (String × Json)) : Json :=
  .obj (members.map fun (name, v) => (name.toList, v))

/-- A text member that is left out when it is empty. -/
def omitEmpty (name text : String) : List (String × Json) :=
  if text = "" then [] else [(name, string text)]

/-- The text of a value. -/
def bytes (v : Json) : Bytes := utf8 (String.ofList v.render)

/-- A byte of a string as `json.Marshal` copies it: markup becomes a code point escape. -/
def escapeMarkup (c : UInt8) : Bytes :=
  if c == '<'.toUInt8 then utf8 "\\u003c"
  else if c == '>'.toUInt8 then utf8 "\\u003e"
  else if c == '&'.toUInt8 then utf8 "\\u0026"
  else [c]

/-- A valid text without the white space between its tokens. Inside a string an escape is
copied as it stands, and the two line separators of Unicode become escapes. -/
def compactFrom : (inString : Bool) → Bytes → Bytes
  | _, [] => []
  | false, c :: rest =>
      if isSpaceByte c then compactFrom false rest
      else c :: compactFrom (c == '"'.toUInt8) rest
  | true, 0x5c :: e :: rest => 0x5c :: e :: compactFrom true rest
  | true, 0xe2 :: 0x80 :: 0xa8 :: rest => utf8 "\\u2028" ++ compactFrom true rest
  | true, 0xe2 :: 0x80 :: 0xa9 :: rest => utf8 "\\u2029" ++ compactFrom true rest
  | true, c :: rest => escapeMarkup c ++ compactFrom (c != '"'.toUInt8) rest

/-- What `json.Marshal` writes for a `json.RawMessage`, if the bytes are one value. -/
def marshalRaw (data : Bytes) : Option Bytes :=
  if valid data = true then some (compactFrom false data) else none

/-- What `json.Marshal` answers for a `json.RawMessage` that is no value. The reason, which
the source adds, is left out. -/
def rawMessageError : String := "json: error calling MarshalJSON for type json.RawMessage"

/-- Items between brackets, joined by commas. -/
def bracket (opening closing : String) (items : List Bytes) : Bytes :=
  utf8 opening ++ (utf8 ",").intercalate items ++ utf8 closing

/-- A struct of members that are already written. -/
def structBytes (members : List (String × Bytes)) : Bytes :=
  bracket "\x7b" "\x7d" (members.map fun (name, value) => utf8 ("\"" ++ name ++ "\":") ++ value)

/-- A slice of items that are already written. The nil slice is `null`. -/
def sliceBytes (items : List Bytes) : Bytes :=
  if items.isEmpty then utf8 "null" else bracket "[" "]" items

/-! ## Omitted members -/

/-- The members that are not omitted. -/
def present {V : Type} (fields : List (String × Option V)) : List (String × V) :=
  fields.filterMap fun field => field.2.map (field.1, ·)

end Json

/-- A digest with the name of its hash. -/
def sha256Digest (document : Bytes) : String := "sha256:" ++ sha256Hex document

end ControlCenter.Library
