import ControlCenter.Library.Json
import Mathlib.Data.List.Lex
import Mathlib.Data.List.Sort

/-!
# JSON values

What a JSON text stands for: strings without their escapes, and objects with one member for
each key, in the order of the keys (`JsonValue`). Numbers keep their literals. Of repeated
members the last one counts (`assemble`).

A writer has a style: how it spells numbers and characters, in which order it writes the
members of an object and which blanks it puts after separators (`JsonStyle`).
-/

set_option autoImplicit false

namespace ControlCenter.Library

open Json

/-! ## Members by key -/

section Assemble

variable {K V : Type} [LinearOrder K]

/-- Set the member of a key in a list that is ordered by keys. -/
def put (key : K) (v : V) : List (K × V) → List (K × V)
  | [] => [(key, v)]
  | (other, w) :: rest =>
      if key < other then (key, v) :: (other, w) :: rest
      else if key = other then (key, v) :: rest
      else (other, w) :: put key v rest

/-- The members of an object, the last one of each key, in the order of the keys. -/
def assemble (members : List (K × V)) : List (K × V) :=
  members.foldl (fun object member => put member.1 member.2 object) []

/-- The keys are in strict order. -/
def Ordered (members : List (K × V)) : Prop := members.Pairwise fun a b => a.1 < b.1

end Assemble

/-! ## Values -/

/-- What a JSON text stands for. Numbers keep their literals. -/
inductive JsonValue where
  | null
  | bool (value : Bool)
  | num (literal : List Char)
  | str (text : List Char)
  | arr (items : List JsonValue)
  | obj (members : List (List Char × JsonValue))

namespace JsonValue

mutual
/-- The value of a text. -/
def ofJson : Json → JsonValue
  | .null => .null
  | .bool value => .bool value
  | .num literal => .num literal
  | .str literal => .str (unquote literal)
  | .arr items => .arr (ofItems items)
  | .obj members => .obj (assemble (ofMembers members))

def ofItems : List Json → List JsonValue
  | [] => []
  | v :: rest => ofJson v :: ofItems rest

def ofMembers : List (List Char × Json) → List (List Char × JsonValue)
  | [] => []
  | (key, v) :: rest => (unquote key, ofJson v) :: ofMembers rest
end

/-- The value can be read from a text with so many open values: its numbers are number
literals and its members are ordered. -/
inductive Fits : Nat → JsonValue → Prop where
  | null {depth : Nat} : Fits depth .null
  | bool {depth : Nat} {value : Bool} : Fits depth (.bool value)
  | num {depth : Nat} {literal : List Char} (number : IsNumber literal) :
      Fits depth (.num literal)
  | str {depth : Nat} {text : List Char} : Fits depth (.str text)
  | arr {depth : Nat} {items : List JsonValue} (each : ∀ v ∈ items, Fits depth v) :
      Fits (depth + 1) (.arr items)
  | obj {depth : Nat} {members : List (List Char × JsonValue)}
      (each : ∀ member ∈ members, Fits depth member.2) (ordered : Ordered members) :
      Fits (depth + 1) (.obj members)

end JsonValue

/-! ## Styles -/

/-- How a writer spells numbers and characters, in which order it writes members and which
blanks it puts after commas and colons. -/
structure JsonStyle where
  number : List Char → List Char
  write : Char → List Char
  before : List Char → List Char → Bool
  pad : List Char
  isNumber : ∀ literal, IsNumber literal → IsNumber (number literal)
  escapes : ∀ c, Escape c (write c)
  blank : ∀ c ∈ pad, isBlank c = true

namespace JsonStyle

variable (style : JsonStyle)

def arrange {V : Type} (members : List (List Char × V)) : List (List Char × V) :=
  members.insertionSort fun a b => style.before a.1 b.1 = true

def quoted (text : List Char) : List Char := text.flatMap style.write

mutual
/-- The text of a value, before it is rendered. -/
def toJson : JsonValue → Json
  | .null => .null
  | .bool value => .bool value
  | .num literal => .num (style.number literal)
  | .str text => .str (style.quoted text)
  | .arr items => .arr (toItems items)
  | .obj members =>
      .obj ((style.arrange (toMembers members)).map fun member =>
        (style.quoted member.1, member.2))

def toItems : List JsonValue → List Json
  | [] => []
  | v :: rest => toJson v :: toItems rest

def toMembers : List (List Char × JsonValue) → List (List Char × Json)
  | [] => []
  | (key, v) :: rest => (key, toJson v) :: toMembers rest
end

end JsonStyle

namespace JsonStyle

variable (style : JsonStyle)

/-- `json.Marshal`: the numbers as they are, the members in the order of their keys. -/
def marshal : JsonStyle where
  number := id
  write := escape
  before a b := decide (a ≤ b)
  pad := []
  isNumber _ number := number
  escapes := escape_spec
  blank := by simp

end JsonStyle

end ControlCenter.Library
