import ControlCenter.Library.Sha256
import Mathlib.Data.String.Basic
import Mathlib.Data.List.DropRight

/-!
# Values of the Go runtime

Instants, durations, contexts and the few string operations the services use, as the
Go standard library documents them.

An instant counts nanoseconds from the start of year one in UTC, where the zero time
lies, and is not bounded. A duration is a signed 64-bit count of nanoseconds.
`UnixNano` wraps as the source's 64-bit arithmetic does.

A text that joins fields by a separator can be read back from the right when the last
fields never hold the separator (`append_separator_inj`). Decimal numbers hold no colon
(`colon_notMem_decimal`, `colon_notMem_signedDecimal`).
-/

set_option autoImplicit false

namespace ControlCenter.Library

/-! ## Time -/

/-- An instant in nanoseconds since the zero time. -/
abbrev Time := Int

/-- A duration in nanoseconds. -/
abbrev Duration := Int64

/-- The zero time is the start of year one. -/
def Time.isZero (t : Time) : Bool := t == 0

/-- The instant a duration later. -/
def Time.add (t : Time) (d : Duration) : Time := t + d.toInt

/-- The start of 1970 in nanoseconds since the zero time. -/
def unixEpoch : Time := 62135596800 * 1000000000

/-- Nanoseconds since the start of 1970, wrapped to 64 bits. -/
def Time.unixNano (t : Time) : Int64 := Int64.ofInt (t - unixEpoch)

@[simp] theorem Time.isZero_iff (t : Time) : Time.isZero t = true ↔ t = 0 := by
  simp [Time.isZero]

/-- `Truncate(time.Microsecond)`. -/
def Time.truncateMicrosecond (t : Time) : Time := t - t % 1000

theorem Time.truncateMicrosecond_idem (t : Time) :
    truncateMicrosecond (truncateMicrosecond t) = truncateMicrosecond t := by
  have whole : ∀ n : Int, (n - n % 1000) - (n - n % 1000) % 1000 = n - n % 1000 := by
    intro n
    omega
  exact whole t

/-- The zero time is the whole microsecond of the instants right after it. -/
theorem Time.truncateMicrosecond_eq_zero {t : Time} :
    truncateMicrosecond t = 0 ↔ 0 ≤ t ∧ t < 1000 := by
  have floor : ∀ n : Int, n - n % 1000 = 0 ↔ 0 ≤ n ∧ n < 1000 := by
    intro n
    omega
  exact floor t

/-! ## Contexts -/

/-- Why a context ended. -/
inductive ContextError where
  | canceled
  | deadlineExceeded
  deriving DecidableEq

/-- A context is read through its error only. -/
structure Context where
  err : Option ContextError
  deriving DecidableEq

/-- A context that never ends. -/
def Context.background : Context := ⟨none⟩

/-! ## Strings -/

/-- The bytes of a string. -/
def utf8 (s : String) : Bytes := s.toByteArray.data.toList

theorem utf8_injective : Function.Injective utf8 := by
  intro s t same
  have arrays : s.toByteArray.data = t.toByteArray.data := Array.toList_inj.mp same
  exact String.toByteArray_inj.mp (ByteArray.ext arrays)

/-- The characters `unicode.IsSpace` accepts. -/
def isSpace (c : Char) : Bool :=
  c == '\t' || c == '\n' || c == '\x0b' || c == '\x0c' || c == '\r' || c == ' ' ||
  c == '\u0085' || c == '\u00a0' || c == '\u1680' || ('\u2000' ≤ c && c ≤ '\u200a') ||
  c == '\u2028' || c == '\u2029' || c == '\u202f' || c == '\u205f' || c == '\u3000'

theorem toNat_of_isAlphanum {c : Char} (letter : c.isAlphanum = true) : c.toNat < 128 := by
  unfold Char.isAlphanum Char.isAlpha Char.isUpper Char.isLower Char.isDigit at letter
  simp only [Bool.or_eq_true, Bool.and_eq_true, decide_eq_true_eq, UInt32.le_iff_toNat_le,
    ge_iff_le] at letter
  have value : c.toNat = c.val.toNat := rfl
  have upper : 'Z'.val.toNat = 90 := rfl
  have lower : 'z'.val.toNat = 122 := rfl
  have digit : '9'.val.toNat = 57 := rfl
  omega

/-- Drop leading and trailing white space. -/
def trimSpace (s : String) : String :=
  String.ofList ((s.toList.dropWhile isSpace).rdropWhile isSpace)

/-- A non-empty string without surrounding white space. -/
def isCanonical (s : String) : Bool := trimSpace s != "" && s == trimSpace s

/-- `strings.Trim` with one character to drop on both sides. -/
def trimChar (c : Char) (s : String) : String :=
  String.ofList ((s.toList.dropWhile (· == c)).rdropWhile (· == c))

/-- `strconv.ParseUint` in base ten: decimal digits alone, below 2^64. -/
def parseUint (s : String) : Option UInt64 :=
  if s.toList ≠ [] ∧ s.toList.all Char.isDigit = true then
    let value := s.toList.foldl (fun n c => 10 * n + (c.toNat - '0'.toNat)) 0
    if value < 2 ^ 64 then some (UInt64.ofNat value) else none
  else none

/-- A character between the quotes of `%q`. Those beyond Latin-1 count as printable. -/
def quotedChar (c : Char) : List Char :=
  let hex := [(c.toNat / 16 % 16).digitChar, (c.toNat % 16).digitChar]
  match c with
  | '"' | '\\' => ['\\', c]
  | '\x07' => ['\\', 'a']
  | '\x08' => ['\\', 'b']
  | '\t' => ['\\', 't']
  | '\n' => ['\\', 'n']
  | '\x0b' => ['\\', 'v']
  | '\x0c' => ['\\', 'f']
  | '\r' => ['\\', 'r']
  | c =>
      if c < ' ' ∨ c = '\x7f' then '\\' :: 'x' :: hex
      else if '\x7f' < c ∧ c ≤ '\u00a0' ∨ c = '\u00ad' then '\\' :: 'u' :: '0' :: '0' :: hex
      else [c]

/-- The text as `%q` prints it. -/
def quoted (s : String) : String := "\"" ++ String.ofList (s.toList.flatMap quotedChar) ++ "\""

/-- `sort.SearchStrings`: the first index of an ascending list with a value that is not
below the wanted one, or the length. -/
def searchStrings (values : List String) (wanted : String) : Nat :=
  values.findIdx fun value => decide (wanted ≤ value)

/-- An unsigned number as `%d` prints it. -/
def decimal (n : UInt64) : String := n.toNat.repr

/-- A signed number as `%d` prints it. -/
def signedDecimal (n : Int64) : String := n.toInt.repr

theorem colon_notMem_natRepr (n : Nat) : ':' ∉ n.repr.toList := by
  rw [Nat.repr_eq_ofList_toDigits, String.toList_ofList]
  intro member
  have digit := Nat.isDigit_of_mem_toDigits (by decide) (by decide) member
  exact absurd digit (by decide)

theorem colon_notMem_decimal (n : UInt64) : ':' ∉ (decimal n).toList :=
  colon_notMem_natRepr n.toNat

theorem colon_notMem_signedDecimal (n : Int64) : ':' ∉ (signedDecimal n).toList := by
  unfold signedDecimal
  rw [Int.repr_eq_if]
  split
  · exact colon_notMem_natRepr _
  · rw [String.toList_append, List.mem_append]
    rintro (sign | digits)
    · exact absurd sign (by decide)
    · exact colon_notMem_natRepr _ digits

/-- A number is read back from its last digit and the digits before it. -/
theorem toDigits_ten_injective : Function.Injective (Nat.toDigits 10) := by
  intro m
  induction m using Nat.strong_induction_on with
  | h m ih =>
      intro n same
      have digit := fun k => digitChar_inj_of_lt (m % 10) (by omega) (k % 10) (by omega)
      rw [Nat.toDigits_eq_if (by decide), Nat.toDigits_eq_if (n := n) (by decide)] at same
      split at same <;> split at same
      · have chars : m.digitChar = n.digitChar := by simpa using same
        exact digitChar_inj_of_lt m (by omega) n (by omega) chars
      · exact absurd (congrArg List.length same) (by simp [Nat.toDigits_ne_nil])
      · exact absurd (congrArg List.length same) (by simp [Nat.toDigits_ne_nil])
      · obtain ⟨front, last⟩ := List.append_inj' same rfl
        have := ih (m / 10) (by omega) front
        have := digit n (by simpa using last)
        omega

theorem decimal_injective : Function.Injective decimal := by
  intro m n same
  simp only [decimal, Nat.repr_eq_ofList_toDigits] at same
  exact UInt64.toNat_inj.mp (toDigits_ten_injective (String.ofList_injective same))

/-- **Joined fields are read back from the right.** When neither right part holds the
separator, both parts of the joined list are determined. -/
theorem append_separator_inj {α : Type*} {separator : α} {left left' right right' : List α}
    (free : separator ∉ right) (free' : separator ∉ right')
    (same : left ++ [separator] ++ right = left' ++ [separator] ++ right') :
    left = left' ∧ right = right' := by
  classical
  rw [List.append_assoc, List.append_assoc, List.singleton_append, List.singleton_append] at same
  have readBack : ∀ l r : List α, separator ∉ r →
      ((l ++ separator :: r).reverse.takeWhile fun c => decide (c ≠ separator)) = r.reverse := by
    intro l r free
    rw [List.reverse_append, List.reverse_cons, List.append_assoc, List.takeWhile_append_of_pos]
    · simp
    · intro c member
      have : c ≠ separator := fun same => free (same ▸ List.mem_reverse.mp member)
      simpa using this
  have rights : right = right' := by
    have := readBack left right free
    rw [same, readBack left' right' free'] at this
    exact List.reverse_injective this.symm
  subst rights
  exact ⟨(List.append_left_inj _).mp same, rfl⟩

end ControlCenter.Library
