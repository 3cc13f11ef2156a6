import ControlCenter.Library.Go

/-!
# Instants as text

An instant in the form of RFC 3339, as `time.Time` writes it in JSON: in UTC, with the
fraction of the second without its last zeros, and only for the years 0 to 9999
(`Time.yearInRange`).

The calendar is the Gregorian one without end: `yearStart` counts the days before a year, and
`yearOf` finds the year of a day.
-/

set_option autoImplicit false

namespace ControlCenter.Library

namespace Rfc3339

/-! ## The calendar -/

/-- The days before the start of a year, counted from the start of year zero. -/
def yearStart (year : Nat) : Nat :=
  365 * year + (year + 3) / 4 + (year + 399) / 400 - (year + 99) / 100

def isLeap (year : Nat) : Bool := year % 4 == 0 && (year % 100 != 0 || year % 400 == 0)

/-- The year a day lies in. The mean length of a year gives it or the year after it. -/
def yearOf (day : Nat) : Nat :=
  let year := (400 * day + 300) / 146097
  if yearStart year ≤ day then year else year - 1

/-- The lengths of the months of a year. -/
def monthLengths (year : Nat) : List Nat :=
  [31, if isLeap year then 29 else 28, 31, 30, 31, 30, 31, 31, 30, 31, 30, 31]

/-- Which of consecutive stretches a number falls into, and where in it. -/
def locate : List Nat → Nat → Nat × Nat
  | [], n => (0, n)
  | length :: rest, n =>
      if n < length then (0, n)
      else ((locate rest (n - length)).1 + 1, (locate rest (n - length)).2)

/-! ## Writing -/

def nanosPerSecond : Nat := 1000000000

def nanosPerDay : Nat := 86400 * nanosPerSecond

/-- The days of year zero, which come before the zero time. -/
def daysBefore : Nat := 366

/-- Decimal digits, filled with zeros to a width. -/
def padded : Nat → Nat → List Char
  | 0, _ => []
  | width + 1, n => padded width (n / 10) ++ [(n % 10).digitChar]

/-- The fraction of a second, without the zeros at its end. -/
def formatFraction (nanos : Nat) : List Char :=
  if nanos = 0 then [] else '.' :: (padded 9 nanos).rdropWhile (· == '0')

end Rfc3339

open Rfc3339

/-- The instant lies in one of the years that JSON can hold. -/
def Time.yearInRange (t : Int) : Bool :=
  -((daysBefore * nanosPerDay : Nat) : Int) ≤ t && t < (3652059 * nanosPerDay : Nat)

/-- `time.RFC3339Nano` in UTC. -/
def formatTime (t : Int) : List Char :=
  let n := (t + (daysBefore * nanosPerDay : Nat)).toNat
  let day := n / nanosPerDay
  let second := n % nanosPerDay / nanosPerSecond
  let year := yearOf day
  let date := locate (monthLengths year) (day - yearStart year)
  padded 4 year ++ '-' :: padded 2 (date.1 + 1) ++ '-' :: padded 2 (date.2 + 1) ++ 'T' ::
    padded 2 (second / 3600) ++ ':' :: padded 2 (second / 60 % 60) ++ ':' ::
    padded 2 (second % 60) ++ formatFraction (n % nanosPerSecond) ++ ['Z']

example : formatTime 0 = "0001-01-01T00:00:00Z".toList := by decide +kernel

end ControlCenter.Library
