import ControlPlaneKit.Operations.Authority
import Mathlib.Algebra.GroupWithZero.Nat

/-!
# Temporal — canonical UTC texts

A caller names an instant by its canonical UTC text, and a stored instant is
rendered by the same text again.  `canonicalInstant` reads a text as microseconds
since the first day of year one, and refuses one that renders no instant.
-/

namespace ControlPlaneKit.Operations

/-- The number a list of decimal digits stands for. -/
def decimal (digits : List Char) : Option Nat :=
  digits.foldlM (fun value digit =>
    if 48 ≤ digit.toNat ∧ digit.toNat ≤ 57 then some (10 * value + (digit.toNat - 48))
    else none) 0

def isLeapYear (year : Nat) : Bool :=
  year % 4 = 0 && (year % 100 ≠ 0 || year % 400 = 0)

def daysInMonth (year month : Nat) : Nat :=
  if month = 2 then if isLeapYear year then 29 else 28
  else if month = 4 ∨ month = 6 ∨ month = 9 ∨ month = 11 then 30 else 31

/-- Days of the proleptic calendar before a date. -/
def daysBefore (year month day : Nat) : Nat :=
  365 * (year - 1) + (year - 1) / 4 - (year - 1) / 100 + (year - 1) / 400 +
    ((List.range (month - 1)).map fun earlier => daysInMonth year (earlier + 1)).sum +
      (day - 1)

/-- The instant of a date and a time of day, when there is such a date. -/
def instantOf (year month day hour minute second micros : Nat) : Option Timestamp :=
  if 1 ≤ year ∧ 1 ≤ month ∧ month ≤ 12 ∧ 1 ≤ day ∧ day ≤ daysInMonth year month ∧
      hour ≤ 23 ∧ minute ≤ 59 ∧ second ≤ 59 then
    some ((((daysBefore year month day * 24 + hour) * 60 + minute) * 60 + second) *
      1000000 + micros)
  else none

/-- `validate_canonical_utc_timestamp`: seconds, or six digits of microseconds
that are not all zero. -/
def canonicalInstant (value : String) : Option Timestamp :=
  match value.toList with
  | y₁ :: y₂ :: y₃ :: y₄ :: '-' :: m₁ :: m₂ :: '-' :: d₁ :: d₂ :: 'T' ::
      h₁ :: h₂ :: ':' ::
      n₁ :: n₂ :: ':' :: s₁ :: s₂ :: rest => do
      let year ← decimal [y₁, y₂, y₃, y₄]
      let month ← decimal [m₁, m₂]
      let day ← decimal [d₁, d₂]
      let hour ← decimal [h₁, h₂]
      let minute ← decimal [n₁, n₂]
      let second ← decimal [s₁, s₂]
      match rest with
      | ['Z'] => instantOf year month day hour minute second 0
      | ['.', f₁, f₂, f₃, f₄, f₅, f₆, 'Z'] => do
          let micros ← decimal [f₁, f₂, f₃, f₄, f₅, f₆]
          if micros = 0 then none
          else instantOf year month day hour minute second micros
      | _ => none
  | _ => none

/-- `encode_postgres_timestamp(value)`: the column renders as the text again. -/
def encodePostgresTimestamp (value : String) : Except ServiceError Unit :=
  requireThat (canonicalInstant value).isSome
    (.base "postgres timestamp must be canonical UTC text")

end ControlPlaneKit.Operations
