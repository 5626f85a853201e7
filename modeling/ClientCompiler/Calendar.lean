import ClientCompiler.Number.Decimal
import ClientCompiler.Number.Natural

/-!
Dates and moments of the Gregorian calendar, with their text and the instant they denote.
-/

namespace ClientCompiler

structure Date where
  year : Nat
  month : Nat
  day : Nat
  deriving DecidableEq, Repr, Inhabited

/-- A moment of a day; `offset` is the distance to universal time in minutes, if it is known. -/
structure Moment where
  date : Date
  hour : Nat
  minute : Nat
  second : Nat
  microsecond : Nat
  offset : Option Int
  deriving DecidableEq, Repr, Inhabited

def isLeapYear (y : Nat) : Bool := y % 4 = 0 && (y % 100 ≠ 0 || y % 400 = 0)

def daysInMonth (y m : Nat) : Nat :=
  if m = 2 then (if isLeapYear y then 29 else 28)
  else if m = 4 || m = 6 || m = 9 || m = 11 then 30 else 31

namespace Date

def isValid (d : Date) : Bool :=
  1 ≤ d.year && d.year ≤ 9999 && 1 ≤ d.month && d.month ≤ 12 && 1 ≤ d.day &&
    d.day ≤ daysInMonth d.year d.month

def dayNumber (d : Date) : Nat :=
  let y := d.year - 1
  let before := total ((List.range (d.month - 1)).map fun i => daysInMonth d.year (i + 1))
  y * 365 + y / 4 - y / 100 + y / 400 + before + (d.day - 1)

end Date

def padded (width n : Nat) : List Char :=
  let ds := natDigits n
  List.replicate (width - ds.length) '0' ++ ds

def Date.text (d : Date) : List Char :=
  padded 4 d.year ++ '-' :: padded 2 d.month ++ '-' :: padded 2 d.day

namespace Moment

def isValid (t : Moment) : Bool :=
  t.date.isValid && t.hour < 24 && t.minute < 60 && t.second < 60 && t.microsecond < 1000000 &&
    match t.offset with
    | none => true
    | some m => m.natAbs < 24 * 60

def text (t : Moment) : List Char :=
  let fraction := if t.microsecond = 0 then [] else '.' :: padded 6 t.microsecond
  let zone := match t.offset with
    | none => []
    | some m =>
      (if m < 0 then '-' else '+') :: padded 2 (m.natAbs / 60) ++ ':' :: padded 2 (m.natAbs % 60)
  t.date.text ++ ' ' :: padded 2 t.hour ++ ':' :: padded 2 t.minute ++ ':' :: padded 2 t.second ++
    fraction ++ zone

/-- Microseconds since the start of year one, in universal time if the offset is known. -/
def instant (t : Moment) : Int :=
  let minutes : Int := (t.date.dayNumber * 24 + t.hour) * 60 + t.minute
  ((minutes - t.offset.getD 0) * 60 + t.second) * 1000000 + t.microsecond

/-- Moments with known offsets are compared by instant; otherwise both offsets are unknown. -/
def same (s t : Moment) : Bool :=
  s.offset.isSome == t.offset.isSome && s.instant == t.instant

end Moment
end ClientCompiler
