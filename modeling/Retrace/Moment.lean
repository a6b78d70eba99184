import Retrace.Decimal.Padded

/-!
Readings of a clock, and how they are written: as a day, as a stamp whose fields have fixed widths
so that stamps compare like the moments, and with an offset for other programs.
-/

namespace Retrace

open Decimal

structure Moment where
  year : Nat
  month : Nat
  day : Nat
  hour : Nat := 0
  minute : Nat := 0
  second : Nat := 0
  nanosecond : Nat := 0
deriving DecidableEq, Repr

namespace Moment

def millisecond (m : Moment) : Nat := m.nanosecond / 1000000

def yearText (m : Moment) : List Char :=
  if 9999 < m.year then '+' :: padded 4 m.year else padded 4 m.year

def dayChars (m : Moment) : List Char := m.yearText ++ padded 2 m.month ++ padded 2 m.day

def stampChars (m : Moment) : List Char :=
  m.dayChars ++ '_' :: (padded 2 m.hour ++ padded 2 m.minute ++ padded 2 m.second) ++
    '_' :: padded 3 m.millisecond

/-- The day, as in 20250131. -/
def dayText (m : Moment) : String := String.ofList m.dayChars

/-- The day, the time and the milliseconds, as in 20250131_235959_007. -/
def stampText (m : Moment) : String := String.ofList m.stampChars

/-- The fraction of the second, in as few groups of three digits as it needs. -/
def fraction (nanosecond : Nat) : List Char :=
  if nanosecond = 0 then []
  else if nanosecond % 1000000 = 0 then '.' :: padded 3 (nanosecond / 1000000)
  else if nanosecond % 1000 = 0 then '.' :: padded 6 (nanosecond / 1000)
  else '.' :: padded 9 nanosecond

/-- Date and time of a clock without offset, as in 2025-01-31T23:59:59.007+00:00. -/
def offsetText (m : Moment) : String :=
  String.ofList (m.yearText ++ '-' :: padded 2 m.month ++ '-' :: padded 2 m.day ++
    'T' :: padded 2 m.hour ++ ':' :: padded 2 m.minute ++ ':' :: padded 2 m.second ++
    fraction m.nanosecond ++ ['+', '0', '0', ':', '0', '0'])

end Moment

/-- The two clocks: the one on the wall, which names files, and the one without offset. -/
structure Clock where
  wall : Moment
  universal : Moment
deriving DecidableEq, Repr

end Retrace
