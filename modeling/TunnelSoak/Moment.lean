/-! Moments of the calendar as notices and log lines write them. -/
namespace TunnelSoak

/-- A moment of universal time since the start of 1970. -/
structure Moment where
  seconds : Nat
  nanos : Nat
  deriving DecidableEq, Repr

namespace Moment

def padded (width n : Nat) : String :=
  let digits := toString n
  String.ofList (List.replicate (width - digits.length) '0') ++ digits

/-- Year, month and day of a number of days since the start of 1970. Years are
counted from March, so that a leap day ends its year. -/
def date (days : Nat) : Nat × Nat × Nat :=
  let shifted := days + 719468
  let era := shifted / 146097
  let dayOfEra := shifted % 146097
  let yearOfEra := (dayOfEra - dayOfEra / 1460 + dayOfEra / 36524 - dayOfEra / 146096) / 365
  let dayOfYear := dayOfEra - (365 * yearOfEra + yearOfEra / 4 - yearOfEra / 100)
  let month := (5 * dayOfYear + 2) / 153
  let day := dayOfYear - (153 * month + 2) / 5 + 1
  let month := if month < 10 then month + 3 else month - 9
  let year := yearOfEra + era * 400
  (if month ≤ 2 then year + 1 else year, month, day)

def dateText (m : Moment) : String :=
  let (year, month, day) := date (m.seconds / 86400)
  padded 4 year ++ "-" ++ padded 2 month ++ "-" ++ padded 2 day

def clock (m : Moment) : String :=
  let s := m.seconds % 86400
  padded 2 (s / 3600) ++ ":" ++ padded 2 (s / 60 % 60) ++ ":" ++ padded 2 (s % 60)

/-- The fraction of the second in milliseconds, microseconds or nanoseconds,
whichever is exact first. -/
def fraction (m : Moment) : String :=
  if m.nanos = 0 then ""
  else if m.nanos % 1000000 = 0 then "." ++ padded 3 (m.nanos / 1000000)
  else if m.nanos % 1000 = 0 then "." ++ padded 6 (m.nanos / 1000)
  else "." ++ padded 9 m.nanos

def stamp (m : Moment) : String :=
  m.dateText ++ "T" ++ m.clock ++ m.fraction ++ "+00:00"

def logStamp (m : Moment) : String :=
  m.dateText ++ "T" ++ m.clock ++ "." ++ padded 6 (m.nanos / 1000) ++ "Z"

def number? (digits : List Char) : Option Nat :=
  if digits ≠ [] ∧ digits.all Char.isDigit then
    some (digits.foldl (fun n c => n * 10 + (c.toNat - 48)) 0)
  else none

/-- A zone offset: `Z`, or a sign, hours and minutes. -/
def isOffset : List Char → Bool
  | ['Z'] => true
  | [sign, h, h', ':', m, m'] =>
    (sign == '+' || sign == '-') && [h, h', m, m'].all Char.isDigit &&
      ((number? [m, m']).getD 60 < 60) && ((number? [h, h']).getD 24 < 24)
  | _ => false

/-- A timestamp of the internet form: date, `T`, clock, optional fraction, offset. -/
def isStamp (text : String) : Bool :=
  match text.toList with
  | y :: y' :: y'' :: y''' :: '-' :: mo :: mo' :: '-' :: d :: d' :: 'T' :: h :: h' :: ':' ::
      mi :: mi' :: ':' :: s :: s' :: rest =>
    let within (low high : Nat) (digits : List Char) : Bool :=
      match number? digits with
      | some n => decide (low ≤ n ∧ n ≤ high)
      | none => false
    let tail :=
      match rest with
      | '.' :: rest =>
        if (rest.takeWhile Char.isDigit).isEmpty then [] else rest.dropWhile Char.isDigit
      | _ => rest
    within 0 9999 [y, y', y'', y'''] && within 1 12 [mo, mo'] && within 1 31 [d, d'] &&
      within 0 23 [h, h'] && within 0 59 [mi, mi'] && within 0 60 [s, s'] && isOffset tail
  | _ => false

end Moment

end TunnelSoak
