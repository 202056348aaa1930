import TunnelSoak.Moment
import TunnelSoak.Toml.Layout

/-! Dates and times, read into their canonical text: the digits checked against the
calendar, fractions of a second cut to nanoseconds without zeros at the end. -/
namespace TunnelSoak.Toml.Calendar

def number? (digits : Chars) : Option Nat :=
  digits.foldlM (fun n c => if c.isDigit then some (n * 10 + (c.toNat - '0'.toNat)) else none) 0

def daysIn (year month : Nat) : Nat :=
  if month = 2 then if year % 4 = 0 ∧ (year % 100 ≠ 0 ∨ year % 400 = 0) then 29 else 28
  else if month = 4 ∨ month = 6 ∨ month = 9 ∨ month = 11 then 30
  else 31

def two? (low high : Nat) (a b : Char) : Option Nat :=
  (number? [a, b]).filter fun n => low ≤ n ∧ n ≤ high

def date? : Chars → Option (Reading String)
  | y :: y' :: y'' :: y''' :: '-' :: m :: m' :: '-' :: d :: d' :: rest => do
    let year ← number? [y, y', y'', y''']
    let month ← two? 1 12 m m'
    let day ← two? 1 (daysIn year month) d d'
    some (Moment.padded 4 year ++ "-" ++ Moment.padded 2 month ++ "-" ++ Moment.padded 2 day, rest)
  | _ => none

def fractionText (digits : Chars) : String :=
  match ((digits.take 9).reverse.dropWhile (· = '0')).reverse with
  | [] => ""
  | shown => "." ++ String.ofList shown

def time? : Chars → Option (Reading String)
  | h :: h' :: ':' :: m :: m' :: ':' :: s :: s' :: rest => do
    let hour ← two? 0 23 h h'
    let minute ← two? 0 59 m m'
    let second ← two? 0 60 s s'
    let clock :=
      Moment.padded 2 hour ++ ":" ++ Moment.padded 2 minute ++ ":" ++ Moment.padded 2 second
    match rest with
    | '.' :: c :: rest =>
      if c.isDigit then
        some (clock ++ fractionText ((c :: rest).takeWhile Char.isDigit),
          rest.dropWhile Char.isDigit)
      else some (clock, '.' :: c :: rest)
    | _ => some (clock, rest)
  | _ => none

def offset? : Chars → Option (Reading String)
  | [] => none
  | c :: rest =>
    if c = 'Z' ∨ c = 'z' then some ("Z", rest)
    else if c = '+' ∨ c = '-' then
      match rest with
      | h :: h' :: ':' :: m :: m' :: rest => do
        let hour ← two? 0 23 h h'
        let minute ← two? 0 59 m m'
        let sign := if c = '-' ∧ (hour ≠ 0 ∨ minute ≠ 0) then "-" else "+"
        some (sign ++ Moment.padded 2 hour ++ ":" ++ Moment.padded 2 minute, rest)
      | _ => none
    else none

def timePart? : Chars → Option (Reading String)
  | [] => none
  | c :: rest =>
    if c = 'T' ∨ c = 't' ∨ c = ' ' then
      (time? rest).map fun (clock, rest) =>
        match offset? rest with
        | some (zone, rest) => ("T" ++ clock ++ zone, rest)
        | none => ("T" ++ clock, rest)
    else none

def read? (input : Chars) : Option (Reading String) :=
  match date? input with
  | some (date, rest) =>
    match timePart? rest with
    | some (time, rest) => some (date ++ time, rest)
    | none => some (date, rest)
  | none => time? input

end TunnelSoak.Toml.Calendar
