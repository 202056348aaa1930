import TunnelSoak.Json.Quoted
import TunnelSoak.Json.Value

/-! Numerals. A numeral is read as its digits and given a value afterwards: whole
numbers that fit 64 bits keep theirs, and the rest take a significand of at most
64 bits, dropping further digits, and scale it by a power of ten in binary64. -/
namespace TunnelSoak.Json

structure Numeral where
  negative : Bool
  whole : List Nat
  fraction : Option (List Nat)
  exponent : Option Int
  deriving DecidableEq, Repr

namespace Numeral

def isDigit (b : UInt8) : Bool := decide (48 ≤ b ∧ b ≤ 57)

def digits (input : Bytes) : List Nat × Bytes :=
  ((input.takeWhile isDigit).map fun b => b.toNat - 48, input.dropWhile isDigit)

def ofDigits (digits : List Nat) : Nat := digits.foldl (fun n d => n * 10 + d) 0

def missing : Bytes → Fault
  | [] => .eof
  | _ => .malformed

def someDigits (input : Bytes) : Except Fault (Reading (List Nat)) :=
  match digits input with
  | ([], rest) => .error (missing rest)
  | (ds, rest) => .ok (ds, rest)

def wholePart (input : Bytes) : Except Fault (Reading (List Nat)) := do
  let (ds, rest) ← someDigits input
  if ds.head? = some 0 ∧ 1 < ds.length then .error .malformed else .ok (ds, rest)

def fractionPart (input : Bytes) : Except Fault (Reading (Option (List Nat))) :=
  match input with
  | 46 :: rest => (someDigits rest).map fun (ds, rest) => (some ds, rest)
  | _ => .ok (none, input)

def exponentPart (input : Bytes) : Except Fault (Reading (Option Int)) :=
  match input with
  | [] => .ok (none, [])
  | b :: rest =>
    if b = 101 ∨ b = 69 then
      match rest with
      | 43 :: rest => (someDigits rest).map fun (ds, rest) => (some (ofDigits ds : Int), rest)
      | 45 :: rest => (someDigits rest).map fun (ds, rest) => (some (-(ofDigits ds : Int)), rest)
      | _ => (someDigits rest).map fun (ds, rest) => (some (ofDigits ds : Int), rest)
    else .ok (none, b :: rest)

def read (negative : Bool) (input : Bytes) : Except Fault (Reading Numeral) := do
  let (whole, rest) ← wholePart input
  let (fraction, rest) ← fractionPart rest
  let (exponent, rest) ← exponentPart rest
  .ok (⟨negative, whole, fraction, exponent⟩, rest)

/-- Append digits to a significand as long as it fits 64 bits; the digits that no
longer fit are left over. -/
def absorb (significand : Nat) : List Nat → Nat × List Nat
  | [] => (significand, [])
  | d :: ds =>
    if significand * 10 + d < Nat.pow 2 64 then absorb (significand * 10 + d) ds
    else (significand, d :: ds)

def greatestPower : Nat := 308

def divideByPower (x : Binary64) (power : Nat) : Option Binary64 :=
  (Binary64.ofNat? (Nat.pow 10 power)).bind x.div?

/-- Divide by a power of ten in steps that each are a number. -/
def shrink (x : Binary64) (power : Nat) : Option Binary64 :=
  if power ≤ greatestPower then divideByPower x power
  else if x.isZero then some x
  else (divideByPower x greatestPower).bind fun y => shrink y (power - greatestPower)
termination_by power
decreasing_by simp only [greatestPower] at *; omega

def grow (x : Binary64) (power : Nat) : Option Binary64 :=
  if power ≤ greatestPower then (Binary64.ofNat? (Nat.pow 10 power)).bind x.mul?
  else if x.isZero then some x
  else none

def scale (x : Binary64) (power : Int) : Option Binary64 :=
  if 0 ≤ power then grow x power.toNat else shrink x (-power).toNat

def wholeNumber (negative : Bool) (significand : Nat) : Option Number :=
  if negative then
    if 0 < significand ∧ significand ≤ Nat.pow 2 63 then some (.int (-(significand : Int)))
    else (Binary64.ofNat? significand).map fun x => .float (x.withSign true)
  else some (.int significand)

def number? (n : Numeral) : Option Number :=
  let (significand, left) := absorb 0 n.whole
  if left = [] ∧ n.fraction = none ∧ n.exponent = none then wholeNumber n.negative significand
  else
    let fraction := n.fraction.getD []
    let (significand, dropped) := absorb significand fraction
    let power := (left.length : Int) - (fraction.length - dropped.length : Nat) + n.exponent.getD 0
    (Binary64.ofNat? significand).bind fun x =>
      (scale x power).map fun x => .float (x.withSign n.negative)

end Numeral

/-- Read a number after its sign. A number too large for binary64 is malformed. -/
def readNumber (negative : Bool) (input : Bytes) : Except Fault (Reading Number) := do
  let (numeral, rest) ← Numeral.read negative input
  match numeral.number? with
  | some n => .ok (n, rest)
  | none => .error .malformed

end TunnelSoak.Json
