import TunnelSoak.Binary64

/-! The decimal text of a number: the fewest digits that read back as the same
number, and among those the nearest. The digits are found by trying each width
in turn against the exact interval of reals that round to the number. -/
namespace TunnelSoak.Binary64

structure Decimal where
  digits : Nat
  exponent : Int
  deriving DecidableEq, Repr

/-- Reals that round to `x`, as fractions over one denominator; the ends belong
to the interval when the mantissa is even. -/
structure Interval where
  low : Nat
  value : Nat
  high : Nat
  den : Nat
  closed : Bool

def interval (x : Binary64) : Interval :=
  let scale := Nat.pow 2 x.exponent.toNat
  let below := if x.mantissa = Nat.pow 2 (mantissaBits - 1) ∧ minExponent < x.exponent then 1 else 2
  { low := (4 * x.mantissa - below) * scale
    value := 4 * x.mantissa * scale
    high := (4 * x.mantissa + 2) * scale
    den := 4 * Nat.pow 2 (-x.exponent).toNat
    closed := x.mantissa % 2 = 0 }

def Interval.admits (i : Interval) (num den : Nat) : Bool :=
  let a := num * i.den
  if i.closed then decide (i.low * den ≤ a ∧ a ≤ i.high * den)
  else decide (i.low * den < a ∧ a < i.high * den)

/-- The position of the first significant digit of `num / den`: the greatest `p`
with `10 ^ p ≤ num / den`. -/
def leadingPower (num den : Nat) : Int :=
  let guess : Int := ((num.log2 : Int) - den.log2) * 30103 / 100000
  let reaches (p : Int) : Bool := decide (den * Nat.pow 10 p.toNat ≤ num * Nat.pow 10 (-p).toNat)
  ([guess + 2, guess + 1, guess, guess - 1].find? reaches).getD (guess - 2)

/-- The better of the two neighbours of the value on the grid `10 ^ power`, if
one of them reads back. -/
def Interval.onGrid (i : Interval) (power : Int) : Option Nat :=
  let num := i.value * Nat.pow 10 (-power).toNat
  let den := i.den * Nat.pow 10 power.toNat
  let down := num / den
  let admits (d : Nat) : Bool := i.admits (d * Nat.pow 10 power.toNat) (Nat.pow 10 (-power).toNat)
  match admits down, admits (down + 1) with
  | true, true => some (roundHalfEven num den)
  | true, false => some down
  | false, true => some (down + 1)
  | false, false => none

def Decimal.strip : Nat → Decimal → Decimal
  | 0, d => d
  | fuel + 1, d =>
    if d.digits ≠ 0 ∧ d.digits % 10 = 0 then strip fuel ⟨d.digits / 10, d.exponent + 1⟩ else d

/-- Seventeen digits always read back, so the search ends. -/
def shortest (x : Binary64) : Decimal :=
  let i := x.interval
  let lead := leadingPower i.value i.den
  let found := (List.range 17).findSome? fun (width : Nat) =>
    let power := lead - (width : Nat)
    (i.onGrid power).map fun digits => (⟨digits, power⟩ : Decimal)
  (found.getD ⟨0, 0⟩).strip 20

/-- Where positional notation ends, and how the exponent is written. -/
structure Layout where
  leastPower : Int
  greatestPower : Int
  plusSign : Bool

/-- Text of a number: positional with a fraction of at least one digit where the
leading power is in range, otherwise one digit, the rest and an exponent. -/
def Layout.text (format : Layout) (x : Binary64) : String :=
  let sign := if x.negative then "-" else ""
  if x.isZero then sign ++ "0.0"
  else
    let d := x.shortest
    let digits := toString d.digits
    let count := digits.length
    let power := d.exponent + (count - 1 : Nat)
    let zeros (n : Nat) : String := String.ofList (List.replicate n '0')
    let left (n : Nat) : String := String.ofList (digits.toList.take n)
    let right (n : Nat) : String := String.ofList (digits.toList.drop n)
    if format.leastPower ≤ power ∧ power ≤ format.greatestPower then
      if 0 ≤ d.exponent then sign ++ digits ++ zeros d.exponent.toNat ++ ".0"
      else if 0 ≤ power then
        sign ++ left (power.toNat + 1) ++ "." ++ right (power.toNat + 1)
      else sign ++ "0." ++ zeros ((-power).toNat - 1) ++ digits
    else
      let fraction := if count = 1 then "" else "." ++ right 1
      let plus := if format.plusSign ∧ 0 ≤ power then "+" else ""
      sign ++ left 1 ++ fraction ++ "e" ++ plus ++ toString power

end TunnelSoak.Binary64
