import TunnelSoak.Toml.Layout
import TunnelSoak.Toml.Quoted
import TunnelSoak.Toml.Value

/-! Numbers. Underscores may stand between digits. Integers are signed and of 64
bits; everything else is binary64, where only a positive number may not be too
large. -/
namespace TunnelSoak.Toml.Numeral

def digitValue? (base : Nat) (c : Char) : Option Nat :=
  (Quoted.hexValue? c).filter (· < base)

def moreDigits (base : Nat) : Chars → Reading (List Nat)
  | [] => ([], [])
  | '_' :: c :: rest =>
    match digitValue? base c with
    | some d =>
      let (ds, rest) := moreDigits base rest
      (d :: ds, rest)
    | none => ([], '_' :: c :: rest)
  | c :: rest =>
    match digitValue? base c with
    | some d =>
      let (ds, rest) := moreDigits base rest
      (d :: ds, rest)
    | none => ([], c :: rest)

def digits? (base : Nat) : Chars → Option (Reading (List Nat))
  | [] => none
  | c :: rest =>
    (digitValue? base c).map fun d =>
      let (ds, rest) := moreDigits base rest
      (d :: ds, rest)

def ofDigits (base : Nat) (digits : List Nat) : Nat := digits.foldl (fun n d => n * base + d) 0

def isInteger (n : Int) : Bool := decide (-(Nat.pow 2 63 : Int) ≤ n ∧ n < (Nat.pow 2 63 : Int))

def integer? (n : Int) : Option Value := if isInteger n then some (.integer n) else none

def radix? (base : Nat) (input : Chars) : Option (Reading Value) := do
  let (ds, rest) ← digits? base input
  (integer? (ofDigits base ds)).map fun n => (n, rest)

def whole? : Chars → Option (Reading (List Nat))
  | '0' :: rest => some ([0], rest)
  | input => digits? 10 input

def sign : Chars → Reading Bool
  | '-' :: rest => (true, rest)
  | '+' :: rest => (false, rest)
  | input => (false, input)

def fraction? : Chars → Option (Reading (List Nat))
  | '.' :: rest => digits? 10 rest
  | _ => none

def exponent? : Chars → Option (Reading Int)
  | [] => none
  | c :: rest =>
    if c = 'e' ∨ c = 'E' then
      let (negative, rest) := sign rest
      (digits? 10 rest).map fun (ds, rest) =>
        let n : Int := ofDigits 10 ds
        (if negative then -n else n, rest)
    else none

/-- Decimal exponents beyond which every number is zero or infinite. -/
def leastExponent : Int := -400
def greatestExponent : Int := 400

/-- The number nearest to `significand * 10 ^ power`, none if that is infinite. -/
def scaled? (negative : Bool) (significand : Nat) (power : Int) : Option Binary64 :=
  let size : Int := power + (toString significand).length
  if significand = 0 ∨ size < leastExponent then some (Binary64.zero negative)
  else if greatestExponent < size then none
  else Binary64.ofRatio negative (significand * Nat.pow 10 power.toNat) (Nat.pow 10 (-power).toNat)

def float? (negative : Bool) (digits : List Nat) (power : Int) : Option Value :=
  match scaled? negative (ofDigits 10 digits) power with
  | some x => some (.float (some x))
  | none => if negative then some (.float none) else none

def decimal? (negative : Bool) (input : Chars) : Option (Reading Value) := do
  let (whole, rest) ← whole? input
  match fraction? rest, exponent? rest with
  | some (fraction, rest), _ =>
    let (power, rest) := (exponent? rest).getD (0, rest)
    let value ← float? negative (whole ++ fraction) (power - fraction.length)
    some (value, rest)
  | none, some (power, rest) =>
    let value ← float? negative whole power
    some (value, rest)
  | none, none =>
    let n : Int := ofDigits 10 whole
    let value ← integer? (if negative then -n else n)
    some (value, rest)

def read? (input : Chars) : Option (Reading Value) :=
  match input with
  | '0' :: 'x' :: rest => radix? 16 rest
  | '0' :: 'o' :: rest => radix? 8 rest
  | '0' :: 'b' :: rest => radix? 2 rest
  | _ =>
    let (negative, rest) := sign input
    match rest with
    | 'i' :: 'n' :: 'f' :: rest => some (.float none, rest)
    | 'n' :: 'a' :: 'n' :: rest => some (.float none, rest)
    | _ => decimal? negative rest

end TunnelSoak.Toml.Numeral
