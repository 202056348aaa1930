import TunnelSoak.Binary64

/-! Byte counts as an operator reads them: whole bytes below 1024, otherwise one
decimal of the largest unit that the count, taken as a binary64 number, reaches. -/
namespace TunnelSoak.ByteCount

def units : List Char := ['K', 'M', 'G', 'T', 'P', 'E', 'Z']

/-- The nearest number of 53 significant bits. Every 64-bit count has one. -/
def significant (bytes : Nat) : Nat :=
  match Binary64.ofNat? bytes with
  | some x => x.truncate.toNat
  | none => bytes

/-- The number of times `bytes` can be divided by 1024 beyond the first before it
falls below 1024, at most `limit`. -/
def unitIndex : (limit : Nat) → (bytes : Nat) → Nat
  | 0, _ => 0
  | limit + 1, bytes => if bytes < 1024 * 1024 then 0 else unitIndex limit (bytes / 1024) + 1

/-- Tenths of the chosen unit. Dividing by a power of two is exact, so one
rounding to the even tenth remains. -/
def tenths (bytes unit : Nat) : Nat := roundHalfEven (bytes * 10) (Nat.pow 1024 (unit + 1))

def text (bytes : Nat) : String :=
  if bytes < 1024 then toString bytes ++ "B"
  else
    let value := significant bytes
    let unit := unitIndex (units.length - 1) value
    let shown := tenths value unit
    toString (shown / 10) ++ "." ++ toString (shown % 10) ++ String.ofList (units[unit]?.toList)

end TunnelSoak.ByteCount
