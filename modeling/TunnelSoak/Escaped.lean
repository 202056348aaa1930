import TunnelSoak.Escaped.Unprintable

/-! Text as diagnostics quote it: in double quotes, on one line, with everything that
does not print by its number. -/
namespace TunnelSoak.Escaped

def hexDigits (n : Nat) : String := String.ofList (Nat.toDigits 16 n)

def isPlain (c : Char) : Bool :=
  if c.toNat < 0x80 then decide (0x20 ≤ c.toNat ∧ c.toNat ≠ 0x7f) else !isUnprintable c

def escape (c : Char) : String :=
  if c = '"' then "\\\""
  else if c = '\\' then "\\\\"
  else if c = '\n' then "\\n"
  else if c = '\r' then "\\r"
  else if c = '\t' then "\\t"
  else if c.toNat = 0 then "\\0"
  else if isPlain c then c.toString
  else "\\u\x7b" ++ hexDigits c.toNat ++ "\x7d"

def quote (text : String) : String := "\"" ++ String.join (text.toList.map escape) ++ "\""

end TunnelSoak.Escaped
