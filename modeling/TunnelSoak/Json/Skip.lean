import TunnelSoak.Json.Reader

/-! Passing over a value that nobody reads. It must be well formed, but its depth
is not bounded, its numbers have no range and its texts need not be Unicode. An
input that ends inside a number is malformed here rather than unfinished. -/
namespace TunnelSoak.Json.Skip

def someDigits (input : Bytes) : Except Fault Bytes :=
  match Numeral.someDigits input with
  | .ok (_, rest) => .ok rest
  | .error _ => .error .malformed

def exponent (input : Bytes) : Except Fault Bytes :=
  match input with
  | [] => .ok []
  | b :: rest =>
    if b = 101 ∨ b = 69 then
      match rest with
      | 43 :: rest => someDigits rest
      | 45 :: rest => someDigits rest
      | _ => someDigits rest
    else .ok (b :: rest)

def number (input : Bytes) : Except Fault Bytes :=
  match Numeral.wholePart input with
  | .error _ => .error .malformed
  | .ok (_, 46 :: rest) => (someDigits rest).bind exponent
  | .ok (_, rest) => exponent rest

mutual

def valueAt : (fuel : Nat) → Bytes → Except Fault Bytes
  | 0, _ => .error .eof
  | _ + 1, [] => .error .eof
  | fuel + 1, b :: rest =>
    if b = 110 then keyword (ascii "ull") rest
    else if b = 116 then keyword (ascii "rue") rest
    else if b = 102 then keyword (ascii "alse") rest
    else if b = 45 then number rest
    else if Numeral.isDigit b then number (b :: rest)
    else if b = 34 then Quoted.skip rest
    else if b = 91 then items fuel true rest
    else if b = 123 then members fuel true rest
    else .error .malformed

def items : (fuel : Nat) → (first : Bool) → Bytes → Except Fault Bytes
  | 0, _, _ => .error .eof
  | fuel + 1, first, input => do
    match ← next 93 first input with
    | .ended rest => .ok rest
    | .more rest =>
      let rest ← valueAt fuel rest
      items fuel false rest

def members : (fuel : Nat) → (first : Bool) → Bytes → Except Fault Bytes
  | 0, _, _ => .error .eof
  | fuel + 1, first, input => do
    match ← next 125 first input with
    | .ended rest => .ok rest
    | .more rest =>
      match rest with
      | 34 :: rest =>
        let rest ← Quoted.skip rest
        let rest ← colon rest
        let rest ← valueAt fuel (skipBlanks rest)
        members fuel false rest
      | _ => .error .malformed

end

def value (input : Bytes) : Except Fault Bytes :=
  valueAt (2 * input.length + 2) (skipBlanks input)

end TunnelSoak.Json.Skip
