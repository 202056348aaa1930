import TunnelSoak.Json.Numeral

/-! Reading values. The input is taken from left to right and the first thing that
is wrong decides the fault. Nesting is bounded: `depth` is the number of arrays
and objects that may still be opened. The `fuel` of the recursive readers is a
bound on their steps, of which no byte takes more than two. -/
namespace TunnelSoak.Json

def isBlank (b : UInt8) : Bool := b == 32 || b == 9 || b == 10 || b == 13

def skipBlanks (input : Bytes) : Bytes := input.dropWhile isBlank

/-- Arrays and objects that may be open at once in a document. -/
def depthLimit : Nat := 127

def keyword : Bytes → Bytes → Except Fault Bytes
  | [], input => .ok input
  | _ :: _, [] => .error .eof
  | k :: ks, b :: rest => if b = k then keyword ks rest else .error .malformed

def colon (input : Bytes) : Except Fault Bytes :=
  match skipBlanks input with
  | [] => .error .eof
  | b :: rest => if b = 58 then .ok rest else .error .malformed

inductive Continuation where
  | ended (rest : Bytes)
  | more (rest : Bytes)

/-- Go on to the next item: the first one stands alone, every other one after a
comma, and a comma must be followed by an item. -/
def next (close : UInt8) (first : Bool) (input : Bytes) : Except Fault Continuation :=
  match skipBlanks input with
  | [] => .error .eof
  | b :: rest =>
    if b = close then .ok (.ended rest)
    else if first then .ok (.more (b :: rest))
    else if b = 44 then
      match skipBlanks rest with
      | [] => .error .eof
      | c :: rest => if c = close then .error .malformed else .ok (.more (c :: rest))
    else .error .malformed

def key (input : Bytes) : Except Fault (Reading String) :=
  match input with
  | [] => .error .eof
  | b :: rest => if b = 34 then Quoted.decode rest else .error .malformed

mutual

def valueAt : (fuel depth : Nat) → Bytes → Except Fault (Reading Value)
  | 0, _, _ => .error .eof
  | _ + 1, _, [] => .error .eof
  | fuel + 1, depth, b :: rest =>
    if b = 110 then (keyword (ascii "ull") rest).map fun rest => (.null, rest)
    else if b = 116 then (keyword (ascii "rue") rest).map fun rest => (.bool true, rest)
    else if b = 102 then (keyword (ascii "alse") rest).map fun rest => (.bool false, rest)
    else if b = 45 then (readNumber true rest).map fun (n, rest) => (.number n, rest)
    else if Numeral.isDigit b then
      (readNumber false (b :: rest)).map fun (n, rest) => (.number n, rest)
    else if b = 34 then (Quoted.decode rest).map fun (text, rest) => (.string text, rest)
    else if b = 91 then
      match depth with
      | 0 => .error .malformed
      | depth + 1 => (items fuel depth true rest).map fun (vs, rest) => (.array vs, rest)
    else if b = 123 then
      match depth with
      | 0 => .error .malformed
      | depth + 1 =>
        (members fuel depth true rest).map fun (ms, rest) => (.object (Members.ofList ms), rest)
    else .error .malformed

def items : (fuel depth : Nat) → (first : Bool) → Bytes → Except Fault (Reading (List Value))
  | 0, _, _, _ => .error .eof
  | fuel + 1, depth, first, input => do
    match ← next 93 first input with
    | .ended rest => .ok ([], rest)
    | .more rest =>
      let (v, rest) ← valueAt fuel depth rest
      let (vs, rest) ← items fuel depth false rest
      .ok (v :: vs, rest)

def members : (fuel depth : Nat) → (first : Bool) → Bytes →
    Except Fault (Reading (List (String × Value)))
  | 0, _, _, _ => .error .eof
  | fuel + 1, depth, first, input => do
    match ← next 125 first input with
    | .ended rest => .ok ([], rest)
    | .more rest =>
      let (k, rest) ← key rest
      let rest ← colon rest
      let (v, rest) ← valueAt fuel depth (skipBlanks rest)
      let (ms, rest) ← members fuel depth false rest
      .ok ((k, v) :: ms, rest)

end

def value (depth : Nat) (input : Bytes) : Except Fault (Reading Value) :=
  valueAt (2 * input.length + 2) depth (skipBlanks input)

/-- Read a whole document with `reader`: nothing but blanks may follow. -/
def document (reader : (depth : Nat) → Bytes → Except Fault (Reading α)) (input : Bytes) :
    Except Fault α := do
  let (a, rest) ← reader depthLimit input
  match skipBlanks rest with
  | [] => .ok a
  | _ :: _ => .error .malformed

end TunnelSoak.Json
