import TunnelSoak.Json.Skip

/-! Reading a value of a fixed kind. A value of another kind is a mismatch as soon
as it is seen: a scalar of the wrong kind is still read to its end, an array or
object is not entered. Records are read from an object, whose unknown members are
passed over, or from an array of the fields in order. -/
namespace TunnelSoak.Json

/-- A reader of values of one kind, given the nesting that is left. -/
abbrev Decoder (α : Type) := (depth : Nat) → Bytes → Except Fault (Reading α)

/-- A value of the wrong kind is a mismatch, unless it could not be read. -/
def Fault.ofUnwanted : Except Fault α → Fault
  | .ok _ => .mismatch
  | .error fault => fault

def mismatchAt : Bytes → Fault
  | [] => .eof
  | b :: rest =>
    if b = 110 then .ofUnwanted (keyword (ascii "ull") rest)
    else if b = 116 then .ofUnwanted (keyword (ascii "rue") rest)
    else if b = 102 then .ofUnwanted (keyword (ascii "alse") rest)
    else if b = 45 then .ofUnwanted (readNumber true rest)
    else if Numeral.isDigit b then .ofUnwanted (readNumber false (b :: rest))
    else if b = 34 then .ofUnwanted (Quoted.decode rest)
    else if b = 91 ∨ b = 123 then .mismatch
    else .malformed

def stringAt : Bytes → Except Fault (Reading String)
  | 34 :: rest => Quoted.decode rest
  | input => .error (mismatchAt input)

def string : Decoder String := fun _ input => stringAt (skipBlanks input)

def optional (decoder : Decoder α) : Decoder (Option α) := fun depth input =>
  match skipBlanks input with
  | 110 :: rest => (keyword (ascii "ull") rest).map fun rest => (none, rest)
  | input => (decoder depth input).map fun (a, rest) => (some a, rest)

def flag : Decoder Bool := fun _ input =>
  match skipBlanks input with
  | 116 :: rest => (keyword (ascii "rue") rest).map fun rest => (true, rest)
  | 102 :: rest => (keyword (ascii "alse") rest).map fun rest => (false, rest)
  | input => .error (mismatchAt input)

/-- A whole number of 64 bits without a sign, written without fraction or exponent. -/
def count : Decoder Nat := fun _ input =>
  match skipBlanks input with
  | [] => .error .eof
  | b :: rest =>
    if b = 45 then (readNumber true rest).bind fun _ => .error .mismatch
    else if Numeral.isDigit b then
      (readNumber false (b :: rest)).bind fun (n, rest) =>
        match n with
        | .int n => .ok (n.toNat, rest)
        | .float _ => .error .mismatch
    else .error (mismatchAt (b :: rest))

def freeObject : Decoder Members := fun depth input =>
  match skipBlanks input with
  | 123 :: rest =>
    match depth with
    | 0 => .error .malformed
    | depth + 1 =>
      (members (2 * rest.length + 2) depth true rest).map fun (ms, rest) =>
        (Members.ofList ms, rest)
  | input => .error (mismatchAt input)

/-- One name of a few: the name as a text, or an object of that one key with null. -/
def choice (parse : String → Option α) : Decoder α := fun depth input =>
  let known (name : String) : Except Fault α :=
    match parse name with
    | some a => .ok a
    | none => .error .mismatch
  match skipBlanks input with
  | [] => .error .eof
  | b :: rest =>
    if b = 34 then do
      let (name, rest) ← Quoted.decode rest
      .ok (← known name, rest)
    else if b = 123 then
      match depth with
      | 0 => .error .malformed
      | depth + 1 => do
        let (name, rest) ← string depth rest
        let a ← known name
        let rest ← colon rest
        let rest ←
          match skipBlanks rest with
          | 110 :: rest => keyword (ascii "ull") rest
          | input => .error (mismatchAt input)
        match skipBlanks rest with
        | [] => .error .eof
        | b :: rest => if b = 125 then .ok (a, rest) else .error .malformed
    else .error .malformed

/-- A field of a record under construction: whether it has been given, and how its
value is read into the draft. -/
structure Field (σ : Type) where
  name : String
  given : σ → Bool
  read : (depth : Nat) → σ → Bytes → Except Fault (Reading σ)

def Field.of (name : String) (decoder : Decoder α) (get : σ → Option α) (set : σ → α → σ) :
    Field σ where
  name := name
  given draft := (get draft).isSome
  read depth draft input := (decoder depth input).map fun (a, rest) => (set draft a, rest)

/-- Read members by name; a field may be given once. -/
def namedFields (fields : List (Field σ)) (depth : Nat) :
    (fuel : Nat) → (first : Bool) → σ → Bytes → Except Fault (Reading σ)
  | 0, _, _, _ => .error .eof
  | fuel + 1, first, draft, input => do
    match ← next 125 first input with
    | .ended rest => .ok (draft, rest)
    | .more rest =>
      let (name, rest) ← key rest
      match fields.find? fun field => field.name = name with
      | some field =>
        if field.given draft then .error .mismatch
        else do
          let rest ← colon rest
          let (draft, rest) ← field.read depth draft rest
          namedFields fields depth fuel false draft rest
      | none => do
        let rest ← colon rest
        let rest ← Skip.value rest
        namedFields fields depth fuel false draft rest

/-- Read fields by position; those at the end may be left out. -/
def orderedFields (depth : Nat) : List (Field σ) → (first : Bool) → σ → Bytes →
    Except Fault (Reading σ)
  | [], _, draft, input =>
    match skipBlanks input with
    | [] => .error .eof
    | b :: rest => if b = 93 then .ok (draft, rest) else .error .malformed
  | field :: fields, first, draft, input => do
    match ← next 93 first input with
    | .ended rest => .ok (draft, rest)
    | .more rest =>
      let (draft, rest) ← field.read depth draft rest
      orderedFields depth fields false draft rest

/-- A record: `finish` fills in what was not given, or fails where it must be. -/
def record (fields : List (Field σ)) (start : σ) (finish : σ → Option α) : Decoder α :=
  fun depth input =>
    let done (reading : Except Fault (Reading σ)) : Except Fault (Reading α) := do
      let (draft, rest) ← reading
      match finish draft with
      | some a => .ok (a, rest)
      | none => .error .mismatch
    match skipBlanks input with
    | [] => .error .eof
    | b :: rest =>
      if b = 123 then
        match depth with
        | 0 => .error .malformed
        | depth + 1 => done (namedFields fields depth (rest.length + 1) true start rest)
      else if b = 91 then
        match depth with
        | 0 => .error .malformed
        | depth + 1 => done (orderedFields depth fields true start rest)
      else .error (mismatchAt (b :: rest))

end TunnelSoak.Json
