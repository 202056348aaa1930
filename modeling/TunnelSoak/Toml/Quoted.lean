import TunnelSoak.Toml.Layout

/-! Quoted text: on one line or several, with escapes or literally. -/
namespace TunnelSoak.Toml.Quoted

def hexValue? (c : Char) : Option Nat :=
  if '0' ≤ c ∧ c ≤ '9' then some (c.toNat - '0'.toNat)
  else if 'a' ≤ c ∧ c ≤ 'f' then some (c.toNat - 'a'.toNat + 10)
  else if 'A' ≤ c ∧ c ≤ 'F' then some (c.toNat - 'A'.toNat + 10)
  else none

def codePoint? (digits : Chars) : Option Char := do
  let n ← digits.foldlM (fun n c => (hexValue? c).map fun d => n * 16 + d) 0
  if n.isValidChar then some (Char.ofNat n) else none

def letterEscape? (c : Char) : Option Char :=
  if c = 'b' then some '\x08'
  else if c = 't' then some '\t'
  else if c = 'n' then some '\n'
  else if c = 'f' then some '\x0c'
  else if c = 'r' then some '\r'
  else if c = '"' ∨ c = '\\' then some c
  else none

def escape? : Chars → Option (Reading Char)
  | 'u' :: a :: b :: c :: d :: rest => (codePoint? [a, b, c, d]).map fun x => (x, rest)
  | 'U' :: a :: b :: c :: d :: e :: f :: g :: h :: rest =>
    (codePoint? [a, b, c, d, e, f, g, h]).map fun x => (x, rest)
  | c :: rest => (letterEscape? c).map fun x => (x, rest)
  | [] => none

theorem length_of_escape? {input rest : Chars} {c : Char} (h : escape? input = some (c, rest)) :
    rest.length < input.length := by
  unfold escape? at h
  split at h
  · obtain ⟨_, _, h⟩ := Option.map_eq_some_iff.mp h
    cases h
    simp only [List.length_cons]
    omega
  · obtain ⟨_, _, h⟩ := Option.map_eq_some_iff.mp h
    cases h
    simp only [List.length_cons]
    omega
  · obtain ⟨_, _, h⟩ := Option.map_eq_some_iff.mp h
    cases h
    simp
  · cases h

def consTo (c : Char) (reading : Option (Reading Chars)) : Option (Reading Chars) :=
  reading.map fun (text, rest) => (c :: text, rest)

def lineBody (quote : Char) (escapes : Bool) (input : Chars) : Option (Reading Chars) :=
  match input with
  | [] => none
  | c :: rest =>
    if c = quote then some ([], rest)
    else if escapes ∧ c = '\\' then
      match h : escape? rest with
      | some (x, after) =>
        have := length_of_escape? h
        consTo x (lineBody quote escapes after)
      | none => none
    else if isPrintable c then consTo c (lineBody quote escapes rest)
    else none
termination_by input.length

/-- After a backslash: a line end, maybe behind blanks, with all space after it. -/
def continuation? (input : Chars) : Option Chars :=
  let isSpace (c : Char) : Bool := isBlank c || c == '\n'
  let rec skip : Chars → Chars
    | '\r' :: '\n' :: rest => skip rest
    | c :: rest => if isSpace c then skip rest else c :: rest
    | [] => []
  match skipBlanks input with
  | '\n' :: rest => some (skip rest)
  | '\r' :: '\n' :: rest => some (skip rest)
  | _ => none

/-- Text up to three quotes, of which up to two more may stand before them. Line
ends are read as line feeds. -/
def linesBody (quote : Char) (escapes : Bool) : (fuel : Nat) → Chars → Option (Reading Chars)
  | 0, _ => none
  | _ + 1, [] => none
  | fuel + 1, c :: rest =>
    let more := linesBody quote escapes fuel
    if c = quote then
      let quotes := ((c :: rest).takeWhile (· = quote)).length
      if quotes < 3 then consTo c (more rest)
      else
        let inner := min quotes 5 - 3
        some (List.replicate inner quote, (c :: rest).drop (inner + 3))
    else if escapes ∧ c = '\\' then
      match continuation? rest with
      | some rest => more rest
      | none => (escape? rest).bind fun (x, rest) => consTo x (more rest)
    else if c = '\n' then consTo '\n' (more rest)
    else if c = '\r' then
      match rest with
      | '\n' :: rest => consTo '\n' (more rest)
      | _ => none
    else if isPrintable c then consTo c (more rest)
    else none

def dropFirstLineEnd : Chars → Chars
  | '\n' :: rest => rest
  | '\r' :: '\n' :: rest => rest
  | input => input

def asText (reading : Option (Reading Chars)) : Option (Reading String) :=
  reading.map fun (text, rest) => (String.ofList text, rest)

def line? : Chars → Option (Reading String)
  | '"' :: rest => asText (lineBody '"' true rest)
  | '\'' :: rest => asText (lineBody '\'' false rest)
  | _ => none

def read? : Chars → Option (Reading String)
  | '"' :: '"' :: '"' :: rest =>
    asText (linesBody '"' true (rest.length + 1) (dropFirstLineEnd rest))
  | '\'' :: '\'' :: '\'' :: rest =>
    asText (linesBody '\'' false (rest.length + 1) (dropFirstLineEnd rest))
  | input => line? input

end TunnelSoak.Toml.Quoted
