/-! Blanks, comments and the ends of lines. -/
namespace TunnelSoak.Toml

abbrev Chars := List Char

abbrev Reading (α : Type) := α × Chars

def isBlank (c : Char) : Bool := c == ' ' || c == '\t'

def skipBlanks (input : Chars) : Chars := input.dropWhile isBlank

/-- Tabs and everything that is not a control character. -/
def isPrintable (c : Char) : Bool := c == '\t' || decide (0x20 ≤ c.toNat ∧ c.toNat ≠ 0x7f)

def skipComment : Chars → Chars
  | '#' :: rest => rest.dropWhile isPrintable
  | input => input

/-- The next line, unless more than a comment is left of this one. -/
def nextLine? (input : Chars) : Option Chars :=
  match skipComment (skipBlanks input) with
  | [] => some []
  | '\n' :: rest => some rest
  | '\r' :: '\n' :: rest => some rest
  | _ => none

/-- Skip blanks, comments and line ends, starting inside a comment or outside. -/
def skipLines : (inComment : Bool) → Chars → Option Chars
  | _, [] => some []
  | _, '\n' :: rest => skipLines false rest
  | _, '\r' :: '\n' :: rest => skipLines false rest
  | true, c :: rest => if isPrintable c then skipLines true rest else none
  | false, c :: rest =>
    if isBlank c then skipLines false rest
    else if c = '#' then skipLines true rest
    else some (c :: rest)

end TunnelSoak.Toml
