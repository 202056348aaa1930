import TunnelSoak.Json.Quoted

/-! Texts from bytes that need not be UTF-8. A byte that begins no character gives a
replacement character, and so does a character that breaks off, as far as it goes. -/
namespace TunnelSoak.Utf8

structure Range where
  low : UInt8 := 0x80
  high : UInt8 := 0xBF
  beyond_ascii : 0x80 ≤ low := by decide

def Range.Has (range : Range) (b : UInt8) : Prop := range.low ≤ b ∧ b ≤ range.high

instance (range : Range) (b : UInt8) : Decidable (range.Has b) :=
  inferInstanceAs (Decidable (_ ∧ _))

/-- A character of which bytes are still to come: the next one and those after it. -/
structure Partial where
  /-- What the bytes so far amount to. -/
  point : Nat
  next : Range
  later : List Range

/-- What the bytes before have left to be written, and the character that they have begun. -/
abbrev Fed := List Char × Option Partial

def replacement : Char := '\uFFFD'

def proceed (point : Nat) : (due : List Range) → Fed
  | [] => ([Char.ofNat point], none)
  | next :: later => ([], some ⟨point, next, later⟩)

def start (b : UInt8) : Fed :=
  if b < 0x80 then proceed b.toNat []
  else if 0xC2 ≤ b ∧ b ≤ 0xDF then proceed (b.toNat % 32) [{}]
  else if b = 0xE0 then proceed 0 [{ low := 0xA0 }, {}]
  else if b = 0xED then proceed 13 [{ high := 0x9F }, {}]
  else if 0xE1 ≤ b ∧ b ≤ 0xEF then proceed (b.toNat % 16) [{}, {}]
  else if b = 0xF0 then proceed 0 [{ low := 0x90 }, {}, {}]
  else if b = 0xF4 then proceed 4 [{ high := 0x8F }, {}, {}]
  else if 0xF1 ≤ b ∧ b ≤ 0xF3 then proceed (b.toNat % 8) [{}, {}, {}]
  else ([replacement], none)

def feed : Option Partial → UInt8 → Fed
  | none, b => start b
  | some c, b =>
    if c.next.Has b then proceed (c.point * 64 + b.toNat % 64) c.later
    else (replacement :: (start b).1, (start b).2)

def charsFrom : Option Partial → Json.Bytes → List Char
  | none, [] => []
  | some _, [] => [replacement]
  | state, b :: rest => (feed state b).1 ++ charsFrom (feed state b).2 rest

def lossy (bytes : Json.Bytes) : String := String.ofList (charsFrom none bytes)

end TunnelSoak.Utf8
