/-! Cumulative allocation: every byte handed out is counted once, growth of a block
counts as the bytes it gains, and nothing is ever counted back. The count is kept in a
word of 64 bits. -/
namespace TunnelSoak.Allocation

/-- Sizes of the blocks in order of creation, none for a released one, and the
bytes counted so far. -/
structure Ledger where
  blocks : List (Option Nat) := []
  total : Nat := 0
  deriving DecidableEq, Repr

inductive Call where
  | allocate (size : Nat)
  | allocateZeroed (size : Nat)
  | resize (block size : Nat)
  | release (block : Nat)
  deriving DecidableEq, Repr

namespace Ledger

def sizeOf? (l : Ledger) (block : Nat) : Option Nat := (l.blocks[block]?).join

/-- The count after these bytes more; past the end of its word it starts again. -/
def counted (l : Ledger) (bytes : Nat) : Nat := (l.total + bytes) % Nat.pow 2 64

def create (l : Ledger) (size : Nat) : Ledger :=
  ⟨l.blocks ++ [some size], l.counted size⟩

/-- Calls on a block that is not live do nothing. -/
def apply (l : Ledger) : Call → Ledger
  | .allocate size => l.create size
  | .allocateZeroed size => l.create size
  | .resize block size =>
    match l.sizeOf? block with
    | some old =>
      ⟨l.blocks.set block (some size), if old < size then l.counted (size - old) else l.total⟩
    | none => l
  | .release block =>
    match l.sizeOf? block with
    | some _ => { l with blocks := l.blocks.set block none }
    | none => l

def live (l : Ledger) : Nat := l.blocks.foldl (fun bytes size => bytes + size.getD 0) 0

end Ledger

end TunnelSoak.Allocation
