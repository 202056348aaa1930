import TunnelSoak.Allocation
import Mathlib.Algebra.Ring.Nat

/-! Where the bytes are that have been handed out: in live blocks, released with a block, or
given up when a block was made smaller. As long as the count fits its word it is the sum of the
three, whatever is called in whatever order, so it never falls, and no moment of a run had more
bytes live than are counted at its end. -/
namespace TunnelSoak.Allocation.Ledger

def handedOut (l : Ledger) : Call → Nat
  | .allocate size => size
  | .allocateZeroed size => size
  | .resize block size => ((l.sizeOf? block).map fun old => size - old).getD 0
  | .release _ => 0

def released (l : Ledger) : Call → Nat
  | .release block => (l.sizeOf? block).getD 0
  | _ => 0

def givenUp (l : Ledger) : Call → Nat
  | .resize block size => (l.sizeOf? block).getD 0 - size
  | _ => 0

def run (l : Ledger) (calls : List Call) : Ledger := calls.foldl apply l

/-- The sum over a run of what each call moves. -/
def along (bytes : Ledger → Call → Nat) : Ledger → List Call → Nat
  | _, [] => 0
  | l, call :: calls => bytes l call + along bytes (l.apply call) calls

theorem along_append (bytes : Ledger → Call → Nat) (l : Ledger) (calls more : List Call) :
    along bytes l (calls ++ more) = along bytes l calls + along bytes (l.run calls) more := by
  induction calls generalizing l with
  | nil => exact (Nat.zero_add _).symm
  | cons call calls ih =>
    rw [List.cons_append, along, along, ih, Nat.add_assoc]
    rfl

section live
variable {l : Ledger} {block size old : Nat}

def sizes (l : Ledger) : List Nat := l.blocks.map (·.getD 0)

theorem live_eq_sum (l : Ledger) : l.live = l.sizes.sum := by
  rw [live, sizes, List.sum_eq_foldl, List.foldl_map]

theorem sum_set {sizes : List Nat} {i before : Nat} (found : sizes[i]? = some before)
    (after : Nat) : (sizes.set i after).sum + before = sizes.sum + after := by
  induction sizes generalizing i with
  | nil => cases found
  | cons first sizes ih =>
    cases i with
    | zero =>
      cases found
      simp only [List.set_cons_zero, List.sum_cons]
      omega
    | succ i =>
      have rest := ih found
      simp only [List.set_cons_succ, List.sum_cons]
      omega

theorem live_create (l : Ledger) (size : Nat) : (l.create size).live = l.live + size := by
  simp [live_eq_sum, sizes, create]

theorem live_set (found : l.sizeOf? block = some old) (state : Option Nat) (total : Nat) :
    (Ledger.mk (l.blocks.set block state) total).live + old = l.live + state.getD 0 := by
  obtain ⟨stored, given, rfl⟩ : ∃ stored, l.blocks[block]? = some stored ∧ stored = some old := by
    simpa [sizeOf?, Option.join_eq_some_iff] using found
  rw [live_eq_sum, live_eq_sum, sizes, List.map_set]
  refine sum_set ?_ _
  rw [List.getElem?_map, given]
  rfl

end live

section step
variable (l : Ledger) (call : Call)

theorem live_apply : (l.apply call).live + (l.released call + l.givenUp call) =
    l.live + l.handedOut call := by
  cases call with
  | allocate size => exact live_create l size
  | allocateZeroed size => exact live_create l size
  | resize block size =>
    cases found : l.sizeOf? block with
    | none => simp [apply, released, givenUp, handedOut, found]
    | some old =>
      have exchanged := live_set found (some size)
        (if old < size then l.counted (size - old) else l.total)
      simp only [apply, released, givenUp, handedOut, found, Option.getD_some, Option.map_some] at *
      omega
  | release block =>
    cases found : l.sizeOf? block with
    | none => simp [apply, released, givenUp, handedOut, found]
    | some old =>
      have exchanged := live_set found none l.total
      simp only [apply, released, givenUp, handedOut, found, Option.getD_some, Option.getD_none]
        at *
      omega

theorem total_apply (word : l.total < Nat.pow 2 64) :
    (l.apply call).total = (l.total + l.handedOut call) % Nat.pow 2 64 := by
  have same : l.total = (l.total + 0) % Nat.pow 2 64 := (Nat.mod_eq_of_lt word).symm
  cases call with
  | allocate size => rfl
  | allocateZeroed size => rfl
  | resize block size =>
    cases found : l.sizeOf? block with
    | none => simpa [apply, handedOut, found] using same
    | some old =>
      simp only [apply, handedOut, found, Option.map_some, Option.getD_some]
      split
      · rfl
      · rw [Nat.sub_eq_zero_of_le (Nat.not_lt.mp ‹_›)]
        exact same
  | release block =>
    cases found : l.sizeOf? block with
    | none => simpa [apply, handedOut, found] using same
    | some old => simpa [apply, handedOut, found] using same

end step

section run
variable (l : Ledger) (calls : List Call)

theorem live_run : (l.run calls).live + (along released l calls + along givenUp l calls) =
    l.live + along handedOut l calls := by
  induction calls generalizing l with
  | nil => rfl
  | cons call calls ih =>
    have step := live_apply l call
    have rest := ih (l.apply call)
    change ((l.apply call).run calls).live + _ = _
    simp only [along]
    omega

theorem total_run (word : l.total < Nat.pow 2 64) :
    (l.run calls).total = (l.total + along handedOut l calls) % Nat.pow 2 64 := by
  induction calls generalizing l with
  | nil => exact (Nat.mod_eq_of_lt word).symm
  | cons call calls ih =>
    have step := total_apply l call word
    have inside : (l.apply call).total < Nat.pow 2 64 :=
      step.symm ▸ Nat.mod_lt _ (Nat.pow_pos (by decide))
    change ((l.apply call).run calls).total = _
    rw [ih _ inside, step, Nat.mod_add_mod, Nat.add_assoc, along]

end run

def opening (start : Nat) : Ledger := { total := start }

/-- As long as the count fits its word, it has grown by the bytes that are live, released and
given up; it never falls, and is at least what was live at any earlier moment. -/
theorem handed_out_is_accounted (start : Nat) (calls : List Call)
    (fits : start + along handedOut (opening start) calls < Nat.pow 2 64) :
    ((opening start).run calls).total = start + (((opening start).run calls).live +
        along released (opening start) calls + along givenUp (opening start) calls) ∧
      ∀ earlier, earlier <+: calls →
        ((opening start).run earlier).total ≤ ((opening start).run calls).total ∧
          start + ((opening start).run earlier).live ≤ ((opening start).run calls).total := by
  have nothing : (opening start).live = 0 := rfl
  have counted (made : List Call) (made_fits : start + along handedOut (opening start) made <
      Nat.pow 2 64) : ((opening start).run made).total =
        start + along handedOut (opening start) made :=
    (total_run (opening start) made (Nat.lt_of_le_of_lt (Nat.le_add_right _ _) made_fits)).trans
      (Nat.mod_eq_of_lt made_fits)
  have balance := live_run (opening start) calls
  refine ⟨by rw [counted calls fits]; omega, ?_⟩
  rintro earlier ⟨later, rfl⟩
  have sum := along_append handedOut (opening start) earlier later
  have balance' := live_run (opening start) earlier
  rw [counted _ fits, counted earlier (by omega)]
  omega

/-- A block that is grown, shrunk and released beside one that stays, up to the last byte that
the word can count. -/
def brimming : List Call :=
  [.allocate 4096, .resize 0 8192, .resize 0 100, .allocateZeroed 16, .release 0]

theorem brimming_calls_are_accounted :
    let before := opening (Nat.pow 2 64 - 8209)
    ((before.run brimming).total = Nat.pow 2 64 - 1 ∧ (before.run brimming).live = 16 ∧
        along released before brimming = 100 ∧ along givenUp before brimming = 8092) ∧
      Nat.pow 2 64 - 8209 + (before.run (brimming.take 2)).live ≤ Nat.pow 2 64 - 1 := by
  obtain ⟨accounted, kept⟩ :=
    handed_out_is_accounted (Nat.pow 2 64 - 8209) brimming (by decide +kernel)
  have most := (kept (brimming.take 2) (List.take_prefix 2 brimming)).2
  have counted : ((opening (Nat.pow 2 64 - 8209)).run brimming).total = Nat.pow 2 64 - 1 :=
    accounted.trans (by decide +kernel)
  exact ⟨⟨counted, by decide +kernel⟩, counted ▸ most⟩

end TunnelSoak.Allocation.Ledger
