import TunnelSoak.Json.Numeral
import TunnelSoak.Json.Writer
import TunnelSoak.Proofs.Json.Quoted

/-! Whole numbers of 64 bits come back as they were written. They are written without
leading zeros, so the digits make up the whole part of a numeral, and their value fits the
significand. What is read in any other way is a number of binary64. -/
namespace TunnelSoak.Json

/-- The whole numbers that stay exact. -/
def Number.IsWhole : Number → Prop
  | .int n => -(Nat.pow 2 63 : Int) ≤ n ∧ n < (Nat.pow 2 64 : Int)
  | .float _ => False

def Number.IsReadable : Number → Prop
  | .int n => -(Nat.pow 2 63 : Int) ≤ n ∧ n < (Nat.pow 2 64 : Int)
  | .float _ => True

namespace Numeral

/-- No numeral goes on here. -/
def endsAt : Bytes → Bool
  | [] => true
  | b :: _ => !(isDigit b || b == 46 || b == 101 || b == 69)

def stops : Bytes → Bool
  | [] => true
  | b :: _ => !isDigit b

theorem stops_of_endsAt {rest : Bytes} (ends : endsAt rest = true) : stops rest = true := by
  cases rest with
  | nil => rfl
  | cons b rest =>
    simp only [endsAt, Bool.not_eq_true', Bool.or_eq_false_iff] at ends
    simp only [stops, ends.1.1.1, Bool.not_false]

theorem digit_apart {b other : UInt8} (digit : isDigit b = true) (apart : isDigit other = false) :
    b ≠ other := by
  rintro rfl
  exact Bool.false_ne_true (apart.symm.trans digit)

/-- The digits of a whole part: at least one, and no zero before others. -/
structure IsWhole (text : Bytes) : Prop where
  each : ∀ b ∈ text, isDigit b = true
  some_digits : text ≠ []
  lead : text.head? = some 48 → text.length = 1

def values (text : Bytes) : List Nat := text.map fun b => b.toNat - 48

section whole
variable {text rest : Bytes}

theorem digits_append (each : ∀ b ∈ text, isDigit b = true) (stop : stops rest = true) :
    digits (text ++ rest) = (values text, rest) := by
  have none_left : rest.takeWhile isDigit = [] ∧ rest.dropWhile isDigit = rest := by
    cases rest with
    | nil => exact ⟨rfl, rfl⟩
    | cons b rest =>
      have other : isDigit b = false := Bool.not_eq_true' _ ▸ stop
      simp [other]
  unfold digits
  rw [List.takeWhile_append_of_pos each, List.dropWhile_append_of_pos each, none_left.1,
    none_left.2, List.append_nil, values]

theorem someDigits_append (each : ∀ b ∈ text, isDigit b = true) (some_digits : text ≠ [])
    (stop : stops rest = true) : someDigits (text ++ rest) = .ok (values text, rest) := by
  have found : values text ≠ [] := fun none => some_digits (List.map_eq_nil_iff.mp none)
  unfold someDigits
  rw [digits_append each stop]
  split
  · exact absurd (Prod.ext_iff.mp ‹_›).1 found
  · cases ‹(values text, rest) = _›
    rfl

theorem IsWhole.values_lead (whole : IsWhole text) :
    ¬ ((values text).head? = some 0 ∧ 1 < (values text).length) := by
  rintro ⟨head, more⟩
  rw [values, List.length_map] at more
  rw [values, List.head?_map, Option.map_eq_some_iff] at head
  obtain ⟨b, first, zero⟩ := head
  have digit := whole.each b (List.mem_of_head? first)
  simp only [isDigit, decide_eq_true_eq, UInt8.le_iff_toNat_le] at digit
  have value : b.toNat = 48 := Nat.le_antisymm (by omega) digit.1
  have same : b = 48 := UInt8.toNat_inj.mp value
  have single := whole.lead (same ▸ first)
  omega

theorem IsWhole.wholePart_append (whole : IsWhole text) (stop : stops rest = true) :
    wholePart (text ++ rest) = .ok (values text, rest) := by
  unfold wholePart
  rw [someDigits_append whole.each whole.some_digits stop]
  exact if_neg whole.values_lead

theorem IsWhole.read_append (whole : IsWhole text) (negative : Bool) (ends : endsAt rest = true) :
    read negative (text ++ rest) = .ok (⟨negative, values text, none, none⟩, rest) := by
  have fraction : fractionPart rest = .ok (none, rest) := by
    unfold fractionPart
    split
    · simp [endsAt] at ends
    · rfl
  have exponent : exponentPart rest = .ok (none, rest) := by
    unfold exponentPart
    split
    · rfl
    · rw [if_neg]
      rintro (rfl | rfl) <;> simp [endsAt] at ends
  simp only [read, whole.wholePart_append (stops_of_endsAt ends), fraction, exponent, ok_bind]

end whole

def written (n : Nat) : Bytes := (Nat.toDigits 10 n).map Char.toUInt8

theorem ascii_toString (n : Nat) : ascii (toString n) = written n := by
  rw [ascii, Nat.toString_eq_ofList_toDigits, String.toList_ofList]
  rfl

theorem digit_of_isDigit {c : Char} (digit : c.isDigit = true) :
    isDigit c.toUInt8 = true ∧ c.toUInt8.toNat - 48 = c.toNat - '0'.toNat := by
  obtain ⟨low, high⟩ := Char.isDigit_iff_toNat.mp digit
  have value : c.toUInt8.toNat = c.toNat := by
    rw [← Char.toUInt8_val, UInt32.toNat_toUInt8, Char.toNat_val]
    exact Nat.mod_eq_of_lt (Nat.lt_of_le_of_lt high (by decide))
  refine ⟨?_, congrArg (· - 48) value⟩
  simp only [isDigit, decide_eq_true_eq, UInt8.le_iff_toNat_le, value]
  exact ⟨low, high⟩

def digitsOf (n : Nat) : List Nat := (Nat.toDigits 10 n).map fun c => c.toNat - '0'.toNat

theorem digitsOf_eq (n : Nat) :
    digitsOf n = if n < 10 then [n] else digitsOf (n / 10) ++ [n % 10] := by
  have value : ∀ d < 10, d.digitChar.toNat - '0'.toNat = d := by decide
  unfold digitsOf
  rw [Nat.toDigits_eq_if (by decide)]
  by_cases small : n < 10
  · rw [if_pos small, if_pos small, List.map_singleton, value n small]
  · rw [if_neg small, if_neg small, List.map_append, List.map_singleton,
      value (n % 10) (Nat.mod_lt n (by decide))]

theorem head?_digitsOf {n : Nat} (positive : 0 < n) : (digitsOf n).head? ≠ some 0 := by
  induction n using Nat.strongRecOn with
  | ind n ih =>
    rw [digitsOf_eq]
    by_cases small : n < 10
    · rw [if_pos small]
      simpa using Nat.ne_of_gt positive
    · have rest := ih (n / 10) (Nat.div_lt_self positive (by decide)) (by omega)
      have some_digits : digitsOf (n / 10) ≠ [] := by simp [digitsOf, Nat.toDigits_ne_nil]
      obtain ⟨d, ds, eq⟩ := List.exists_cons_of_ne_nil some_digits
      rw [if_neg small, eq]
      rwa [eq] at rest

section written
variable (n : Nat)

theorem written_ne_nil : written n ≠ [] := by
  simp [written, Nat.toDigits_ne_nil]

theorem isDigit_of_mem_written : ∀ b ∈ written n, isDigit b = true := by
  intro b mem
  obtain ⟨c, hc, rfl⟩ := List.mem_map.mp mem
  exact (digit_of_isDigit (Nat.isDigit_of_mem_toDigits (by decide) (by decide) hc)).1

theorem values_written : values (written n) = digitsOf n := by
  rw [values, written, List.map_map]
  refine List.map_congr_left fun c hc => ?_
  exact (digit_of_isDigit (Nat.isDigit_of_mem_toDigits (by decide) (by decide) hc)).2

theorem ofDigits_digitsOf : ofDigits (digitsOf n) = n := by
  have same := Nat.ofDigitChars_ten_toDigits (n := n)
  rw [Nat.ofDigitChars_eq_foldl] at same
  rw [ofDigits, digitsOf, List.foldl_map]
  simpa only [Nat.mul_comm 10] using same

theorem isWhole_written : IsWhole (written n) where
  each := isDigit_of_mem_written n
  some_digits := written_ne_nil n
  lead := by
    intro head
    rcases Nat.eq_zero_or_pos n with rfl | positive
    · rfl
    · refine absurd ?_ (head?_digitsOf positive)
      rw [← values_written, values, List.head?_map, head]
      rfl

theorem read_written (negative : Bool) {rest : Bytes} (ends : endsAt rest = true) :
    read negative (written n ++ rest) = .ok (⟨negative, digitsOf n, none, none⟩, rest) := by
  rw [(isWhole_written n).read_append negative ends, values_written]

end written

theorem le_foldl (s : Nat) (ds : List Nat) : s ≤ ds.foldl (fun n d => n * 10 + d) s := by
  induction ds generalizing s with
  | nil => exact Nat.le_refl s
  | cons d ds ih => exact Nat.le_trans (by omega) (ih (s * 10 + d))

theorem absorb_eq {s : Nat} {ds : List Nat}
    (fits : ds.foldl (fun n d => n * 10 + d) s < Nat.pow 2 64) :
    absorb s ds = (ds.foldl (fun n d => n * 10 + d) s, []) := by
  induction ds generalizing s with
  | nil => rfl
  | cons d ds ih =>
    rw [absorb, if_pos (Nat.lt_of_le_of_lt (le_foldl _ ds) fits)]
    exact ih fits

theorem number?_of_fits {ds : List Nat} (fits : ofDigits ds < Nat.pow 2 64) (negative : Bool) :
    number? ⟨negative, ds, none, none⟩ = wholeNumber negative (ofDigits ds) := by
  have absorbed : absorb 0 ds = (ofDigits ds, []) := absorb_eq fits
  simp only [number?, absorbed, and_self, if_true]

end Numeral

theorem ascii_toString_int (n : Int) : ascii (toString n) =
    if n < 0 then 45 :: Numeral.written n.natAbs else Numeral.written n.natAbs := by
  cases n with
  | ofNat n =>
    exact (Numeral.ascii_toString n).trans (if_neg (Int.not_lt.mpr (Int.natCast_nonneg n))).symm
  | negSucc n =>
    rw [if_pos (Int.negSucc_lt_zero n)]
    change ascii ("-" ++ toString (n + 1)) = 45 :: Numeral.written (n + 1)
    rw [ascii, String.toList_append, List.map_append]
    exact congrArg (45 :: ·) (Numeral.ascii_toString (n + 1))

namespace Numeral

theorem wholeNumber_natAbs {n : Int} (whole : (Number.int n).IsWhole) :
    wholeNumber (decide (n < 0)) n.natAbs = some (.int n) := by
  obtain ⟨low, -⟩ := whole
  unfold wholeNumber
  by_cases negative : n < 0
  · have fits : 0 < n.natAbs ∧ n.natAbs ≤ Nat.pow 2 63 := by omega
    have same : -(n.natAbs : Int) = n := by omega
    simp only [negative, decide_true, if_true, fits, and_self, same]
  · have same : (n.natAbs : Int) = n := by omega
    simp only [negative, decide_false, Bool.false_eq_true, if_false, same]

end Numeral

theorem readNumber_written {n : Int} (whole : (Number.int n).IsWhole) {rest : Bytes}
    (ends : Numeral.endsAt rest = true) :
    readNumber (decide (n < 0)) (Numeral.written n.natAbs ++ rest) = .ok (.int n, rest) := by
  have fits : n.natAbs < Nat.pow 2 64 := by
    obtain ⟨low, high⟩ := whole
    have half : Nat.pow 2 63 < Nat.pow 2 64 := by decide
    omega
  have value := Numeral.ofDigits_digitsOf n.natAbs
  have number := (Numeral.number?_of_fits (value.symm ▸ fits) (decide (n < 0))).trans
    (value.symm ▸ Numeral.wholeNumber_natAbs whole)
  simp only [readNumber, Numeral.read_written _ _ ends, ok_bind, number]

section reading
open Numeral

theorem absorb_lt {s : Nat} (fits : s < Nat.pow 2 64) (ds : List Nat) :
    (absorb s ds).1 < Nat.pow 2 64 := by
  induction ds generalizing s with
  | nil => exact fits
  | cons d ds ih =>
    unfold absorb
    split
    · exact ih ‹_›
    · exact fits

theorem isReadable_of_wholeNumber {negative : Bool} {s : Nat} {n : Number}
    (fits : s < Nat.pow 2 64) (whole : wholeNumber negative s = some n) : n.IsReadable := by
  unfold wholeNumber at whole
  split at whole
  · split at whole
    · rename_i small
      cases whole
      have positive : 0 < Nat.pow 2 64 := by decide
      constructor <;> omega
    · obtain ⟨x, -, rfl⟩ := Option.map_eq_some_iff.mp whole
      trivial
  · cases whole
    constructor <;> omega

theorem isReadable_of_number? {numeral : Numeral} {n : Number} (value : numeral.number? = some n) :
    n.IsReadable := by
  unfold number? at value
  dsimp only at value
  split at value
  · exact isReadable_of_wholeNumber (absorb_lt (by decide) _) value
  · obtain ⟨x, -, scaled⟩ := Option.bind_eq_some_iff.mp value
    obtain ⟨y, -, rfl⟩ := Option.map_eq_some_iff.mp scaled
    trivial

theorem isReadable_of_readNumber {negative : Bool} {input rest : Bytes} {n : Number}
    (read : readNumber negative input = .ok (n, rest)) : n.IsReadable := by
  obtain ⟨⟨numeral, after⟩, -, value⟩ := bind_eq_ok.mp read
  dsimp only at value
  split at value
  · rename_i some_value
    cases value
    exact isReadable_of_number? some_value
  · cases value

end reading

end TunnelSoak.Json
