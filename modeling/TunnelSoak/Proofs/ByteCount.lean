import TunnelSoak.ByteCount
import TunnelSoak.Proofs.Binary64
import Mathlib.Algebra.Order.Ring.Unbundled.Rat
import Mathlib.Algebra.Order.Field.Basic
import Mathlib.Tactic.Linarith
import Mathlib.Tactic.FieldSimp
import Mathlib.Tactic.Qify

/-! What a shown byte count tells of the count. Read back as a number of bytes it is off by at
most half a tenth of its unit, and by the bits that binary64 drops; a greater count never reads
as less, although the unit changes with the digits. The unit is chosen before the tenths are
rounded, so that just below the next unit 1024.0 of a unit are shown. -/
namespace TunnelSoak.ByteCount

section significant
variable {n m : Nat}

theorem significant_zero : significant 0 = 0 := by decide +kernel

theorem significant_eq (word : n < 2 ^ 64) :
    significant n = roundHalfEven n (2 ^ (n.log2 - 52)) * 2 ^ (n.log2 - 52) := by
  rcases Nat.eq_zero_or_pos n with rfl | positive
  · exact significant_zero
  · obtain ⟨x, given, -⟩ := Binary64.exists_ofNat? (i := 0) positive (Nat.le_of_lt word)
      (by decide)
    rw [significant, given]
    exact congrArg Int.toNat (Binary64.truncate_of_ofNat? positive.ne' given)

theorem significant_near (word : n < 2 ^ 64) :
    significant n ≤ n + (if n < 2 ^ 53 then 0 else 1024) ∧
      n ≤ significant n + (if n < 2 ^ 53 then 0 else 1024) := by
  have near := roundHalfEven_near n (Nat.pow_pos (n := n.log2 - 52) (show 0 < 2 by decide))
  rw [← significant_eq word] at near
  have positive : n ≠ 0 → 2 ^ n.log2 ≤ n := Nat.log2_self_le
  split
  · have narrow : n.log2 - 52 = 0 := by
      by_contra wide
      have least : 2 ^ 53 ≤ 2 ^ n.log2 := Nat.pow_le_pow_right (by decide) (by omega)
      have := positive (by rintro rfl; exact wide rfl)
      omega
    rw [narrow] at near
    omega
  · have bit : 2 ^ (n.log2 - 52) ≤ 2 ^ 11 := by
      refine Nat.pow_le_pow_right (by decide) ?_
      have := (Nat.log2_lt (by omega)).mpr word
      omega
    omega

theorem two_pow_split (L : Nat) (e : Nat) (wide : L - 52 ≤ e) :
    2 ^ e = 2 ^ (e - (L - 52)) * 2 ^ (L - 52) := by
  rw [← pow_add, Nat.sub_add_cancel wide]

theorem le_significant (word : n < 2 ^ 64) (some_n : n ≠ 0) : 2 ^ n.log2 ≤ significant n := by
  rw [significant_eq word, two_pow_split n.log2 n.log2 (Nat.sub_le _ _)]
  refine Nat.mul_le_mul_right _ (le_roundHalfEven (Nat.pow_pos (by decide)) ?_)
  rw [← two_pow_split n.log2 n.log2 (Nat.sub_le _ _)]
  exact Nat.log2_self_le some_n

theorem significant_le (word : n < 2 ^ 64) : significant n ≤ 2 ^ (n.log2 + 1) := by
  have split := two_pow_split n.log2 (n.log2 + 1) (by omega)
  rw [significant_eq word, split]
  refine Nat.mul_le_mul_right _ (roundHalfEven_le (Nat.pow_pos (by decide)) ?_)
  rw [← split]
  exact Nat.le_of_lt Nat.lt_log2_self

theorem significant_mono (le : n ≤ m) (word : m < 2 ^ 64) : significant n ≤ significant m := by
  have word' : n < 2 ^ 64 := Nat.lt_of_le_of_lt le word
  rcases Nat.eq_zero_or_pos n with rfl | positive
  · rw [significant_zero]
    exact Nat.zero_le _
  have some_m : m ≠ 0 := (Nat.lt_of_lt_of_le positive le).ne'
  have length : n.log2 ≤ m.log2 := by
    refine (Nat.le_log2 some_m).mpr (Nat.le_trans (Nat.log2_self_le positive.ne') le)
  rcases Nat.eq_or_lt_of_le length with same | shorter
  · rw [significant_eq word', significant_eq word, same]
    exact Nat.mul_le_mul_right _ (roundHalfEven_mono (Nat.pow_pos (by decide)) le)
  · calc significant n
        ≤ 2 ^ (n.log2 + 1) := significant_le word'
      _ ≤ 2 ^ m.log2 := Nat.pow_le_pow_right (by decide) shorter
      _ ≤ significant m := le_significant word some_m

end significant

theorem unitIndex_spec (limit : Nat) {bytes : Nat} (least : 1024 ≤ bytes) :
    1024 ^ (unitIndex limit bytes + 1) ≤ bytes ∧
      (unitIndex limit bytes < limit → bytes < 1024 ^ (unitIndex limit bytes + 2)) := by
  induction limit generalizing bytes with
  | zero => exact ⟨by simpa [unitIndex] using least, nofun⟩
  | succ limit ih =>
    unfold unitIndex
    split
    · exact ⟨by simpa using least, fun _ => ‹_›⟩
    · have next : 1024 ≤ bytes / 1024 := (Nat.le_div_iff_mul_le (by decide)).mpr (by omega)
      obtain ⟨reached, above⟩ := ih next
      refine ⟨?_, fun below => ?_⟩
      · rw [pow_succ]
        exact (Nat.le_div_iff_mul_le (by decide)).mp reached
      · rw [pow_succ]
        exact (Nat.div_lt_iff_lt_mul (by decide)).mp (above (by omega))

def letters : List Char := ['K', 'M', 'G', 'T', 'P', 'E']

def spelled (tenths : Nat) (letter : Char) : String :=
  toString (tenths / 10) ++ "." ++ toString (tenths % 10) ++ String.singleton letter

def unitOf (n : Nat) : Nat := unitIndex (units.length - 1) (significant n)

def shown (n : Nat) : Nat := tenths (significant n) (unitOf n)

section shown
variable {n m : Nat} (least : 1024 ≤ n) (word : n < 2 ^ 64)
include least word

theorem unitOf_spec : unitOf n < 6 ∧ 1024 ^ (unitOf n + 1) ≤ significant n ∧
    significant n < 1024 ^ (unitOf n + 2) := by
  have some_n : n ≠ 0 := by omega
  have short : n.log2 + 1 ≤ 64 := (Nat.log2_lt some_n).mpr word
  have reached : 1024 ≤ significant n := by
    have long : 10 ≤ n.log2 := (Nat.le_log2 some_n).mpr least
    calc 1024 ≤ 2 ^ n.log2 := Nat.pow_le_pow_right (n := 2) (by decide) long
      _ ≤ significant n := le_significant word some_n
  obtain ⟨fits, below⟩ := unitIndex_spec (units.length - 1) reached
  have inside : unitOf n < 6 := by
    by_contra above
    have : 1024 ^ 7 ≤ 2 ^ 64 :=
      calc 1024 ^ 7 ≤ 1024 ^ (unitOf n + 1) := Nat.pow_le_pow_right (by decide) (by omega)
        _ ≤ significant n := fits
        _ ≤ 2 ^ (n.log2 + 1) := significant_le word
        _ ≤ 2 ^ 64 := Nat.pow_le_pow_right (by decide) short
    exact absurd this (by decide)
  exact ⟨inside, fits, below inside⟩

theorem text_eq : ∃ letter, letters[unitOf n]? = some letter ∧
    text n = spelled (shown n) letter := by
  obtain ⟨inside, -⟩ := unitOf_spec least word
  have table : (letters ++ ['Z'])[unitOf n]? = letters[unitOf n]? :=
    List.getElem?_append_left inside
  obtain ⟨letter, nth⟩ : ∃ letter, letters[unitOf n]? = some letter :=
    ⟨_, List.getElem?_eq_getElem inside⟩
  refine ⟨letter, nth, ?_⟩
  rw [text, if_neg (Nat.not_lt.mpr least)]
  change _ ++ String.ofList ((letters ++ ['Z'])[unitOf n]?).toList = _
  rw [table, nth]
  rfl

theorem shown_bounds : 10 ≤ shown n ∧ shown n ≤ 10240 := by
  obtain ⟨-, fits, below⟩ := unitOf_spec least word
  have unit : 0 < 1024 ^ (unitOf n + 1) := Nat.pow_pos (by decide)
  have next : 1024 ^ (unitOf n + 2) = 1024 ^ (unitOf n + 1) * 1024 := pow_succ ..
  constructor
  · refine le_roundHalfEven unit ?_
    change 10 * 1024 ^ (unitOf n + 1) ≤ _
    omega
  · refine roundHalfEven_le unit ?_
    change _ ≤ 10240 * 1024 ^ (unitOf n + 1)
    omega

omit least word in
theorem shown_near : 2 * (shown n * 1024 ^ (unitOf n + 1)) ≤
      20 * significant n + 1024 ^ (unitOf n + 1) ∧
    20 * significant n ≤
      2 * (shown n * 1024 ^ (unitOf n + 1)) + 1024 ^ (unitOf n + 1) := by
  have near := roundHalfEven_near (significant n * 10)
    (Nat.pow_pos (n := unitOf n + 1) (show 0 < 1024 by decide))
  change 2 * (shown n * 1024 ^ (unitOf n + 1)) + _ ≤ 2 * _ + 1024 ^ (unitOf n + 1) ∧
    _ ≤ 2 * (shown n * 1024 ^ (unitOf n + 1)) + 1024 ^ (unitOf n + 1) at near
  omega

end shown

theorem scaled_mono {n m : Nat} (least : 1024 ≤ n) (le : n ≤ m) (word : m < 2 ^ 64) :
    shown n * 1024 ^ (unitOf n + 1) ≤ shown m * 1024 ^ (unitOf m + 1) := by
  have word' : n < 2 ^ 64 := Nat.lt_of_le_of_lt le word
  have least' : 1024 ≤ m := Nat.le_trans least le
  have value : significant n ≤ significant m := significant_mono le word
  obtain ⟨-, fits, -⟩ := unitOf_spec least word'
  obtain ⟨-, -, below⟩ := unitOf_spec least' word
  have units : unitOf n ≤ unitOf m := by
    have powers : 1024 ^ (unitOf n + 1) < 1024 ^ (unitOf m + 2) :=
      Nat.lt_of_le_of_lt (Nat.le_trans fits value) below
    have := (Nat.pow_lt_pow_iff_right (by decide)).mp powers
    omega
  rcases Nat.eq_or_lt_of_le units with same | smaller
  · rw [← same]
    refine Nat.mul_le_mul_right _ ?_
    rw [shown, shown, ← same]
    exact roundHalfEven_mono (Nat.pow_pos (by decide)) (Nat.mul_le_mul_right 10 value)
  · calc shown n * 1024 ^ (unitOf n + 1)
        ≤ 10240 * 1024 ^ (unitOf n + 1) := Nat.mul_le_mul_right _ (shown_bounds least word').2
      _ = 10 * 1024 ^ (unitOf n + 2) := by rw [pow_succ _ (unitOf n + 1)]; omega
      _ ≤ 10 * 1024 ^ (unitOf m + 1) :=
        Nat.mul_le_mul_left _ (Nat.pow_le_pow_right (by decide) (by omega))
      _ ≤ shown m * 1024 ^ (unitOf m + 1) := Nat.mul_le_mul_right _ (shown_bounds least' word).1

/-- The number of bytes that a text shows. -/
def quantity? (text : String) : Option ℚ :=
  let whole := Nat.ofDigitChars 10 (text.toList.takeWhile Char.isDigit) 0
  match text.toList.dropWhile Char.isDigit with
  | ['B'] => some whole
  | ['.', tenth, letter] =>
    (letters.idxOf? letter).map fun k =>
      (whole + (tenth.toNat - '0'.toNat : Nat) / 10) * 1024 ^ (k + 1)
  | _ => none

section quantity

theorem digits_of_toString (n : Nat) (stop : Char) (rest : List Char)
    (other : stop.isDigit = false) :
    ((toString n).toList ++ stop :: rest).takeWhile Char.isDigit = Nat.toDigits 10 n ∧
      ((toString n).toList ++ stop :: rest).dropWhile Char.isDigit = stop :: rest := by
  have each : ∀ c ∈ Nat.toDigits 10 n, c.isDigit = true := fun c mem =>
    Nat.isDigit_of_mem_toDigits (by decide) (by decide) mem
  rw [Nat.toString_eq_ofList_toDigits, String.toList_ofList, List.takeWhile_append_of_pos each,
    List.dropWhile_append_of_pos each]
  simp [other]

theorem quantity?_bytes (n : Nat) : quantity? (toString n ++ "B") = some (n : ℚ) := by
  have text : (toString n ++ "B").toList = (toString n).toList ++ 'B' :: [] := String.toList_append
  obtain ⟨digits, rest⟩ := digits_of_toString n 'B' [] rfl
  rw [quantity?, text, digits, rest, Nat.ofDigitChars_ten_toDigits]
  rfl

theorem quantity?_spelled {tenths k : Nat} {letter : Char} (nth : letters[k]? = some letter) :
    quantity? (spelled tenths letter) = some (tenths / 10 * 1024 ^ (k + 1) : ℚ) := by
  have digit : ∀ d < 10, (toString d).toList = [d.digitChar] ∧
      d.digitChar.toNat - '0'.toNat = d := by decide
  have index : ∀ k (inside : k < letters.length), letters.idxOf? letters[k] = some k := by decide
  obtain ⟨inside, rfl⟩ := List.getElem?_eq_some_iff.mp nth
  obtain ⟨last, value⟩ := digit (tenths % 10) (Nat.mod_lt _ (by decide))
  have text : (spelled tenths letters[k]).toList =
      (toString (tenths / 10)).toList ++ '.' :: [(tenths % 10).digitChar, letters[k]] := by
    rw [spelled, String.toList_append, String.toList_append, String.toList_append, last]
    simp
  obtain ⟨digits, rest⟩ :=
    digits_of_toString (tenths / 10) '.' [(tenths % 10).digitChar, letters[k]] rfl
  rw [quantity?, text, digits, rest, Nat.ofDigitChars_ten_toDigits]
  simp only [index k inside, Option.map_some, value]
  have parts : (tenths : ℚ) = 10 * (tenths / 10 : Nat) + (tenths % 10 : Nat) := by
    exact_mod_cast (Nat.div_add_mod tenths 10).symm
  rw [parts]
  congr 2
  field_simp

end quantity

/-- A count below 1024 is shown as it is; any other as tenths of a unit, which are off by at
most half a tenth, and by what binary64 drops. -/
inductive Faithful (n : Nat) : String → ℚ → Prop
  | bytes (few : n < 1024) : Faithful n (toString n ++ "B") n
  | scaled {tenths k : Nat} {letter : Char} (many : 1024 ≤ n) (nth : letters[k]? = some letter)
    (near : |(tenths / 10 * 1024 ^ (k + 1) : ℚ) - n| ≤
      1024 ^ (k + 1) / 20 + if n < 2 ^ 53 then 0 else 1024) :
    Faithful n (spelled tenths letter) (tenths / 10 * 1024 ^ (k + 1))

theorem near_of_shown {n : Nat} (word : n < 2 ^ 64) :
    |(shown n / 10 * 1024 ^ (unitOf n + 1) : ℚ) - n| ≤
      1024 ^ (unitOf n + 1) / 20 + if n < 2 ^ 53 then 0 else 1024 := by
  obtain ⟨high, low⟩ := shown_near (n := n)
  obtain ⟨high', low'⟩ := significant_near word
  have power : (1024 ^ (unitOf n + 1) : ℚ) = (1024 ^ (unitOf n + 1) : Nat) := by
    push_cast
    rfl
  have dropped : (if n < 2 ^ 53 then 0 else 1024 : ℚ) =
      (if n < 2 ^ 53 then 0 else 1024 : Nat) := by
    push_cast
    rfl
  rw [power, dropped, abs_le]
  generalize 1024 ^ (unitOf n + 1) = unit, (if n < 2 ^ 53 then 0 else 1024 : Nat) = slack at *
  qify at high low high' low'
  constructor <;> linarith

def quantity (n : Nat) : ℚ := if n < 1024 then n else shown n / 10 * 1024 ^ (unitOf n + 1)

theorem faithful_text {n : Nat} (word : n < 2 ^ 64) :
    Faithful n (text n) (quantity n) ∧ quantity? (text n) = some (quantity n) := by
  rcases Nat.lt_or_ge n 1024 with few | many
  · have bytes : text n = toString n ++ "B" := if_pos few
    rw [bytes, quantity, if_pos few]
    exact ⟨.bytes few, quantity?_bytes n⟩
  · obtain ⟨letter, nth, scaled⟩ := text_eq many word
    rw [scaled, quantity, if_neg (Nat.not_lt.mpr many)]
    exact ⟨.scaled many nth (near_of_shown word), quantity?_spelled nth⟩

theorem quantity_mono {n m : Nat} (le : n ≤ m) (word : m < 2 ^ 64) :
    quantity n ≤ quantity m := by
  have scaled {k : Nat} : (shown k / 10 * 1024 ^ (unitOf k + 1) : ℚ) =
      (shown k * 1024 ^ (unitOf k + 1) : Nat) / 10 := by
    push_cast
    ring
  unfold quantity
  split
  · split
    · exact_mod_cast le
    · -- the least unit is more than any count without one
      have reached := (shown_bounds (Nat.not_lt.mp ‹_›) word).1
      have unit : 1024 ^ 1 ≤ 1024 ^ (unitOf m + 1) := Nat.pow_le_pow_right (by decide) (by omega)
      have least : 10 * n ≤ shown m * 1024 ^ (unitOf m + 1) :=
        Nat.mul_le_mul reached (by omega)
      rw [scaled, le_div_iff₀ (by norm_num), mul_comm]
      exact_mod_cast least
  · rename_i many
    have above : ¬ m < 1024 := by omega
    rw [if_neg above, scaled, scaled]
    refine div_le_div_of_nonneg_right ?_ (by norm_num)
    exact_mod_cast scaled_mono (Nat.not_lt.mp many) le word

/-- Every count of 64 bits is shown faithfully, and no greater one as less. -/
theorem counts_are_shown_faithfully_in_order :
    (∀ n : UInt64, ∃ q, Faithful n.toNat (text n.toNat) q ∧ quantity? (text n.toNat) = some q) ∧
      ∀ n m : UInt64, n ≤ m → ∃ p q, quantity? (text n.toNat) = some p ∧
        quantity? (text m.toNat) = some q ∧ p ≤ q := by
  refine ⟨fun n => ⟨_, faithful_text n.toNat_lt⟩, fun n m le => ?_⟩
  exact ⟨_, _, (faithful_text n.toNat_lt).2, (faithful_text m.toNat_lt).2,
    quantity_mono (UInt64.le_iff_toNat_le.mp le) m.toNat_lt⟩

theorem seam_is_shown_in_order : (1048575 : UInt64) ≤ 1048576 ∧
    ∃ p q, quantity? "1024.0K" = some p ∧ quantity? "1.0M" = some q ∧ p ≤ q := by
  have least : (1048575 : UInt64) ≤ 1048576 := by decide
  have before : text (1048575 : UInt64).toNat = "1024.0K" := by decide +kernel
  have behind : text (1048576 : UInt64).toNat = "1.0M" := by decide +kernel
  have shown := counts_are_shown_faithfully_in_order.2 1048575 1048576 least
  rw [before, behind] at shown
  exact ⟨least, shown⟩

theorem shown_eq_iff {n : Nat} (least : 1024 ≤ n) (word : n < 2 ^ 64) : shown n = 10240 ↔
    20 * 1024 ^ (unitOf n + 2) ≤ 20 * significant n + 1024 ^ (unitOf n + 1) := by
  have unit : 0 < 1024 ^ (unitOf n + 1) := Nat.pow_pos (by decide)
  have next : 1024 ^ (unitOf n + 2) = 1024 ^ (unitOf n + 1) * 1024 := pow_succ ..
  have reaches : 10240 ≤ shown n ↔ 2 * (10240 * 1024 ^ (unitOf n + 1)) ≤
      2 * (significant n * 10) + 1024 ^ (unitOf n + 1) := le_roundHalfEven_iff unit rfl
  have most := (shown_bounds least word).2
  omega

/-- The number shown is one of its unit or more, and less than 1024 of it, but for the last
twentieth of a unit before the next one: there it is 1024.0 of the smaller unit. -/
theorem number_fits_unit_but_for_its_end (n : UInt64) (least : 1024 ≤ n.toNat) :
    ∃ k letter tenths, letters[k]? = some letter ∧ text n.toNat = spelled tenths letter ∧
      (1024 ^ (k + 1) ≤ significant n.toNat ∧ significant n.toNat < 1024 ^ (k + 2)) ∧
      (n.toNat < 2 ^ 53 → significant n.toNat = n.toNat) ∧
      10 ≤ tenths ∧ tenths ≤ 10240 ∧
      (tenths = 10240 ↔ 20 * 1024 ^ (k + 2) ≤ 20 * significant n.toNat + 1024 ^ (k + 1)) := by
  have word := n.toNat_lt
  obtain ⟨letter, nth, scaled⟩ := text_eq least word
  obtain ⟨low, high⟩ := shown_bounds least word
  refine ⟨unitOf n.toNat, letter, shown n.toNat, nth, scaled, (unitOf_spec least word).2, ?_, low,
    high, shown_eq_iff least word⟩
  intro exact
  have near := significant_near word
  rw [if_pos exact] at near
  omega

theorem kilobytes_end_at_1024 : text 1048524 = "1023.9K" ∧ text 1048525 = "1024.0K" ∧
    ∃ (k : Nat) (letter : Char) (tenths : Nat), letters[k]? = some letter ∧
      text 1048525 = spelled tenths letter ∧ 10 ≤ tenths ∧ tenths ≤ 10240 := by
  obtain ⟨k, letter, tenths, nth, scaled, -, -, least, most, -⟩ :=
    number_fits_unit_but_for_its_end 1048525 (by decide)
  exact ⟨by decide +kernel, by decide +kernel, k, letter, tenths, nth, scaled, least, most⟩

theorem largest_fitting_unit_is_missed : ¬ ∀ n : UInt64, 1024 ≤ n.toNat →
    ∀ whole rest, text n.toNat = toString whole ++ "." ++ rest → 1 ≤ whole ∧ whole < 1024 := by
  intro fits
  have missed := fits 1048575 (by decide) 1024 "0K" (by decide +kernel)
  exact absurd missed.2 (by decide)

end TunnelSoak.ByteCount
