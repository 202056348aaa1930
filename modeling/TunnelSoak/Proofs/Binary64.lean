import TunnelSoak.Binary64
import Mathlib.Tactic.Ring

/-! How far rounding can move a number: not past a power of two. The exponent is chosen so
that the mantissa has its full width, unless the number is among the smallest; so what is at
least, or at most, a power of two stays so when it is rounded, and what is well below the
greatest number does not become infinite. A whole number keeps its 53 highest bits. -/
namespace TunnelSoak

section roundHalfEven
variable {num num' den k : Nat}

theorem le_roundHalfEven (positive : 0 < den) (least : k * den ≤ num) :
    k ≤ roundHalfEven num den := by
  have floor : k ≤ num / den := (Nat.le_div_iff_mul_le positive).mpr least
  unfold roundHalfEven
  dsimp only
  split
  · exact floor
  split <;> omega

theorem roundHalfEven_le (positive : 0 < den) (most : num ≤ k * den) :
    roundHalfEven num den ≤ k := by
  have floor : num / den ≤ k := Nat.div_le_of_le_mul (Nat.mul_comm k den ▸ most)
  have whole := Nat.div_add_mod num den
  rcases Nat.lt_or_eq_of_le floor with below | reached
  · unfold roundHalfEven
    dsimp only
    split
    · exact floor
    split <;> omega
  · -- nothing is left over at the bound itself
    have exact : num % den = 0 := by
      rw [reached, Nat.mul_comm] at whole
      omega
    unfold roundHalfEven
    dsimp only
    rw [exact, if_pos (by omega)]
    exact floor

theorem roundHalfEven_near (num : Nat) (positive : 0 < den) :
    2 * (roundHalfEven num den * den) + roundHalfEven num den % 2 ≤ 2 * num + den ∧
      2 * num + roundHalfEven num den % 2 ≤ 2 * (roundHalfEven num den * den) + den := by
  have whole := Nat.div_add_mod' num den
  have left : num % den < den := Nat.mod_lt num positive
  have next : (num / den + 1) * den = num / den * den + den := Nat.succ_mul _ _
  unfold roundHalfEven
  dsimp only
  split
  · omega
  split
  · rw [next]
    omega
  · rcases Nat.mod_two_eq_zero_or_one (num / den) with even | odd
    · rw [even, Nat.add_zero, even]
      omega
    · rw [odd, next]
      omega

theorem roundHalfEven_mono (positive : 0 < den) (le : num ≤ num') :
    roundHalfEven num den ≤ roundHalfEven num' den := by
  by_contra above
  -- were the order reversed, both would be the same half
  have apart := Nat.mul_le_mul_right den (Nat.not_le.mp above)
  have near := (roundHalfEven_near num positive).1
  have near' := (roundHalfEven_near num' positive).2
  rw [Nat.succ_mul] at apart
  obtain rfl : num = num' := by omega
  exact above (Nat.le_refl _)

theorem roundHalfEven_mul (positive : 0 < den) : roundHalfEven (k * den) den = k :=
  Nat.le_antisymm (roundHalfEven_le positive (Nat.le_refl _))
    (le_roundHalfEven positive (Nat.le_refl _))

theorem le_roundHalfEven_iff (positive : 0 < den) (even : k % 2 = 0) :
    k ≤ roundHalfEven num den ↔ 2 * (k * den) ≤ 2 * num + den := by
  have near := roundHalfEven_near num positive
  constructor
  · intro le
    have apart := Nat.mul_le_mul_right den le
    omega
  · intro least
    by_contra below
    rcases Nat.eq_or_lt_of_le (Nat.not_le.mp below) with next | further
    · have same : k * den = roundHalfEven num den * den + den := next ▸ Nat.succ_mul _ den
      omega
    · have apart := Nat.mul_le_mul_right den further
      rw [Nat.succ_mul, Nat.succ_mul] at apart
      omega

end roundHalfEven

namespace Binary64

/-- At least `2 ^ k`, as a fraction. -/
def Reaches (k : Nat) (fraction : Nat × Nat) : Prop := 2 ^ k * fraction.2 ≤ fraction.1

def Within (k : Nat) (fraction : Nat × Nat) : Prop := fraction.1 ≤ 2 ^ k * fraction.2

theorem inUnits_eq (num den : Nat) (e : Int) :
    inUnits num den e = (num * 2 ^ (-e).toNat, den * 2 ^ e.toNat) := rfl

theorem ratio_eq (x : Binary64) :
    x.ratio = (x.mantissa * 2 ^ x.exponent.toNat, 2 ^ (-x.exponent).toNat) := rfl

theorem shift_cases (e : Int) :
    (∃ j : Nat, e = j ∧ e.toNat = j ∧ (-e).toNat = 0) ∨
      ∃ j : Nat, e = -(j + 1 : Nat) ∧ e.toNat = 0 ∧ (-e).toNat = j + 1 := by
  rcases Int.lt_or_le e 0 with right | left
  · exact .inr ⟨(-e).toNat - 1, by omega, by omega, by omega⟩
  · exact .inl ⟨e.toNat, by omega, rfl, by omega⟩

section exponentOf
variable {num den k : Nat} {e : Int}

theorem Reaches.succ (reaches : Reaches (k + 1) (inUnits num den e)) :
    Reaches k (inUnits num den (e + 1)) := by
  unfold Reaches at *
  rw [inUnits_eq] at *
  dsimp only at *
  rcases shift_cases e with ⟨j, rfl, left, right⟩ | ⟨j, rfl, left, right⟩
  · have left' : ((j : Int) + 1).toNat = j + 1 := by omega
    have right' : (-((j : Int) + 1)).toNat = 0 := by omega
    rw [left, right] at reaches
    rw [left', right']
    calc 2 ^ k * (den * 2 ^ (j + 1))
        = 2 ^ (k + 1) * (den * 2 ^ j) := by ring
      _ ≤ num * 2 ^ 0 := reaches
  · have left' : (-(j + 1 : Nat) + 1 : Int).toNat = 0 := by omega
    have right' : (-(-(j + 1 : Nat) + 1 : Int)).toNat = j := by omega
    rw [left, right] at reaches
    rw [left', right']
    refine Nat.le_of_mul_le_mul_left ?_ (show 0 < 2 by decide)
    calc 2 * (2 ^ k * (den * 2 ^ 0))
        = 2 ^ (k + 1) * (den * 2 ^ 0) := by ring
      _ ≤ num * 2 ^ (j + 1) := reaches
      _ = 2 * (num * 2 ^ j) := by ring

/-- The lengths of the parts give the exponent up to one. -/
theorem reaches_guess (some_num : num ≠ 0) :
    Reaches 52 (inUnits num den ((num.log2 : Int) - den.log2 - mantissaBits)) := by
  have least : 2 ^ num.log2 ≤ num := Nat.log2_self_le some_num
  have most : den ≤ 2 ^ (den.log2 + 1) := Nat.le_of_lt Nat.lt_log2_self
  have bits : mantissaBits = 53 := rfl
  unfold Reaches
  rw [inUnits_eq]
  generalize guessed : (num.log2 : Int) - den.log2 - mantissaBits = e
  rcases shift_cases e with ⟨j, rfl, left, right⟩ | ⟨j, rfl, left, right⟩
  · have length : num.log2 = 52 + (den.log2 + 1) + j := by omega
    rw [left, right]
    calc 2 ^ 52 * (den * 2 ^ j)
        ≤ 2 ^ 52 * (2 ^ (den.log2 + 1) * 2 ^ j) := by gcongr
      _ = 2 ^ num.log2 := by rw [length]; ring
      _ ≤ num * 2 ^ 0 := by simpa using least
  · have length : num.log2 + (j + 1) = 52 + (den.log2 + 1) := by omega
    rw [left, right]
    calc 2 ^ 52 * (den * 2 ^ 0)
        ≤ 2 ^ 52 * 2 ^ (den.log2 + 1) := by simpa using most
      _ = 2 ^ num.log2 * 2 ^ (j + 1) := by rw [← pow_add, ← pow_add, length]
      _ ≤ num * 2 ^ (j + 1) := by gcongr

theorem reaches_exponentOf (some_num : num ≠ 0) (some_den : 0 < den)
    (above : minExponent < exponentOf num den) :
    Reaches 52 (inUnits num den (exponentOf num den)) := by
  have guessed : Reaches 52 (inUnits num den _) := reaches_guess some_num
  unfold exponentOf at above ⊢
  dsimp only at above ⊢
  split at above
  · rename_i narrow
    rw [if_pos narrow, max_eq_right (by omega)]
    exact guessed
  · rename_i wide
    rw [if_neg wide, max_eq_right (by omega)]
    refine Reaches.succ ?_
    have units : 0 < den * Nat.pow 2 ((num.log2 : Int) - den.log2 - mantissaBits).toNat :=
      Nat.mul_pos some_den (Nat.pow_pos (by decide))
    exact (Nat.le_div_iff_mul_le units).mp (Nat.not_lt.mp wide)

end exponentOf

section same
variable {f g : Nat × Nat} {k : Nat} (some_f : 0 < f.2) (same : f.1 * g.2 = g.1 * f.2)
include some_f same

theorem Reaches.congr (reaches : Reaches k f) : Reaches k g := by
  refine Nat.le_of_mul_le_mul_right ?_ some_f
  calc 2 ^ k * g.2 * f.2
      = 2 ^ k * f.2 * g.2 := Nat.mul_right_comm ..
    _ ≤ f.1 * g.2 := Nat.mul_le_mul_right _ reaches
    _ = g.1 * f.2 := same

theorem Within.congr (within : Within k f) : Within k g := by
  refine Nat.le_of_mul_le_mul_right ?_ some_f
  calc g.1 * f.2
      = f.1 * g.2 := same.symm
    _ ≤ 2 ^ k * f.2 * g.2 := Nat.mul_le_mul_right _ within
    _ = 2 ^ k * g.2 * f.2 := Nat.mul_right_comm ..

end same

section ofRatio
variable {num den k : Nat} {negative : Bool} {x : Binary64}

/-- The nearest number before its mantissa is carried over into the next exponent. -/
def nearest (negative : Bool) (num den : Nat) : Binary64 :=
  let e := exponentOf num den
  ⟨negative, roundHalfEven (inUnits num den e).1 (inUnits num den e).2, e⟩

theorem ratio_den_pos (x : Binary64) : 0 < x.ratio.2 := Nat.pow_pos (by decide)

theorem ratio_carry (negative : Bool) (m : Nat) (e : Int) :
    (mk negative (2 * m) e).ratio.1 * (mk negative m (e + 1)).ratio.2 =
      (mk negative m (e + 1)).ratio.1 * (mk negative (2 * m) e).ratio.2 := by
  rw [ratio_eq, ratio_eq]
  dsimp only
  rcases shift_cases e with ⟨j, rfl, left, right⟩ | ⟨j, rfl, left, right⟩
  · have left' : ((j : Int) + 1).toNat = j + 1 := by omega
    have right' : (-((j : Int) + 1)).toNat = 0 := by omega
    rw [left, right, left', right']
    ring
  · have left' : (-(j + 1 : Nat) + 1 : Int).toNat = 0 := by omega
    have right' : (-(-(j + 1 : Nat) + 1 : Int)).toNat = j := by omega
    rw [left, right, left', right']
    ring

theorem ofRatio_cases (some_num : num ≠ 0) (given : ofRatio negative num den = some x) :
    x = nearest negative num den ∨
      ∃ m e, nearest negative num den = ⟨negative, 2 * m, e⟩ ∧ x = ⟨negative, m, e + 1⟩ := by
  have twice : Nat.pow 2 mantissaBits = 2 * Nat.pow 2 (mantissaBits - 1) := by decide
  unfold ofRatio at given
  rw [if_neg some_num] at given
  dsimp only at given
  split at given
  · rename_i carry
    split at given
    · cases given
    · cases given
      exact .inr ⟨_, _, congrArg (mk negative · _) (carry.trans twice), rfl⟩
  · split at given
    · cases given
    · cases given
      exact .inl rfl

theorem ratio_of_ofRatio (some_num : num ≠ 0) (given : ofRatio negative num den = some x) :
    (nearest negative num den).ratio.1 * x.ratio.2 =
      x.ratio.1 * (nearest negative num den).ratio.2 := by
  rcases ofRatio_cases some_num given with rfl | ⟨m, e, before, rfl⟩
  · rfl
  · rw [before]
    exact ratio_carry negative m e

theorem reaches_of_left (some_num : num ≠ 0) (some_den : 0 < den) {j : Nat}
    (at_j : exponentOf num den = j) : 2 ^ 52 * (den * 2 ^ j) ≤ num := by
  have above : minExponent < exponentOf num den := by
    have bound : minExponent = -1074 := rfl
    omega
  have wide := reaches_exponentOf some_num some_den above
  rw [Reaches, inUnits_eq, at_j] at wide
  simpa using wide

theorem reaches_nearest (some_den : 0 < den) (some_num : num ≠ 0) (least : 2 ^ k * den ≤ num) :
    Reaches k (nearest negative num den).ratio := by
  rw [Reaches, ratio_eq, nearest, inUnits_eq]
  dsimp only
  rcases shift_cases (exponentOf num den) with ⟨j, at_j, left, right⟩ | ⟨j, -, left, right⟩
  · rw [left, right, pow_zero, Nat.mul_one, Nat.mul_one]
    have unit : 0 < den * 2 ^ j := Nat.mul_pos some_den (Nat.pow_pos (by decide))
    rcases Nat.le_total k j with low | high
    · -- a mantissa of full width is at least one
      have wide := reaches_of_left some_num some_den at_j
      have whole : 1 ≤ roundHalfEven num (den * 2 ^ j) := le_roundHalfEven unit (by omega)
      calc 2 ^ k ≤ 2 ^ j := Nat.pow_le_pow_right (by decide) low
        _ ≤ _ := Nat.le_mul_of_pos_left _ whole
    · obtain ⟨i, rfl⟩ := Nat.exists_eq_add_of_le' high
      rw [pow_add]
      refine Nat.mul_le_mul_right _ (le_roundHalfEven unit ?_)
      calc 2 ^ i * (den * 2 ^ j)
          = 2 ^ (i + j) * den := by ring
        _ ≤ num := least
  · rw [left, right, pow_zero, Nat.mul_one, Nat.mul_one, ← pow_add]
    refine le_roundHalfEven some_den ?_
    calc 2 ^ (k + (j + 1)) * den
        = 2 ^ k * den * 2 ^ (j + 1) := by ring
      _ ≤ num * 2 ^ (j + 1) := Nat.mul_le_mul_right _ least

theorem width_of_left (some_num : num ≠ 0) (some_den : 0 < den) {j : Nat}
    (at_j : exponentOf num den = j) (most : num ≤ 2 ^ k * den) : 52 + j ≤ k := by
  refine (Nat.pow_le_pow_iff_right (by decide : 1 < 2)).mp ?_
  refine Nat.le_of_mul_le_mul_right ?_ some_den
  calc 2 ^ (52 + j) * den
      = 2 ^ 52 * (den * 2 ^ j) := by ring
    _ ≤ num := reaches_of_left some_num some_den at_j
    _ ≤ 2 ^ k * den := most

theorem mantissa_le_of_left (some_den : 0 < den) {i j : Nat}
    (at_j : exponentOf num den = j) (most : num ≤ 2 ^ (i + j) * den) :
    (nearest negative num den).mantissa ≤ 2 ^ i := by
  have left : (j : Int).toNat = j := rfl
  have right : (-(j : Int)).toNat = 0 := by omega
  rw [nearest, inUnits_eq]
  dsimp only
  rw [at_j, left, right, pow_zero, Nat.mul_one]
  refine roundHalfEven_le (Nat.mul_pos some_den (Nat.pow_pos (by decide))) ?_
  calc num
      ≤ 2 ^ (i + j) * den := most
    _ = 2 ^ i * (den * 2 ^ j) := by ring

theorem nearest_within (some_den : 0 < den) (some_num : num ≠ 0) (most : num ≤ 2 ^ k * den) :
    Within k (nearest negative num den).ratio := by
  have exponent : (nearest negative num den).exponent = exponentOf num den := rfl
  rw [Within, ratio_eq, exponent]
  rcases shift_cases (exponentOf num den) with ⟨j, at_j, left, right⟩ | ⟨j, -, left, right⟩
  · have width := width_of_left some_num some_den at_j most
    obtain ⟨i, rfl⟩ := Nat.exists_eq_add_of_le' (show j ≤ k by omega)
    rw [left, right, pow_zero, Nat.mul_one, pow_add]
    exact Nat.mul_le_mul_right _ (mantissa_le_of_left some_den at_j most)
  · rw [left, right, pow_zero, Nat.mul_one, ← pow_add, nearest, inUnits_eq]
    dsimp only
    rw [left, right, pow_zero, Nat.mul_one]
    refine roundHalfEven_le some_den ?_
    calc num * 2 ^ (j + 1)
        ≤ 2 ^ k * den * 2 ^ (j + 1) := Nat.mul_le_mul_right _ most
      _ = 2 ^ (k + (j + 1)) * den := by ring

theorem exists_ofRatio (some_den : 0 < den) (some_num : num ≠ 0) (most : num ≤ 2 ^ k * den)
    (finite : k ≤ 1023) : ∃ x, ofRatio negative num den = some x := by
  have bound : maxExponent = 971 := rfl
  have narrow : exponentOf num den ≤ maxExponent ∧
      ((nearest negative num den).mantissa = 2 ^ 53 → exponentOf num den + 1 ≤ maxExponent) := by
    rcases shift_cases (exponentOf num den) with ⟨j, at_j, -, -⟩ | ⟨j, at_j, -, -⟩
    · have width := width_of_left some_num some_den at_j most
      refine ⟨by omega, fun carry => ?_⟩
      obtain ⟨i, rfl⟩ := Nat.exists_eq_add_of_le' (show j ≤ k by omega)
      have le : (nearest negative num den).mantissa ≤ 2 ^ i :=
        mantissa_le_of_left some_den at_j most
      rw [carry] at le
      have wide : 53 ≤ i := (Nat.pow_le_pow_iff_right (by decide : 1 < 2)).mp le
      omega
    · exact ⟨by omega, fun _ => by omega⟩
  unfold ofRatio
  rw [if_neg some_num]
  dsimp only
  split
  · rename_i carry
    rw [if_neg (Int.not_lt.mpr (narrow.2 carry))]
    exact ⟨_, rfl⟩
  · rw [if_neg (Int.not_lt.mpr narrow.1)]
    exact ⟨_, rfl⟩

theorem reaches_ofRatio (some_den : 0 < den) (reaches : Reaches k (num, den))
    (given : ofRatio negative num den = some x) : Reaches k x.ratio := by
  have some_num : num ≠ 0 := by
    have least : 2 ^ k * den ≤ num := reaches
    have power : 0 < 2 ^ k * den := Nat.mul_pos (Nat.pow_pos (by decide)) some_den
    omega
  exact (reaches_nearest some_den some_num reaches).congr (ratio_den_pos _)
    (ratio_of_ofRatio some_num given)

theorem within_ofRatio (some_den : 0 < den) (within : Within k (num, den)) (finite : k ≤ 1023) :
    ∃ x, ofRatio negative num den = some x ∧ Within k x.ratio := by
  rcases Nat.eq_zero_or_pos num with rfl | some_num
  · refine ⟨zero negative, rfl, ?_⟩
    rw [Within, ratio_eq, zero, Nat.zero_mul]
    exact Nat.zero_le _
  · obtain ⟨x, given⟩ : ∃ x, ofRatio negative num den = some x :=
      exists_ofRatio some_den some_num.ne' within finite
    exact ⟨x, given, (nearest_within some_den some_num.ne' within).congr (ratio_den_pos _)
      (ratio_of_ofRatio some_num.ne' given)⟩

theorem exists_ofNat? {n i j : Nat} (least : 2 ^ i ≤ n) (most : n ≤ 2 ^ j) (finite : j ≤ 1023) :
    ∃ x, ofNat? n = some x ∧ Reaches i x.ratio ∧ Within j x.ratio := by
  have above : Reaches i (n, 1) := by rwa [Reaches, Nat.mul_one]
  have below : Within j (n, 1) := by rwa [Within, Nat.mul_one]
  obtain ⟨x, given, within⟩ := within_ofRatio Nat.one_pos below finite
  exact ⟨x, given, reaches_ofRatio Nat.one_pos above given, within⟩

end ofRatio

section whole
variable {n : Nat} (some_n : n ≠ 0)
include some_n

theorem exponentOf_one : exponentOf n 1 = (n.log2 : Int) - 52 := by
  have unit : (1 : Nat).log2 = 0 := by decide
  have bits : mantissaBits = 53 := rfl
  have least : 2 ^ n.log2 ≤ n := Nat.log2_self_le some_n
  have reaches : Reaches 53 (inUnits n 1 ((n.log2 : Int) - (0 : Nat) - (53 : Nat))) := by
    rw [Reaches, inUnits_eq]
    rcases shift_cases ((n.log2 : Int) - (0 : Nat) - (53 : Nat)) with
      ⟨j, at_j, left, right⟩ | ⟨j, at_j, left, right⟩
    · rw [left, right, pow_zero, Nat.mul_one, Nat.one_mul]
      calc 2 ^ 53 * 2 ^ j
          = 2 ^ n.log2 := by rw [← pow_add, show n.log2 = 53 + j by omega]
        _ ≤ n := least
    · rw [left, right, pow_zero, Nat.mul_one, Nat.mul_one]
      calc 2 ^ 53
          = 2 ^ n.log2 * 2 ^ (j + 1) := by rw [← pow_add, show n.log2 + (j + 1) = 53 by omega]
        _ ≤ n * 2 ^ (j + 1) := Nat.mul_le_mul_right _ least
  have units : 0 < (inUnits n 1 ((n.log2 : Int) - (0 : Nat) - (53 : Nat))).2 :=
    Nat.mul_pos Nat.one_pos (Nat.pow_pos (by decide))
  have wide : Nat.pow 2 53 ≤ (inUnits n 1 ((n.log2 : Int) - (0 : Nat) - (53 : Nat))).1 /
      (inUnits n 1 ((n.log2 : Int) - (0 : Nat) - (53 : Nat))).2 :=
    (Nat.le_div_iff_mul_le units).mpr reaches
  have bound : minExponent = -1074 := rfl
  unfold exponentOf
  dsimp only
  rw [unit, bits, if_neg (Nat.not_lt.mpr wide), max_eq_right (by omega)]
  omega

theorem truncate_of_ofNat? {x : Binary64} (given : ofNat? n = some x) :
    x.truncate = (roundHalfEven n (2 ^ (n.log2 - 52)) * 2 ^ (n.log2 - 52) : Nat) := by
  have same : (nearest false n 1).ratio.1 * x.ratio.2 = x.ratio.1 * (nearest false n 1).ratio.2 :=
    ratio_of_ofRatio some_n given
  have exponent : (nearest false n 1).exponent = (n.log2 : Int) - 52 := exponentOf_one some_n
  have positive : x.negative = false := by
    rcases ofRatio_cases some_n given with rfl | ⟨m, e, -, rfl⟩ <;> rfl
  have whole : x.ratio.1 = roundHalfEven n (2 ^ (n.log2 - 52)) * 2 ^ (n.log2 - 52) * x.ratio.2 := by
    rw [ratio_eq (nearest false n 1), exponent, nearest, exponentOf_one some_n, inUnits_eq] at same
    dsimp only at same
    rcases shift_cases ((n.log2 : Int) - 52) with ⟨j, at_j, left, right⟩ | ⟨j, at_j, left, right⟩
    · rw [show n.log2 - 52 = j by omega]
      rw [left, right, pow_zero, Nat.mul_one, Nat.mul_one, Nat.one_mul] at same
      exact same.symm
    · -- a number of at most 53 bits is exact, in units of any weight
      have exact (m : Nat) : roundHalfEven m 1 = m := by
        simpa using roundHalfEven_mul (k := m) Nat.one_pos
      rw [left, right, pow_zero, Nat.mul_one, Nat.mul_one, exact] at same
      rw [show n.log2 - 52 = 0 by omega, pow_zero, exact, Nat.mul_one]
      refine Nat.eq_of_mul_eq_mul_right (Nat.pow_pos (n := j + 1) (show 0 < 2 by decide)) ?_
      rw [← same]
      exact Nat.mul_right_comm ..
  rw [truncate]
  dsimp only
  rw [positive, if_neg Bool.false_ne_true, whole, Nat.mul_div_cancel _ (ratio_den_pos x)]

end whole

section mul
variable {i j : Nat} {x y z : Binary64}

theorem Reaches.mul (first : Reaches i x.ratio) (second : Reaches j y.ratio)
    (given : x.mul? y = some z) : Reaches (i + j) z.ratio := by
  refine reaches_ofRatio (Nat.mul_pos (ratio_den_pos x) (ratio_den_pos y)) ?_ given
  calc 2 ^ (i + j) * (x.ratio.2 * y.ratio.2)
      = 2 ^ i * x.ratio.2 * (2 ^ j * y.ratio.2) := by ring
    _ ≤ x.ratio.1 * y.ratio.1 := Nat.mul_le_mul first second

theorem Within.mul (first : Within i x.ratio) (second : Within j y.ratio)
    (finite : i + j ≤ 1023) : ∃ z, x.mul? y = some z ∧ Within (i + j) z.ratio := by
  refine within_ofRatio (Nat.mul_pos (ratio_den_pos x) (ratio_den_pos y)) ?_ finite
  calc x.ratio.1 * y.ratio.1
      ≤ 2 ^ i * x.ratio.2 * (2 ^ j * y.ratio.2) := Nat.mul_le_mul first second
    _ = 2 ^ (i + j) * (x.ratio.2 * y.ratio.2) := by ring

end mul

theorem le_truncate {k : Nat} {x : Binary64} (reaches : Reaches k x.ratio) :
    ∃ n : Nat, 2 ^ k ≤ n ∧
      ∀ negative, (x.withSign negative).truncate = if negative then -(n : Int) else n :=
  ⟨x.ratio.1 / x.ratio.2, (Nat.le_div_iff_mul_le (ratio_den_pos x)).mpr reaches, fun _ => rfl⟩

end Binary64

end TunnelSoak
