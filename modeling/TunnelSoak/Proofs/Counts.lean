import TunnelSoak.Proofs.Binary64
import TunnelSoak.Proofs.Notice
import TunnelSoak.Proofs.Dispatcher.Conservation
import Mathlib.Data.Nat.Digits.Defs

/-! Tunnel counts of any size keep their sign. A whole number of a document is an integer or,
beyond 64 bits, a number of binary64, whose significand keeps the leading digits and is scaled
by the power of ten of the others. Rounding does not take it back below `2 ^ 63`, so cutting
it off and clamping gives what clamping the whole number itself gives. -/
namespace TunnelSoak

namespace Json.Numeral

def signed (negative : Bool) (magnitude : Nat) : Int :=
  if negative then -(magnitude : Int) else magnitude

section absorb
variable {s : Nat}

theorem absorb_cases (fits : s < 2 ^ 64) (ds : List Nat) :
    (absorb s ds = (ds.foldl (fun n d => n * 10 + d) s, []) ∧
      ds.foldl (fun n d => n * 10 + d) s < 2 ^ 64) ∨
    ∃ taken d left, ds = taken ++ d :: left ∧
      absorb s ds = (taken.foldl (fun n d => n * 10 + d) s, d :: left) ∧
      2 ^ 64 ≤ taken.foldl (fun n d => n * 10 + d) s * 10 + d := by
  induction ds generalizing s with
  | nil => exact .inl ⟨rfl, fits⟩
  | cons d ds ih =>
    unfold absorb
    split
    · rename_i room
      rcases ih room with all | ⟨taken, e, left, rfl, absorbed, full⟩
      · exact .inl all
      · exact .inr ⟨d :: taken, e, left, rfl, absorbed, full⟩
    · rename_i full
      exact .inr ⟨[], d, ds, rfl, rfl, Nat.not_lt.mp full⟩

end absorb

section ofDigits
variable {ds : List Nat}

theorem ofDigits_eq (ds : List Nat) : ofDigits ds = Nat.ofDigits 10 ds.reverse := by
  rw [Nat.ofDigits_eq_foldr, List.foldr_reverse, ofDigits]
  simp only [Nat.cast_id, Nat.mul_comm, Nat.add_comm]

theorem length_of_full (small : ∀ d ∈ ds, d < 10) (full : 2 ^ 60 ≤ ofDigits ds) :
    18 < ds.length := by
  by_contra few
  have below : Nat.ofDigits 10 ds.reverse < 10 ^ ds.reverse.length :=
    Nat.ofDigits_lt_base_pow_length (by decide) fun d mem => small d (List.mem_reverse.mp mem)
  have power : 10 ^ ds.length ≤ 10 ^ 18 := Nat.pow_le_pow_right (by decide) (by omega)
  rw [← ofDigits_eq, List.length_reverse] at below
  omega

end ofDigits

section grow
variable {s k : Nat}

theorem grow_reaches (full : 2 ^ 60 ≤ s) (fits : s ≤ 2 ^ 64) (some_places : 1 ≤ k)
    (few_places : k ≤ 281) :
    ∃ x, (Binary64.ofNat? s).bind (grow · k) = some x ∧ Binary64.Reaches 63 x.ratio := by
  have wide : 2 ^ 3 ≤ 10 ^ k :=
    (by decide : 2 ^ 3 ≤ 10 ^ 1).trans (Nat.pow_le_pow_right (by decide) some_places)
  have narrow : 10 ^ k ≤ 2 ^ 934 :=
    (Nat.pow_le_pow_right (by decide) few_places).trans (by decide +kernel)
  obtain ⟨x, significand, least, most⟩ := Binary64.exists_ofNat? full fits (by decide)
  obtain ⟨y, power, least', most'⟩ := Binary64.exists_ofNat? wide narrow (by decide)
  obtain ⟨z, product, -⟩ := most.mul most' (by decide)
  have within : k ≤ greatestPower := few_places.trans (by decide)
  refine ⟨z, ?_, least.mul least' product⟩
  rw [significand, Option.bind_some, grow, if_pos within]
  change (Binary64.ofNat? (10 ^ k)).bind x.mul? = some z
  rw [power, Option.bind_some, product]

end grow

section number
variable {negative : Bool} {ds : List Nat}

theorem scale_natCast (x : Binary64) (k : Nat) : scale x k = grow x k :=
  if_pos (Int.natCast_nonneg k)

theorem number?_of_left {significand d : Nat} {left : List Nat}
    (absorbed : absorb 0 ds = (significand, d :: left)) :
    number? ⟨negative, ds, none, none⟩ =
      ((Binary64.ofNat? significand).bind (grow · (left.length + 1))).map
        fun x => .float (x.withSign negative) := by
  have power : ((d :: left).length : Int) -
      ((([] : List Nat).length - ([] : List Nat).length : Nat) : Int) + 0 =
        (left.length + 1 : Nat) := by simp
  unfold number?
  simp only [absorbed, Option.getD_none, absorb, power, scale_natCast]
  rw [if_neg (fun none => List.cons_ne_nil d left none.1)]
  cases Binary64.ofNat? significand <;> rfl

end number

end Json.Numeral

namespace Notice

open Json Numeral

section countOf
variable {negative : Bool} {magnitude : Nat}

theorem countOf_float {x : Binary64} (reaches : Binary64.Reaches 63 x.ratio)
    (far : 2 ^ 63 ≤ magnitude) :
    countOf (.float (x.withSign negative)) = clamp (signed negative magnitude) := by
  obtain ⟨n, least, truncated⟩ := Binary64.le_truncate reaches
  rw [countOf, truncated]
  have bound : Nat.pow 2 63 = 2 ^ 63 := rfl
  unfold clamp signed
  rw [bound]
  cases negative with
  | false => simp only [Bool.false_eq_true, if_false]; omega
  | true => simp only [if_true]; omega

theorem countOf_wholeNumber (fits : magnitude < 2 ^ 64) :
    ∃ n, wholeNumber negative magnitude = some n ∧
      countOf n = clamp (signed negative magnitude) := by
  unfold wholeNumber
  cases negative with
  | false => exact ⟨_, rfl, rfl⟩
  | true =>
    rw [if_pos rfl]
    split
    · exact ⟨_, rfl, rfl⟩
    rename_i outside
    rcases Nat.eq_zero_or_pos magnitude with rfl | positive
    · exact ⟨_, rfl, by decide +kernel⟩
    · have far : 2 ^ 63 ≤ magnitude := by
        have bound : Nat.pow 2 63 = 2 ^ 63 := rfl
        omega
      obtain ⟨x, given, reaches, -⟩ := Binary64.exists_ofNat? far fits.le (by decide)
      rw [given]
      exact ⟨_, rfl, countOf_float reaches far⟩

end countOf

theorem countOf_digits (negative : Bool) {ds : List Nat} (small : ∀ d ∈ ds, d < 10)
    (short : ds.length ≤ 300) :
    ∃ n, number? ⟨negative, ds, none, none⟩ = some n ∧
      countOf n = clamp (signed negative (ofDigits ds)) := by
  rcases absorb_cases (show 0 < 2 ^ 64 by decide) ds with
    ⟨-, fits⟩ | ⟨taken, d, left, rfl, absorbed, full⟩
  · rw [number?_of_fits fits]
    exact countOf_wholeNumber fits
  change absorb 0 _ = (ofDigits taken, _) at absorbed
  change 2 ^ 64 ≤ ofDigits taken * 10 + d at full
  obtain ⟨smallTaken, smallLeft⟩ := List.forall_mem_append.mp small
  have digit : d < 10 := smallLeft d List.mem_cons_self
  have value : ofDigits (taken ++ d :: left) =
      left.foldl (fun n d => n * 10 + d) (ofDigits taken * 10 + d) := List.foldl_append
  have fits : (absorb 0 (taken ++ d :: left)).1 < 2 ^ 64 := absorb_lt (by decide) _
  rw [absorbed] at fits
  have full' : 2 ^ 60 ≤ ofDigits taken := by omega
  have long : 18 < taken.length := length_of_full smallTaken full'
  have places : left.length + 1 ≤ 281 := by
    rw [List.length_append, List.length_cons] at short
    omega
  obtain ⟨x, scaled, reaches⟩ := grow_reaches full' fits.le (Nat.succ_pos _) places
  refine ⟨.float (x.withSign negative), ?_, countOf_float reaches ?_⟩
  · rw [number?_of_left absorbed, scaled]
    rfl
  · rw [value]
    exact le_trans (by omega) (le_foldl _ left)

/-- A whole number as a document spells it: digits, after a minus or nothing. -/
structure Spelling where
  negative : Bool
  digits : Bytes
  whole : IsWhole digits

namespace Spelling

def text (s : Spelling) : Bytes := if s.negative then 45 :: s.digits else s.digits

def magnitude (s : Spelling) : Nat := Nat.ofDigits 10 (values s.digits).reverse

def value (s : Spelling) : Int := signed s.negative s.magnitude

def notice (s : Spelling) : Bytes :=
  ascii "\x7b\"noticeType\":\"Tunnels\",\"data\":\x7b\"count\":" ++ s.text ++ ascii "\x7d\x7d"

theorem values_lt (s : Spelling) : ∀ d ∈ values s.digits, d < 10 := by
  intro d mem
  obtain ⟨b, digit, rfl⟩ := List.mem_map.mp mem
  have bounds := s.whole.each b digit
  simp only [isDigit, decide_eq_true_eq, UInt8.le_iff_toNat_le] at bounds
  have top : UInt8.toNat 57 = 57 := rfl
  omega

theorem notice_eq (s : Spelling) : s.notice = objectOf
    [("noticeType", Quoted.encode "Tunnels"), ("data", objectOf [("count", s.text)])] := by
  have start : ascii "\x7b\"noticeType\":\"Tunnels\",\"data\":\x7b\"count\":" =
      123 :: (Quoted.encode "noticeType" ++ 58 :: (Quoted.encode "Tunnels" ++ 44 ::
        (Quoted.encode "data" ++ 58 :: 123 :: (Quoted.encode "count" ++ [58])))) := by
    decide +kernel
  have stop : ascii "\x7d\x7d" = [125, 125] := by decide
  rw [notice, start, stop]
  simp only [objectOf, commaSeparated, List.map_cons, List.map_nil, List.cons_append,
    List.append_assoc, List.nil_append]

section read
variable {s : Spelling} {n : Number} {depth : Nat} {rest : Bytes}

theorem text_starts (s : Spelling) : skipBlanks (s.text ++ rest) = s.text ++ rest := by
  have visible (b : UInt8) (digit : isDigit b = true) : isBlank b = false := by
    refine Bool.eq_false_iff.mpr fun blank => ?_
    simp only [isBlank, Bool.or_eq_true, beq_iff_eq, or_assoc] at blank
    rcases blank with rfl | rfl | rfl | rfl <;> cases digit
  obtain ⟨negative, digits, whole⟩ := s
  cases negative with
  | true => exact skipBlanks_cons (by decide)
  | false =>
    obtain ⟨b, ds, rfl⟩ := List.exists_cons_of_ne_nil whole.some_digits
    exact skipBlanks_cons (visible b (whole.each b List.mem_cons_self))

theorem valueAt_text {fuel : Nat}
    (given : number? ⟨s.negative, values s.digits, none, none⟩ = some n)
    (ends : endsAt rest = true) :
    valueAt (fuel + 1) depth (s.text ++ rest) = .ok (.number n, rest) := by
  rw [text, valueAt_sign s.negative s.whole, readNumber, s.whole.read_append s.negative ends]
  simp only [ok_bind, given]
  rfl

end read

end Spelling

theorem decode_spelled (s : Spelling) {n : Number}
    (given : number? ⟨s.negative, values s.digits, none, none⟩ = some n) :
    decode s.notice = .ok ⟨"Tunnels", [("count", .number n)], none⟩ := by
  have fills : Fills fields 126 {}
      [("noticeType", Quoted.encode "Tunnels"), ("data", objectOf [("count", s.text)])]
      ⟨some "Tunnels", some [("count", .number n)], none⟩ :=
    .of rfl rfl (fun _ _ => string_encode "Tunnels")
      (.of rfl rfl (fun _ _ => freeObject_singleton (fun _ => s.text_starts)
        fun _ _ ends => s.valueAt_text given ends) (.nil _))
  rw [s.notice_eq]
  exact document_of_reads (fills.record rfl)

theorem classify_spelled (s : Spelling) (short : s.digits.length ≤ 300) :
    classify s.notice = some (.tunnels (clamp s.value)) := by
  obtain ⟨n, given, counted⟩ :=
    countOf_digits s.negative s.values_lt (by rwa [values, List.length_map])
  rw [classify, decode_spelled s given, Spelling.value, Spelling.magnitude, ← ofDigits_eq,
    ← counted]
  rfl

end Notice

namespace Dispatcher

theorem Desk.drain_tracker (coin : Nat → Bool) (time : Nat) (queue : List Delivery)
    (desk : Desk) :
    (drain coin time queue desk).dispatcher.tracker = desk.dispatcher.tracker := by
  induction queue generalizing desk with
  | nil => rfl
  | cons delivery queue ih =>
    unfold drain
    split
    · rw [ih]
      exact settle_tracker coin _
    · rfl

theorem Desk.dispatch_tracker (coin : Nat → Bool) (desk : Desk) (notice : List UInt8) :
    (desk.dispatch coin notice).dispatcher.tracker = (desk.dispatcher.arrive notice).2.tracker := by
  have delivered : (desk.deliver coin notice).dispatcher.tracker =
      (desk.dispatcher.arrive notice).2.tracker := by
    unfold deliver
    dsimp only
    split
    · rfl
    · split
      · exact settle_tracker coin _
      · rfl
  unfold dispatch
  dsimp only
  split
  · exact delivered
  · exact (drain_tracker coin _ _ _).trans delivered

/-- A tunnel count of up to 300 digits is classified as the nearest count of 64 bits, and
counts as an establishment exactly where the whole number it spells is positive. -/
theorem counts_keep_their_sign (s : Notice.Spelling) (short : s.digits.length ≤ 300) :
    Notice.classify s.notice = some (.tunnels (Notice.clamp s.value)) ∧
    (∀ d : Dispatcher, d.arrive s.notice =
      if 0 < s.value then
        (.established (d.tracker.established + 1), { d with tracker := d.tracker.increment })
      else (.finished .ignored, d)) ∧
    ∀ coin (desk : Desk), (desk.dispatch coin s.notice).dispatcher.tracker =
      if 0 < s.value then desk.dispatcher.tracker.increment else desk.dispatcher.tracker := by
  have classified := Notice.classify_spelled s short
  have sign : 0 < Notice.clamp s.value ↔ 0 < s.value := by
    have bound : Nat.pow 2 63 = 2 ^ 63 := rfl
    unfold Notice.clamp
    omega
  have arrives (d : Dispatcher) : d.arrive s.notice =
      if 0 < s.value then
        (.established (d.tracker.established + 1), { d with tracker := d.tracker.increment })
      else (.finished .ignored, d) := by
    simp only [arrive, classified, sign]
    rfl
  refine ⟨classified, arrives, fun coin desk => ?_⟩
  rw [Desk.dispatch_tracker, arrives]
  split <;> rfl

def vast : Notice.Spelling where
  negative := false
  digits := Json.ascii "18446744073709551616"
  whole := ⟨by decide +kernel, by decide +kernel, by decide +kernel⟩

theorem vast_count_establishes : vast.value = 2 ^ 64 ∧
    Notice.classify vast.notice = some (.tunnels (2 ^ 63 - 1)) ∧
    ∀ d : Dispatcher, (d.arrive vast.notice).2.tracker = d.tracker.increment := by
  have value : vast.value = 2 ^ 64 := by decide +kernel
  obtain ⟨classified, arrives, -⟩ := counts_keep_their_sign vast (by decide)
  refine ⟨value, ?_, fun d => ?_⟩
  · rw [classified, value]
    decide
  · rw [arrives, value, if_pos (by decide)]

end Dispatcher

end TunnelSoak
