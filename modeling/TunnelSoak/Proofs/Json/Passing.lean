import TunnelSoak.Proofs.Json.Shape
import TunnelSoak.Proofs.Json.Writer

/-! Every value is passed over. What the grammar takes for a value is read to its end by the
reader that asks for least, wherever it stands, as long as no numeral goes on behind it. Nothing
bounds how deep it nests. -/
namespace TunnelSoak.Json.Grammar

section blanks
variable {pad lead rest : Bytes} {close b : UInt8} {first : Bool}

theorem next_ended (blank : Blank pad) (visible : isBlank close = false) :
    next close first (pad ++ close :: rest) = .ok (.ended rest) := by
  rw [next, skipBlanks_append blank, skipBlanks_cons visible]
  exact if_pos rfl

theorem next_more (opens : Lead first lead) (visible : isBlank b = false) (other : b ≠ close)
    (comma : close ≠ 44) : next close first (lead ++ b :: rest) = .ok (.more (b :: rest)) := by
  cases opens with
  | first blank => simp [next, skipBlanks_append blank, skipBlanks_cons visible, other]
  | comma blank blank' =>
    rw [List.append_assoc, List.cons_append, next, skipBlanks_append blank,
      skipBlanks_cons (by decide)]
    simp [comma.symm, skipBlanks_append blank', skipBlanks_cons visible, other]

theorem colon_append (blank : Blank pad) : colon (pad ++ 58 :: rest) = .ok rest := by
  rw [colon, skipBlanks_append blank, skipBlanks_cons (by decide)]
  rfl

theorem endsAt_append (blank : Blank pad) (ends : Numeral.endsAt rest = true) :
    Numeral.endsAt (pad ++ rest) = true := by
  cases pad with
  | nil => exact ends
  | cons b pad =>
    have here := blank b List.mem_cons_self
    simp only [isBlank, Bool.or_eq_true, beq_iff_eq, or_assoc] at here
    rcases here with rfl | rfl | rfl | rfl <;> rfl

end blanks

section leaves
variable {text rest : Bytes}

theorem keyword_append (word rest : Bytes) : keyword word (word ++ rest) = .ok rest := by
  induction word with
  | nil => rfl
  | cons k word ih => exact (if_pos rfl).trans ih

theorem Digits.skip (digits : Digits text) (stop : Numeral.stops rest = true) :
    Skip.someDigits (text ++ rest) = .ok rest := by
  rw [Skip.someDigits, Numeral.someDigits_append digits.each digits.some_digits stop]

theorem Exponent.skip (exponent : Exponent text) (ends : Numeral.endsAt rest = true) :
    Skip.exponent (text ++ rest) = .ok rest := by
  cases exponent with
  | none =>
    cases rest with
    | nil => rfl
    | cons b rest =>
      refine if_neg ?_
      rintro (rfl | rfl) <;> simp [Numeral.endsAt] at ends
  | @power e sign digits letter signed valid =>
    have read := valid.skip (Numeral.stops_of_endsAt ends)
    rcases signed with rfl | rfl | rfl
    · obtain ⟨b, tail, rfl⟩ := List.exists_cons_of_ne_nil valid.some_digits
      have digit := valid.each b List.mem_cons_self
      refine (skip_exponent_unsigned letter ?_ ?_).trans read
      · rintro _ same
        exact Numeral.digit_apart digit (by decide) (List.cons.inj same).1
      · rintro _ same
        exact Numeral.digit_apart digit (by decide) (List.cons.inj same).1
    · exact (if_pos letter).trans read
    · exact (if_pos letter).trans read

theorem Exponent.stops (exponent : Exponent text) (ends : Numeral.endsAt rest = true) :
    Numeral.stops (text ++ rest) = true ∧ ∀ tail, text ++ rest ≠ 46 :: tail := by
  cases exponent with
  | none =>
    refine ⟨Numeral.stops_of_endsAt ends, ?_⟩
    rintro tail same
    rw [List.nil_append] at same
    simp [same, Numeral.endsAt] at ends
  | power letter =>
    rcases letter with rfl | rfl <;>
      exact ⟨rfl, fun _ same => absurd (List.cons.inj same).1 (by decide)⟩

theorem Magnitude.skip (magnitude : Magnitude text) (ends : Numeral.endsAt rest = true) :
    Skip.number (text ++ rest) = .ok rest := by
  obtain ⟨whole, fraction, exponent, valid, point, power, rfl⟩ := magnitude
  rw [List.append_assoc, List.append_assoc]
  cases point with
  | none =>
    obtain ⟨stop, no_point⟩ := power.stops ends
    rw [List.nil_append, Skip.number, valid.wholePart_append stop]
    split
    · cases ‹_›
    · obtain ⟨-, same⟩ := Prod.mk.inj (Except.ok.inj ‹_›)
      exact absurd same (no_point _)
    · obtain ⟨-, rfl⟩ := Prod.mk.inj (Except.ok.inj ‹_›)
      exact power.skip ends
  | @point digits some_digits =>
    rw [Skip.number, valid.wholePart_append rfl]
    change (Skip.someDigits (digits ++ (exponent ++ rest))).bind Skip.exponent = _
    rw [some_digits.skip (power.stops ends).1]
    exact power.skip ends

theorem exists_hexValue {h : UInt8} (hex : IsHex h) : ∃ n, Quoted.hexValue h = some n := by
  unfold Quoted.hexValue
  split
  · exact ⟨_, rfl⟩
  split
  · exact ⟨_, rfl⟩
  · exact ⟨_, if_pos ((hex.resolve_left ‹_›).resolve_left ‹_›)⟩

theorem isSome_unit {a b c d : UInt8} (digits : ∀ h ∈ [a, b, c, d], IsHex h) :
    (Quoted.unit a b c d).isSome = true := by
  simp only [List.forall_mem_cons] at digits
  obtain ⟨first, second, third, fourth, -⟩ := digits
  obtain ⟨_, first⟩ := exists_hexValue first
  obtain ⟨_, second⟩ := exists_hexValue second
  obtain ⟨_, third⟩ := exists_hexValue third
  obtain ⟨_, fourth⟩ := exists_hexValue fourth
  rw [Quoted.unit, first, second, third, fourth]
  rfl

theorem escape_of_mem {e : UInt8} (simple : e ∈ ascii "\"\\/bfnrt") :
    e ≠ 117 ∧ (Quoted.simpleEscape e).isSome = true := by
  have letters : ascii "\"\\/bfnrt" = [34, 92, 47, 98, 102, 110, 114, 116] := by decide
  simp only [letters, List.mem_cons, List.not_mem_nil, or_false] at simple
  rcases simple with rfl | rfl | rfl | rfl | rfl | rfl | rfl | rfl <;> decide

theorem Body.skip (body : Body text) : Quoted.skip (text ++ rest) = .ok rest := by
  induction body with
  | close => rw [Quoted.skip.eq_def]; rfl
  | plain quote slash visible later ih =>
    rw [List.cons_append, Quoted.skip.eq_def]
    simp only [quote, slash, UInt8.not_lt.mpr visible, if_false]
    exact ih
  | letter simple later ih =>
    obtain ⟨other, some_byte⟩ := escape_of_mem simple
    rw [List.cons_append, List.cons_append, Quoted.skip.eq_def]
    simpa [other, some_byte] using ih
  | unit digits later ih =>
    obtain ⟨point, read⟩ := Option.isSome_iff_exists.mp (isSome_unit digits)
    exact (skip_unit read).trans ih

end leaves

section starts
variable {text rest : Bytes}

theorem Magnitude.starts (magnitude : Magnitude text) :
    ∃ b tail, text = b :: tail ∧ Numeral.isDigit b = true := by
  obtain ⟨whole, fraction, exponent, valid, -, -, rfl⟩ := magnitude
  obtain ⟨b, tail, rfl⟩ := List.exists_cons_of_ne_nil valid.some_digits
  exact ⟨b, _, rfl, valid.each b List.mem_cons_self⟩

theorem Text.starts (valid : Text text) :
    ∃ b tail, text = b :: tail ∧ isBlank b = false ∧ b ≠ 93 ∧ b ≠ 125 := by
  cases valid with
  | null => exact ⟨110, _, rfl, by decide⟩
  | yes => exact ⟨116, _, rfl, by decide⟩
  | no => exact ⟨102, _, rfl, by decide⟩
  | minus => exact ⟨45, _, rfl, by decide⟩
  | plus magnitude =>
    obtain ⟨b, tail, rfl, digit⟩ := magnitude.starts
    exact ⟨b, tail, rfl, isBlank_of_isDigit digit, Numeral.digit_apart digit (by decide),
      Numeral.digit_apart digit (by decide)⟩
  | quote quote =>
    obtain ⟨body, -, rfl⟩ := quote
    exact ⟨34, body, rfl, by decide⟩
  | array => exact ⟨91, _, rfl, by decide⟩
  | object => exact ⟨123, _, rfl, by decide⟩

theorem Text.shown {pad : Bytes} (valid : Text text) (blank : Blank pad) :
    skipBlanks (pad ++ (text ++ rest)) = text ++ rest := by
  obtain ⟨b, tail, rfl, visible, -⟩ := valid.starts
  rw [skipBlanks_append blank]
  exact skipBlanks_cons visible

theorem endsAt_lead {lead : Bytes} (opens : Lead false lead) :
    Numeral.endsAt (lead ++ rest) = true := by
  cases opens with
  | comma blank =>
    rw [List.append_assoc]
    exact endsAt_append blank rfl

theorem Items.endsAt {items : List Bytes} (listed : Items false items text) :
    Numeral.endsAt (text ++ rest) = true := by
  cases listed with
  | close blank =>
    rw [List.append_assoc]
    exact endsAt_append blank rfl
  | item opens =>
    rw [List.append_assoc]
    exact endsAt_lead opens

theorem Members.endsAt {members : List (Bytes × Bytes)} (listed : Members false members text) :
    Numeral.endsAt (text ++ rest) = true := by
  cases listed with
  | close blank =>
    rw [List.append_assoc]
    exact endsAt_append blank rfl
  | member opens =>
    rw [List.append_assoc]
    exact endsAt_lead opens

theorem Lead.length_pos {lead : Bytes} (opens : Lead false lead) : 0 < lead.length := by
  cases opens with
  | comma => exact List.length_pos_of_mem (List.mem_append_right _ List.mem_cons_self)

theorem Items.length_pos {items : List Bytes} (listed : Items false items text) :
    0 < text.length := by
  cases listed with
  | close => simp
  | item opens =>
    have comma := opens.length_pos
    simp only [List.length_append]
    omega

theorem Members.length_pos {members : List (Bytes × Bytes)}
    (listed : Members false members text) : 0 < text.length := by
  cases listed with
  | close => simp
  | member opens =>
    have comma := opens.length_pos
    simp only [List.length_append]
    omega

end starts

/-- With this fuel every text of half the length is passed over: a value where no numeral goes
on, the items or members of one anywhere. -/
structure Passes (fuel : Nat) : Prop where
  value : ∀ {text rest}, Text text → 2 * text.length < fuel → Numeral.endsAt rest = true →
    Skip.valueAt fuel (text ++ rest) = .ok rest
  items : ∀ {first items body rest}, Items first items body → 2 * body.length < fuel →
    Skip.items fuel first (body ++ rest) = .ok rest
  members : ∀ {first members body rest}, Members first members body → 2 * body.length < fuel →
    Skip.members fuel first (body ++ rest) = .ok rest

section step
variable {fuel : Nat} {first : Bool} {text body rest : Bytes} (before : Passes fuel)
include before

theorem passes_value (valid : Text text) (enough : 2 * text.length < fuel + 1)
    (ends : Numeral.endsAt rest = true) : Skip.valueAt (fuel + 1) (text ++ rest) = .ok rest := by
  cases valid with
  | null => exact keyword_append (ascii "ull") rest
  | yes => exact keyword_append (ascii "rue") rest
  | no => exact keyword_append (ascii "alse") rest
  | minus magnitude => exact magnitude.skip ends
  | plus magnitude =>
    obtain ⟨b, tail, rfl, digit⟩ := magnitude.starts
    have read := magnitude.skip ends
    rw [List.cons_append] at read ⊢
    rw [Skip.valueAt, if_neg (Numeral.digit_apart digit (by decide)),
      if_neg (Numeral.digit_apart digit (by decide)),
      if_neg (Numeral.digit_apart digit (by decide)),
      if_neg (Numeral.digit_apart digit (by decide)), if_pos digit]
    exact read
  | quote quote =>
    obtain ⟨body, valid, rfl⟩ := quote
    exact valid.skip
  | array listed =>
    rw [List.length_cons] at enough
    exact before.items listed (by omega)
  | object listed =>
    rw [List.length_cons] at enough
    exact before.members listed (by omega)

theorem passes_items {items : List Bytes} (listed : Items first items body)
    (enough : 2 * body.length < fuel + 1) :
    Skip.items (fuel + 1) first (body ++ rest) = .ok rest := by
  rw [Skip.items]
  cases listed with
  | close blank =>
    rw [List.append_assoc, List.singleton_append, next_ended blank (by decide)]
    rfl
  | @item _ lead text later items opens valid listed =>
    obtain ⟨b, tail, rfl, visible, other, -⟩ := valid.starts
    have some_later := listed.length_pos
    simp only [List.length_append, List.length_cons] at enough
    have ends : Numeral.endsAt (later ++ rest) = true := listed.endsAt
    have read := before.value valid (by rw [List.length_cons]; omega) ends
    rw [List.append_assoc, List.append_assoc, List.cons_append,
      next_more opens visible other (by decide)]
    rw [List.cons_append] at read
    simp only [ok_bind, read]
    exact before.items listed (by omega)

theorem passes_members {members : List (Bytes × Bytes)} (listed : Members first members body)
    (enough : 2 * body.length < fuel + 1) :
    Skip.members (fuel + 1) first (body ++ rest) = .ok rest := by
  rw [Skip.members]
  cases listed with
  | close blank =>
    rw [List.append_assoc, List.singleton_append, next_ended blank (by decide)]
    rfl
  | @member _ lead key parted pad text later members opens named blank blank' valid listed =>
    obtain ⟨quoted, closed, rfl⟩ := named
    have some_later := listed.length_pos
    simp only [List.length_append, List.length_cons] at enough
    have ends : Numeral.endsAt (later ++ rest) = true := listed.endsAt
    have read := before.value valid (by omega) ends
    simp only [List.append_assoc, List.cons_append]
    rw [next_more opens (by decide) (by decide) (by decide)]
    simp only [ok_bind, closed.skip, colon_append blank, valid.shown blank', read]
    exact before.members listed (by omega)

end step

theorem passes (fuel : Nat) : Passes fuel := by
  induction fuel with
  | zero => exact ⟨nofun, nofun, nofun⟩
  | succ fuel ih => exact ⟨passes_value ih, passes_items ih, passes_members ih⟩

theorem skip_value {text pad rest : Bytes} (valid : Text text) (blank : Blank pad)
    (ends : Numeral.endsAt rest = true) : Skip.value (pad ++ (text ++ rest)) = .ok rest := by
  rw [Skip.value, valid.shown blank]
  exact (passes _).value valid (by simp only [List.length_append]; omega) ends

end TunnelSoak.Json.Grammar
