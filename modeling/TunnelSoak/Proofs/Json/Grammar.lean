import TunnelSoak.Json.Skip
import TunnelSoak.Proofs.Json.Numeral
import Mathlib.Data.List.TakeWhile

/-! The grammar of JSON over bytes, apart from any reader, and what is passed over as a value is
one. The characters of a quoted text are bytes, so the grammar does not ask for UTF-8; a unit is
any four hexadecimal digits. Every reader is compared with `Skip`, which asks for least. -/
namespace TunnelSoak.Json.Grammar

def Blank (pad : Bytes) : Prop := ∀ b ∈ pad, isBlank b = true

def IsHex (b : UInt8) : Prop := (48 ≤ b ∧ b ≤ 57) ∨ (97 ≤ b ∧ b ≤ 102) ∨ (65 ≤ b ∧ b ≤ 70)

inductive Body : Bytes → Prop
  | close : Body [34]
  | plain {b : UInt8} {rest : Bytes} (quote : b ≠ 34) (slash : b ≠ 92) (visible : 32 ≤ b)
    (later : Body rest) : Body (b :: rest)
  | letter {e : UInt8} {rest : Bytes} (simple : e ∈ ascii "\"\\/bfnrt") (later : Body rest) :
    Body (92 :: e :: rest)
  | unit {a b c d : UInt8} {rest : Bytes} (digits : ∀ h ∈ [a, b, c, d], IsHex h)
    (later : Body rest) : Body (92 :: 117 :: a :: b :: c :: d :: rest)

def Quote (text : Bytes) : Prop := ∃ body, Body body ∧ text = 34 :: body

structure Digits (text : Bytes) : Prop where
  each : ∀ b ∈ text, Numeral.isDigit b = true
  some_digits : text ≠ []

inductive Fraction : Bytes → Prop
  | none : Fraction []
  | point {digits : Bytes} (valid : Digits digits) : Fraction (46 :: digits)

inductive Exponent : Bytes → Prop
  | none : Exponent []
  | power {e : UInt8} {sign digits : Bytes} (letter : e = 101 ∨ e = 69)
    (signed : sign = [] ∨ sign = [43] ∨ sign = [45]) (valid : Digits digits) :
    Exponent (e :: (sign ++ digits))

def Magnitude (text : Bytes) : Prop :=
  ∃ whole fraction exponent, Numeral.IsWhole whole ∧ Fraction fraction ∧ Exponent exponent ∧
    text = whole ++ (fraction ++ exponent)

inductive Lead : (first : Bool) → Bytes → Prop
  | first {pad : Bytes} (blank : Blank pad) : Lead true pad
  | comma {before after : Bytes} (blank : Blank before) (blank' : Blank after) :
    Lead false (before ++ 44 :: after)

mutual

inductive Text : Bytes → Prop
  | null : Text (ascii "null")
  | yes : Text (ascii "true")
  | no : Text (ascii "false")
  | minus {text : Bytes} (magnitude : Magnitude text) : Text (45 :: text)
  | plus {text : Bytes} (magnitude : Magnitude text) : Text text
  | quote {text : Bytes} (quote : Quote text) : Text text
  | array {items : List Bytes} {body : Bytes} (listed : Items true items body) : Text (91 :: body)
  | object {members : List (Bytes × Bytes)} {body : Bytes} (listed : Members true members body) :
    Text (123 :: body)

inductive Items : (first : Bool) → List Bytes → Bytes → Prop
  | close {first : Bool} {pad : Bytes} (blank : Blank pad) : Items first [] (pad ++ [93])
  | item {first : Bool} {lead text rest : Bytes} {items : List Bytes} (opens : Lead first lead)
    (valid : Text text) (later : Items false items rest) :
    Items first (text :: items) (lead ++ (text ++ rest))

/-- The members of an object up to its closing brace, as the texts of their keys and values. -/
inductive Members : (first : Bool) → List (Bytes × Bytes) → Bytes → Prop
  | close {first : Bool} {pad : Bytes} (blank : Blank pad) : Members first [] (pad ++ [125])
  | member {first : Bool} {lead key before after text rest : Bytes}
    {members : List (Bytes × Bytes)} (opens : Lead first lead) (named : Quote key)
    (blank : Blank before) (blank' : Blank after) (valid : Text text)
    (later : Members false members rest) :
    Members first ((key, text) :: members)
      (lead ++ (key ++ (before ++ 58 :: (after ++ (text ++ rest)))))

end

theorem Lead.append {first : Bool} {lead pad : Bytes} (opens : Lead first lead)
    (more : Blank pad) : Lead first (lead ++ pad) := by
  cases opens with
  | first blank => exact .first (List.forall_mem_append.mpr ⟨blank, more⟩)
  | comma blank blank' =>
    rw [List.append_assoc, List.cons_append]
    exact .comma blank (List.forall_mem_append.mpr ⟨blank', more⟩)

/-- A text of the language at the start of the input, and what follows it. -/
def Taken (language : Bytes → Prop) (input rest : Bytes) : Prop :=
  ∃ text, language text ∧ input = text ++ rest

def Document (language : Bytes → Prop) (raw : Bytes) : Prop :=
  ∃ before text after, Blank before ∧ language text ∧ Blank after ∧ raw = before ++ (text ++ after)

section Taken
variable {language other : Bytes → Prop} {input rest : Bytes}

theorem Taken.imp (taken : Taken language input rest) (wider : ∀ text, language text → other text) :
    Taken other input rest := by
  obtain ⟨text, valid, split⟩ := taken
  exact ⟨text, wider text valid, split⟩

theorem taken_cons {b : UInt8} {language : Bytes → Prop}
    (taken : Taken (fun text => language (b :: text)) input rest) :
    Taken language (b :: input) rest := by
  obtain ⟨text, valid, rfl⟩ := taken
  exact ⟨b :: text, valid, rfl⟩

end Taken

section leaves
variable {input rest : Bytes}

theorem skipBlanks_append {pad : Bytes} (blank : Blank pad) (input : Bytes) :
    skipBlanks (pad ++ input) = skipBlanks input := List.dropWhile_append_of_pos blank

theorem taken_blanks (input : Bytes) : Taken Blank input (skipBlanks input) :=
  ⟨input.takeWhile isBlank, fun _ mem => List.mem_takeWhile_imp mem,
    List.takeWhile_append_dropWhile.symm⟩

theorem of_keyword {word : Bytes} (read : keyword word input = .ok rest) :
    input = word ++ rest := by
  induction word generalizing input with
  | nil =>
    cases read
    rfl
  | cons k word ih =>
    cases input with
    | nil => cases read
    | cons b input =>
      unfold keyword at read
      split at read
      · rename_i same
        rw [same, ih read, List.cons_append]
      · cases read

theorem taken_digits {ds : List Nat} (read : Numeral.someDigits input = .ok (ds, rest)) :
    ∃ text, Digits text ∧ ds = Numeral.values text ∧ input = text ++ rest := by
  unfold Numeral.someDigits at read
  split at read
  · cases read
  · rename_i found split
    rw [Numeral.digits] at split
    cases split
    cases read
    refine ⟨input.takeWhile Numeral.isDigit, ⟨fun _ mem => List.mem_takeWhile_imp mem, ?_⟩, rfl,
      List.takeWhile_append_dropWhile.symm⟩
    exact fun none => found (List.map_eq_nil_iff.mpr none)

theorem taken_whole {ds : List Nat} (read : Numeral.wholePart input = .ok (ds, rest)) :
    Taken Numeral.IsWhole input rest := by
  obtain ⟨⟨ds, after⟩, found, lead⟩ := bind_eq_ok.mp read
  obtain ⟨text, digits, rfl, rfl⟩ := taken_digits found
  dsimp only at lead
  split at lead
  · cases lead
  rename_i single
  cases lead
  refine ⟨text, ⟨digits.each, digits.some_digits, fun zero => ?_⟩, rfl⟩
  have length := List.length_pos_iff.mpr digits.some_digits
  have head : (Numeral.values text).head? = some 0 := by
    rw [Numeral.values, List.head?_map, zero]
    rfl
  have few : ¬ 1 < text.length := fun more =>
    single ⟨head, by rwa [Numeral.values, List.length_map]⟩
  omega

theorem taken_skip_digits (read : Skip.someDigits input = .ok rest) : Taken Digits input rest := by
  unfold Skip.someDigits at read
  split at read
  · rename_i found
    cases read
    obtain ⟨text, digits, -, split⟩ := taken_digits found
    exact ⟨text, digits, split⟩
  · cases read

theorem taken_exponent (read : Skip.exponent input = .ok rest) : Taken Exponent input rest := by
  unfold Skip.exponent at read
  split at read
  · cases read
    exact ⟨[], .none, rfl⟩
  split at read
  · rename_i letter
    split at read
    · obtain ⟨digits, valid, rfl⟩ := taken_skip_digits read
      exact ⟨_, .power letter (.inr (.inl rfl)) valid, rfl⟩
    · obtain ⟨digits, valid, rfl⟩ := taken_skip_digits read
      exact ⟨_, .power letter (.inr (.inr rfl)) valid, rfl⟩
    · obtain ⟨digits, valid, rfl⟩ := taken_skip_digits read
      exact ⟨_, .power letter (.inl rfl) valid, rfl⟩
  · cases read
    exact ⟨[], .none, rfl⟩

theorem taken_magnitude (read : Skip.number input = .ok rest) : Taken Magnitude input rest := by
  unfold Skip.number at read
  split at read
  · cases read
  · rename_i found
    obtain ⟨whole, valid, rfl⟩ := taken_whole found
    obtain ⟨after, point, power⟩ := bind_eq_ok.mp read
    obtain ⟨digits, some_digits, rfl⟩ := taken_skip_digits point
    obtain ⟨exponent, valid', rfl⟩ := taken_exponent power
    exact ⟨_, ⟨whole, _, _, valid, .point some_digits, valid', rfl⟩, by simp⟩
  · rename_i found
    obtain ⟨whole, valid, rfl⟩ := taken_whole found
    obtain ⟨exponent, power, rfl⟩ := taken_exponent read
    exact ⟨_, ⟨whole, [], exponent, valid, .none, power, rfl⟩, by simp⟩

theorem isHex_of_hexValue {b : UInt8} (read : (Quoted.hexValue b).isSome = true) : IsHex b := by
  unfold Quoted.hexValue at read
  split at read
  · exact .inl ‹_›
  split at read
  · exact .inr (.inl ‹_›)
  split at read
  · exact .inr (.inr ‹_›)
  · cases read

theorem isHex_of_unit {a b c d : UInt8} (read : (Quoted.unit a b c d).isSome = true) :
    ∀ h ∈ [a, b, c, d], IsHex h := by
  obtain ⟨point, read⟩ := Option.isSome_iff_exists.mp read
  simp only [Quoted.unit, Option.bind_eq_bind, Option.bind_eq_some_iff] at read
  obtain ⟨_, first, _, second, _, third, _, fourth, -⟩ := read
  have hex {h : UInt8} {n : Nat} (value : Quoted.hexValue h = some n) : IsHex h :=
    isHex_of_hexValue (value ▸ rfl)
  simp only [List.forall_mem_cons]
  exact ⟨hex first, hex second, hex third, hex fourth, nofun⟩

theorem mem_of_simpleEscape {e : UInt8} (read : (Quoted.simpleEscape e).isSome = true) :
    e ∈ ascii "\"\\/bfnrt" := by
  have letters : ascii "\"\\/bfnrt" = [34, 92, 47, 98, 102, 110, 114, 116] := by decide
  have some_letter : e = 34 ∨ e = 92 ∨ e = 47 ∨ e = 98 ∨ e = 116 ∨ e = 110 ∨ e = 102 ∨ e = 114 := by
    by_contra none
    simp only [not_or] at none
    simp [Quoted.simpleEscape, none] at read
  rw [letters]
  rcases some_letter with rfl | rfl | rfl | rfl | rfl | rfl | rfl | rfl <;> decide

theorem taken_body (read : Quoted.skip input = .ok rest) : Taken Body input rest := by
  fun_induction Quoted.skip input with
  | case2 =>
    cases read
    exact ⟨[34], .close, rfl⟩
  | case4 a b c d tail unit slash ih =>
    obtain ⟨body, valid, rfl⟩ := ih read
    exact ⟨_, .unit (isHex_of_unit unit) valid, rfl⟩
  | case7 letter tail other simple slash ih =>
    obtain ⟨body, valid, rfl⟩ := ih read
    exact ⟨_, .letter (mem_of_simpleEscape simple) valid, rfl⟩
  | case10 b tail quote slash visible ih =>
    obtain ⟨body, valid, rfl⟩ := ih read
    exact ⟨_, .plain quote slash (UInt8.not_lt.mp visible) valid, rfl⟩
  | _ => cases read

end leaves

section next
variable {close : UInt8} {first : Bool} {input rest : Bytes}

theorem of_next_ended (read : next close first input = .ok (.ended rest)) :
    ∃ pad, Blank pad ∧ input = pad ++ close :: rest := by
  obtain ⟨pad, blank, split⟩ := taken_blanks input
  refine ⟨pad, blank, ?_⟩
  rw [split]
  unfold next at read
  split at read
  · cases read
  rename_i b after found
  split at read
  · rename_i same
    cases read
    rw [found, same]
  split at read
  · cases read
  split at read
  · split at read
    · cases read
    split at read <;> cases read
  · cases read

theorem of_next_more (read : next close first input = .ok (.more rest)) :
    Taken (Lead first) input rest := by
  obtain ⟨pad, blank, split⟩ := taken_blanks input
  unfold next at read
  split at read
  · cases read
  rename_i b after found
  rw [found] at split
  split at read
  · cases read
  split at read
  · rename_i alone
    cases read
    exact ⟨pad, alone ▸ .first blank, split⟩
  split at read
  · rename_i later comma
    obtain ⟨pad', blank', split'⟩ := taken_blanks after
    split at read
    · cases read
    rename_i found'
    split at read
    · cases read
    cases read
    rw [found'] at split'
    refine ⟨pad ++ 44 :: pad', Bool.eq_false_iff.mpr later ▸ .comma blank blank', ?_⟩
    rw [split, comma, split', List.append_assoc, List.cons_append]
  · cases read

theorem of_colon (read : colon input = .ok rest) :
    ∃ pad, Blank pad ∧ input = pad ++ 58 :: rest := by
  obtain ⟨pad, blank, split⟩ := taken_blanks input
  refine ⟨pad, blank, ?_⟩
  rw [split]
  unfold colon at read
  split at read
  · cases read
  rename_i found
  split at read
  · rename_i same
    cases read
    rw [found, same]
  · cases read

end next

/-- With this fuel all that is passed over is a value, or the items or members of one. -/
structure Sound (fuel : Nat) : Prop where
  value : ∀ {input rest}, Skip.valueAt fuel input = .ok rest → Taken Text input rest
  items : ∀ {first input rest}, Skip.items fuel first input = .ok rest →
    ∃ items, Taken (Items first items) input rest
  members : ∀ {first input rest}, Skip.members fuel first input = .ok rest →
    ∃ members, Taken (Members first members) input rest

section step
variable {fuel : Nat} {first : Bool} {input rest : Bytes} (before : Sound fuel)
include before

theorem sound_value (read : Skip.valueAt (fuel + 1) input = .ok rest) : Taken Text input rest := by
  cases input with
  | nil => cases read
  | cons b input =>
    unfold Skip.valueAt at read
    -- One case for each first byte that a value can have.
    split at read
    · rename_i same
      exact ⟨ascii "null", .null, by rw [same, of_keyword read]; rfl⟩
    split at read
    · rename_i same
      exact ⟨ascii "true", .yes, by rw [same, of_keyword read]; rfl⟩
    split at read
    · rename_i same
      exact ⟨ascii "false", .no, by rw [same, of_keyword read]; rfl⟩
    split at read
    · rename_i same
      exact taken_cons ((taken_magnitude read).imp fun _ valid => same ▸ .minus valid)
    split at read
    · exact (taken_magnitude read).imp fun _ valid => .plus valid
    split at read
    · rename_i same
      exact taken_cons ((taken_body read).imp fun _ valid => same ▸ .quote ⟨_, valid, rfl⟩)
    split at read
    · rename_i same
      obtain ⟨items, taken⟩ := before.items read
      exact taken_cons (taken.imp fun _ listed => same ▸ .array listed)
    split at read
    · rename_i same
      obtain ⟨members, taken⟩ := before.members read
      exact taken_cons (taken.imp fun _ listed => same ▸ .object listed)
    · cases read

theorem sound_items (read : Skip.items (fuel + 1) first input = .ok rest) :
    ∃ items, Taken (Items first items) input rest := by
  unfold Skip.items at read
  obtain ⟨going, found, read⟩ := bind_eq_ok.mp read
  cases going with
  | ended after =>
    cases read
    obtain ⟨pad, blank, rfl⟩ := of_next_ended found
    exact ⟨[], pad ++ [93], .close blank, by simp⟩
  | more after =>
    obtain ⟨after', item, later⟩ := bind_eq_ok.mp read
    obtain ⟨lead, opens, rfl⟩ := of_next_more found
    obtain ⟨text, valid, rfl⟩ := before.value item
    obtain ⟨items, texts, listed, rfl⟩ := before.items later
    exact ⟨text :: items, _, .item opens valid listed, by simp⟩

theorem sound_members (read : Skip.members (fuel + 1) first input = .ok rest) :
    ∃ members, Taken (Members first members) input rest := by
  unfold Skip.members at read
  obtain ⟨going, found, read⟩ := bind_eq_ok.mp read
  cases going with
  | ended after =>
    cases read
    obtain ⟨pad, blank, rfl⟩ := of_next_ended found
    exact ⟨[], pad ++ [125], .close blank, by simp⟩
  | more after =>
    dsimp only at read
    split at read
    · obtain ⟨named, key, read⟩ := bind_eq_ok.mp read
      obtain ⟨parted, stop, read⟩ := bind_eq_ok.mp read
      obtain ⟨valued, value, later⟩ := bind_eq_ok.mp read
      obtain ⟨lead, opens, rfl⟩ := of_next_more found
      obtain ⟨body, closed, rfl⟩ := taken_body key
      obtain ⟨pad, blank, rfl⟩ := of_colon stop
      obtain ⟨pad', blank', split⟩ := taken_blanks parted
      obtain ⟨text, valid, split'⟩ := before.value value
      obtain ⟨members, texts, listed, rfl⟩ := before.members later
      rw [split'] at split
      exact ⟨_, _, .member opens ⟨body, closed, rfl⟩ blank blank' valid listed, by simp [split]⟩
    · cases read

end step

theorem sound (fuel : Nat) : Sound fuel := by
  induction fuel with
  | zero => exact ⟨nofun, nofun, nofun⟩
  | succ fuel ih => exact ⟨sound_value ih, sound_items ih, sound_members ih⟩

end TunnelSoak.Json.Grammar
