import TunnelSoak.Json.Record
import TunnelSoak.Proofs.Json.Grammar

/-! What is read has the shape of its reader. Whatever a reader takes as a value is passed over
too, so it is one; a record is an object whose members, or an array whose items, store what its
fields hold. -/
namespace TunnelSoak.Json.Grammar

section contents
variable {rest : Bytes}

/-- One character: it is passed over, and stands for these bytes, whatever follows. -/
def Resolves (character bytes : Bytes) : Prop :=
  ∀ rest, Quoted.skip (character ++ rest) = Quoted.skip rest ∧
    Quoted.contents (character ++ rest) =
      (Quoted.contents rest).map fun (more, rest) => (bytes ++ more, rest)

theorem resolves_plain {b : UInt8} (quote : b ≠ 34) (slash : b ≠ 92) (visible : ¬ b < 32) :
    Resolves [b] [b] := by
  refine fun rest => ⟨?_, Quoted.contents_plain rest quote slash visible⟩
  rw [List.singleton_append, Quoted.skip.eq_def]
  simp only [quote, slash, visible, if_false]

theorem resolves_letter {letter b : UInt8} (other : letter ≠ 117)
    (simple : Quoted.simpleEscape letter = some b) : Resolves [92, letter] [b] := by
  refine fun rest => ⟨?_, Quoted.contents_letter rest other simple⟩
  change Quoted.skip (92 :: letter :: rest) = _
  rw [Quoted.skip.eq_def]
  simp [other, simple]

theorem skip_unit {a b c d : UInt8} {point : Nat} (read : Quoted.unit a b c d = some point) :
    Quoted.skip (92 :: 117 :: a :: b :: c :: d :: rest) = Quoted.skip rest := by
  rw [Quoted.skip.eq_def]
  simp [read]

theorem resolves_unit {a b c d : UInt8} {point : Nat} (read : Quoted.unit a b c d = some point)
    (lone : Quoted.isTrailing point = false ∧ Quoted.isLeading point = false) :
    Resolves [92, 117, a, b, c, d] (Quoted.encodePoint point) :=
  fun rest => ⟨skip_unit read, Quoted.contents_unit rest read lone⟩

theorem resolves_pair {a b c d a' b' c' d' : UInt8} {first second : Nat}
    (leads : Quoted.unit a b c d = some first) (trails : Quoted.unit a' b' c' d' = some second)
    (leading : Quoted.isTrailing first = false ∧ Quoted.isLeading first = true)
    (trailing : Quoted.isTrailing second = true) :
    Resolves [92, 117, a, b, c, d, 92, 117, a', b', c', d']
      (Quoted.encodePoint (Quoted.codePoint first second)) := by
  refine fun rest => ⟨(skip_unit leads).trans (skip_unit trails), ?_⟩
  change Quoted.contents
    (92 :: 117 :: a :: b :: c :: d :: 92 :: 117 :: a' :: b' :: c' :: d' :: rest) = _
  rw [Quoted.contents.eq_def]
  simp only [leads, trails, leading.1, leading.2, trailing, if_true, if_false, Bool.false_eq_true,
    ne_eq, not_true_eq_false, show ¬ (92 : UInt8) = 34 by decide]

/-- A text that has been read: it is passed over too, and it is read alone as it is with what
follows. -/
structure Apart (input bytes rest : Bytes) : Prop where
  skipped : Quoted.skip input = .ok rest
  alone : ∃ body, Quoted.contents body = .ok (bytes, []) ∧ input = body ++ rest

theorem Resolves.apart {character bytes all input : Bytes} (resolves : Resolves character bytes)
    (later : ∀ {more}, Quoted.contents input = .ok (more, rest) → Apart input more rest)
    (read : ((Quoted.contents input).map fun (more, rest) => (bytes ++ more, rest)) =
      .ok (all, rest)) : Apart (character ++ input) all rest := by
  obtain ⟨⟨more, after⟩, inner, made⟩ := map_eq_ok.mp read
  obtain ⟨rfl, rfl⟩ := Prod.mk.inj made
  obtain ⟨skipped, body, alone, rfl⟩ := later inner
  refine ⟨(resolves _).1.trans skipped, character ++ body, ?_, (List.append_assoc _ _ _).symm⟩
  rw [(resolves body).2, alone]
  rfl

theorem apart_of_contents {input bytes : Bytes}
    (read : Quoted.contents input = .ok (bytes, rest)) : Apart input bytes rest := by
  fun_induction Quoted.contents input generalizing bytes with
  | case2 tail =>
    cases read
    exact ⟨by rw [Quoted.skip.eq_def]; rfl, [34], by rw [Quoted.contents.eq_def]; rfl, rfl⟩
  | case11 a b c d first leads plain leading slash isSlash letter isLetter a' b' c' d' tail second
      trails trailing _ ih =>
    obtain rfl := not_not.mp isSlash
    obtain rfl := not_not.mp isLetter
    exact (resolves_pair leads trails ⟨Bool.eq_false_iff.mpr plain, leading⟩ trailing).apart ih read
  | case14 a b c d tail point unit plain lone _ ih =>
    exact (resolves_unit unit
      ⟨Bool.eq_false_iff.mpr plain, Bool.eq_false_iff.mpr lone⟩).apart ih read
  | case17 letter tail other byte simple _ ih => exact (resolves_letter other simple).apart ih read
  | case19 b tail quote slash visible ih =>
    exact (resolves_plain quote slash visible).apart ih read
  | _ => cases read

end contents

section exponent
variable {e : UInt8} {input : Bytes} (letter : e = 101 ∨ e = 69)
  (plus : ∀ rest, input = 43 :: rest → False) (minus : ∀ rest, input = 45 :: rest → False)
include letter plus minus

theorem exponentPart_unsigned : Numeral.exponentPart (e :: input) =
    (Numeral.someDigits input).map fun (ds, rest) => (some (Numeral.ofDigits ds : Int), rest) := by
  refine (if_pos letter).trans ?_
  split
  · exact (plus _ rfl).elim
  · exact (minus _ rfl).elim
  · rfl

theorem skip_exponent_unsigned : Skip.exponent (e :: input) = Skip.someDigits input := by
  refine (if_pos letter).trans ?_
  split
  · exact (plus _ rfl).elim
  · exact (minus _ rfl).elim
  · rfl

end exponent

section read
variable {input rest : Bytes}

def Means (text : Bytes) (meaning : String) : Prop :=
  ∃ body, text = 34 :: body ∧ Quoted.decode body = .ok (meaning, [])

theorem skip_of_decode {text : String} (read : Quoted.decode input = .ok (text, rest)) :
    Quoted.skip input = .ok rest ∧
      ∃ body, Quoted.decode body = .ok (text, []) ∧ input = body ++ rest := by
  unfold Quoted.decode at read
  split at read
  · cases read
  rename_i bytes after found
  split at read
  · rename_i given
    cases read
    obtain ⟨skipped, body, alone, split⟩ := apart_of_contents found
    refine ⟨skipped, body, ?_, split⟩
    rw [Quoted.decode, alone]
    simp only [given]
  · cases read

theorem Means.quote {text : Bytes} {meaning : String} (means : Means text meaning) :
    Quote text := by
  obtain ⟨body, rfl, read⟩ := means
  obtain ⟨valid, whole, split⟩ := taken_body (skip_of_decode read).1
  rw [List.append_nil] at split
  exact ⟨body, split ▸ whole, rfl⟩

theorem skip_of_someDigits {ds : List Nat} (read : Numeral.someDigits input = .ok (ds, rest)) :
    Skip.someDigits input = .ok rest := by
  rw [Skip.someDigits, read]

theorem skip_of_exponentPart {exponent : Option Int}
    (read : Numeral.exponentPart input = .ok (exponent, rest)) :
    Skip.exponent input = .ok rest := by
  fun_cases Numeral.exponentPart input with
  | case1 =>
    cases read
    rfl
  | case2 e letter tail =>
    obtain ⟨⟨ds, after⟩, found, made⟩ := map_eq_ok.mp ((if_pos letter).symm.trans read)
    cases made
    exact (if_pos letter).trans (skip_of_someDigits found)
  | case3 e letter tail =>
    obtain ⟨⟨ds, after⟩, found, made⟩ := map_eq_ok.mp ((if_pos letter).symm.trans read)
    cases made
    exact (if_pos letter).trans (skip_of_someDigits found)
  | case4 e tail letter plus minus =>
    rw [exponentPart_unsigned letter plus minus] at read
    obtain ⟨⟨ds, after⟩, found, made⟩ := map_eq_ok.mp read
    cases made
    exact (skip_exponent_unsigned letter plus minus).trans (skip_of_someDigits found)
  | case5 e tail other =>
    cases (if_neg other).symm.trans read
    exact if_neg other

theorem skip_of_numeral {negative : Bool} {numeral : Numeral}
    (read : Numeral.read negative input = .ok (numeral, rest)) : Skip.number input = .ok rest := by
  obtain ⟨⟨whole, after⟩, found, read⟩ := bind_eq_ok.mp read
  obtain ⟨⟨fraction, after'⟩, point, read⟩ := bind_eq_ok.mp read
  obtain ⟨⟨exponent, after''⟩, power, made⟩ := bind_eq_ok.mp read
  cases made
  unfold Numeral.fractionPart at point
  rw [Skip.number, found]
  dsimp only at point
  split at point
  · obtain ⟨⟨ds, rest⟩, digits, made⟩ := map_eq_ok.mp point
    cases made
    change (Skip.someDigits _).bind _ = _
    rw [skip_of_someDigits digits]
    exact skip_of_exponentPart power
  · rename_i no_point
    cases point
    split
    · cases ‹_›
    · cases ‹_›
      exact absurd rfl (no_point _)
    · cases ‹_›
      exact skip_of_exponentPart power

theorem skip_of_readNumber {negative : Bool} {n : Number}
    (read : readNumber negative input = .ok (n, rest)) : Skip.number input = .ok rest := by
  obtain ⟨⟨numeral, after⟩, found, value⟩ := bind_eq_ok.mp read
  dsimp only at value
  split at value
  · cases value
    exact skip_of_numeral found
  · cases value

end read

theorem of_key {input after : Bytes} {name : String} (read : key input = .ok (name, after)) :
    ∃ tail, input = 34 :: tail ∧ Quoted.decode tail = .ok (name, after) := by
  unfold key at read
  split at read
  · cases read
  split at read
  · rename_i same
    exact ⟨_, by rw [same], read⟩
  · cases read

structure Skips (fuel : Nat) : Prop where
  value : ∀ {depth input v rest}, valueAt fuel depth input = .ok (v, rest) →
    Skip.valueAt fuel input = .ok rest
  items : ∀ {depth first input vs rest}, items fuel depth first input = .ok (vs, rest) →
    Skip.items fuel first input = .ok rest
  members : ∀ {depth first input ms rest}, members fuel depth first input = .ok (ms, rest) →
    Skip.members fuel first input = .ok rest

section step
variable {fuel depth : Nat} {first : Bool} {input rest : Bytes} (before : Skips fuel)
include before

theorem skips_value {v : Value} (read : valueAt (fuel + 1) depth input = .ok (v, rest)) :
    Skip.valueAt (fuel + 1) input = .ok rest := by
  cases input with
  | nil => cases read
  | cons b input =>
    unfold valueAt at read
    unfold Skip.valueAt
    -- Both readers tell the kinds of value apart by the same first byte.
    split at read
    · obtain ⟨after, word, made⟩ := map_eq_ok.mp read
      cases made
      rwa [if_pos ‹b = 110›]
    rw [if_neg ‹¬ b = 110›]
    split at read
    · obtain ⟨after, word, made⟩ := map_eq_ok.mp read
      cases made
      rwa [if_pos ‹b = 116›]
    rw [if_neg ‹¬ b = 116›]
    split at read
    · obtain ⟨after, word, made⟩ := map_eq_ok.mp read
      cases made
      rwa [if_pos ‹b = 102›]
    rw [if_neg ‹¬ b = 102›]
    split at read
    · obtain ⟨⟨n, after⟩, number, made⟩ := map_eq_ok.mp read
      cases made
      rw [if_pos ‹b = 45›]
      exact skip_of_readNumber number
    rw [if_neg ‹¬ b = 45›]
    split at read
    · obtain ⟨⟨n, after⟩, number, made⟩ := map_eq_ok.mp read
      cases made
      rw [if_pos ‹Numeral.isDigit b = true›]
      exact skip_of_readNumber number
    rw [if_neg ‹¬ Numeral.isDigit b = true›]
    split at read
    · obtain ⟨⟨text, after⟩, quote, made⟩ := map_eq_ok.mp read
      cases made
      rw [if_pos ‹b = 34›]
      exact (skip_of_decode quote).1
    rw [if_neg ‹¬ b = 34›]
    split at read
    · rw [if_pos ‹b = 91›]
      cases depth with
      | zero => cases read
      | succ depth =>
        obtain ⟨⟨vs, after⟩, listed, made⟩ := map_eq_ok.mp read
        cases made
        exact before.items listed
    rw [if_neg ‹¬ b = 91›]
    split at read
    · rw [if_pos ‹b = 123›]
      cases depth with
      | zero => cases read
      | succ depth =>
        obtain ⟨⟨ms, after⟩, listed, made⟩ := map_eq_ok.mp read
        cases made
        exact before.members listed
    · cases read

theorem skips_items {vs : List Value}
    (read : items (fuel + 1) depth first input = .ok (vs, rest)) :
    Skip.items (fuel + 1) first input = .ok rest := by
  unfold Json.items at read
  unfold Skip.items
  obtain ⟨going, found, read⟩ := bind_eq_ok.mp read
  rw [found, ok_bind]
  cases going with
  | ended after =>
    cases read
    rfl
  | more after =>
    obtain ⟨⟨v, after⟩, item, read⟩ := bind_eq_ok.mp read
    obtain ⟨⟨vs, after⟩, later, made⟩ := bind_eq_ok.mp read
    cases made
    simp only [before.value item, ok_bind, before.items later]

theorem skips_members {ms : List (String × Value)}
    (read : members (fuel + 1) depth first input = .ok (ms, rest)) :
    Skip.members (fuel + 1) first input = .ok rest := by
  unfold Json.members at read
  unfold Skip.members
  obtain ⟨going, found, read⟩ := bind_eq_ok.mp read
  rw [found, ok_bind]
  cases going with
  | ended after =>
    cases read
    rfl
  | more after =>
    obtain ⟨⟨name, named⟩, key, read⟩ := bind_eq_ok.mp read
    obtain ⟨parted, stop, read⟩ := bind_eq_ok.mp read
    obtain ⟨⟨v, valued⟩, value, read⟩ := bind_eq_ok.mp read
    obtain ⟨⟨ms, after⟩, later, made⟩ := bind_eq_ok.mp read
    cases made
    obtain ⟨tail, rfl, decoded⟩ := of_key key
    simp only [(skip_of_decode decoded).1, stop, before.value value, ok_bind,
      before.members later]

end step

theorem skips (fuel : Nat) : Skips fuel := by
  induction fuel with
  | zero => exact ⟨nofun, nofun, nofun⟩
  | succ fuel ih => exact ⟨skips_value ih, skips_items ih, skips_members ih⟩

def ObjectOf (members : List (Bytes × Bytes)) (text : Bytes) : Prop :=
  ∃ body, Members true members body ∧ text = 123 :: body

def ArrayOf (items : List Bytes) (text : Bytes) : Prop :=
  ∃ body, Items true items body ∧ text = 91 :: body

theorem ObjectOf.text {members : List (Bytes × Bytes)} {text : Bytes}
    (object : ObjectOf members text) : Text text := by
  obtain ⟨body, listed, rfl⟩ := object
  exact .object listed

/-- A text of the language after blanks, as a decoder takes it from its input. -/
def Padded (language : Bytes → Prop) (input rest : Bytes) : Prop :=
  ∃ pad, Blank pad ∧ ∃ after, Taken language after rest ∧ input = pad ++ after

section decoders
variable {language other : Bytes → Prop} {depth : Nat} {input rest : Bytes}

theorem Padded.of_skipBlanks (taken : Taken language (skipBlanks input) rest) :
    Padded language input rest := by
  obtain ⟨pad, blank, split⟩ := taken_blanks input
  exact ⟨pad, blank, _, taken, split⟩

theorem Padded.imp (padded : Padded language input rest)
    (wider : ∀ text, language text → other text) : Padded other input rest := by
  obtain ⟨pad, blank, after, taken, split⟩ := padded
  exact ⟨pad, blank, after, taken.imp wider, split⟩

theorem Padded.before (padded : Padded language (skipBlanks input) rest) :
    Padded language input rest := by
  obtain ⟨pad, blank, split⟩ := taken_blanks input
  obtain ⟨pad', blank', after, taken, split'⟩ := padded
  rw [split', ← List.append_assoc] at split
  exact ⟨pad ++ pad', List.forall_mem_append.mpr ⟨blank, blank'⟩, after, taken, split⟩

theorem padded_value (read : Skip.value input = .ok rest) : Padded Text input rest :=
  .of_skipBlanks ((sound _).value read)

theorem taken_means {name : String} (read : Quoted.decode input = .ok (name, rest)) :
    Taken (Means · name) (34 :: input) rest := by
  obtain ⟨-, body, again, rfl⟩ := skip_of_decode read
  exact ⟨34 :: body, ⟨body, rfl, again⟩, rfl⟩

theorem padded_string {name : String} (read : string depth input = .ok (name, rest)) :
    Padded (Means · name) input rest := by
  refine .of_skipBlanks ?_
  unfold string stringAt at read
  split at read
  · rename_i found
    rw [found]
    exact taken_means read
  · cases read

theorem padded_freeObject {ms : Json.Members} (read : freeObject depth input = .ok (ms, rest)) :
    ∃ members, Padded (ObjectOf members) input rest := by
  unfold freeObject at read
  split at read
  · rename_i found
    cases depth with
    | zero => cases read
    | succ depth =>
      obtain ⟨⟨given, after⟩, listed, made⟩ := map_eq_ok.mp read
      cases made
      obtain ⟨members, body, valid, rfl⟩ := (sound _).members ((skips _).members listed)
      exact ⟨members, .of_skipBlanks ⟨_, ⟨body, valid, rfl⟩, found⟩⟩
  · cases read

def NullOrQuote (text : Bytes) : Prop := text = ascii "null" ∨ ∃ meaning, Means text meaning

theorem NullOrQuote.text {text : Bytes} (optional : NullOrQuote text) : Text text := by
  rcases optional with rfl | ⟨meaning, means⟩
  · exact .null
  · exact .quote means.quote

theorem padded_optional {name : Option String}
    (read : optional string depth input = .ok (name, rest)) : Padded NullOrQuote input rest := by
  unfold optional at read
  split at read
  · rename_i found
    obtain ⟨after, word, made⟩ := map_eq_ok.mp read
    cases made
    refine .of_skipBlanks ⟨ascii "null", .inl rfl, ?_⟩
    rw [found, of_keyword word]
    rfl
  · obtain ⟨⟨text, after⟩, given, made⟩ := map_eq_ok.mp read
    cases made
    exact (padded_string given).before.imp fun _ means => .inr ⟨text, means⟩

end decoders

section record
variable {σ : Type}

/-- Members that are stored one after the other, each under the name that its key means; the
others are passed over. -/
inductive Filled (Stores : String → σ → Bytes → σ → Prop) : σ → List (Bytes × Bytes) → σ → Prop
  | nil (draft : σ) : Filled Stores draft [] draft
  | known {draft next last : σ} {key text : Bytes} {name : String}
    {members : List (Bytes × Bytes)} (named : Means key name)
    (stored : Stores name draft text next) (later : Filled Stores next members last) :
    Filled Stores draft ((key, text) :: members) last
  | other {draft last : σ} {member : Bytes × Bytes} {members : List (Bytes × Bytes)}
    (later : Filled Stores draft members last) : Filled Stores draft (member :: members) last

inductive Placed (Stores : String → σ → Bytes → σ → Prop) :
    List String → σ → List Bytes → σ → Prop
  | nil (names : List String) (draft : σ) : Placed Stores names draft [] draft
  | item {draft next last : σ} {text : Bytes} {name : String} {names : List String}
    {items : List Bytes} (stored : Stores name draft text next)
    (later : Placed Stores names next items last) :
    Placed Stores (name :: names) draft (text :: items) last

section fields
variable {fields : List (Field σ)} {Stores : String → σ → Bytes → σ → Prop} {depth fuel : Nat}
  {first : Bool} {draft last : σ} {input rest : Bytes}
  (stores : ∀ field ∈ fields, ∀ {draft input next rest},
    field.read depth draft input = .ok (next, rest) →
      Padded (fun text => Text text ∧ Stores field.name draft text next) input rest)
include stores

theorem filled_of_namedFields
    (read : namedFields fields depth fuel first draft input = .ok (last, rest)) :
    ∃ members, Taken (Members first members) input rest ∧ Filled Stores draft members last := by
  induction fuel generalizing first draft input with
  | zero => cases read
  | succ fuel ih =>
    unfold namedFields at read
    obtain ⟨going, found, read⟩ := bind_eq_ok.mp read
    cases going with
    | ended after =>
      cases read
      obtain ⟨pad, blank, rfl⟩ := of_next_ended found
      exact ⟨[], ⟨pad ++ [125], .close blank, by simp⟩, .nil _⟩
    | more after =>
      obtain ⟨⟨name, named⟩, key, stored⟩ := bind_eq_ok.mp read
      obtain ⟨lead, opens, split⟩ := of_next_more found
      obtain ⟨tail, quoted, decoded⟩ := of_key key
      obtain ⟨keyText, means, split'⟩ := taken_means decoded
      rw [quoted, split'] at split
      dsimp only at stored
      split at stored
      · rename_i field known
        split at stored
        · cases stored
        · obtain ⟨parted, stop, stored⟩ := bind_eq_ok.mp stored
          obtain ⟨⟨next, valued⟩, value, later⟩ := bind_eq_ok.mp stored
          obtain ⟨members, ⟨texts, listed, rfl⟩, filled⟩ := ih later
          obtain ⟨pad, blank, rfl⟩ := of_colon stop
          obtain ⟨pad', blank', after, ⟨text, ⟨valid, given⟩, rfl⟩, rfl⟩ :=
            stores field (List.mem_of_find?_eq_some known) value
          have same : field.name = name := by simpa using List.find?_some known
          exact ⟨(keyText, text) :: members,
            ⟨_, .member opens means.quote blank blank' valid listed, by simp [split]⟩,
            .known means (same ▸ given) filled⟩
      · obtain ⟨parted, stop, stored⟩ := bind_eq_ok.mp stored
        obtain ⟨valued, value, later⟩ := bind_eq_ok.mp stored
        obtain ⟨members, ⟨texts, listed, rfl⟩, filled⟩ := ih later
        obtain ⟨pad, blank, rfl⟩ := of_colon stop
        obtain ⟨pad', blank', after, ⟨text, valid, rfl⟩, rfl⟩ := padded_value value
        exact ⟨(keyText, text) :: members,
          ⟨_, .member opens means.quote blank blank' valid listed, by simp [split]⟩,
          .other filled⟩

theorem placed_of_orderedFields
    (read : orderedFields depth fields first draft input = .ok (last, rest)) :
    ∃ items, Taken (Items first items) input rest ∧
      Placed Stores (fields.map Field.name) draft items last := by
  induction fields generalizing first draft input with
  | nil =>
    obtain ⟨pad, blank, split⟩ := taken_blanks input
    unfold orderedFields at read
    split at read
    · cases read
    rename_i found
    split at read
    · rename_i same
      cases read
      rw [found, same] at split
      exact ⟨[], ⟨pad ++ [93], .close blank, by simp [split]⟩, .nil [] _⟩
    · cases read
  | cons field fields ih =>
    obtain ⟨here, later⟩ := List.forall_mem_cons.mp stores
    unfold orderedFields at read
    obtain ⟨going, found, read⟩ := bind_eq_ok.mp read
    cases going with
    | ended after =>
      cases read
      obtain ⟨pad, blank, rfl⟩ := of_next_ended found
      exact ⟨[], ⟨pad ++ [93], .close blank, by simp⟩, .nil _ _⟩
    | more after =>
      obtain ⟨⟨next, valued⟩, value, others⟩ := bind_eq_ok.mp read
      obtain ⟨items, ⟨texts, listed, rfl⟩, placed⟩ := ih later others
      obtain ⟨lead, opens, rfl⟩ := of_next_more found
      obtain ⟨pad, blank, after, ⟨text, ⟨valid, stored⟩, rfl⟩, rfl⟩ := here value
      exact ⟨text :: items, ⟨_, .item (opens.append blank) valid listed, by simp⟩,
        .item stored placed⟩

/-- A record is an object whose members fill its draft, or an array whose items do. -/
theorem padded_record {α : Type} {start : σ} {finish : σ → Option α} {a : α}
    (read : record fields start finish (depth + 1) input = .ok (a, rest)) :
    ∃ last, finish last = some a ∧
      Padded (fun text => (∃ members, ObjectOf members text ∧ Filled Stores start members last) ∨
        ∃ items, ArrayOf items text ∧ Placed Stores (fields.map Field.name) start items last)
        input rest := by
  unfold record at read
  dsimp only at read
  split at read
  · cases read
  rename_i b after found
  split at read
  · rename_i same
    obtain ⟨⟨last, after'⟩, listed, read⟩ := bind_eq_ok.mp read
    dsimp only at read
    split at read
    · rename_i finished
      cases read
      obtain ⟨members, ⟨body, valid, rfl⟩, filled⟩ := filled_of_namedFields stores listed
      refine ⟨last, finished, .of_skipBlanks ⟨123 :: body, .inl ⟨members, ?_, filled⟩, ?_⟩⟩
      · exact ⟨body, valid, rfl⟩
      · rw [found, same, List.cons_append]
    · cases read
  split at read
  · rename_i same
    obtain ⟨⟨last, after'⟩, listed, read⟩ := bind_eq_ok.mp read
    dsimp only at read
    split at read
    · rename_i finished
      cases read
      obtain ⟨items, ⟨body, valid, rfl⟩, placed⟩ := placed_of_orderedFields stores listed
      refine ⟨last, finished, .of_skipBlanks ⟨91 :: body, .inr ⟨items, ?_, placed⟩, ?_⟩⟩
      · exact ⟨body, valid, rfl⟩
      · rw [found, same, List.cons_append]
    · cases read
  · cases read

end fields

end record

end TunnelSoak.Json.Grammar
