import TunnelSoak.Proofs.Json.Passing
import TunnelSoak.Proofs.Json.Record

/-! What a record takes from an object. Blanks may stand between the parts of the object and its
keys may be spelled in any way: a member is stored by the field of its name, passed over where no
field has the name, and refused where the field has been given. An object that is written has no
blanks, and is one of these. -/
namespace TunnelSoak.Json.Grammar

section key
variable {rest : Bytes}

theorem Resolves.append {character bytes all input left : Bytes}
    (resolves : Resolves character bytes)
    (later : ∀ {more}, Quoted.contents input = .ok (more, left) →
      Quoted.contents (input ++ rest) = .ok (more, left ++ rest))
    (read : ((Quoted.contents input).map fun (more, rest) => (bytes ++ more, rest)) =
      .ok (all, left)) :
    Quoted.contents (character ++ input ++ rest) = .ok (all, left ++ rest) := by
  obtain ⟨⟨more, after⟩, inner, made⟩ := map_eq_ok.mp read
  obtain ⟨rfl, rfl⟩ := Prod.mk.inj made
  rw [List.append_assoc, (resolves _).2, later inner]
  rfl

theorem contents_append {input bytes left : Bytes}
    (read : Quoted.contents input = .ok (bytes, left)) :
    Quoted.contents (input ++ rest) = .ok (bytes, left ++ rest) := by
  fun_induction Quoted.contents input generalizing bytes with
  | case2 tail =>
    cases read
    rw [List.cons_append, Quoted.contents.eq_def]
    rfl
  | case11 a b c d first leads plain leading slash isSlash letter isLetter a' b' c' d' tail second
      trails trailing _ ih =>
    obtain rfl := not_not.mp isSlash
    obtain rfl := not_not.mp isLetter
    exact (resolves_pair leads trails ⟨Bool.eq_false_iff.mpr plain, leading⟩ trailing).append ih
      read
  | case14 a b c d tail point unit plain lone _ ih =>
    exact (resolves_unit unit
      ⟨Bool.eq_false_iff.mpr plain, Bool.eq_false_iff.mpr lone⟩).append ih read
  | case17 letter tail other byte simple _ ih => exact (resolves_letter other simple).append ih read
  | case19 b tail quote slash visible ih =>
    exact (resolves_plain quote slash visible).append ih read
  | _ => cases read

theorem Means.key {text : Bytes} {meaning : String} (means : Means text meaning) :
    Json.key (text ++ rest) = .ok (meaning, rest) := by
  obtain ⟨body, rfl, read⟩ := means
  change Quoted.decode (body ++ rest) = _
  unfold Quoted.decode at read
  split at read
  · cases read
  · rename_i found
    split at read
    · cases read
      rw [Quoted.decode, contents_append found]
      simp only [‹text? _ = some _›, List.nil_append]
    · cases read

end key

theorem blank_nil : Blank [] := List.forall_mem_nil _

section blanks
variable {depth : Nat} {pad : Bytes} (blank : Blank pad) (input : Bytes)
include blank

theorem count_blanks : count depth (pad ++ input) = count depth input := by
  rw [count, count, skipBlanks_append blank]

theorem choice_blanks {α : Type} {parse : String → Option α} :
    choice parse depth (pad ++ input) = choice parse depth input := by
  unfold choice
  rw [skipBlanks_append blank]

theorem record_blanks {α σ : Type} {fields : List (Field σ)} {start : σ} {finish : σ → Option α} :
    record fields start finish depth (pad ++ input) = record fields start finish depth input := by
  unfold record
  rw [skipBlanks_append blank]

end blanks

section namedFields
variable {σ : Type} {fields : List (Field σ)} {depth fuel : Nat} {first : Bool} {draft : σ}
  {keyText text body rest : Bytes} {name : String}

/-- What becomes of a member is settled by its name, and the members after it are read from what
is left of the object. -/
theorem namedFields_cons {members : List (Bytes × Bytes)}
    (listed : Members first ((keyText, text) :: members) body) (named : Means keyText name) :
    ∃ pad later, Blank pad ∧ Text text ∧ Members false members later ∧
      later.length < body.length ∧ ∀ fuel draft rest,
        namedFields fields depth (fuel + 1) first draft (body ++ rest) =
          match fields.find? fun field => field.name = name with
          | some field =>
            if field.given draft then .error .mismatch
            else (field.read depth draft (pad ++ (text ++ (later ++ rest)))).bind
              fun (draft, rest) => namedFields fields depth fuel false draft rest
          | none => (Skip.value (pad ++ (text ++ (later ++ rest)))).bind
            (namedFields fields depth fuel false draft) := by
  cases listed with
  | @member _ lead _ parted pad _ later _ opens _ blank blank' valid listed =>
    refine ⟨pad, later, blank', valid, listed, ?_, fun fuel draft rest => ?_⟩
    · simp only [List.length_append, List.length_cons]
      omega
    · have read (after : Bytes) : Json.key (keyText ++ after) = .ok (name, after) := named.key
      obtain ⟨quoted, rfl, -⟩ := named
      simp only [List.append_assoc, List.cons_append] at read ⊢
      rw [namedFields, next_more opens (by decide) (by decide) (by decide)]
      simp only [ok_bind, read, colon_append blank]
      rfl

theorem namedFields_ended {pad : Bytes} (blank : Blank pad) :
    namedFields fields depth (fuel + 1) first draft (pad ++ 125 :: rest) = .ok (draft, rest) := by
  rw [namedFields, next_ended blank (by decide)]
  rfl

end namedFields

section document
variable {α σ : Type} {fields : List (Field σ)} {start : σ} {finish : σ → Option α}
  {members : List (Bytes × Bytes)} {raw : Bytes} {result : Except Fault σ}

theorem document_record (object : Document (ObjectOf members) raw)
    (read : ∀ {fuel body after}, Members true members body → body.length < fuel →
      namedFields fields 126 fuel true start (body ++ after) = result.map (·, after)) :
    document (record fields start finish) raw =
      result.bind fun draft => (finish draft).elim (.error .mismatch) .ok := by
  obtain ⟨before, text, after, blank, ⟨body, listed, rfl⟩, blank', rfl⟩ := object
  have enough : body.length < (body ++ after).length + 1 := by
    rw [List.length_append]
    omega
  have inner : namedFields fields 126 _ true start (body ++ after) = result.map (·, after) :=
    read listed enough
  have ended : skipBlanks after = [] := List.dropWhile_eq_nil_iff.mpr blank'
  rw [document, depthLimit, record_blanks blank, record, List.cons_append,
    skipBlanks_cons (by decide)]
  dsimp only
  rw [if_pos rfl, inner]
  cases result with
  | error fault => rfl
  | ok draft =>
    simp only [Except.map, Except.bind, ok_bind]
    cases finish draft with
    | none => rfl
    | some a => simp only [ok_bind, ended, Option.elim]

theorem Document.alone {language : Bytes → Prop} {text : Bytes} (valid : language text) :
    Document language text :=
  ⟨[], text, [], blank_nil, valid, blank_nil, (List.append_nil text).symm⟩

end document

section written
variable {text : Bytes}

theorem means_encode (meaning : String) : Means (Quoted.encode meaning) meaning := by
  have read := Quoted.decode_afterQuote [] meaning
  rw [List.append_nil] at read
  exact ⟨Quoted.afterQuote meaning, Quoted.encode_eq meaning, read⟩

theorem text_written (n : Nat) : Text (Numeral.written n) :=
  .plus ⟨_, [], [], Numeral.isWhole_written n, .none, .none, (List.append_nil _).symm⟩

theorem text_of_skip {fuel : Nat} (read : Skip.valueAt fuel text = .ok []) : Text text := by
  obtain ⟨whole, valid, split⟩ := (sound fuel).value read
  rw [List.append_nil] at split
  exact split ▸ valid

theorem text_of_lawful {depth : Nat} {v : Value} (lawful : v.Lawful Number.IsWhole depth) :
    Text v.encode := by
  have read := reads_of_lawful lawful _ [] (Nat.lt_succ_self _) rfl
  rw [List.append_nil] at read
  exact text_of_skip ((skips _).value read)

def spelled (members : List (String × Bytes)) : List (Bytes × Bytes) :=
  members.map fun member => (Quoted.encode member.1, member.2)

theorem members_listed {members : List (String × Bytes)} (valid : ∀ m ∈ members, Text m.2)
    (first : Bool) :
    Members first (spelled members) (listed first (members.map memberText) ++ [125]) := by
  induction members generalizing first with
  | nil => exact .close blank_nil
  | cons member members ih =>
    obtain ⟨here, later⟩ := List.forall_mem_cons.mp valid
    have opens : Lead first (Json.lead first) := by
      cases first with
      | true => exact .first blank_nil
      | false => exact (Lead.comma blank_nil blank_nil : Lead false ([] ++ 44 :: []))
    rw [List.map_cons, listed, List.append_assoc, List.append_assoc, memberText, List.append_assoc,
      List.cons_append]
    exact Members.member opens (means_encode member.1).quote blank_nil blank_nil here
      (ih later false)

theorem objectOf_spelled {members : List (String × Bytes)} (valid : ∀ m ∈ members, Text m.2) :
    ObjectOf (spelled members) (objectOf members) :=
  ⟨_, members_listed valid true, objectOf_eq members⟩

theorem text_members {ms : Json.Members} {depth : Nat}
    (within : ∀ m ∈ ms, m.2.Lawful Number.IsWhole depth) : Text ms.encode := by
  refine (objectOf_spelled ?_).text
  induction ms with
  | nil => nofun
  | cons m ms ih =>
    obtain ⟨here, later⟩ := List.forall_mem_cons.mp within
    exact List.forall_mem_cons.mpr ⟨text_of_lawful here, ih later⟩

end written

end TunnelSoak.Json.Grammar
