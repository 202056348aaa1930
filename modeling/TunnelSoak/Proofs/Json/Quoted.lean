import TunnelSoak.Json.Quoted

/-! Texts come back as they were written. Every byte is escaped by itself, and reading
resolves exactly one escape for it, so the bytes between the quotes are those of the text. -/
namespace TunnelSoak.Json

section Except
variable {ε α β : Type} {x : Except ε α}

@[simp] theorem ok_bind (a : α) (f : α → Except ε β) : (Except.ok a >>= f) = f a := rfl

theorem bind_eq_ok {f : α → Except ε β} {b : β} :
    (x >>= f) = .ok b ↔ ∃ a, x = .ok a ∧ f a = .ok b := by
  cases x with
  | error => exact iff_of_false nofun nofun
  | ok a => simp

theorem map_eq_ok {f : α → β} {b : β} : x.map f = .ok b ↔ ∃ a, x = .ok a ∧ f a = b := by
  cases x <;> simp [Except.map]

end Except

theorem text?_utf8 (text : String) : text? (utf8 text) = some text := by
  unfold text? utf8 String.fromUTF8?
  have valid : (ByteArray.mk text.toUTF8.data.toList.toArray).IsValidUTF8 := text.isValidUTF8
  rw [dif_pos valid]
  rfl

namespace Quoted

def afterQuote (text : String) : Bytes := (utf8 text).flatMap escape ++ [34]

theorem encode_eq (text : String) : encode text = 34 :: afterQuote text := rfl

/-- How a byte is written: as a letter, as a number in hexadecimal digits, or as it is. -/
inductive Escaped (b : UInt8) : Bytes → Prop
  | letter {letter : UInt8} (other : letter ≠ 117) (simple : simpleEscape letter = some b) :
    Escaped b [92, letter]
  | control (low : b < 32) :
    Escaped b [92, 117, 48, 48, hexDigit (b.toNat / 16), hexDigit (b.toNat % 16)]
  | plain (quote : b ≠ 34) (slash : b ≠ 92) (visible : ¬ b < 32) : Escaped b [b]

theorem escaped (b : UInt8) : Escaped b (escape b) := by
  unfold escape
  -- Seven bytes have a letter.
  iterate 7
    split
    · exact .letter (by decide) (by simp [simpleEscape, *])
  split
  · exact .control ‹_›
  · exact .plain ‹_› ‹_› ‹_›

theorem unit_hexDigits : ∀ n < 32,
    unit 48 48 (hexDigit (n / 16)) (hexDigit (n % 16)) = some n ∧
      (isTrailing n = false ∧ isLeading n = false) ∧ encodePoint n = [n.toUInt8] := by
  decide

section contents
variable (rest : Bytes)

theorem contents_plain {b : UInt8} (quote : b ≠ 34) (slash : b ≠ 92) (visible : ¬ b < 32) :
    contents (b :: rest) = (contents rest).map fun (bytes, rest) => (b :: bytes, rest) := by
  rw [contents.eq_def]
  simp only [quote, slash, visible, if_false]

theorem contents_letter {letter b : UInt8} (other : letter ≠ 117)
    (simple : simpleEscape letter = some b) :
    contents (92 :: letter :: rest) =
      (contents rest).map fun (bytes, rest) => (b :: bytes, rest) := by
  rw [contents.eq_def]
  simp only [other, simple, if_false, if_true, show ¬ (92 : UInt8) = 34 by decide]

theorem contents_unit {a b c d : UInt8} {point : Nat} (read : unit a b c d = some point)
    (lone : isTrailing point = false ∧ isLeading point = false) :
    contents (92 :: 117 :: a :: b :: c :: d :: rest) =
      (contents rest).map fun (bytes, rest) => (encodePoint point ++ bytes, rest) := by
  rw [contents.eq_def]
  simp only [read, lone.1, lone.2, if_true, if_false, Bool.false_eq_true,
    show ¬ (92 : UInt8) = 34 by decide]

theorem contents_escape (b : UInt8) :
    contents (escape b ++ rest) = (contents rest).map fun (bytes, rest) => (b :: bytes, rest) := by
  have how := escaped b
  generalize escape b = text at how ⊢
  cases how with
  | letter other simple => exact contents_letter rest other simple
  | control low =>
    obtain ⟨read, lone, point⟩ := unit_hexDigits b.toNat (UInt8.lt_iff_toNat_lt.mp low)
    refine (contents_unit rest read lone).trans ?_
    rw [point, Nat.toUInt8_eq, UInt8.ofNat_toNat]
    rfl
  | plain quote slash visible => exact contents_plain rest quote slash visible

theorem contents_flatMap (bytes : Bytes) :
    contents (bytes.flatMap escape ++ 34 :: rest) = .ok (bytes, rest) := by
  induction bytes with
  | nil => rw [List.flatMap_nil, List.nil_append, contents.eq_def]; rfl
  | cons b bytes ih =>
    rw [List.flatMap_cons, List.append_assoc, contents_escape, ih]
    rfl

theorem decode_afterQuote (text : String) :
    decode (afterQuote text ++ rest) = .ok (text, rest) := by
  unfold decode afterQuote
  rw [List.append_assoc, List.singleton_append, contents_flatMap]
  simp only [text?_utf8]

end contents

end Quoted

end TunnelSoak.Json
