/-! Quoted text. Writing escapes single bytes and leaves every other byte as it
is; reading undoes the escapes first and checks the result for UTF-8 only at the
closing quote, so an unfinished text is reported as unfinished. -/
namespace TunnelSoak.Json

/-- Why a text is not read: it stops too early, it breaks the grammar, or it is
well formed but not what was asked for. -/
inductive Fault where
  | eof
  | malformed
  | mismatch
  deriving DecidableEq, Repr

abbrev Bytes := List UInt8

abbrev Reading (α : Type) := α × Bytes

def ascii (text : String) : Bytes := text.toList.map Char.toUInt8

def utf8 (text : String) : Bytes := text.toUTF8.data.toList

def text? (bytes : Bytes) : Option String := String.fromUTF8? ⟨bytes.toArray⟩

namespace Quoted

def hexDigit (n : Nat) : UInt8 := if n < 10 then 48 + n.toUInt8 else 87 + n.toUInt8

def escape (b : UInt8) : Bytes :=
  if b = 34 then [92, 34]
  else if b = 92 then [92, 92]
  else if b = 8 then [92, 98]
  else if b = 9 then [92, 116]
  else if b = 10 then [92, 110]
  else if b = 12 then [92, 102]
  else if b = 13 then [92, 114]
  else if b < 32 then [92, 117, 48, 48, hexDigit (b.toNat / 16), hexDigit (b.toNat % 16)]
  else [b]

def encode (text : String) : Bytes := 34 :: (utf8 text).flatMap escape ++ [34]

def hexValue (b : UInt8) : Option Nat :=
  if 48 ≤ b ∧ b ≤ 57 then some (b.toNat - 48)
  else if 97 ≤ b ∧ b ≤ 102 then some (b.toNat - 87)
  else if 65 ≤ b ∧ b ≤ 70 then some (b.toNat - 55)
  else none

def unit (a b c d : UInt8) : Option Nat := do
  let a ← hexValue a
  let b ← hexValue b
  let c ← hexValue c
  let d ← hexValue d
  some (((a * 16 + b) * 16 + c) * 16 + d)

def isLeading (unit : Nat) : Bool := decide (0xD800 ≤ unit ∧ unit ≤ 0xDBFF)

def isTrailing (unit : Nat) : Bool := decide (0xDC00 ≤ unit ∧ unit ≤ 0xDFFF)

def codePoint (leading trailing : Nat) : Nat :=
  (leading - 0xD800) * 0x400 + (trailing - 0xDC00) + 0x10000

def encodePoint (point : Nat) : Bytes := String.utf8EncodeChar (Char.ofNat point)

def simpleEscape (b : UInt8) : Option UInt8 :=
  if b = 34 ∨ b = 92 ∨ b = 47 then some b
  else if b = 98 then some 8
  else if b = 116 then some 9
  else if b = 110 then some 10
  else if b = 102 then some 12
  else if b = 114 then some 13
  else none

/-- The bytes up to the closing quote with their escapes resolved. An escape of a
unit needs four more bytes whatever they are, and a leading surrogate needs its
partner at once. -/
def contents : Bytes → Except Fault (Reading Bytes)
  | [] => .error .eof
  | b :: rest =>
    if b = 34 then .ok ([], rest)
    else if b = 92 then
      match rest with
      | [] => .error .eof
      | e :: rest =>
        if e = 117 then
          match rest with
          | a :: b :: c :: d :: rest =>
            match unit a b c d with
            | none => .error .malformed
            | some first =>
              if isTrailing first then .error .malformed
              else if isLeading first then
                match rest with
                | [] => .error .eof
                | slash :: rest =>
                  if slash ≠ 92 then .error .malformed
                  else
                    match rest with
                    | [] => .error .eof
                    | letter :: rest =>
                      if letter ≠ 117 then .error .malformed
                      else
                        match rest with
                        | a :: b :: c :: d :: rest =>
                          match unit a b c d with
                          | none => .error .malformed
                          | some second =>
                            if isTrailing second then
                              (contents rest).map fun (bytes, rest) =>
                                (encodePoint (codePoint first second) ++ bytes, rest)
                            else .error .malformed
                        | _ => .error .eof
              else (contents rest).map fun (bytes, rest) => (encodePoint first ++ bytes, rest)
          | _ => .error .eof
        else
          match simpleEscape e with
          | none => .error .malformed
          | some byte => (contents rest).map fun (bytes, rest) => (byte :: bytes, rest)
    else if b < 32 then .error .malformed
    else (contents rest).map fun (bytes, rest) => (b :: bytes, rest)

def decode (input : Bytes) : Except Fault (Reading String) :=
  match contents input with
  | .error fault => .error fault
  | .ok (bytes, rest) =>
    match text? bytes with
    | some text => .ok (text, rest)
    | none => .error .malformed

/-- Pass over a text whose opening quote has been taken. Nobody reads it, so
surrogates need no partner and bytes need not be UTF-8. -/
def skip : Bytes → Except Fault Bytes
  | [] => .error .eof
  | b :: rest =>
    if b = 34 then .ok rest
    else if b = 92 then
      match rest with
      | [] => .error .eof
      | e :: rest =>
        if e = 117 then
          match rest with
          | a :: b :: c :: d :: rest =>
            if (unit a b c d).isSome then skip rest else .error .malformed
          | _ => .error .eof
        else if (simpleEscape e).isSome then skip rest
        else .error .malformed
    else if b < 32 then .error .malformed
    else skip rest

end Quoted

end TunnelSoak.Json
