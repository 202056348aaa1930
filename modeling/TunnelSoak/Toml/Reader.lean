import TunnelSoak.Toml.Calendar
import TunnelSoak.Toml.Numeral
import TunnelSoak.Toml.Quoted
import TunnelSoak.Toml.Tree

/-! Reading a document. Headers and keys are one to a line; values nest, and only
arrays may extend over several lines. The `fuel` bounds the steps and is never used
up, since every step reads at least one character. -/
namespace TunnelSoak.Toml

/-- Neither keys nor values go as deep as this. -/
def depthLimit : Nat := 80

def isBare (c : Char) : Bool :=
  ('a' ≤ c && c ≤ 'z') || ('A' ≤ c && c ≤ 'Z') || ('0' ≤ c && c ≤ '9') || c == '-' || c == '_'

def simpleKey? (input : Chars) : Option (Reading String) :=
  match input.takeWhile isBare with
  | [] => Quoted.line? input
  | bare => some (String.ofList bare, input.dropWhile isBare)

def keys? : (fuel : Nat) → Chars → Option (Reading (List String))
  | 0, _ => none
  | fuel + 1, input => do
    let (key, rest) ← simpleKey? (skipBlanks input)
    match skipBlanks rest with
    | '.' :: rest => (keys? fuel rest).map fun (keys, rest) => (key :: keys, rest)
    | rest => some ([key], rest)

def path? (input : Chars) : Option (Reading (List String × String)) := do
  let (keys, rest) ← keys? (input.length + 1) input
  let last ← keys.getLast?
  if keys.length < depthLimit then some ((keys.dropLast, last), rest) else none

def expect (c : Char) : Chars → Option Chars
  | x :: rest => if x = c then some rest else none
  | [] => none

mutual

def value? : (fuel depth : Nat) → Chars → Option (Reading Value)
  | 0, _, _ => none
  | fuel + 1, depth, input =>
    match input with
    | [] => none
    | '[' :: rest =>
      if depth = 0 then none
      else (items? fuel (depth - 1) rest).map fun (items, rest) => (.array items, rest)
    | '{' :: rest =>
      if depth = 0 then none
      else
        match skipBlanks rest with
        | '}' :: rest => some (.table .inlined [], rest)
        | rest => (pairs? fuel (depth - 1) [] rest).map fun (members, rest) =>
            (.table .inlined members, rest)
    | '"' :: rest => (Quoted.read? ('"' :: rest)).map fun (text, rest) => (.string text, rest)
    | '\'' :: rest => (Quoted.read? ('\'' :: rest)).map fun (text, rest) => (.string text, rest)
    | 't' :: 'r' :: 'u' :: 'e' :: rest => some (.boolean true, rest)
    | 'f' :: 'a' :: 'l' :: 's' :: 'e' :: rest => some (.boolean false, rest)
    | input =>
      match Calendar.read? input with
      | some (text, rest) => some (.datetime text, rest)
      | none => Numeral.read? input

/-- The items of an array up to its bracket; a comma may follow the last one. -/
def items? : (fuel depth : Nat) → Chars → Option (Reading (List Value))
  | 0, _, _ => none
  | fuel + 1, depth, input => do
    match ← skipLines false input with
    | ']' :: rest => some ([], rest)
    | input => do
      let (item, rest) ← value? fuel depth input
      match ← skipLines false rest with
      | ',' :: rest => (items? fuel depth rest).map fun (items, rest) => (item :: items, rest)
      | ']' :: rest => some ([item], rest)
      | _ => none

def pairs? : (fuel depth : Nat) → Members → Chars → Option (Reading Members)
  | 0, _, _, _ => none
  | fuel + 1, depth, members, input => do
    let ((path, key), rest) ← path? input
    let rest ← expect '=' rest
    let (value, rest) ← value? fuel depth (skipBlanks rest)
    let members ← members.defineBelow key value path
    match skipBlanks rest with
    | ',' :: rest => pairs? fuel depth members rest
    | '}' :: rest => some (members, rest)
    | _ => none

end

structure Document where
  members : Members := []
  /-- The table that keys go to. -/
  header : List String := []

namespace Document

def header? (document : Document) (input : Chars) : Option (Reading Document) := do
  let ((path, key), rest) ← path? input
  let rest ← expect ']' rest
  let members ← document.members.change (Members.openTable key) path
  some ({ members, header := path ++ [key] }, rest)

def repeatedHeader? (document : Document) (input : Chars) : Option (Reading Document) := do
  let ((path, key), rest) ← path? input
  let rest ← expect ']' rest
  let rest ← expect ']' rest
  let members ← document.members.change (Members.openAnother key) path
  some ({ members, header := path ++ [key] }, rest)

def pair? (document : Document) (input : Chars) : Option (Reading Document) := do
  let ((path, key), rest) ← path? input
  let rest ← expect '=' rest
  let rest := skipBlanks rest
  let (value, rest) ← value? (2 * rest.length + 2) (depthLimit - 1) rest
  let members ←
    document.members.change (fun members => members.defineBelow key value path) document.header
  some ({ document with members }, rest)

def line? (document : Document) (input : Chars) : Option (Reading Document) :=
  match skipBlanks input with
  | [] => some (document, [])
  | '[' :: '[' :: rest => document.repeatedHeader? rest
  | '[' :: rest => document.header? rest
  | c :: rest =>
    if c = '#' ∨ c = '\n' ∨ c = '\r' then some (document, c :: rest)
    else document.pair? (c :: rest)

def lines? : (fuel : Nat) → Document → Chars → Option Document
  | _, document, [] => some document
  | 0, _, _ => none
  | fuel + 1, document, input => do
    let (document, rest) ← document.line? input
    let rest ← nextLine? rest
    lines? fuel document rest

end Document

def document? (text : String) : Option Members :=
  let input :=
    match text.toList with
    | '\uFEFF' :: rest => rest
    | input => input
  (Document.lines? (input.length + 1) {} input).map (·.members)

end TunnelSoak.Toml
