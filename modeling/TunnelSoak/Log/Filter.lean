import TunnelSoak.Log

/-! Which log lines are written. A directive sets how talkative the targets that
begin with its own may be, and the longest such directive decides. -/
namespace TunnelSoak.Log

structure Directive where
  target : String
  /-- The greatest verbosity that is admitted; at zero nothing is. -/
  verbosity : Nat
  deriving DecidableEq, Repr

abbrev Filter := List Directive

namespace Filter

def set (filter : Filter) (directive : Directive) : Filter :=
  directive :: filter.filter fun other => other.target ≠ directive.target

/-- The more specific of two directives that apply. -/
def prefer (best : Option Directive) (d : Directive) : Option Directive :=
  match best with
  | none => some d
  | some b => if b.target.length < d.target.length then some d else some b

def directive? (filter : Filter) (target : String) : Option Directive :=
  (filter.filter fun d => d.target.toList.isPrefixOf target.toList).foldl prefer none

def admits (filter : Filter) (target : String) (level : Level) : Bool :=
  match filter.directive? target with
  | some d => decide (level.verbosity ≤ d.verbosity)
  | none => false

def levelNames : List (String × Nat) :=
  [("off", 0), ("error", 1), ("warn", 2), ("info", 3), ("debug", 4), ("trace", 5)]

def greatestVerbosity : Nat := 5

/-- A level by its name in any case or by its number, maybe after a plus sign. -/
def verbosity? (text : String) : Option Nat :=
  let word := String.ofList (text.toList.map Char.toLower)
  match levelNames.find? fun entry => entry.1 = word with
  | some entry => some entry.2
  | none =>
    let digits :=
      match text.toList with
      | '+' :: digits => digits
      | digits => digits
    (Moment.number? digits).filter (· ≤ greatestVerbosity)

def isTargetStart (c : Char) : Bool :=
  c == '-' || c == ':' || c == '_' || c.isAlphanum || decide (0x80 ≤ c.toNat)

def malformed : String := "invalid filter directive"

def unknownLevel : String :=
  "error parsing level filter: expected one of \"off\", \"error\", \"warn\", \"info\", " ++
    "\"debug\", \"trace\", or a number 0-5"

def readLevel (text : String) : Except String Nat :=
  if text.isEmpty then .ok greatestVerbosity
  else
    match verbosity? text with
    | some verbosity => .ok verbosity
    | none => .error unknownLevel

/-- What follows a span in brackets: nothing, or a level. Directives for spans admit
further lines only within spans of other programs, and are passed over. -/
def readSpan (rest : List Char) : Except String (Option Directive) :=
  match (rest.dropWhile (· ≠ ']')).drop 1, rest.contains ']' with
  | [], true => .ok none
  | '=' :: level, true => (readLevel (String.ofList level)).map fun _ => none
  | _, _ => .error malformed

def readDirective (text : String) : Except String (Option Directive) :=
  match text.toList with
  | [] => .error malformed
  | '[' :: rest => readSpan rest
  | c :: rest =>
    if !isTargetStart c then .error malformed
    else
      let target := (c :: rest).takeWhile fun c => c ≠ '=' && c ≠ '['
      match (c :: rest).drop target.length with
      | [] =>
        match verbosity? text with
        | some verbosity => .ok (some ⟨"", verbosity⟩)
        | none => .ok (some ⟨text, greatestVerbosity⟩)
      | '=' :: level =>
        (readLevel (String.ofList level)).map fun verbosity =>
          some ⟨String.ofList target, verbosity⟩
      | _ :: rest => readSpan rest

def read (text : String) : Filter × List String :=
  ((text.splitOn ",").filter fun part => !part.isEmpty).foldl
    (fun (filter, complaints) part =>
      match readDirective part with
      | .ok (some d) => (filter.set d, complaints)
      | .ok none => (filter, complaints)
      | .error reason => (filter, complaints ++ ["ignoring `" ++ part ++ "`: " ++ reason]))
    ([], [])

/-- The program's own lines are admitted from the level of information on, unless a
more specific directive says otherwise. -/
def withDefaults (filter : Filter) : Filter :=
  (filter.set ⟨"memsoak", Level.info.verbosity⟩).set ⟨"memsoak_core", Level.info.verbosity⟩

end Filter

end TunnelSoak.Log
