import TunnelSoak.CommandLine

/-! Reading a command line, word by word from left to right; the first problem is
the one reported. A value may be attached to its flag or be the next word, and a
value of its own is looked at only when the word after it has been understood. -/
namespace TunnelSoak.CommandLine

def readDigits (limit : Nat) : List Char → Nat → Except String Nat
  | [], n => .ok n
  | c :: rest, n =>
    if !c.isDigit then .error "invalid digit found in string"
    else
      let next := n * 10 + (c.toNat - '0'.toNat)
      if limit < next then .error "number too large to fit in target type"
      else readDigits limit rest next

def countLimit : Nat := Nat.pow 2 64 - 1

def readCount (text : String) : Except String Nat :=
  match text.toList with
  | [] => .error "cannot parse integer from empty string"
  | ['+'] => .error "invalid digit found in string"
  | '+' :: digits => readDigits countLimit digits 0
  | digits => readDigits countLimit digits 0

def readMode (text : String) : Except String Mode :=
  match Mode.parse? text with
  | some mode => .ok mode
  | none =>
    .error ("unknown mode '" ++ text ++ "' (expected reconnect, restart or both)")

structure Draft where
  /-- The flags that this command knows. -/
  flags : List Flag
  /-- The name under which the command gives its version. -/
  program : String
  args : RunArgs := {}
  json : Bool := false
  /-- A flag whose value is a word of its own, and that word. -/
  pending : Option (Flag × Option String) := none
  /-- A double hyphen has come, after which no word is a flag. -/
  trailing : Bool := false

namespace Draft

def isGiven (args : RunArgs) : Flag → Bool
  | .mode => args.mode.isSome
  | .durationSecs => args.durationSecs.isSome
  | .intervalSecs => args.intervalSecs.isSome
  | .settleMs => args.settleMs.isSome
  | .maxSysMemory => args.maxSysMemory.isSome
  | .controllerConfig => args.controllerConfig.isSome
  | .establishMs => args.establishMs.isSome
  | .leakBytes => args.leakBytes.isSome

def assign (args : RunArgs) (flag : Flag) (text : String) : Except Refusal RunArgs :=
  let check {α : Type} (result : Except String α) : Except Refusal α :=
    result.mapError fun reason => .invalidValue flag text reason
  match flag with
  | .mode => (check (readMode text)).map fun v => { args with mode := some v }
  | .durationSecs => (check (readCount text)).map fun v => { args with durationSecs := some v }
  | .intervalSecs => (check (readCount text)).map fun v => { args with intervalSecs := some v }
  | .settleMs => (check (readCount text)).map fun v => { args with settleMs := some v }
  | .maxSysMemory => (check (readCount text)).map fun v => { args with maxSysMemory := some v }
  | .controllerConfig =>
    if text.isEmpty then .error (.missingValue flag)
    else .ok { args with controllerConfig := some text }
  | .establishMs => (check (readCount text)).map fun v => { args with establishMs := some v }
  | .leakBytes => (check (readCount text)).map fun v => { args with leakBytes := some v }

def store (p : Draft) (flag : Flag) (text : String) : Except Refusal Draft :=
  if isGiven p.args flag then .error (.repeated flag.usage)
  else (assign p.args flag text).map fun args => { p with args }

def settle (p : Draft) : Except Refusal Draft :=
  match p.pending with
  | none => .ok p
  | some (flag, none) => .error (.missingValue flag)
  | some (flag, some text) => { p with pending := none }.store flag text

def flagWord (p : Draft) (flag : Flag) (attached : Option String) :
    Except Refusal Draft := do
  let p ← p.settle
  match attached with
  | some text => p.store flag text
  | none => .ok { p with pending := some (flag, none) }

def longWord (p : Draft) (name : String) (attached : Option String) :
    Except Refusal Draft :=
  let switch (act : Draft → Except Refusal Draft) : Except Refusal Draft :=
    match attached with
    | some value => .error (.extraValue value ("--" ++ name))
    | none => p.settle >>= act
  if name = "json" then
    switch fun p => if p.json then .error (.repeated "--json") else .ok { p with json := true }
  else if name = "help" then switch fun _ => .error .helpAsked
  else if name = "version" then switch fun p => .error (.versionAsked p.program)
  else
    match p.flags.find? fun flag => flag.name = name with
    | some flag => p.flagWord flag attached
    | none => .error (.unexpected ("--" ++ name))

/-- A short option. Each of them ends the word it stands in, since what follows a
mode flag is its value. -/
def shortWord (p : Draft) (letter : Char) (rest : List Char) : Except Refusal Draft :=
  if letter = 'h' then p.settle >>= fun _ => .error .helpAsked
  else if letter = 'V' then p.settle >>= fun p => .error (.versionAsked p.program)
  else if letter = 'm' ∧ Flag.mode ∈ p.flags then
    match rest with
    | [] => p.flagWord .mode none
    | '=' :: value => p.flagWord .mode (some (String.ofList value))
    | value => p.flagWord .mode (some (String.ofList value))
  else .error (.unexpected (String.ofList ['-', letter]))

def splitLong (body : List Char) : String × Option String :=
  match body.dropWhile (· ≠ '=') with
  | [] => (String.ofList body, none)
  | _ :: value => (String.ofList (body.takeWhile (· ≠ '=')), some (String.ofList value))

def optionWord? (p : Draft) (word : String) : Option (Except Refusal Draft) :=
  if p.trailing then none
  else
    match word.toList with
    | ['-', '-'] => some (.ok { p with trailing := true })
    | '-' :: '-' :: body =>
      let (name, attached) := splitLong body
      some (p.longWord name attached)
    | '-' :: letter :: rest => some (p.shortWord letter rest)
    | _ => none

/-- A word after the name of a command, none of which takes words of its own. -/
def word (p : Draft) (word : String) : Except Refusal Draft :=
  match p.optionWord? word with
  | some result => result
  | none =>
    match p.trailing, p.pending with
    | false, some (flag, none) => .ok { p with pending := some (flag, some word) }
    | _, _ => .error (.unexpected word)

end Draft

def readWords (flags : List Flag) (name : String) (words : List String) :
    Except Refusal Draft := do
  let p ← words.foldlM Draft.word { flags, program := programName ++ "-" ++ name }
  p.settle

def withEnvironment (configFile : Option String) (p : Draft) : Except Refusal Draft :=
  match p.args.controllerConfig, configFile with
  | none, some path => p.store .controllerConfig path
  | _, _ => .ok p

def commandNames : List String := ["run", "modes", "version", "help"]

/-- A command and the words after its name. `json` tells whether logs in JSON have
been asked for before it. -/
def readCommand (configFile : Option String) (json : Bool) (name : String)
    (words : List String) : Except Refusal CommandLine :=
  if name = "run" then do
    let p ← readWords Flag.all name words
    let p ← withEnvironment configFile p
    .ok { json := json || p.json, command := .run p.args }
  else if name = "modes" then do
    let p ← readWords [] name words
    .ok { json := json || p.json, command := .modes }
  else if name = "version" then do
    let p ← readWords [] name words
    .ok { json := json || p.json, command := .version }
  else
    match words with
    | [] => .error .helpAsked
    | topic :: more =>
      if topic ∉ commandNames then .error (.unknownCommand topic)
      else
        match more with
        | [] => .error .helpAsked
        | extra :: _ => .error (.unknownCommand extra)

def readFrom (configFile : Option String) : Draft → List String →
    Except Refusal CommandLine
  | p, [] => .error (if p.json then .missingCommand else .helpNeeded)
  | p, word :: words =>
    if !p.trailing ∧ word ∈ commandNames then readCommand configFile p.json word words
    else
      match p.optionWord? word with
      | some (.ok p) => readFrom configFile p words
      | some (.error refusal) => .error refusal
      | none =>
        if word ∈ commandNames then .error (.unexpected word)
        else .error (.unknownCommand word)

/-- Read a command line. `configFile` is the controller configuration that the
environment names. -/
def read (configFile : Option String) (words : List String) : Except Refusal CommandLine :=
  readFrom configFile { flags := [], program := programName } words

end TunnelSoak.CommandLine
