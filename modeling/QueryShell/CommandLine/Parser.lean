import QueryShell.CommandLine.Flag
import QueryShell.Number.Decimal

/-!
# Reading the command line

`Arguments.parse` reads the words behind the name of the program. Words are
taken from left to right. A flag that takes a value takes it after an equals
sign or from the next word; the values of several flags are numbers. After two
dashes no word is a flag or a subcommand. The first fault counts, and the value
that a flag takes from the next word is looked at late: when the next flag or
word with a place of its own is met, or else at the end, for a flag in front of
the subcommand at the end of everything.
-/

namespace QueryShell

/-- A number below a bound, which may have a plus sign in front. -/
def readNumber? (bound : Nat) (s : String) : Option Nat :=
  let ds :=
    match s.toList with
    | '+' :: ds => ds
    | ds => ds
  if ds.isEmpty || !ds.all Char.isDigit then none
  else
    let n := Numeral.value ds
    if n < bound then some n else none

/-- The words on one side of the subcommand, as far as they are read. -/
structure Words where
  /-- Each flag with its value; a switch has the empty one. -/
  flags : List (Flag × String) := []
  positional : List String := []
  /-- The flag that takes its value from the next word, and that word if it has
  been met. -/
  pending : Option (Flag × Option String) := none
deriving Repr

namespace Words

/-- Adds a flag. -/
def addFlag (w : Words) (f : Flag) (value : String) : Except ArgumentError Words := do
  if f = .help then .error .help
  if f = .version then .error .version
  if !f.repeats && w.flags.any fun p => p.1 == f then .error (.repeated f)
  if f = .configFile ∧ value.isEmpty then .error (.noValue f)
  if f = .timeout ∨ f = .cursor ∨ f = .sample then
    if (readNumber? (2 ^ 64) value).isNone then .error (.badValue f value)
  .ok { w with flags := w.flags ++ [(f, value)] }

/-- Adds the pending flag, which must have its value by now. -/
def settle (w : Words) : Except ArgumentError Words :=
  match w.pending with
  | some (f, some value) => { w with pending := none }.addFlag f value
  | some (f, none) => .error (.noValue f)
  | none => .ok w

/-- The flag that the next word belongs to. -/
def awaiting? (w : Words) : Option Flag :=
  match w.pending with
  | some (f, none) => some f
  | _ => none

/-- Adds a flag that was found, with the value that was written to it, if
any. -/
def addFound (w : Words) (f : Flag) (value : Option String) : Except ArgumentError Words :=
  match f.takesValue, value with
  | true, some v => do (← w.settle).addFlag f v
  | true, none => do .ok { ← w.settle with pending := some (f, none) }
  | false, some _ => .error (.unneededValue f)
  | false, none => do (← w.settle).addFlag f ""

/-- Reads a word with two dashes in front, which have been removed. -/
def addLong (place : Option Subcommand) (w : Words) (cs : List Char) :
    Except ArgumentError Words :=
  let name := cs.takeWhile (· != '=')
  let value :=
    match cs.drop name.length with
    | '=' :: v => some (String.ofList v)
    | _ => none
  match Flag.ofName? place (String.ofList name) with
  | some f => w.addFound f value
  | none =>
    let shown := "--" ++ String.ofList name
    .error (.unknownArgument shown)

/-- Reads letters behind one dash. A letter that takes a value takes the rest of
the word. -/
def addLetters (place : Option Subcommand) (w : Words) : List Char → Except ArgumentError Words
  | [] => .ok w
  | c :: cs =>
    match Flag.ofLetter? place c with
    | none =>
      let shown := String.ofList ['-', c]
      .error (.unknownArgument shown)
    | some f =>
      if f.takesValue then
        match cs with
        | [] => w.addFound f none
        | '=' :: v => w.addFound f (some (String.ofList v))
        | _ => w.addFound f (some (String.ofList cs))
      else do
        let w ← w.addFound f none
        w.addLetters place cs

/-- Adds a word that is no flag. -/
def addWord (place : Option Subcommand) (w : Words) (word : String) :
    Except ArgumentError Words :=
  match place with
  | none => .error (.unknownSubcommand word)
  | some c =>
    if c.takesWord && w.positional.isEmpty then do
      .ok { ← w.settle with positional := [word] }
    else .error (.unknownArgument word)

/-- Checks the words after a request for help, which may name a subcommand. -/
def helpFor : List String → ArgumentError
  | [] => .help
  | ["help"] => .help
  | [word] => if (Subcommand.ofName? word).isSome then .help else .unknownSubcommand word
  | word :: next :: _ =>
    if (Subcommand.ofName? word).isSome then .unknownSubcommand next else .unknownSubcommand word

/-- A word after two dashes. -/
def addPlain (place : Option Subcommand) (w : Words) (word : String) :
    Except ArgumentError Words :=
  if place.isNone && ((Subcommand.ofName? word).isSome || word == "help") then
    .error (.unknownArgument word)
  else w.addWord place word

/-- Reads words up to a subcommand, or to the end, where a flag may still be
pending. `plain` says that two dashes have been passed. -/
def read (place : Option Subcommand) (plain : Bool) (w : Words) :
    List String → Except ArgumentError (Words × Option (Subcommand × List String))
  | [] => .ok (w, none)
  | word :: rest =>
    if plain then do read place true (← w.addPlain place word) rest
    else
      let subcommand := if place.isNone && w.awaiting?.isNone then Subcommand.ofName? word else none
      match subcommand, word.toList with
      | some c, _ => .ok (w, some (c, rest))
      | none, '-' :: '-' :: [] => read place true w rest
      | none, '-' :: '-' :: cs => do read place false (← w.addLong place cs) rest
      | none, '-' :: c :: cs => do read place false (← w.addLetters place (c :: cs)) rest
      | none, _ =>
        match w.awaiting? with
        | some f => read place false { w with pending := some (f, some word) } rest
        | none =>
          if place.isNone && word == "help" then .error (helpFor rest)
          else do read place false (← w.addWord place word) rest

/-- The value of a flag. -/
def value? (w : Words) (f : Flag) : Option String :=
  (w.flags.find? fun p => p.1 == f).map Prod.snd

/-- The values of a flag that may be repeated, each of which may be a list with
commas. -/
def values (w : Words) (f : Flag) : List String :=
  (w.flags.filter fun p => p.1 == f).flatMap fun p => p.2.splitOn ","

def number? (w : Words) (f : Flag) : Option Nat :=
  (w.value? f).bind (readNumber? (2 ^ 64))

def has (w : Words) (f : Flag) : Bool :=
  (w.value? f).isSome

end Words

namespace Arguments

/-- The command that the words behind a subcommand stand for. -/
def commandOf (c : Subcommand) (w : Words) : Except ArgumentError Command :=
  match c, w.positional with
  | .parse, [query] => .ok (.parse query)
  | .complete, [query] =>
    .ok (.complete query (w.number? .cursor) (w.values .collections) (w.values .fields))
  | .run, [query] => .ok (.run query)
  | .fields, [collection] => .ok (.fields collection (w.number? .sample))
  | .collections, _ => .ok .collections
  | .databases, _ => .ok .databases
  | .config, _ => .ok (.config (w.has .shown) (w.has .checked))
  | c, _ => .error (.noWord c)

/-- Reads the words behind the name of the program. A flag behind the subcommand
counts more than the same flag in front of it. -/
def parse (words : List String) : Except ArgumentError Arguments := do
  match ← Words.read none false {} words with
  | (front, none) =>
    if (← front.settle).flags.isEmpty then .error .nothing else .error .noSubcommand
  | (front, some (c, rest)) =>
    let (back, _) ← Words.read (some c) false {} rest
    let back ← back.settle
    let command ← commandOf c back
    let front ← front.settle
    let value? (f : Flag) : Option String := (back.value? f).or (front.value? f)
    let has (f : Flag) : Bool := (value? f).isSome
    .ok {
      configFile := value? .configFile
      uri := value? .uri
      database := value? .database
      format := value? .format
      noColour := has .noColour
      timeout := ((value? .timeout).bind (readNumber? (2 ^ 64))).map UInt64.ofNat
      quiet := has .quiet
      verbose := has .verbose
      veryVerbose := has .veryVerbose
      command }

end Arguments

end QueryShell
