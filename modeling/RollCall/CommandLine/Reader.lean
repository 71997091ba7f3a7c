import RollCall.CommandLine.Argument
import RollCall.Text

/-! Reading a command line, word by word. Options may come anywhere before a word of two dashes;
after it every word is a path. -/
namespace RollCall.CommandLine

open UsageError (unexpectedArgument unexpectedValue missingValue unknownChoice repeated)

/-- The options of the words that were taken over so far. -/
structure Draft where
  podsFile : Option ByteArray := none
  logFile : Option ByteArray := none
  preset : Option Preset := none
  pattern : Option String := none
  counts : Bool := false
  format : Option OutputFormat := none
  noColor : Bool := false
  verbose : Bool := false

def textOf (value : ByteArray) : Except Refusal String :=
  match String.fromUTF8? value with
  | some text => .ok text
  | none => .error (.usage .invalidText)

def choose {α : Type} (a : Argument) (named? : String → Option α) (value : ByteArray) :
    Except Refusal α := do
  let text ← textOf value
  match named? text with
  | some choice => return choice
  | none => throw (.usage (unknownChoice text a))

def pathOf (a : Argument) (value : ByteArray) : Except Refusal ByteArray :=
  if value.size = 0 then .error (.usage (missingValue a)) else .ok value

def Draft.has (d : Draft) : Argument → Bool
  | .podsFile => d.podsFile.isSome
  | .logFile => d.logFile.isSome
  | .preset => d.preset.isSome
  | .pattern => d.pattern.isSome
  | .counts => d.counts
  | .format => d.format.isSome
  | .noColor => d.noColor
  | .verbose => d.verbose
  | .help | .version => false

/-- Takes over a value. A repetition is found before the value is looked at. -/
def Draft.put (d : Draft) (a : Argument) (value : ByteArray) : Except Refusal Draft := do
  if d.has a then throw (.usage (repeated a))
  match a with
  | .podsFile => return { d with podsFile := ← pathOf a value }
  | .logFile => return { d with logFile := ← pathOf a value }
  | .preset => return { d with preset := ← choose a Preset.ofName? value }
  | .pattern => return { d with pattern := ← textOf value }
  | .format => return { d with format := ← choose a OutputFormat.ofName? value }
  | .counts | .noColor | .verbose | .help | .version => return d

/-- Takes over an option without a value; `full` says that its name was written out. -/
def Draft.switch (d : Draft) (a : Argument) (full : Bool) : Except Refusal Draft := do
  if d.has a then throw (.usage (repeated a))
  match a with
  | .counts => return { d with counts := true }
  | .noColor => return { d with noColor := true }
  | .verbose => return { d with verbose := true }
  | .help => throw (.help full)
  | .version => throw .version
  | .podsFile | .logFile | .preset | .pattern | .format => return d

/-- The state between two words. An argument with its value waits until the next word is known to
be an argument too, so that an unknown word is found before a wrong value right before it. -/
structure Reader where
  draft : Draft := {}
  /-- The argument that waits, and its value if it was read. -/
  waiting : Option (Argument × Option ByteArray) := none
  /-- Two dashes have been read. -/
  onlyPaths : Bool := false

namespace Reader

/-- Takes over what waits. -/
def settle (r : Reader) : Except Refusal Reader :=
  match r.waiting with
  | none => .ok r
  | some (a, none) => .error (.usage (missingValue a))
  | some (a, some value) =>
    (r.draft.put a value).map fun d => { r with draft := d, waiting := none }

def await (r : Reader) (a : Argument) (value : Option ByteArray) : Except Refusal Reader :=
  r.settle.map fun r => { r with waiting := some (a, value) }

def put (r : Reader) (a : Argument) (value : ByteArray) : Except Refusal Reader :=
  r.settle.bind fun r => (r.draft.put a value).map fun d => { r with draft := d }

def switch (r : Reader) (a : Argument) (full : Bool) : Except Refusal Reader :=
  r.settle.bind fun r => (r.draft.switch a full).map fun d => { r with draft := d }

def nextPath? (r : Reader) : Option Argument :=
  Argument.paths.find? fun a => !(r.draft.has a || r.waiting.any (·.1 = a))

/-- A word after its two dashes: a name, perhaps with a value after an equals sign. -/
def readName (r : Reader) (word : List UInt8) : Except Refusal Reader :=
  let isEquals (b : UInt8) : Bool := b = 0x3D
  let name : ByteArray := ⟨(word.takeWhile (!isEquals ·)).toArray⟩
  let value? : Option ByteArray :=
    match word.dropWhile (!isEquals ·) with
    | [] => none
    | _ :: value => some ⟨value.toArray⟩
  match (String.fromUTF8? name).bind Argument.ofName? with
  | none => .error (.usage (unexpectedArgument ("--" ++ Utf8.display name)))
  | some a =>
    match a.takesValue, value? with
    | true, some value => r.put a value
    | true, none => r.await a none
    | false, some value => .error (.usage (unexpectedValue (Utf8.display value) a))
    | false, none => r.switch a true

def readLetters (r : Reader) : List UInt8 → Except Refusal Reader
  | [] => .ok r
  | b :: rest =>
    match Argument.ofLetter? (Char.ofNat b.toNat) with
    | some a => (r.switch a false).bind fun r => r.readLetters rest
    | none =>
      let shown := match (Utf8.firstPart b rest).1 with
        | some c => c.toString
        | none => Utf8.display ⟨(b :: rest).toArray⟩
      .error (.usage (unexpectedArgument ("-" ++ shown)))

def readPlain (r : Reader) (word : ByteArray) : Except Refusal Reader :=
  match r.onlyPaths, r.waiting with
  | false, some (a, none) => .ok { r with waiting := some (a, some word) }
  | _, _ =>
    match r.nextPath? with
    | some a => r.await a (some word)
    | none => .error (.usage (unexpectedArgument (Utf8.display word)))

/-- A word of the command line. A single dash is no option. -/
def read (r : Reader) (word : ByteArray) : Except Refusal Reader :=
  match r.onlyPaths, word.data.toList with
  | false, [0x2D, 0x2D] => .ok { r with onlyPaths := true }
  | false, 0x2D :: 0x2D :: name => r.readName name
  | false, 0x2D :: b :: letters => r.readLetters (b :: letters)
  | _, _ => r.readPlain word

def finish (r : Reader) : Except Refusal Options := do
  let d := (← r.settle).draft
  match d.podsFile, d.logFile with
  | some podsFile, some logFile =>
    return ⟨podsFile, logFile, d.preset, d.pattern, d.counts, d.format, d.noColor, d.verbose⟩
  | _, _ => throw (.usage (.missingPaths (Argument.paths.filter (!d.has ·))))

end Reader

/-- Reads the words that follow the name of the program. -/
def parse (words : List ByteArray) : Except Refusal Options := do
  (← words.foldlM Reader.read {}).finish

end RollCall.CommandLine
