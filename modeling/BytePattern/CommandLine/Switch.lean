/-!
# Switches

The arguments of a command are words and switches. A switch has a long name and maybe a letter; it
may need a value, which is attached to it or is the next argument. Several letters can share one
dash. No switch is given twice. Everything behind two dashes is a word.
-/

namespace BytePattern.CommandLine

inductive Effect where
  | flag
  | value
  | help
  | version
deriving DecidableEq, Repr

structure Switch where
  name : String
  letter : Option Char := none
  effect : Effect := .flag
deriving DecidableEq, Repr

/-- Why arguments are not carried out: they are wrong, or they only ask for information. -/
inductive Refusal where
  | usage
  | help
  | version
deriving DecidableEq, Repr

/-- The switches of some arguments, with their values, and the words. -/
structure Gathered where
  switches : List (String × String) := []
  words : List String := []
deriving Repr

namespace Gathered

def has (gathered : Gathered) (name : String) : Bool :=
  gathered.switches.any fun (other, _) => other == name

def value? (gathered : Gathered) (name : String) : Option String :=
  gathered.switches.lookup name

/-- Adds a switch with its value, or carries it out. -/
def add (gathered : Gathered) (switch : Switch) (value : String) : Except Refusal Gathered :=
  if switch.effect = .help then .error .help
  else if switch.effect = .version then .error .version
  else if gathered.has switch.name then .error .usage
  else .ok { gathered with switches := gathered.switches ++ [(switch.name, value)] }

def addWords (gathered : Gathered) (words : List String) : Gathered :=
  { gathered with words := gathered.words ++ words }

/-- Adds the switches of the letters behind one dash. The result also has the last of them if it
still needs a value. -/
def addLetters (switches : List Switch) (gathered : Gathered) :
    List Char → Except Refusal (Gathered × Option Switch)
  | [] => .ok (gathered, none)
  | letter :: rest =>
    match switches.find? fun switch => switch.letter = some letter with
    | none => .error .usage
    | some switch =>
      if switch.effect = .value then
        match rest with
        | [] => .ok (gathered, some switch)
        | '=' :: value => do return (← gathered.add switch (String.ofList value), none)
        | value => do return (← gathered.add switch (String.ofList value), none)
      else do
        let gathered ← gathered.add switch ""
        gathered.addLetters switches rest

/-- Adds the switch of a long name. The result also has the switch if it still needs a value. -/
def addName (switches : List Switch) (gathered : Gathered) (text : List Char) :
    Except Refusal (Gathered × Option Switch) :=
  let name := String.ofList (text.takeWhile (· != '='))
  let attached :=
    match text.dropWhile (· != '=') with
    | [] => none
    | _ :: value => some (String.ofList value)
  match switches.find? fun switch => switch.name = name with
  | none => .error .usage
  | some switch =>
    match decide (switch.effect = .value), attached with
    | true, none => .ok (gathered, some switch)
    | true, some value => do return (← gathered.add switch value, none)
    | false, none => do return (← gathered.add switch "", none)
    | false, some _ => .error .usage

/-- Whether an argument is a word; a dash alone is one. -/
def isWord (argument : String) : Bool :=
  !argument.startsWith "-" || argument == "-"

mutual

/-- Gathers the arguments of a command. With `untilWord` only switches are gathered, up to the first
word; the result also has the arguments from there on. -/
def read (switches : List Switch) (untilWord : Bool) (gathered : Gathered) :
    List String → Except Refusal (Gathered × List String)
  | [] => .ok (gathered, [])
  | argument :: rest =>
    if isWord argument then
      if untilWord then .ok (gathered, argument :: rest)
      else read switches untilWord (gathered.addWords [argument]) rest
    else
      match argument.toList with
      | ['-', '-'] => if untilWord then .error .usage else .ok (gathered.addWords rest, [])
      | '-' :: '-' :: name =>
        match gathered.addName switches name with
        | .error refusal => .error refusal
        | .ok (gathered, none) => read switches untilWord gathered rest
        | .ok (gathered, some switch) => readValue switches untilWord gathered switch rest
      | letters =>
        match gathered.addLetters switches (letters.drop 1) with
        | .error refusal => .error refusal
        | .ok (gathered, none) => read switches untilWord gathered rest
        | .ok (gathered, some switch) => readValue switches untilWord gathered switch rest

/-- Gathers the arguments from the value of a switch on. -/
def readValue (switches : List Switch) (untilWord : Bool) (gathered : Gathered) (switch : Switch) :
    List String → Except Refusal (Gathered × List String)
  | [] => .error .usage
  | value :: rest =>
    if isWord value then
      match gathered.add switch value with
      | .error refusal => .error refusal
      | .ok gathered => read switches untilWord gathered rest
    else .error .usage

end

end Gathered

end BytePattern.CommandLine
