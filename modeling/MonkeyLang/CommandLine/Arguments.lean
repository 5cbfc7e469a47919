import MonkeyLang.CommandLine.Flag
import MonkeyLang.Text.Layout
import MonkeyLang.Text.Quoted
import MonkeyLang.Unicode.Numeric

/-
  This file defines how the arguments of the command line are
  understood.

  An argument is a flag or plain text. A long flag may be
  abbreviated as long as only one begins that way; letters of
  short flags may be combined; no flag takes a value. After the
  argument "--" everything is plain text. The first plain
  argument is the source; there is no place for a second.

  Key definitions include:
    * `Misuse`              (what can be wrong with them)
    * `Word`, `classify`      (what an argument is)
    * `shortFlags`          (combined letters)
    * `Settings`            (what the arguments ask for)
    * `understand`          (all arguments)
-/

------------------------------------------------------------
-- Misuse
------------------------------------------------------------

namespace MonkeyLang

namespace CommandLine

/- What can be wrong with the arguments. -/
inductive Misuse where
  | ambiguous (argument : String) (candidates : List Flag)
  | unusedValue (flag : Flag) (value : String)
  | unrecognized (arguments : List String)
deriving DecidableEq

def Misuse.message
    (misuse : Misuse) :
    String :=
  match misuse with
  | .ambiguous argument candidates =>
      "ambiguous option: " ++ argument ++ " could match " ++
        Text.join ", " (candidates.map Flag.longName)
  | .unusedValue flag value =>
      "argument " ++ flag.names ++ ": ignored explicit argument " ++
        Text.quoted value
  | .unrecognized arguments =>
      "unrecognized arguments: " ++ Text.join " " arguments

------------------------------------------------------------
-- Words
------------------------------------------------------------

/-
  What an argument is: plain text; the divider after which all
  is plain; a long flag, perhaps with a value; the letter of a
  short flag with what is written behind it; or no flag, though
  it looks like one.
-/
inductive Word where
  | plain
  | divider
  | long (flag : Flag) (value? : Option String)
  | short (flag : Flag) (tail : List Char)
  | unknown
deriving DecidableEq

/-
  Whether a text is a minus sign and digits, perhaps with a
  point that is followed by digits. A line feed at the end does
  not count.
-/
def isNegativeNumber
    (text : List Char) :
    Bool :=
  let isDecimal c := (Unicode.decimalValue? c).isSome
  let body :=
    if text.getLast? = some '\n' then
      text.dropLast
    else
      text
  match body with
  | '-' :: digits =>
      match digits.dropWhile isDecimal with
      | [] => !digits.isEmpty
      | '.' :: places => !places.isEmpty && places.all isDecimal
      | _ => false
  | _ => false

/- An argument that is no flag: plain text or an unknown flag. -/
def plainOrUnknown
    (text : List Char) :
    Word :=
  if isNegativeNumber text || text.contains ' ' then
    .plain
  else
    .unknown

/- An argument that begins with two minus signs. -/
def classifyLong
    (argument : String)
    (text : List Char) :
    Except Misuse Word :=
  let name := text.takeWhile (· != '=')
  let value? :=
    match text.dropWhile (· != '=') with
    | [] => none
    | _ :: value => some (String.ofList value)
  let candidates :=
    Flag.all.filter fun flag => name.isPrefixOf flag.longName.toList
  match candidates with
  | [] => .ok (plainOrUnknown text)
  | [flag] => .ok (.long flag value?)
  | _ => .error (.ambiguous argument candidates)

/- An argument that begins with one minus sign and a letter. -/
def classifyShort
    (letter : Char)
    (tail : List Char) :
    Word :=
  match Flag.ofLetter? letter with
  | some flag => .short flag tail
  | none => plainOrUnknown ('-' :: letter :: tail)

/- What an argument is, the divider apart. -/
def classify
    (argument : String) :
    Except Misuse Word :=
  match argument.toList with
  | '-' :: '-' :: rest => classifyLong argument ('-' :: '-' :: rest)
  | '-' :: letter :: tail => .ok (classifyShort letter tail)
  | _ => .ok .plain

/- What the arguments are. After the divider all are plain. -/
def classifyAll
    (arguments : List String) :
    Except Misuse (List (String × Word)) :=
  match arguments with
  | [] => .ok []
  | argument :: rest =>
      if argument = "--" then
        .ok ((argument, .divider) :: rest.map fun text => (text, .plain))
      else
        match classify argument, classifyAll rest with
        | .error misuse, _ => .error misuse
        | _, .error misuse => .error misuse
        | .ok word, .ok words => .ok ((argument, word) :: words)

/-
  The flags of combined letters. The first letter that is no
  flag is, with all behind it, a value for the flag in front of
  it, and no flag takes a value.
-/
def combinedFlags
    (flag : Flag)
    (letters : List Char) :
    Except Misuse (List Flag) :=
  match letters with
  | [] => .ok [flag]
  | letter :: rest =>
      match Flag.ofLetter? letter with
      | none => .error (.unusedValue flag (String.ofList letters))
      | some next =>
          (combinedFlags next rest).map fun flags => flag :: flags

/-
  The flags of an argument that begins with a short flag. One
  equals sign may divide the first letter from the others; with
  nothing behind it, it gives the flag an empty value.
-/
def shortFlags
    (flag : Flag)
    (tail : List Char) :
    Except Misuse (List Flag) :=
  match tail with
  | ['='] => .error (.unusedValue flag "")
  | '=' :: letters => combinedFlags flag letters
  | letters => combinedFlags flag letters

------------------------------------------------------------
-- Settings
------------------------------------------------------------

/- What the arguments ask for. -/
structure Settings where
  source : Option String
  isString : Bool
  showTokens : Bool
  showTree : Bool
  pretty : Bool
  repl : Bool
  verbose : Bool
deriving DecidableEq

namespace Settings

def initial : Settings :=
  ⟨none, false, false, false, false, false, false⟩

def set
    (settings : Settings)
    (flag : Flag) :
    Settings :=
  match flag with
  | .help => settings
  | .string => { settings with isString := true }
  | .tokens => { settings with showTokens := true }
  | .tree => { settings with showTree := true }
  | .pretty => { settings with pretty := true }
  | .repl => { settings with repl := true }
  | .verbose => { settings with verbose := true }

end Settings

------------------------------------------------------------
-- Understanding
------------------------------------------------------------

/- What the arguments come to. -/
inductive Request where
  | help
  | misuse (misuse : Misuse)
  | settings (settings : Settings)
deriving DecidableEq

/- Whether the source is still missing, was given just now, or before. -/
inductive Place where
  | free
  | justTaken
  | taken
deriving DecidableEq

/- How far the arguments have been understood. -/
structure Progress where
  settings : Settings
  place : Place
  unrecognized : List String

namespace Progress

def start : Progress :=
  ⟨Settings.initial, .free, []⟩

def putAside
    (progress : Progress)
    (argument : String) :
    Progress :=
  { progress with
    place := if progress.place = .free then .free else .taken
    unrecognized := progress.unrecognized ++ [argument] }

/- A plain argument is the source, if that is still missing. -/
def takePlain
    (progress : Progress)
    (argument : String) :
    Progress :=
  match progress.place with
  | .free =>
      { progress with
        settings := { progress.settings with source := some argument }
        place := .justTaken }
  | _ => progress.putAside argument

/-
  The divider belongs to a source next to it. Away from the
  source it is an argument without a place.
-/
def takeDivider
    (progress : Progress)
    (argument : String) :
    Progress :=
  match progress.place with
  | .free => progress
  | .justTaken => { progress with place := .taken }
  | .taken => progress.putAside argument

/- Flags take effect one by one; help ends everything at once. -/
def takeFlags
    (progress : Progress)
    (flags : List Flag) :
    Except Request Progress :=
  match flags with
  | [] => .ok progress
  | flag :: rest =>
      if flag = .help then
        .error .help
      else
        takeFlags
          { progress with
            settings := progress.settings.set flag
            place := if progress.place = .free then .free else .taken }
          rest

def take
    (progress : Progress)
    (argument : String)
    (word : Word) :
    Except Request Progress :=
  match word with
  | .plain => .ok (progress.takePlain argument)
  | .divider => .ok (progress.takeDivider argument)
  | .unknown => .ok (progress.putAside argument)
  | .long flag none => progress.takeFlags [flag]
  | .long flag (some value) => .error (.misuse (.unusedValue flag value))
  | .short flag tail =>
      match shortFlags flag tail with
      | .error misuse => .error (.misuse misuse)
      | .ok flags => progress.takeFlags flags

def takeAll
    (progress : Progress)
    (words : List (String × Word)) :
    Except Request Progress :=
  match words with
  | [] => .ok progress
  | (argument, word) :: rest =>
      match progress.take argument word with
      | .error request => .error request
      | .ok next => next.takeAll rest

end Progress

def understand
    (arguments : List String) :
    Request :=
  match classifyAll arguments with
  | .error misuse => .misuse misuse
  | .ok words =>
      match Progress.start.takeAll words with
      | .error request => request
      | .ok progress =>
          if progress.unrecognized.isEmpty then
            .settings progress.settings
          else
            .misuse (.unrecognized progress.unrecognized)

end CommandLine

end MonkeyLang
