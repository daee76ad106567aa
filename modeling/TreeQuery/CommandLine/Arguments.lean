import TreeQuery.Text.Basic

/-!
# Arguments

Options may stand in any order before and after the file name.  A value may be attached to its
option, after an equals sign or, for a one-letter option, directly; one that starts with a minus
sign must be.  One-letter options without values can be written together.
-/

namespace TreeQuery
namespace CommandLine

structure Options where
  file : Option Text
  selector : Text
  root : Option Text
  explain : Bool
  count : Bool
  json : Bool
  noColor : Bool
deriving DecidableEq, Repr

inductive Command where
  | run (options : Options)
  | version
  | help
deriving DecidableEq, Repr

inductive ValueOption where
  | selector
  | root
deriving DecidableEq, Repr

inductive Switch where
  | explain
  | count
  | json
  | noColor
  | version
  | help
deriving DecidableEq, Repr

def letter? : Char -> Option (ValueOption ⊕ Switch)
  | 's' => some (.inl .selector)
  | 'r' => some (.inl .root)
  | 'c' => some (.inr .count)
  | 'V' => some (.inr .version)
  | 'h' => some (.inr .help)
  | _ => none

def name? (name : Text) : Option (ValueOption ⊕ Switch) :=
  if name = "selector" then some (.inl .selector)
  else if name = "root" then some (.inl .root)
  else if name = "explain" then some (.inr .explain)
  else if name = "count" then some (.inr .count)
  else if name = "json" then some (.inr .json)
  else if name = "no-color" then some (.inr .noColor)
  else if name = "version" then some (.inr .version)
  else if name = "help" then some (.inr .help)
  else none

/-! # Reading arguments one by one -/

structure Seen where
  file : Option Text
  values : List (ValueOption × Text)
  switches : List Switch
deriving DecidableEq, Repr

inductive Reading where
  | more (seen : Seen)
  | answer (command : Command)

namespace Seen

def empty : Seen := ⟨none, [], []⟩

/-- Give a value to an option.  An option must not be repeated. -/
def addValue? (seen : Seen) (option : ValueOption) (value : Text) : Option Seen :=
  if seen.values.any (fun entry => entry.1 == option) then none
  else some { seen with values := (option, value) :: seen.values }

/-- Set a switch.  A switch must not be repeated; the ones that ask about the program itself are
answered at once. -/
def addSwitch? (seen : Seen) (switch : Switch) : Option Reading :=
  match switch with
  | .version => some (.answer .version)
  | .help => some (.answer .help)
  | switch =>
      if seen.switches.contains switch then none
      else some (.more { seen with switches := switch :: seen.switches })

def addFile? (seen : Seen) (file : Text) : Option Seen :=
  if seen.file.isSome || file.isEmpty then none else some { seen with file := some file }

/-- The options that the arguments stand for.  The selector is required, and a count and JSON
exclude each other. -/
def options? (seen : Seen) : Option Options :=
  match seen.values.lookup .selector with
  | none => none
  | some selector =>
      if seen.switches.contains .count && seen.switches.contains .json then none
      else
        some {
          file := seen.file
          selector := selector
          root := seen.values.lookup .root
          explain := seen.switches.contains .explain
          count := seen.switches.contains .count
          json := seen.switches.contains .json
          noColor := seen.switches.contains .noColor }

end Seen

/-- What the letters of one argument lead to: a reading, or an option that waits for its value. -/
def readLetters (seen : Seen) : Text -> Option (Reading ⊕ (Seen × ValueOption))
  | [] => some (.inl (.more seen))
  | letter :: rest =>
      match letter? letter with
      | none => none
      | some (.inr switch) =>
          match seen.addSwitch? switch with
          | none => none
          | some (.answer command) => some (.inl (.answer command))
          | some (.more seen) => readLetters seen rest
      | some (.inl option) =>
          match rest with
          | [] => some (.inr (seen, option))
          | '=' :: value => (seen.addValue? option value).map (fun seen => .inl (.more seen))
          | value => (seen.addValue? option value).map (fun seen => .inl (.more seen))

def readLong (seen : Seen) (text : Text) : Option (Reading ⊕ (Seen × ValueOption)) :=
  match name? (text.takeWhile (· != '=')), text.dropWhile (· != '=') with
  | some (.inl option), [] => some (.inr (seen, option))
  | some (.inl option), _ :: value =>
      (seen.addValue? option value).map (fun seen => .inl (.more seen))
  | some (.inr switch), [] => (seen.addSwitch? switch).map .inl
  | some (.inr _), _ :: _ => none
  | none, _ => none

def readFiles (seen : Seen) : List Text -> Option Seen
  | [] => some seen
  | file :: rest =>
      match seen.addFile? file with
      | none => none
      | some seen => readFiles seen rest

def readArgument (seen : Seen) (argument : Text) : Option (Reading ⊕ (Seen × ValueOption)) :=
  match argument with
  | '-' :: '-' :: text => readLong seen text
  | '-' :: c :: letters => readLetters seen (c :: letters)
  | file => (seen.addFile? file).map (fun seen => .inl (.more seen))

def isOption : Text -> Bool
  | '-' :: _ :: _ => true
  | _ => false

/-- Read the arguments from left to right.  Two minus signs end the options. -/
def readArguments (seen : Seen) : List Text -> Option Command
  | [] => seen.options?.map .run
  | ['-', '-'] :: rest => (readFiles seen rest).bind (fun seen => seen.options?.map .run)
  | argument :: rest =>
      match readArgument seen argument with
      | none => none
      | some (.inl (.answer command)) => some command
      | some (.inl (.more seen)) => readArguments seen rest
      | some (.inr (seen, option)) =>
          match rest with
          | [] => none
          | value :: rest =>
              if isOption value then none
              else
                match seen.addValue? option value with
                | none => none
                | some seen => readArguments seen rest

def Command.ofArguments? (arguments : List Text) : Option Command :=
  readArguments .empty arguments

end CommandLine
end TreeQuery
