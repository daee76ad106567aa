import TreeQuery.CommandLine.Run
import TreeQuery.Pattern.Search

/-!
# The program

Reads the document from a file or from standard input, and prints what the command line asks
for.
-/

open TreeQuery CommandLine

def decodeInput (bytes : ByteArray) : Except ReadFailure Text :=
  match String.fromUTF8? bytes with
  | some text => .ok text.toList
  | none => .error .notText

def readFailure : IO.Error -> ReadFailure
  | .noFileOrDirectory _ code reason => .system reason.toList code.toNat
  | .permissionDenied _ code reason => .system reason.toList code.toNat
  | .inappropriateType _ code reason => .system reason.toList code.toNat
  | error => .system error.toString.toList 0

partial def readAll (stream : IO.FS.Stream) (bytes : ByteArray) : IO ByteArray := do
  let more ← stream.read 65536
  if more.isEmpty then return bytes else readAll stream (bytes ++ more)

def readInput (options : Options) : IO (Except ReadFailure Text) := do
  try
    match options.source with
    | some path => return decodeInput (← IO.FS.readBinFile (String.ofList path))
    | none => return decodeInput (← readAll (← IO.getStdin) .empty)
  catch error => return .error (readFailure error)

def finish (outcome : Outcome) : IO UInt32 := do
  for warning in outcome.warnings do
    IO.eprintln ("\x1b[33m" ++ String.ofList warning.line ++ "\x1b[0m")
  IO.print (String.ofList outcome.printed)
  IO.eprint (String.ofList outcome.complaint)
  return outcome.exitCode.toUInt32

def main (arguments : List String) : IO UInt32 := do
  match Command.ofArguments? (arguments.map String.toList) with
  | none => finish usageOutcome
  | some .version => finish ⟨0, versionText, [], []⟩
  | some .help => finish ⟨0, helpText, [], []⟩
  | some (.run options) =>
      let noColor ← IO.getEnv "NO_COLOR"
      finish (run options noColor.isSome (← readInput options))
