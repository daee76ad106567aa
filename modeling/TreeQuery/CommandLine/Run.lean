import TreeQuery.CommandLine.Arguments
import TreeQuery.Document.Build
import TreeQuery.Document.TreeJson
import TreeQuery.Query

/-!
# Running the program

The program reads a document, runs a selector against it and prints the matches: one summary
line each, their number, or their trees as a JSON array.  What it prints is computed here from
what was read; reading and printing themselves are left to the main module.
-/

namespace TreeQuery
namespace CommandLine

variable [Pattern.Engine]

/-! # Failures -/

inductive ReadFailure where
  | system (reason : Text) (code : Nat)
  | notText
deriving DecidableEq, Repr

def ReadFailure.message : ReadFailure -> Text
  | .system reason code => reason ++ " (os error " ++ Text.ofNat code ++ ")"
  | .notText => "stream did not contain valid UTF-8"

inductive Failure where
  | plain (text : Text)
  | because (text cause : Text)
  /-- The cause has a cause of its own, so that it is numbered. -/
  | becauseNumbered (text cause : Text)
deriving DecidableEq, Repr

def indentLines (indent : Text) (text : Text) : Text :=
  text.flatMap (fun c => if c = '\n' then '\n' :: indent else [c])

def Failure.report : Failure -> Text
  | .plain text => "Error: " ++ text ++ "\n"
  | .because text cause =>
      "Error: " ++ text ++ "\n\nCaused by:\n    " ++ indentLines "    " cause ++ "\n"
  | .becauseNumbered text cause =>
      "Error: " ++ text ++ "\n\nCaused by:\n    0: " ++ indentLines "       " cause ++ "\n"

/-- The failure to read a selector.  What the engine says about a regular expression is the cause
of the numbered cause, and is left out. -/
def Failure.ofQueryError (context : Text) : QueryError -> Failure
  | .parse (.invalidRegex pattern) =>
      .becauseNumbered context (Selector.ParseError.invalidRegex pattern).message
  | error => .because context error.message

/-! # Reading the document -/

/-- The file that the document is read from; none stands for standard input. -/
def Options.source (options : Options) : Option Text :=
  options.file.filter (· ≠ ['-'])

/-- Read the tree.  Of a text that is not one it is not told where it goes wrong. -/
def loadTree (options : Options) (input : Except ReadFailure Text) : Except Failure Tree :=
  match input with
  | .error failure =>
      let context : Text := match options.source with
        | some path => "failed to read " ++ path
        | none => "failed to read document from stdin"
      .error (.because context failure.message)
  | .ok text =>
      match Tree.read text with
      | none => .error (.plain "document is not a valid tree")
      | some tree => .ok tree

def loadDocument (tree : Tree) : Except Failure Document :=
  match Document.ofTree 0 tree with
  | .error error => .error (.plain error.message)
  | .ok doc => .ok doc

/-! # Output -/

def cyan (text : Text) : Text :=
  "\x1b[36m" ++ text ++ "\x1b[39m"

def dimmed (text : Text) : Text :=
  "\x1b[2m" ++ text ++ "\x1b[0m"

def attributeSummary (name value : Text) : Text :=
  if value.isEmpty then " " ++ name else " " ++ name ++ "=\"" ++ value ++ "\""

def startTag (element : Element) : Text :=
  "<" ++ element.tag ++
    element.attributes.toList.flatMap (fun (name, value) => attributeSummary name value) ++ ">"

def summary (doc : Document) (isColored : Bool) (id : NodeId) : Text :=
  match doc.element? id with
  | none => []
  | some element =>
      let tag := startTag element
      let text := doc.text id
      let shownTag := if isColored then cyan tag else tag
      if text.isEmpty then shownTag
      else shownTag ++ " " ++ (if isColored then dimmed (Text.quote text) else Text.quote text)

def countOutput (found : List NodeId) : Text :=
  Text.ofNat found.length ++ "\n"

def jsonOutput (doc : Document) (found : List NodeId) : Text :=
  Json.pretty (.array ((found.filterMap doc.describe?).map Tree.toJson)) ++ "\n"

def summaryOutput (doc : Document) (isColored : Bool) (found : List NodeId) : Text :=
  found.flatMap (fun id => summary doc isColored id ++ "\n")

def explanation (query : Query) : Text :=
  "matcher: " ++ query.matcher.render ++ "\n"

/-! # The program -/

def rootElement (options : Options) (doc : Document) : Except Failure NodeId :=
  match options.root with
  | none =>
      match doc.root with
      | none => .error (.plain QueryError.noDocumentRoot.message)
      | some root => .ok root
  | some selector =>
      match Query.parse selector with
      | .error error =>
          .error (.ofQueryError ("invalid root selector `" ++ selector ++ "`") error)
      | .ok query =>
          match query.selectDocument doc with
          | .error error => .error (.plain error.message)
          | .ok [] => .error (.plain ("no element matches root selector `" ++ query.source ++ "`"))
          | .ok (root :: _) => .ok root

def output (options : Options) (isColored : Bool) (doc : Document) : Except Failure Text := do
  let query ←
    match Query.parse options.selector with
    | .error error =>
        .error (.ofQueryError ("invalid selector `" ++ options.selector ++ "`") error)
    | .ok query => .ok query
  let root ← rootElement options doc
  let found ←
    match query.select doc root with
    | .error error => .error (Failure.plain error.message)
    | .ok found => .ok found
  let matchesText :=
    if options.count then countOutput found
    else if options.json then jsonOutput doc found
    else summaryOutput doc isColored found
  .ok ((if options.explain then explanation query else []) ++ matchesText)

def selectorWarnings (options : Options) : List Warning :=
  let first := Query.parseWarnings options.selector
  match Query.parse options.selector, options.root with
  | .ok _, some root => first ++ Query.parseWarnings root
  | _, _ => first

structure Outcome where
  exitCode : Nat
  printed : Text
  complaint : Text
  warnings : List Warning
deriving Repr

def Outcome.ofFailure (warnings : List Warning) (failure : Failure) : Outcome :=
  ⟨1, [], failure.report, Warning.Registry.shown [] warnings⟩

/-- Run the options on the input.  Output is colored unless that is switched off by an option or
by the environment. -/
def run (options : Options) (noColor : Bool) (input : Except ReadFailure Text) : Outcome :=
  match loadTree options input with
  | .error failure => .ofFailure [] failure
  | .ok tree =>
      match loadDocument tree with
      | .error failure => .ofFailure tree.warnings failure
      | .ok doc =>
          let warnings := tree.warnings ++ selectorWarnings options
          match output options (!options.noColor && !noColor) doc with
          | .error failure => .ofFailure warnings failure
          | .ok printed => ⟨0, printed, [], Warning.Registry.shown [] warnings⟩

def versionText : Text := "sprig 0.1.0\n"

/-- A description of the arguments.  Its wording is free. -/
def helpText : Text :=
  "Query JSON document trees with CSS-like selectors\n\n" ++
  "Usage: sprig [OPTIONS] --selector <SELECTOR> [FILE]\n\n" ++
  "Arguments:\n" ++
  "  [FILE]  Path to a JSON document (reads stdin when omitted or \"-\")\n\n" ++
  "Options:\n" ++
  "  -s, --selector <SELECTOR>  Selector to run\n" ++
  "  -r, --root <SELECTOR>      Start the query from the first element matching this selector\n" ++
  "      --explain              Print the parsed matcher tree before the results\n" ++
  "  -c, --count                Print only the number of matches\n" ++
  "      --json                 Print matching subtrees as a JSON array\n" ++
  "      --no-color             Disable colored output\n" ++
  "  -h, --help                 Print help\n" ++
  "  -V, --version              Print version\n"

/-- The complaint about arguments that are not well formed, whatever is wrong with them.  Its
wording is free, and only the exit code tells anything. -/
def usageText : Text :=
  "error: invalid arguments\n\n" ++
  "Usage: sprig [OPTIONS] --selector <SELECTOR> [FILE]\n\n" ++
  "For more information, try '--help'.\n"

def usageOutcome : Outcome := ⟨2, [], usageText, []⟩

end CommandLine
end TreeQuery
