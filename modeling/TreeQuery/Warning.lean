import TreeQuery.Text.Basic

/-!
# Warnings

A warning tells of input that is accepted but cannot do what it seems to say.  A registry
remembers the warnings that were given, so that each is shown once.
-/

namespace TreeQuery

structure Warning where
  component : Text
  message : Text
deriving Repr, DecidableEq

namespace Warning

def key (warning : Warning) : Text :=
  "[" ++ warning.component ++ "] " ++ warning.message

def line (warning : Warning) : Text :=
  "[Sprig " ++ warning.component ++ "] ⚠ " ++ warning.message

/-- The keys of the warnings given so far, most recent first. -/
abbrev Registry := List Text

namespace Registry

def has (registry : Registry) (warning : Warning) : Bool :=
  registry.contains warning.key

/-- Give a warning: the registry afterwards, and whether the warning is to be shown. -/
def give (registry : Registry) (warning : Warning) : Registry × Bool :=
  if registry.has warning then (registry, false) else (warning.key :: registry, true)

def shown : Registry -> List Warning -> List Warning
  | _, [] => []
  | registry, warning :: rest =>
      let (after, isShown) := registry.give warning
      if isShown then warning :: shown after rest else shown after rest

end Registry
end Warning
end TreeQuery
