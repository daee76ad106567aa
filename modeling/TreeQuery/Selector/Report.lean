import TreeQuery.Selector.Error
import TreeQuery.Warning

/-!
# Reports

Reading a selector gives warnings on the way, whether or not it succeeds in the end.  A report
holds both the warnings in the order in which they were given and the result.
-/

namespace TreeQuery
namespace Selector

structure Report (α : Type) where
  warnings : List Warning
  result : Except ParseError α

namespace Report

def ok {α : Type} (value : α) : Report α := ⟨[], .ok value⟩

def fail {α : Type} (error : ParseError) : Report α := ⟨[], .error error⟩

def andThen {α β : Type} (report : Report α) (continuation : α -> Report β) : Report β :=
  match report.result with
  | .error error => ⟨report.warnings, .error error⟩
  | .ok value =>
      let after := continuation value
      ⟨report.warnings ++ after.warnings, after.result⟩

instance : Monad Report where
  pure := ok
  bind := andThen

def ofExcept {α : Type} (result : Except ParseError α) : Report α := ⟨[], result⟩

@[simp] theorem result_ok {α : Type} (value : α) : (ok value).result = .ok value := rfl

@[simp] theorem result_pure {α : Type} (value : α) :
    (pure value : Report α).result = .ok value := rfl

@[simp] theorem result_fail {α : Type} (error : ParseError) :
    (fail error : Report α).result = .error error := rfl

@[simp] theorem pure_bind {α β : Type} (value : α) (continuation : α -> Report β) :
    (pure value >>= continuation) = continuation value := rfl

theorem result_bind {α β : Type} (report : Report α) (continuation : α -> Report β) :
    (report >>= continuation).result =
      match report.result with
      | .error error => .error error
      | .ok value => (continuation value).result := by
  cases h : report.result with
  | error error => simp [bind, andThen, h]
  | ok value => simp [bind, andThen, h]

end Report
end Selector
end TreeQuery
