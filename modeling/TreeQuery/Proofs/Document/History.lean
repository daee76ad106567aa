import TreeQuery.Proofs.Document.Construction

/-!
# Histories of a document

A document starts without nodes and goes through changes, each of which succeeds or is refused.
The nodes that a change names may belong to the document or not.  Whatever the changes and their
order, the document stays well-formed.
-/

namespace TreeQuery
namespace Document

inductive Change where
  | createElement (tag : Text) (attributes : Attributes)
  | createText (payload : Text)
  | appendChild (parent child : NodeId)
  | setRoot (id : NodeId)
  | setAttribute (id : NodeId) (name value : Text)
  | build (tree : Tree)

def attempt (doc : Document) : Change -> Edited Unit
  | .createElement tag attributes => ⟨(doc.createElement tag attributes).1, .ok ()⟩
  | .createText payload => ⟨(doc.createText payload).1, .ok ()⟩
  | .appendChild parent child => doc.appendChild parent child
  | .setRoot id => doc.setRoot id
  | .setAttribute id name value => doc.setAttribute id name value
  | .build tree => (doc.build tree).andThen (fun doc _ => ⟨doc, .ok ()⟩)

/-- The document that a change leaves, made or refused. -/
def after (doc : Document) (change : Change) : Document :=
  (doc.attempt change).doc

def run (doc : Document) (changes : List Change) : Document :=
  changes.foldl after doc

/-- The document comes from a new one by changes. -/
def Reachable (doc : Document) : Prop :=
  exists id changes, doc = (empty id).run changes

theorem attempt_build {doc new : Document} {tree : Tree} {id : NodeId}
    (h : doc.build tree = ⟨new, .ok id⟩) : doc.attempt (.build tree) = ⟨new, .ok ()⟩ := by
  rw [attempt, h]
  rfl

theorem WellFormed.attempt {doc changed : Document} (wellFormed : doc.WellFormed)
    {change : Change} (h : doc.attempt change = ⟨changed, .ok ()⟩) : changed.WellFormed := by
  cases change with
  | createElement tag attributes =>
      cases h
      exact wellFormed.create (.element (.ofTag tag attributes))
  | createText payload =>
      cases h
      exact wellFormed.create (.text payload)
  | appendChild parent child => exact wellFormed.appendChild h
  | setRoot id => exact wellFormed.setRoot h
  | setAttribute id name value => exact wellFormed.setAttribute h
  | build tree =>
      rcases exists_build wellFormed tree with ⟨new, hbuild, built⟩
      rw [attempt_build hbuild] at h
      cases h
      exact built.wellFormed

theorem WellFormed.attempt_refused {doc left : Document} (wellFormed : doc.WellFormed)
    {change : Change} {error : EditError} (h : doc.attempt change = ⟨left, .error error⟩) :
    left = doc := by
  cases change with
  | createElement tag attributes => cases h
  | createText payload => cases h
  | appendChild parent child => exact appendChild_refused h
  | setRoot id => exact setRoot_refused h
  | setAttribute id name value => exact setAttribute_refused h
  | build tree =>
      rcases exists_build wellFormed tree with ⟨new, hbuild, _⟩
      rw [attempt_build hbuild] at h
      cases h

theorem WellFormed.after {doc : Document} (wellFormed : doc.WellFormed) (change : Change) :
    (doc.after change).WellFormed := by
  unfold Document.after
  rcases h : doc.attempt change with ⟨left, error | made⟩
  · rw [wellFormed.attempt_refused h]
    exact wellFormed
  · exact wellFormed.attempt h

theorem WellFormed.run {doc : Document} (wellFormed : doc.WellFormed) (changes : List Change) :
    (doc.run changes).WellFormed := by
  induction changes generalizing doc with
  | nil => exact wellFormed
  | cons change rest ih => exact ih (wellFormed.after change)

theorem Reachable.wellFormed {doc : Document} (reachable : doc.Reachable) : doc.WellFormed := by
  rcases reachable with ⟨id, changes, rfl⟩
  exact (wellFormed_empty id).run changes

/-- Every history keeps the document well-formed, and building is never what is refused. -/
theorem history_wellFormed (id : Nat) (changes : List Change) :
    ((empty id).run changes).WellFormed ∧
      forall tree, exists new,
        ((empty id).run changes).build tree = ⟨new, .ok ((empty id).run changes).fresh⟩ := by
  have wellFormed := (wellFormed_empty id).run changes
  constructor
  · exact wellFormed
  · intro tree
    rcases exists_build wellFormed tree with ⟨new, hbuild, _⟩
    exact ⟨new, hbuild⟩

def twoItems : Document :=
  (empty 0).run
    [.build (.element "ul" .empty
      [.element "li" .empty [], .text " ", .element "li" .empty []]),
      .setRoot ⟨0, 0⟩]

theorem reachable_twoItems : twoItems.Reachable :=
  ⟨0, _, rfl⟩

end Document
end TreeQuery
