import TreeQuery.Proofs.Document.History
import TreeQuery.Proofs.Document.Siblings

/-!
# Refused changes

A change is refused for the first of its faults, in the order in which they are looked for, and is
made if it has none.  One that is refused leaves the document as it was.  One that is made changes
what it is asked to change and nothing else.
-/

namespace TreeQuery
namespace Document

/-! # Faults -/

/-- The error is that of the first fault that is there. -/
inductive FirstFault : List (EditError × Prop) -> EditError -> Prop where
  | here {error : EditError} {fault : Prop} {rest : List (EditError × Prop)} :
      fault -> FirstFault ((error, fault) :: rest) error
  | later {other error : EditError} {fault : Prop} {rest : List (EditError × Prop)} :
      ¬fault -> FirstFault rest error -> FirstFault ((other, fault) :: rest) error

/-- What may be wrong with a change, in the order in which it is looked for. -/
def faults (doc : Document) : Change -> List (EditError × Prop)
  | .createElement _ _ => []
  | .createText _ => []
  | .appendChild parent child =>
      [(.foreignNode parent, doc.contains parent = false),
        (.notAnElement parent, doc.isElement parent = false),
        (.foreignNode child, doc.contains child = false),
        (.alreadyAttached child, (exists above, doc.IsParent above child) ∨ doc.root = some child),
        (.hierarchyRequest parent child, Relation.ReflTransGen doc.IsParent child parent)]
  | .setRoot id =>
      [(.foreignNode id, doc.contains id = false),
        (.notAnElement id, doc.isElement id = false),
        (.alreadyAttached id, exists above, doc.IsParent above id)]
  | .setAttribute id _ _ =>
      [(.foreignNode id, doc.contains id = false),
        (.notAnElement id, doc.isElement id = false)]
  | .build _ => []

section Checks

variable {error found : EditError} {fault check : Prop} {rest : List (EditError × Prop)}
  {doc : Document} {next : Edited Unit}

theorem exists_firstFault_iff {faults : List (EditError × Prop)} :
    (exists error, FirstFault faults error) ↔ exists fault, fault ∈ faults ∧ fault.2 := by
  induction faults with
  | nil =>
      constructor
      · intro h
        rcases h with ⟨_, hfirst⟩
        cases hfirst
      · intro h
        rcases h with ⟨_, hmem, _⟩
        cases hmem
  | cons head rest ih =>
      obtain ⟨error, fault⟩ := head
      constructor
      · intro h
        rcases h with ⟨found, hfirst⟩
        cases hfirst with
        | here hfault => exact ⟨_, List.mem_cons_self, hfault⟩
        | later _ hrest =>
            rcases ih.mp ⟨found, hrest⟩ with ⟨other, hmem, hother⟩
            exact ⟨other, List.mem_cons_of_mem _ hmem, hother⟩
      · intro h
        rcases h with ⟨other, hmem, hother⟩
        by_cases hfault : fault
        · exact ⟨error, .here hfault⟩
        · cases hmem with
          | head => exact absurd hother hfault
          | tail _ hmem =>
              rcases ih.mpr ⟨other, hmem, hother⟩ with ⟨found, hfound⟩
              exact ⟨found, .later hfault hfound⟩

theorem fault_eq_error_iff (hfault : fault) :
    (⟨doc, .error error⟩ : Edited Unit).result = .error found ↔
      FirstFault ((error, fault) :: rest) found := by
  constructor
  · intro hsame
    cases hsame
    exact .here hfault
  · intro hfirst
    cases hfirst with
    | here _ => rfl
    | later hnone _ => exact absurd hfault hnone

theorem next_eq_error_iff (hnone : ¬fault)
    (hnext : next.result = .error found ↔ FirstFault rest found) :
    next.result = .error found ↔ FirstFault ((error, fault) :: rest) found := by
  rw [hnext]
  constructor
  · exact .later hnone
  · intro hfirst
    cases hfirst with
    | here hfault => exact absurd hfault hnone
    | later _ hrest => exact hrest

theorem check_eq_error_iff [Decidable check] (hcheck : check ↔ fault)
    (hnext : next.result = .error found ↔ FirstFault rest found) :
    (if check then ⟨doc, .error error⟩ else next).result = .error found ↔
      FirstFault ((error, fault) :: rest) found := by
  by_cases h : check
  · rw [if_pos h]
    exact fault_eq_error_iff (hcheck.mp h)
  · rw [if_neg h]
    exact next_eq_error_iff (fun hfault => h (hcheck.mpr hfault)) hnext

theorem made_eq_error_iff (new : Document) :
    (⟨new, .ok ()⟩ : Edited Unit).result = .error found ↔ FirstFault [] found := by
  constructor
  · intro h
    cases h
  · intro h
    cases h

end Checks

/-! # Which changes are refused -/

section Refusals

variable {doc : Document} {error : EditError}

theorem parent?_isSome_iff {id : NodeId} :
    (doc.parent? id).isSome = true ↔ exists above, doc.IsParent above id :=
  Option.isSome_iff_exists

theorem appendChild_eq_error_iff (wellFormed : doc.WellFormed) {parent child : NodeId} :
    (doc.appendChild parent child).result = .error error ↔
      FirstFault (doc.faults (.appendChild parent child)) error := by
  have hattached : ((doc.parent? child).isSome || doc.root == some child) = true ↔
      (exists above, doc.IsParent above child) ∨ doc.root = some child := by
    rw [Bool.or_eq_true, parent?_isSome_iff, beq_iff_eq]
  have habove : (decide (parent = child) || (doc.ancestors parent).contains child) = true ↔
      Relation.ReflTransGen doc.IsParent child parent := by
    rw [Bool.or_eq_true, decide_eq_true_eq, List.contains_iff_mem,
      wellFormed.mem_ancestors_iff_transGen, Relation.reflTransGen_iff_eq_or_transGen]
  unfold appendChild faults
  exact check_eq_error_iff (by simp) (check_eq_error_iff (by simp) (check_eq_error_iff (by simp)
    (check_eq_error_iff hattached (check_eq_error_iff habove (made_eq_error_iff _)))))

theorem setRoot_eq (doc : Document) (id : NodeId) :
    doc.setRoot id =
      if doc.contains id = false then ⟨doc, .error (.foreignNode id)⟩
      else if doc.isElement id = false then ⟨doc, .error (.notAnElement id)⟩
      else if (doc.parent? id).isSome then ⟨doc, .error (.alreadyAttached id)⟩
      else ⟨{ doc with root := some id }, .ok ()⟩ := by
  unfold setRoot contains parent?
  cases doc.node? id with
  | none => rfl
  | some node => simp

theorem setRoot_eq_error_iff {id : NodeId} :
    (doc.setRoot id).result = .error error ↔ FirstFault (doc.faults (.setRoot id)) error := by
  rw [setRoot_eq]
  exact check_eq_error_iff Iff.rfl (check_eq_error_iff Iff.rfl
    (check_eq_error_iff parent?_isSome_iff (made_eq_error_iff _)))

theorem setAttribute_eq_error_iff {id : NodeId} {name value : Text} :
    (doc.setAttribute id name value).result = .error error ↔
      FirstFault (doc.faults (.setAttribute id name value)) error := by
  unfold setAttribute faults
  apply check_eq_error_iff (by simp)
  unfold isElement
  cases doc.element? id with
  | none => exact fault_eq_error_iff rfl
  | some element => exact next_eq_error_iff (by simp) (made_eq_error_iff _)

theorem attempt_eq_error_iff (wellFormed : doc.WellFormed) {change : Change} :
    (doc.attempt change).result = .error error ↔ FirstFault (doc.faults change) error := by
  cases change with
  | createElement tag attributes => exact made_eq_error_iff _
  | createText payload => exact made_eq_error_iff _
  | appendChild parent child => exact appendChild_eq_error_iff wellFormed
  | setRoot id => exact setRoot_eq_error_iff
  | setAttribute id name value => exact setAttribute_eq_error_iff
  | build tree =>
      rcases exists_build wellFormed tree with ⟨new, hbuild, _⟩
      rw [attempt_build hbuild]
      exact made_eq_error_iff new

theorem made_iff (wellFormed : doc.WellFormed) {change : Change} :
    (doc.attempt change).result = .ok () ↔
      forall fault, fault ∈ doc.faults change -> ¬fault.2 := by
  have hrefused : (exists error, (doc.attempt change).result = .error error) ↔
      exists fault, fault ∈ doc.faults change ∧ fault.2 :=
    (exists_congr fun _ => attempt_eq_error_iff wellFormed).trans exists_firstFault_iff
  cases hattempt : (doc.attempt change).result with
  | ok made =>
      have hnone : ¬exists fault, fault ∈ doc.faults change ∧ fault.2 := by
        rw [← hrefused, hattempt]
        intro h
        rcases h with ⟨error, hsame⟩
        cases hsame
      refine ⟨fun _ fault hmem hfault => hnone ⟨fault, hmem, hfault⟩, fun _ => rfl⟩
  | error error =>
      rcases hrefused.mp ⟨error, hattempt⟩ with ⟨fault, hmem, hfault⟩
      constructor
      · intro h
        cases h
      · intro hnone
        exact absurd hfault (hnone fault hmem)

theorem after_of_refused (wellFormed : doc.WellFormed) {change : Change}
    (h : (doc.attempt change).result = .error error) : doc.after change = doc := by
  rcases hattempt : doc.attempt change with ⟨left, result⟩
  rw [hattempt] at h
  cases h
  rw [after, hattempt]
  exact wellFormed.attempt_refused hattempt

end Refusals

/-! # What a change changes -/

/-- A child was put behind the last child of a parent.  The three nodes that get a new link belong
to the document, and everything else is as it was. -/
structure Appended (doc : Document) (parent child : NodeId) (new : Document) : Prop where
  contains_parent : doc.contains parent = true
  contains_child : doc.contains child = true
  contains_last : forall last, (doc.children parent).getLast? = some last ->
    doc.contains last = true
  children : new.children parent = doc.children parent ++ [child]
  parent? : new.parent? child = some parent
  linked : forall last, (doc.children parent).getLast? = some last ->
    new.next? last = some child ∧ new.previous? child = some last
  id : new.id = doc.id
  size : new.size = doc.size
  root : new.root = doc.root
  content? : forall id, new.content? id = doc.content? id
  other_children : forall id, id ≠ parent -> new.children id = doc.children id
  other_parent? : forall id, id ≠ child -> new.parent? id = doc.parent? id
  other_next? : forall id, (doc.children parent).getLast? ≠ some id -> new.next? id = doc.next? id
  other_previous? : forall id, id ≠ child ∨ doc.children parent = [] ->
    new.previous? id = doc.previous? id

/-- An attribute was set on one element.  Every link is as it was, and so is every other node. -/
structure AttributeSet (doc : Document) (target : NodeId) (name value : Text) (new : Document) :
    Prop where
  element? : exists element, doc.element? target = some element ∧
    new.element? target = some { element with attributes := element.attributes.set name value }
  links : SameLinks doc new
  id : new.id = doc.id
  size : new.size = doc.size
  root : new.root = doc.root
  other_node? : forall id, id ≠ target -> new.node? id = doc.node? id

section Changes

variable {doc new : Document}

theorem appended_attach (wellFormed : doc.WellFormed) {parent child : NodeId}
    (attachable : Attachable doc parent child) :
    Appended doc parent child (doc.attach parent child) := by
  have hparents := wellFormed.parent?_attach attachable
  have hchildren := wellFormed.children_attach attachable
  have hnext := wellFormed.next?_attach attachable
  have hprevious := wellFormed.previous?_attach attachable
  constructor
  case contains_parent => exact contains_of_isElement attachable.isElement
  case contains_child => exact attachable.contains
  case contains_last =>
    intro last hlast
    exact wellFormed.contains_child (List.mem_of_getLast? hlast)
  case children => rw [hchildren, if_pos rfl]
  case parent? => rw [hparents, if_pos rfl]
  case linked =>
    intro last hlast
    constructor
    · rw [hnext, if_pos hlast]
    · rw [hprevious, if_pos rfl, hlast]
  case id => exact id_attach doc parent child
  case size => exact size_attach doc parent child
  case root => exact root_attach doc parent child
  case content? => exact wellFormed.content?_attach attachable
  case other_children =>
    intro id hid
    rw [hchildren, if_neg hid]
  case other_parent? =>
    intro id hid
    rw [hparents, if_neg hid]
  case other_next? =>
    intro id hid
    rw [hnext, if_neg hid]
  case other_previous? =>
    intro id hid
    rw [hprevious]
    split
    · rename_i hchild
      have hfirst : doc.children parent = [] := hid.resolve_left (fun hne => hne hchild)
      rw [hfirst, hchild, wellFormed.previous_of_detached attachable.detached]
      rfl
    · rfl

theorem attributeSet_of_made {target : NodeId} {name value : Text}
    (h : doc.setAttribute target name value = ⟨new, .ok ()⟩) :
    AttributeSet doc target name value new := by
  rcases setAttribute_eq_ok_iff.mp h with ⟨element, helement, rfl⟩
  have htarget : doc.isElement target = true := by
    rw [isElement, helement]
    rfl
  have hcontains := contains_of_isElement htarget
  have hdocument := (contains_iff_index.mp hcontains).1
  constructor
  case element? =>
    rcases contains_iff.mp hcontains with ⟨node, hnode⟩
    refine ⟨element, helement, ?_⟩
    rw [element?, node?_modify _ _ _ hdocument, hnode, Option.map_some, if_pos rfl]
  case links => exact sameLinks_modify_content _ hdocument
  case id => rfl
  case size => exact size_modify _ _ _
  case root => rfl
  case other_node? =>
    intro id hid
    rw [node?_modify _ _ _ hdocument]
    simp [hid]

end Changes

/-- A change is refused exactly for the first of its faults, and then the document stays as it
was.  One without faults is made, and it changes what it has to and nothing else. -/
theorem changes_refused_or_made {doc : Document} (reachable : doc.Reachable) :
    (forall change error,
      (doc.attempt change).result = .error error ↔ FirstFault (doc.faults change) error) ∧
    (forall change, (doc.attempt change).result = .ok () ↔
      forall fault, fault ∈ doc.faults change -> ¬fault.2) ∧
    (forall change error,
      (doc.attempt change).result = .error error -> doc.after change = doc) ∧
    (forall parent child new, doc.appendChild parent child = ⟨new, .ok ()⟩ ->
      Appended doc parent child new) ∧
    (forall id new, doc.setRoot id = ⟨new, .ok ()⟩ -> new = { doc with root := some id }) ∧
    (forall target name value new, doc.setAttribute target name value = ⟨new, .ok ()⟩ ->
      AttributeSet doc target name value new) := by
  have wellFormed := reachable.wellFormed
  refine ⟨fun _ _ => attempt_eq_error_iff wellFormed, fun _ => made_iff wellFormed,
    fun _ _ => after_of_refused wellFormed, ?_, ?_, ?_⟩
  · intro parent child new h
    rcases appendChild_eq_ok_iff.mp h with ⟨attachable, rfl⟩
    exact appended_attach wellFormed attachable
  · intro id new h
    exact (setRoot_eq_ok_iff.mp h).2.2
  · intro target name value new h
    exact attributeSet_of_made h

def twoLists : Document :=
  twoItems.after (.build (.element "ol" .empty [.element "li" .empty []]))

/-- The second list goes into an item of the first, but not into its own item, and the first is the
root. -/
theorem changes_refused_or_made_twoLists :
    twoLists.Reachable ∧
    FirstFault (twoLists.faults (.appendChild ⟨0, 5⟩ ⟨0, 4⟩))
      (.hierarchyRequest ⟨0, 5⟩ ⟨0, 4⟩) ∧
    FirstFault (twoLists.faults (.appendChild ⟨0, 5⟩ ⟨0, 0⟩)) (.alreadyAttached ⟨0, 0⟩) ∧
    FirstFault (twoLists.faults (.appendChild ⟨0, 2⟩ ⟨7, 0⟩)) (.notAnElement ⟨0, 2⟩) ∧
    twoLists.after (.appendChild ⟨0, 5⟩ ⟨0, 4⟩) = twoLists ∧
    (exists new, twoLists.appendChild ⟨0, 3⟩ ⟨0, 4⟩ = ⟨new, .ok ()⟩ ∧
      Appended twoLists ⟨0, 3⟩ ⟨0, 4⟩ new) ∧
    (exists new, twoLists.setAttribute ⟨0, 3⟩ "ID" "last" = ⟨new, .ok ()⟩ ∧
      AttributeSet twoLists ⟨0, 3⟩ "ID" "last" new) := by
  have reachable : twoLists.Reachable :=
    ⟨0, [.build (.element "ul" .empty
        [.element "li" .empty [], .text " ", .element "li" .empty []]),
      .setRoot ⟨0, 0⟩, .build (.element "ol" .empty [.element "li" .empty []])], rfl⟩
  rcases changes_refused_or_made reachable with ⟨hrefused, _, hafter, happended, _, hset⟩
  exact ⟨reachable, (hrefused _ _).mp rfl, (hrefused _ _).mp rfl, (hrefused _ _).mp rfl,
    hafter _ _ rfl, ⟨_, rfl, happended _ _ _ rfl⟩, ⟨_, rfl, hset _ _ _ _ rfl⟩⟩

end Document
end TreeQuery
