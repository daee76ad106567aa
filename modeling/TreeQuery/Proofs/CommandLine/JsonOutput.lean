import TreeQuery.CommandLine.Run
import TreeQuery.Pattern.Search
import TreeQuery.Proofs.Document.Description
import TreeQuery.Proofs.Document.TreeJson
import TreeQuery.Proofs.Query.Results

/-!
# Output that is read back

The trees of the matches are printed as an array on several lines.  Every match has a tree, so
that the array has one for each match, and it is read back as the list of these trees.
-/

namespace TreeQuery

namespace Query

variable {doc : Document} {query : Query} {root id : NodeId}

theorem isElement_of_mem_answer (wellFormed : doc.WellFormed) (h : id ∈ query.answer doc root) :
    doc.isElement id = true :=
  (wellFormed.mem_elements_iff.mp (List.mem_filter.mp h).1).1

theorem exists_describe?_answer (wellFormed : doc.WellFormed) (query : Query) (root : NodeId) :
    exists trees : List Tree, (query.answer doc root).map doc.describe? = trees.map some :=
  exists_map_eq_map_some fun _ hid =>
    Document.exists_describe?
      (Document.contains_of_isElement (isElement_of_mem_answer wellFormed hid))

end Query

namespace CommandLine

variable {doc : Document} {options : Options} {root : NodeId}

theorem rootElement_cases [Pattern.Engine] (wellFormed : doc.WellFormed)
    (h : rootElement options doc = .ok root) :
    doc.root = some root ∨ exists query top, root ∈ Query.answer query doc top := by
  unfold rootElement at h
  split at h
  · split at h
    · cases h
    · next hroot =>
        cases h
        exact Or.inl hroot
  · split at h
    · cases h
    · next query _ =>
        rw [Query.selectDocument_eq wellFormed] at h
        cases hroot : doc.root with
        | none =>
            rw [hroot] at h
            cases h
        | some top =>
            simp only [hroot] at h
            cases hanswer : query.answer doc top with
            | nil =>
                rw [hanswer] at h
                cases h
            | cons first rest =>
                rw [hanswer] at h
                cases h
                refine Or.inr ⟨query, top, ?_⟩
                rw [hanswer]
                exact List.mem_cons_self

theorem isElement_of_rootElement [Pattern.Engine] (wellFormed : doc.WellFormed)
    (h : rootElement options doc = .ok root) : doc.isElement root = true := by
  rcases rootElement_cases wellFormed h with hroot | ⟨query, top, hmatch⟩
  · exact wellFormed.root_isElement hroot
  · exact Query.isElement_of_mem_answer wellFormed hmatch

theorem jsonOutput_eq {found : List NodeId} {trees : List Tree}
    (h : found.map doc.describe? = trees.map some) :
    jsonOutput doc found = Json.pretty (.array (trees.map Tree.toJson)) ++ ['\n'] := by
  rw [jsonOutput, filterMap_of_map_eq_map_some h]
  rfl

theorem output_eq_ok_iff [Pattern.Engine] {isColored : Bool} {printed : Text} :
    output options isColored doc = .ok printed ↔
      exists query root found, Query.parse options.selector = .ok query ∧
        rootElement options doc = .ok root ∧ query.select doc root = .ok found ∧
        printed = (if options.explain then explanation query else []) ++
          (if options.count then countOutput found
          else if options.json then jsonOutput doc found
          else summaryOutput doc isColored found) := by
  constructor
  · intro h
    unfold output at h
    cases hquery : Query.parse options.selector with
    | error error =>
        rw [hquery] at h
        cases h
    | ok query =>
        cases hroot : rootElement options doc with
        | error error =>
            rw [hquery, hroot] at h
            cases h
        | ok root =>
            cases hfound : query.select doc root with
            | error error =>
                simp only [hquery, hroot, bind, Except.bind, hfound] at h
                cases h
            | ok found =>
                simp only [hquery, hroot, bind, Except.bind, hfound] at h
                cases h
                exact ⟨query, root, found, rfl, rfl, hfound, rfl⟩
  · intro h
    rcases h with ⟨query, root, found, hquery, hroot, hfound, rfl⟩
    unfold output
    simp only [hquery, hroot, bind, Except.bind, hfound]

theorem output_json [Pattern.Engine] {isColored : Bool} {query : Query} {found : List NodeId}
    (hcount : options.count = false) (hjson : options.json = true)
    (hquery : Query.parse options.selector = .ok query)
    (hroot : rootElement options doc = .ok root) (hfound : query.select doc root = .ok found) :
    output options isColored doc =
      .ok ((if options.explain then explanation query else []) ++ jsonOutput doc found) := by
  apply output_eq_ok_iff.mpr
  exact ⟨query, root, found, hquery, hroot, hfound, by simp [hcount, hjson]⟩

/-- A tree is read back from its compact form.  The array that is printed for the matches is read
back as the list of their trees, which has one for each of them. -/
theorem trees_read_back [Pattern.Engine] :
    (forall tree : Tree, tree.toJson.depth <= Json.maxDepth ->
      Tree.read (Json.compact tree.toJson) = some tree) ∧
    (forall doc : Document, doc.Reachable ->
      forall (options : Options) (isColored : Bool) (query : Query) (root : NodeId),
        options.count = false -> options.json = true ->
        Query.parse options.selector = .ok query -> rootElement options doc = .ok root ->
        exists (found : List NodeId) (trees : List Tree),
          query.select doc root = .ok found ∧
          found.map doc.describe? = trees.map some ∧
          output options isColored doc =
            .ok ((if options.explain then explanation query else []) ++ jsonOutput doc found) ∧
          ((Json.array (trees.map Tree.toJson)).depth <= Json.maxDepth ->
            Tree.readAll (jsonOutput doc found) = some trees)) := by
  constructor
  · intro tree h
    exact Tree.read_compact h
  · intro doc reachable options isColored query root hcount hjson hquery hroot
    have wellFormed := reachable.wellFormed
    have hfound : query.select doc root = .ok (query.answer doc root) :=
      Query.select_of_element wellFormed (isElement_of_rootElement wellFormed hroot)
    rcases Query.exists_describe?_answer wellFormed query root with ⟨trees, htrees⟩
    refine ⟨query.answer doc root, trees, hfound, htrees,
      output_json hcount hjson hquery hroot hfound, ?_⟩
    intro hdepth
    rw [jsonOutput_eq htrees]
    exact Tree.readAll_pretty hdepth (Json.blank_newLine 0)

def quotation : Tree :=
  .element "q" (.ofList [("cite", "\"a\", \x01")]) [.text "\\b", .element "br" .empty []]

def listing : Options :=
  ⟨none, "li", none, false, false, true, false⟩

theorem trees_read_back_twoItems :
    quotation.toJson.depth <= Json.maxDepth ∧
    Tree.read (Json.compact quotation.toJson) = some quotation ∧
    Document.twoItems.Reachable ∧
    Query.parse listing.selector = .ok ⟨"li", .tag "li"⟩ ∧
    rootElement listing Document.twoItems = .ok ⟨0, 0⟩ ∧
    output listing true Document.twoItems =
      .ok (jsonOutput Document.twoItems [⟨0, 1⟩, ⟨0, 3⟩]) ∧
    Tree.readAll (jsonOutput Document.twoItems [⟨0, 1⟩, ⟨0, 3⟩]) =
      some [.element "li" .empty [], .element "li" .empty []] := by
  have hnesting : quotation.toJson.depth <= Json.maxDepth := by decide +kernel
  have hparse : Query.parse listing.selector = .ok ⟨"li", .tag "li"⟩ := by rfl
  have hroot : rootElement listing Document.twoItems = .ok ⟨0, 0⟩ := by rfl
  rcases trees_read_back with ⟨hone, hall⟩
  rcases hall Document.twoItems Document.reachable_twoItems listing true _ _ rfl rfl hparse hroot
    with ⟨found, trees, hfound, htrees, houtput, hread⟩
  have hselect : (Query.mk "li" (.tag "li")).select Document.twoItems ⟨0, 0⟩ =
      .ok [⟨0, 1⟩, ⟨0, 3⟩] := by rfl
  cases hselect.symm.trans hfound
  have hdescribed : trees = [.element "li" .empty [], .element "li" .empty []] := by
    rw [← filterMap_of_map_eq_map_some htrees]
    rfl
  subst hdescribed
  exact ⟨hnesting, hone quotation hnesting, Document.reachable_twoItems, hparse, hroot, houtput,
    hread (by decide +kernel)⟩

end CommandLine
end TreeQuery
