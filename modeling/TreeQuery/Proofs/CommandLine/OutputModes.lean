import TreeQuery.Pattern.Search
import TreeQuery.Proofs.CommandLine.JsonOutput
import TreeQuery.Proofs.Document.Rebuilding
import TreeQuery.Proofs.Text.Numeral

/-!
# Output modes

The matches are printed as their number, as an array of their trees, or as their summaries, each
with a line end behind it.  The text in a summary is quoted and stays on one line.  The tag and
the names and values of attributes are printed as they are, so that a summary has as many lines
more as there are line ends in them.
-/

namespace TreeQuery

/-! # Line ends in quoted texts -/

namespace Text

theorem lineEnd_ne_digitChar {digit : Nat} (h : digit < 16) : '\n' ≠ digit.digitChar := by
  have hdigits : forall digit : Nat, digit < 16 -> '\n' ≠ digit.digitChar := by decide
  exact hdigits digit h

theorem lineEnd_not_mem_hexadecimal (code : Nat) : '\n' ∉ hexadecimal code := by
  unfold hexadecimal
  induction code using Nat.strongRecOn with
  | ind code ih =>
      rw [Nat.toDigits_eq_if (by decide)]
      split
      · rename_i hshort
        rw [List.mem_singleton]
        exact lineEnd_ne_digitChar hshort
      · rw [List.mem_append, List.mem_singleton, not_or]
        exact ⟨ih (code / 16) (by omega), lineEnd_ne_digitChar (Nat.mod_lt code (by decide))⟩

theorem lineEnd_not_mem_quoteChar (c : Char) : '\n' ∉ quoteChar c := by
  by_cases hlineEnd : c = '\n'
  · rw [hlineEnd]
    decide
  · unfold quoteChar
    repeat' split
    all_goals simp [lineEnd_not_mem_hexadecimal, Ne.symm hlineEnd]

theorem lineEnd_not_mem_quote (text : Text) : '\n' ∉ quote text := by
  simp [quote, lineEnd_not_mem_quoteChar]

end Text

namespace Query

theorem exists_element?_answer {doc : Document} (wellFormed : doc.WellFormed) (query : Query)
    (root : NodeId) :
    exists elements : List Element,
      (query.answer doc root).map doc.element? = elements.map some :=
  exists_map_eq_map_some fun _ hid =>
    Option.isSome_iff_exists.mp (isElement_of_mem_answer wellFormed hid)

end Query

namespace CommandLine

/-! # Lines one behind the other -/

theorem count_lines (lines : List Text) :
    (lines.flatMap (fun line => line ++ ['\n'])).count '\n' =
      lines.length + lines.flatten.count '\n' := by
  induction lines with
  | nil => rfl
  | cons line rest ih =>
      rw [List.flatMap_cons, List.count_append, ih, List.count_append, List.flatten_cons,
        List.count_append, List.length_cons, List.count_singleton_self]
      omega

theorem splitOn_lines {lines : List Text} (h : forall line, line ∈ lines -> '\n' ∉ line) :
    (lines.flatMap (fun line => line ++ ['\n'])).splitOn '\n' = lines ++ [[]] := by
  induction lines with
  | nil => rfl
  | cons line rest ih =>
      have hline : forall c, c ∈ line -> (c == '\n') = false := by
        intro c hc
        exact beq_eq_false_iff_ne.mpr fun hsame => h line List.mem_cons_self (hsame ▸ hc)
      have hrest := ih fun other hother => h other (List.mem_cons_of_mem _ hother)
      rw [List.flatMap_cons, List.append_assoc, List.singleton_append, List.splitOn,
        List.splitOnP_append_cons_of_forall_mem hline _ (by decide), ← List.splitOn, hrest]
      rfl

/-! # Line ends in summaries -/

/-- What is printed of an element as it stands: its tag and the names and values of its
attributes. -/
def verbatim (element : Element) : Text :=
  element.tag ++ element.attributes.toList.flatMap (fun (name, value) => name ++ value)

theorem count_attributeSummary (name value : Text) :
    (attributeSummary name value).count '\n' = (name ++ value).count '\n' := by
  unfold attributeSummary
  cases value with
  | nil => simp
  | cons c rest => simp [List.count_append, List.count_cons]

theorem count_attributeSummaries (entries : List (Text × Text)) :
    (entries.flatMap (fun (name, value) => attributeSummary name value)).count '\n' =
      (entries.flatMap (fun (name, value) => name ++ value)).count '\n' := by
  induction entries with
  | nil => rfl
  | cons entry rest ih =>
      rw [List.flatMap_cons, List.count_append, ih, count_attributeSummary, ← List.count_append]
      rfl

theorem count_startTag (element : Element) :
    (startTag element).count '\n' = (verbatim element).count '\n' := by
  unfold startTag verbatim
  simp [List.count_append, count_attributeSummaries]

theorem count_summary {doc : Document} {id : NodeId} {element : Element}
    (h : doc.element? id = some element) (isColored : Bool) :
    (summary doc isColored id).count '\n' = (verbatim element).count '\n' := by
  have hquote : (Text.quote (doc.text id)).count '\n' = 0 :=
    List.count_eq_zero.mpr (Text.lineEnd_not_mem_quote _)
  rw [← count_startTag]
  unfold summary cyan dimmed
  simp only [h]
  cases isColored with
  | false =>
      split
      · rfl
      · simp [List.count_append, hquote]
  | true =>
      split
      · simp [List.count_append]
      · simp [List.count_append, hquote]

/-! # Summaries of the matches -/

section Output

variable {doc : Document} {found : List NodeId} {elements : List Element}

theorem summaryOutput_eq (doc : Document) (isColored : Bool) (found : List NodeId) :
    summaryOutput doc isColored found =
      (found.map (summary doc isColored)).flatMap (fun line => line ++ ['\n']) := by
  rw [summaryOutput, List.flatMap_map]
  rfl

theorem count_summaries (h : found.map doc.element? = elements.map some) (isColored : Bool) :
    (found.map (summary doc isColored)).flatten.count '\n' =
      (elements.flatMap verbatim).count '\n' := by
  induction found generalizing elements with
  | nil =>
      cases elements with
      | nil => rfl
      | cons element elements => cases h
  | cons id found ih =>
      cases elements with
      | nil => cases h
      | cons element elements =>
          rcases List.cons.inj h with ⟨helement, helements⟩
          rw [List.map_cons, List.flatten_cons, List.count_append, ih helements,
            count_summary helement, List.flatMap_cons, List.count_append]

theorem count_summaryOutput (h : found.map doc.element? = elements.map some) (isColored : Bool) :
    (summaryOutput doc isColored found).count '\n' =
      found.length + (elements.flatMap verbatim).count '\n' := by
  rw [summaryOutput_eq, count_lines, count_summaries h, List.length_map]

theorem splitOn_summaryOutput (h : found.map doc.element? = elements.map some)
    (hlines : '\n' ∉ elements.flatMap verbatim) (isColored : Bool) :
    (summaryOutput doc isColored found).splitOn '\n' =
      found.map (summary doc isColored) ++ [[]] := by
  have hcount := count_summaries h isColored
  rw [List.count_eq_zero.mpr hlines, List.count_eq_zero] at hcount
  rw [summaryOutput_eq]
  apply splitOn_lines
  intro line hline hmem
  exact hcount (List.mem_flatten_of_mem hline hmem)

/-! # What a run prints -/

theorem wellFormed_of_loadDocument {tree : Tree} (h : loadDocument tree = .ok doc) :
    doc.WellFormed := by
  unfold loadDocument at h
  cases tree with
  | text payload =>
      rw [Document.ofTree_text] at h
      cases h
  | element tag attributes children =>
      rcases Document.exists_ofTree 0 tag attributes children with ⟨new, hnew, wellFormed, _⟩
      rw [hnew] at h
      cases h
      exact wellFormed

end Output

/-- The modes print the same matches: their number, an array of as many trees, and as many
summaries.  Each summary is one line exactly if no line end is in the tag, the names or the values
of the attributes. -/
theorem output_modes_agree [Pattern.Engine]
    {tree : Tree} {doc : Document} (hload : loadDocument tree = .ok doc)
    {options : Options} (hexplain : options.explain = false) {isColored : Bool} {printed : Text}
    (h : output options isColored doc = .ok printed) :
    exists (query : Query) (root : NodeId) (found : List NodeId) (trees : List Tree)
        (elements : List Element),
      (Query.parse options.selector = .ok query ∧ rootElement options doc = .ok root ∧
        query.select doc root = .ok found) ∧
      found.map doc.describe? = trees.map some ∧
      found.map doc.element? = elements.map some ∧
      forall isColored,
        output { options with count := true } isColored doc =
          .ok (Text.ofNat found.length ++ ['\n']) ∧
        output { options with count := false, json := true } isColored doc =
          .ok (Json.pretty (.array (trees.map Tree.toJson)) ++ ['\n']) ∧
        exists summaries,
          output { options with count := false, json := false } isColored doc = .ok summaries ∧
          summaries = found.flatMap (fun id => summary doc isColored id ++ ['\n']) ∧
          summaries.count '\n' = found.length + (elements.flatMap verbatim).count '\n' ∧
          (summaries.count '\n' = found.length ↔
            forall element, element ∈ elements -> '\n' ∉ verbatim element) ∧
          ((forall element, element ∈ elements -> '\n' ∉ verbatim element) ->
            summaries.splitOn '\n' = found.map (summary doc isColored) ++ [[]]) := by
  have wellFormed := wellFormed_of_loadDocument hload
  rcases output_eq_ok_iff.mp h with ⟨query, root, found, hquery, hroot, hfound, _⟩
  have helement := isElement_of_rootElement wellFormed hroot
  cases (Query.select_of_element wellFormed helement).symm.trans hfound
  rcases Query.exists_describe?_answer wellFormed query root with ⟨trees, htrees⟩
  rcases Query.exists_element?_answer wellFormed query root with ⟨elements, helements⟩
  refine ⟨query, root, _, trees, elements, ⟨hquery, hroot, hfound⟩, htrees, helements, ?_⟩
  intro isColored
  have hverbatim : '\n' ∉ elements.flatMap verbatim ↔
      forall element, element ∈ elements -> '\n' ∉ verbatim element := by
    simp [List.mem_flatMap]
  refine ⟨?_, ?_, ?_⟩
  · apply output_eq_ok_iff.mpr
    exact ⟨query, root, _, hquery, hroot, hfound, by simp [hexplain, countOutput]⟩
  · apply output_eq_ok_iff.mpr
    exact ⟨query, root, _, hquery, hroot, hfound, by simp [hexplain, jsonOutput_eq htrees]⟩
  · refine ⟨summaryOutput doc isColored (query.answer doc root), ?_, rfl,
      count_summaryOutput helements isColored, ?_,
      fun hlines => splitOn_summaryOutput helements (hverbatim.mpr hlines) isColored⟩
    · apply output_eq_ok_iff.mpr
      exact ⟨query, root, _, hquery, hroot, hfound, by simp [hexplain]⟩
    · rw [count_summaryOutput helements, Nat.add_eq_left, List.count_eq_zero, hverbatim]

def note : Tree :=
  .element "UL" .empty
    [.element "li" (.ofList [("title", "")]) [.text "one\ntwo"], .element "li" .empty []]

theorem output_modes_agree_note :
    exists doc, loadDocument note = .ok doc ∧
      output ⟨none, "li", none, false, true, false, true⟩ false doc = .ok "2\n" ∧
      (exists trees : List Tree, trees.length = 2 ∧
        output ⟨none, "li", none, false, false, true, true⟩ false doc =
          .ok (Json.pretty (.array (trees.map Tree.toJson)) ++ ['\n'])) ∧
      exists summaries,
        output ⟨none, "li", none, false, false, false, true⟩ false doc = .ok summaries ∧
        summaries = "<li title> \"one\\ntwo\"\n<li>\n" ∧ summaries.count '\n' = 2 := by
  have hload : exists doc, loadDocument note = .ok doc ∧
      output ⟨none, "li", none, false, true, false, true⟩ false doc = .ok "2\n" ∧
      output ⟨none, "li", none, false, false, false, true⟩ false doc =
        .ok "<li title> \"one\\ntwo\"\n<li>\n" := ⟨_, rfl, rfl, rfl⟩
  rcases hload with ⟨doc, hload, hnumber, hprinted⟩
  rcases output_modes_agree hload rfl hnumber with
    ⟨_, _, found, trees, _, _, htrees, _, hmodes⟩
  rcases hmodes false with ⟨hcount, hjson, summaries, hsummaries, _⟩
  have hfound : found.length = 2 := by
    have hnumeral : Text.ofNat found.length ++ ['\n'] = ['2'] ++ ['\n'] :=
      Except.ok.inj (hcount.symm.trans hnumber)
    have hread := Text.readNat?_ofNat found.length
    rw [List.append_cancel_right hnumeral] at hread
    exact (Option.some.inj hread).symm
  have hlength : trees.length = 2 := by
    have hlengths := congrArg List.length htrees
    rw [List.length_map, List.length_map] at hlengths
    rw [← hlengths, hfound]
  cases hsummaries.symm.trans hprinted
  exact ⟨doc, hload, hnumber, ⟨trees, hlength, hjson⟩, _, hprinted, rfl, by decide⟩

/-- The value of an attribute brings a line end into the summary. -/
theorem summary_on_two_lines :
    exists doc, loadDocument (.element "p" (.ofList [("title", "a\nb")]) []) = .ok doc ∧
      output ⟨none, "p", none, false, true, false, true⟩ false doc = .ok "1\n" ∧
      exists summaries,
        output ⟨none, "p", none, false, false, false, true⟩ false doc = .ok summaries ∧
        summaries = "<p title=\"a\nb\">\n" ∧ summaries.count '\n' ≠ 1 := by
  refine ⟨_, rfl, ?_, _, ?_, rfl, by decide⟩
  · rfl
  · rfl

end CommandLine
end TreeQuery
