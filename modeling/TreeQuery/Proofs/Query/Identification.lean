import TreeQuery.Pattern.Search
import TreeQuery.Proofs.Document.Description
import TreeQuery.Proofs.Query.Complement

/-!
# Elements found by their own data

A selector is written from the tag, the id, the classes and some attributes of an element.  Names
and values are folded when the selector is read and when the element is looked at; both ways lead
to the same, so the element is found from itself and from every element above it.
-/

namespace TreeQuery

open Selector Scan

namespace Element

/-! # Writing the selector -/

/-- The delimiters that count in an attribute test, also within quotes. -/
def isBracket (c : Char) : Bool :=
  c == '[' || c == ']'

def attributeText (entry : Text × Text) : Text :=
  '[' :: (entry.1 ++ (ValueComparison.equals.mark ++
    ('"' :: escapeWhere isBracket entry.2 ++ ['"']))) ++ [']']

/-- The tag with a bar for each colon, the id, the classes, and the chosen attributes. -/
def selector (element : Element) (chosen : List (Text × Text)) : Text :=
  element.tag.map (fun c => if c = ':' then '|' else c) ++
    (element.id?.toList.flatMap (fun name => '#' :: name) ++
      (element.classes.flatMap (fun name => '.' :: name) ++ chosen.flatMap attributeText))

/-- The names can stand in a selector, and the chosen attributes are some of the element with
values that are not blank and have no character that is left out or taken for the end. -/
structure Writable (element : Element) (chosen : List (Text × Text)) : Prop where
  tag : exists first rest, element.tag = first :: rest ∧ Text.isAlphanumeric first = true ∧
    forall c, c ∈ rest -> Text.isAlphanumeric c = true ∨ c = '_' ∨ c = '-' ∨ c = ':'
  id : forall name, element.id? = some name ->
    name ≠ [] ∧ forall c, c ∈ name -> isNameChar c = true
  classes : forall name, name ∈ element.classes ->
    name ≠ [] ∧ forall c, c ∈ name -> isNameChar c = true
  entries : forall entry, entry ∈ chosen -> entry ∈ element.attributes.toList
  keys : forall entry, entry ∈ chosen ->
    entry.1 ≠ [] ∧ forall c, c ∈ entry.1 -> isKeyChar c = true
  values : forall entry, entry ∈ chosen ->
    Text.trim entry.2 ≠ [] ∧ escapeMark ∉ entry.2 ∧ endMark ∉ entry.2

/-! # Reading it -/

def items (element : Element) (chosen : List (Text × Text)) : List (Text × Matcher) :=
  element.id?.toList.map (fun name => ('#' :: name, .id name)) ++
    (element.classes.map (fun name => ('.' :: name, .className (Text.lower name))) ++
      chosen.map (fun entry =>
        (attributeText entry, .attribute (.compare .equals entry.1 (normalized entry.2)))))

theorem selector_eq (element : Element) (chosen : List (Text × Text)) :
    element.selector chosen = element.tag.map (fun c => if c = ':' then '|' else c) ++
      (element.items chosen).flatMap Prod.fst := by
  unfold selector items
  simp only [List.flatMap_append, List.flatMap_map]

/-- The text can stand behind a tag, with any reader for the selectors within it. -/
structure Stands [Pattern.Engine] (item : Text × Matcher) : Prop where
  reads : forall inner, ReadsAs inner item.1 item.2
  tight : Text.Tight item.1

theorem stands_leaf [Pattern.Engine] (leaf : Grammar.Leaf) : Stands (leaf.write, leaf.meaning) :=
  ⟨fun _ => ⟨(Grammar.Item.leaf leaf).exists_write, fun _ _ => leaf.simpleTest_eq⟩,
    leaf.solid.tight⟩

theorem attributeValue_escaped {value : Text} (hclean : forall c, c ∈ value -> Grammar.IsOrdinary c) :
    attributeValue ('"' :: escapeWhere isBracket value ++ ['"']) = normalized value := by
  have hvalue := attributeValue_quoted .none
    (unescapes_escapeWhere isBracket fun c hc => (hclean c hc).1) .none
  rw [Grammar.Blank.text_none, List.nil_append, List.append_nil] at hvalue
  exact hvalue

theorem neutral_attributeText {name value : Text} (hname : forall c, c ∈ name -> isKeyChar c = true)
    (hclean : forall c, c ∈ value -> Grammar.IsOrdinary c) :
    Neutral '[' ']'
      (name ++ (ValueComparison.equals.mark ++ ('"' :: escapeWhere isBracket value ++ ['"']))) := by
  have hkey : Neutral '[' ']' name :=
    (closed_of_plain fun c hc => plain_of_keyChar (hname c hc)).neutral .brackets
  have hequals : Neutral '[' ']' ['='] :=
    (closed_char ⟨by decide, by decide⟩ rfl).neutral .brackets
  have hquote : Neutral '[' ']' ['"'] :=
    (closed_char ⟨by decide, by decide⟩ rfl).neutral .brackets
  have hvalue : Neutral '[' ']' (escapeWhere isBracket value) :=
    neutral_escapeWhere .brackets rfl rfl hclean
  exact hkey.append ((hequals.append hquote).append (hvalue.append hquote))

theorem stands_attributeText [Pattern.Engine] {entry : Text × Text}
    (hkey : entry.1 ≠ [] ∧ forall c, c ∈ entry.1 -> isKeyChar c = true)
    (hfolded : Text.foldAscii entry.1 = entry.1)
    (hvalue : Text.trim entry.2 ≠ [] ∧ escapeMark ∉ entry.2 ∧ endMark ∉ entry.2) :
    Stands (attributeText entry, .attribute (.compare .equals entry.1 (normalized entry.2))) := by
  rcases hvalue with ⟨hvisible, hescape, hend⟩
  have hclean : forall c, c ∈ entry.2 -> Grammar.IsOrdinary c :=
    fun c hc => ⟨fun same => hescape (same ▸ hc), fun same => hend (same ▸ hc)⟩
  have htest : forall query rest, attributeTest query rest (entry.1 ++
      (ValueComparison.equals.mark ++ ('"' :: escapeWhere isBracket entry.2 ++ ['"']))) =
        .ok (.compare .equals entry.1 (normalized entry.2)) := by
    intro query rest
    let key : Grammar.Key := ⟨entry.1, hkey.1, hkey.2⟩
    rw [attributeTest_compare .equals key.not_operatorStart (Text.trim_of_tight key.tight)
      key.nonempty (attributeValue_escaped hclean) (Text.lower_ne_nil hvisible), hfolded]
  constructor
  case reads =>
    intro inner
    refine ⟨⟨'[', _, rfl, by decide, by decide +kernel⟩, fun query rest _ => ?_⟩
    exact simpleTest_bracketed (neutral_attributeText hkey.2 hclean) (htest query rest)
  case tight => exact ⟨⟨'[', _, rfl, by decide⟩, ⟨_, ']', rfl, by decide⟩⟩

section Selector

variable {element : Element} {chosen : List (Text × Text)}

theorem Writable.stands [Pattern.Engine] (h : element.Writable chosen) :
    forall item, item ∈ element.items chosen -> Stands item := by
  intro item hitem
  rcases List.mem_append.mp hitem with hitem | hitem
  · rcases List.mem_map.mp hitem with ⟨name, hname, rfl⟩
    rcases h.id name (Option.mem_toList.mp hname) with ⟨hne, hcharacters⟩
    exact stands_leaf (.id ⟨name, hne, hcharacters⟩)
  · rcases List.mem_append.mp hitem with hitem | hitem
    · rcases List.mem_map.mp hitem with ⟨name, hname, rfl⟩
      rcases h.classes name hname with ⟨hne, hcharacters⟩
      exact stands_leaf (.className ⟨name, hne, hcharacters⟩)
    · rcases List.mem_map.mp hitem with ⟨entry, hentry, rfl⟩
      exact stands_attributeText (h.keys entry hentry)
        (element.attributes.folded entry (h.entries entry hentry)) (h.values entry hentry)

theorem Writable.exists_tagName (h : element.Writable chosen) :
    exists name : Grammar.TagName,
      name.write = element.tag.map (fun c => if c = ':' then '|' else c) ∧
        name.meaning = .tag element.tag := by
  rcases h.tag with ⟨first, rest, htag, hfirst, hrest⟩
  have hne : forall mark, Text.isAlphanumeric mark = false -> forall c,
      Text.isAlphanumeric c = true -> c ≠ mark := by
    rintro mark hmark c hc rfl
    rw [hmark] at hc
    cases hc
  have hcolon : forall c, Text.isAlphanumeric c = true -> c ≠ ':' := hne ':' (by decide +kernel)
  have hbar : forall c, c ∈ element.tag -> c ≠ '|' := by
    intro c hc
    rw [htag] at hc
    rcases List.mem_cons.mp hc with rfl | hc
    · exact hne '|' (by decide +kernel) c hfirst
    · rcases hrest c hc with hletter | rfl | rfl | rfl
      · exact hne '|' (by decide +kernel) c hletter
      · decide
      · decide
      · decide
  have hcharacters : forall c, c ∈ rest.map (fun c => if c = ':' then '|' else c) ->
      isTagChar c = true := by
    intro c hc
    rcases List.mem_map.mp hc with ⟨d, hd, rfl⟩
    rcases hrest d hd with hletter | rfl | rfl | rfl
    · rw [if_neg (hcolon d hletter), isTagChar, hletter]
      rfl
    · decide +kernel
    · decide +kernel
    · decide +kernel
  have hcolons : (element.tag.map (fun c => if c = ':' then '|' else c)).map
      (fun c => if c = '|' then ':' else c) = element.tag := by
    rw [List.map_map]
    refine (List.map_congr_left fun c hc => ?_).trans (List.map_id element.tag)
    by_cases hc' : c = ':'
    · simp [hc']
    · simp [hc', hbar c hc]
  have hwrite : element.tag.map (fun c => if c = ':' then '|' else c) =
      first :: rest.map (fun c => if c = ':' then '|' else c) := by
    rw [htag, List.map_cons, if_neg (hcolon first hfirst)]
  refine ⟨⟨first, rest.map (fun c => if c = ':' then '|' else c), hfirst, hcharacters⟩,
    hwrite.symm, ?_⟩
  show Matcher.tag (Text.lower
    ((first :: rest.map (fun c => if c = ':' then '|' else c)).map
      (fun c => if c = '|' then ':' else c))) = _
  rw [← hwrite, hcolons, lower_tag]

theorem tight_flatMap [Pattern.Engine] {items : List (Text × Matcher)}
    (hitems : forall item, item ∈ items -> Stands item) {text : Text} (h : Text.Tight text) :
    Text.Tight (text ++ items.flatMap Prod.fst) := by
  induction items generalizing text with
  | nil => simpa using h
  | cons item items ih =>
      rw [List.flatMap_cons, ← List.append_assoc]
      exact ih (fun other hother => hitems other (List.mem_cons_of_mem _ hother))
        (h.append (hitems item List.mem_cons_self).tight)

theorem Writable.parse_selector [Pattern.Engine] (h : element.Writable chosen) :
    (Selector.parse (element.selector chosen)).result =
      .ok (Grammar.conjunction (.tag element.tag) ((element.items chosen).map Prod.snd)) := by
  rcases h.exists_tagName with ⟨name, hwrite, hmeaning⟩
  have htrim : Text.trim (element.selector chosen) = element.selector chosen := by
    rw [selector_eq, ← hwrite]
    exact Text.trim_of_tight (tight_flatMap h.stands name.solid.tight)
  have hitems : AllRead (parseWithin (maxNesting - 1)) (element.items chosen) :=
    fun item hitem => (h.stands item hitem).reads _
  have hends : Ends [] := fun c hc => by cases hc
  have hread := parseWith_simple
    ⟨name.first, name.rest, rfl, (plain_of_alphanumeric name.start).separator⟩
    (fun _ _ => simpleTest_tag name) hitems hends
    (fun query parts hparts => hparts ▸ finishes_end parts)
  show (parseWith (parseWithin (maxNesting - 1)) (Text.trim (element.selector chosen))).result = _
  rw [htrim, selector_eq, ← hwrite, ← hmeaning]
  rw [List.append_nil] at hread
  exact hread

end Selector

/-! # Finding the element -/

section Finding

variable {doc : Document} {root id : NodeId} {element : Element} {chosen : List (Text × Text)}

theorem accepts_conjunction {first : Matcher} {others : List Matcher}
    (helement : doc.isElement id = true) (hfirst : first.accepts doc root id = true)
    (hothers : forall test, test ∈ others -> test.accepts doc root id = true) :
    (Grammar.conjunction first others).accepts doc root id = true := by
  have hall : forall tests, (forall test, test ∈ tests -> test.accepts doc root id = true) ->
      Matcher.acceptsAll doc root tests id = true := by
    intro tests htests
    induction tests with
    | nil => rw [Matcher.acceptsAll]
    | cons test tests ih =>
        rw [Matcher.acceptsAll, htests test List.mem_cons_self, Bool.true_and]
        exact ih fun other hother => htests other (List.mem_cons_of_mem _ hother)
  cases others with
  | nil => exact hfirst
  | cons second others =>
      rw [Grammar.conjunction, Matcher.accepts, helement, Bool.true_and]
      apply hall
      intro test htest
      rcases List.mem_cons.mp htest with rfl | htest
      · exact hfirst
      · exact hothers test htest

theorem accepts_items (helement : doc.element? id = some element)
    (hentries : forall entry, entry ∈ chosen -> entry ∈ element.attributes.toList) :
    forall test, test ∈ (element.items chosen).map Prod.snd ->
      test.accepts doc root id = true := by
  intro test htest
  rcases List.mem_map.mp htest with ⟨item, hitem, rfl⟩
  rcases List.mem_append.mp hitem with hitem | hitem
  · rcases List.mem_map.mp hitem with ⟨name, hname, rfl⟩
    have hid : element.id? = some name := Option.mem_toList.mp hname
    simp [Matcher.accepts, helement, hid]
  · rcases List.mem_append.mp hitem with hitem | hitem
    · rcases List.mem_map.mp hitem with ⟨name, hname, rfl⟩
      have hclass : element.hasClass (Text.lower name) = true := by
        apply List.any_eq_true.mpr
        exact ⟨name, hname, by rw [Text.lower_lower, beq_self_eq_true]⟩
      simp [Matcher.accepts, helement, hclass]
    · rcases List.mem_map.mp hitem with ⟨entry, hentry, rfl⟩
      have hvalue := Attributes.get?_of_mem (hentries entry hentry)
      simp [Matcher.accepts, helement, AttributeTest.holds, hvalue, ValueComparison.holds]

/-- From itself and from every element above it, an element is found by the selector that is
written from it. -/
theorem mem_query_selector [Pattern.Engine]
    (reachable : doc.Reachable) (helement : doc.element? id = some element)
    (hroot : id = root ∨ root ∈ doc.ancestors id) (h : element.Writable chosen) :
    exists found, query doc root (element.selector chosen) = .ok found ∧ id ∈ found := by
  have wellFormed := reachable.wellFormed
  have hid : doc.isElement id = true := by
    rw [Document.isElement, helement]
    rfl
  have hrootElement : doc.isElement root = true := by
    rcases hroot with rfl | habove
    · exact hid
    · exact wellFormed.isElement_of_mem_ancestors habove
  refine ⟨_, Query.query_of_selector wellFormed hrootElement h.parse_selector, ?_⟩
  apply List.mem_filter.mpr
  constructor
  · exact wellFormed.mem_elements_iff.mpr ⟨hid, hroot⟩
  · have htag : (Matcher.tag element.tag).accepts doc root id = true := by
      simp [Matcher.accepts, helement]
    exact accepts_conjunction hid htag (accepts_items helement h.entries)

end Finding

/-- A tag in a namespace, an id, a class that ends in a sigma, and a title with all delimiters. -/
def rectangle : Element :=
  ofTag "svg:Rect" (.ofList [("ID", "A1"), ("class", "ΟΣ"), ("title", "[x] (\"Y\")")])

def drawing : Document :=
  (Document.empty 0).run
    [.createElement "g" .empty, .createElement "svg:Rect" rectangle.attributes,
      .appendChild ⟨0, 0⟩ ⟨0, 1⟩]

theorem writable_rectangle : rectangle.Writable [("title", "[x] (\"Y\")")] := by
  have hclasses : rectangle.classes = ["ΟΣ".toList] := by rfl
  constructor
  case tag =>
    have htag : rectangle.tag = "svg:rect" := by rfl
    have hrest : ("vg:rect".toList.all fun c =>
        Text.isAlphanumeric c || c == '_' || c == '-' || c == ':') = true := by
      decide +kernel
    refine ⟨'s', "vg:rect", htag, by decide +kernel, ?_⟩
    simpa [or_assoc] using hrest
  case id =>
    rintro name ⟨⟩
    exact ⟨List.cons_ne_nil _ _, List.all_eq_true.mp (by decide +kernel)⟩
  case classes =>
    intro name hname
    rw [hclasses] at hname
    cases List.mem_singleton.mp hname
    exact ⟨List.cons_ne_nil _ _, List.all_eq_true.mp (by decide +kernel)⟩
  case entries => decide +kernel
  case keys =>
    intro entry hentry
    cases List.mem_singleton.mp hentry
    exact ⟨List.cons_ne_nil _ _, List.all_eq_true.mp (by decide +kernel)⟩
  case values => decide +kernel

theorem mem_query_selector_rectangle :
    drawing.Reachable ∧ drawing.element? ⟨0, 1⟩ = some rectangle ∧
      ⟨0, 0⟩ ∈ drawing.ancestors ⟨0, 1⟩ ∧ rectangle.Writable [("title", "[x] (\"Y\")")] ∧
      exists found,
        query drawing ⟨0, 0⟩ "svg|rect#A1.ΟΣ[title=\"\\[x\\] (\"Y\")\"]" = .ok found ∧
          ⟨0, 1⟩ ∈ found := by
  have reachable : drawing.Reachable := ⟨0, _, rfl⟩
  have helement : drawing.element? ⟨0, 1⟩ = some rectangle := by rfl
  have habove : ⟨0, 0⟩ ∈ drawing.ancestors ⟨0, 1⟩ := by decide +kernel
  have hselector : rectangle.selector [("title", "[x] (\"Y\")")] =
      "svg|rect#A1.ΟΣ[title=\"\\[x\\] (\"Y\")\"]" := by
    decide +kernel
  have hfound := mem_query_selector reachable helement (Or.inr habove) writable_rectangle
  rw [hselector] at hfound
  exact ⟨reachable, helement, habove, writable_rectangle, hfound⟩

end Element
end TreeQuery
