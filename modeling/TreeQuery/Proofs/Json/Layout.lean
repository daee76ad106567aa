import TreeQuery.Proofs.Json.Strings

/-!
# Layouts

A value can be laid out in many ways, with white space before and behind each of its parts.  Each
layout is read as its value, if arrays and objects do not nest too deep: the reader has enough
steps for every text, and it never takes a part for something else.
-/

namespace TreeQuery
namespace Json

/-! # White space -/

def Blank (text : Text) : Prop :=
  forall c, c ∈ text -> isBlank c = true

theorem blank_nil : Blank [] := by
  intro c hc
  cases hc

theorem skipBlank_of_blank {gap : Text} (hgap : Blank gap) : skipBlank gap = [] := by
  rw [← List.append_nil gap, skipBlank, List.dropWhile_append_of_pos hgap]
  rfl

theorem skipBlank_append {gap : Text} (hgap : Blank gap) {c : Char} (hc : isBlank c = false)
    (rest : Text) : skipBlank (gap ++ c :: rest) = c :: rest := by
  rw [skipBlank, List.dropWhile_append_of_pos hgap, List.dropWhile_cons_of_neg (by simp [hc])]

theorem skipBlank_cons {c : Char} (hc : isBlank c = false) (rest : Text) :
    skipBlank (c :: rest) = c :: rest :=
  skipBlank_append blank_nil hc rest

/-! # What may stand behind a value -/

/-- White space, a comma, a closing bracket or a closing brace comes next, or nothing. -/
def Stops (rest : Text) : Prop :=
  forall c, rest.head? = some c -> isBlank c = true ∨ c = ',' ∨ c = ']' ∨ c = '\x7d'

theorem stops_nil : Stops [] := by
  intro c hc
  cases hc

theorem Stops.of_blank_append {gap rest : Text} (hrest : Stops rest) (hgap : Blank gap) :
    Stops (gap ++ rest) := by
  cases gap with
  | nil => exact hrest
  | cons c gap =>
      intro first hfirst
      cases hfirst
      exact Or.inl (hgap c List.mem_cons_self)

theorem stops_comma (rest : Text) : Stops (',' :: rest) := by
  rintro c ⟨⟩
  exact Or.inr (Or.inl rfl)

theorem stops_bracket (rest : Text) : Stops (']' :: rest) := by
  rintro c ⟨⟩
  exact Or.inr (Or.inr (Or.inl rfl))

theorem stops_brace (rest : Text) : Stops ('\x7d' :: rest) := by
  rintro c ⟨⟩
  exact Or.inr (Or.inr (Or.inr rfl))

theorem readNumber_zero {rest : Text} (h : Stops rest) : readNumber ('0' :: rest) = some rest := by
  cases rest with
  | nil => rfl
  | cons c rest =>
      have hc : c = ' ' ∨ c = '\n' ∨ c = '\t' ∨ c = '\r' ∨ c = ',' ∨ c = ']' ∨ c = '\x7d' := by
        rcases h c rfl with hblank | hend
        · simpa [isBlank, or_assoc] using Or.inl hblank
        · simp [hend]
      rcases hc with rfl | rfl | rfl | rfl | rfl | rfl | rfl <;> rfl

/-! # Layouts -/

mutual

/-- The layouts of a value in which arrays and objects nest at most to the given depth. -/
inductive Layout : Nat -> Json -> Text -> Prop where
  | null {depth : Nat} : Layout depth .null "null".toList
  | bool {depth : Nat} (value : Bool) : Layout depth (.bool value) (compact (.bool value))
  | number {depth : Nat} : Layout depth .number "0".toList
  | string {depth : Nat} (text : Text) : Layout depth (.string text) (writeString text)
  | emptyArray {depth : Nat} {gap : Text} : Blank gap ->
      Layout (depth + 1) (.array []) ('[' :: (gap ++ [']']))
  | array {depth : Nat} {items : List Json} {gap text : Text} : Blank gap ->
      LayoutItems depth items text ->
      Layout (depth + 1) (.array items) ('[' :: (gap ++ (text ++ [']'])))
  | emptyObject {depth : Nat} {gap : Text} : Blank gap ->
      Layout (depth + 1) (.object []) ('\x7b' :: (gap ++ ['\x7d']))
  | object {depth : Nat} {members : List (Text × Json)} {gap text : Text} : Blank gap ->
      LayoutMembers depth members text ->
      Layout (depth + 1) (.object members) ('\x7b' :: (gap ++ (text ++ ['\x7d'])))

inductive LayoutItems : Nat -> List Json -> Text -> Prop where
  | last {depth : Nat} {item : Json} {text gap : Text} : Layout depth item text -> Blank gap ->
      LayoutItems depth [item] (text ++ gap)
  | cons {depth : Nat} {item : Json} {items : List Json} {text before after rest : Text} :
      Layout depth item text -> Blank before -> Blank after -> LayoutItems depth items rest ->
      LayoutItems depth (item :: items) (text ++ (before ++ ',' :: (after ++ rest)))

inductive LayoutMembers : Nat -> List (Text × Json) -> Text -> Prop where
  | last {depth : Nat} {name : Text} {value : Json} {text start gap : Text} :
      Blank start -> Layout depth value text -> Blank gap ->
      LayoutMembers depth [(name, value)] (writeString name ++ ':' :: (start ++ (text ++ gap)))
  | cons {depth : Nat} {name : Text} {value : Json} {members : List (Text × Json)}
      {text start before after rest : Text} :
      Blank start -> Layout depth value text -> Blank before -> Blank after ->
      LayoutMembers depth members rest ->
      LayoutMembers depth ((name, value) :: members)
        (writeString name ++ ':' :: (start ++ (text ++ (before ++ ',' :: (after ++ rest)))))

end

/-! # First characters -/

theorem Layout.exists_cons {depth : Nat} {value : Json} {text : Text}
    (h : Layout depth value text) :
    exists c rest, text = c :: rest ∧ isBlank c = false ∧ c ≠ ']' := by
  cases h with
  | null => exact ⟨_, _, rfl, rfl, by decide⟩
  | bool value =>
      cases value with
      | true => exact ⟨_, _, rfl, rfl, by decide⟩
      | false => exact ⟨_, _, rfl, rfl, by decide⟩
  | number => exact ⟨_, _, rfl, rfl, by decide⟩
  | string text => exact ⟨_, _, rfl, rfl, by decide⟩
  | emptyArray _ => exact ⟨_, _, rfl, rfl, by decide⟩
  | array _ _ => exact ⟨_, _, rfl, rfl, by decide⟩
  | emptyObject _ => exact ⟨_, _, rfl, rfl, by decide⟩
  | object _ _ => exact ⟨_, _, rfl, rfl, by decide⟩

theorem LayoutItems.exists_cons {depth : Nat} {items : List Json} {text : Text}
    (h : LayoutItems depth items text) :
    exists c rest, text = c :: rest ∧ isBlank c = false ∧ c ≠ ']' := by
  cases h with
  | last hitem _ =>
      rcases hitem.exists_cons with ⟨c, rest, rfl, hblank, hbracket⟩
      exact ⟨c, _, rfl, hblank, hbracket⟩
  | cons hitem _ _ _ =>
      rcases hitem.exists_cons with ⟨c, rest, rfl, hblank, hbracket⟩
      exact ⟨c, _, rfl, hblank, hbracket⟩

theorem LayoutMembers.exists_cons {depth : Nat} {members : List (Text × Json)} {text : Text}
    (h : LayoutMembers depth members text) : exists rest, text = '"' :: rest := by
  cases h with
  | last _ _ _ => exact ⟨_, rfl⟩
  | cons _ _ _ _ _ => exact ⟨_, rfl⟩

/-! # Steps of the reader -/

variable {fuel depth : Nat} {gap rest : Text}

theorem readValue_array {c : Char} {start : Text} (hstart : Blank start) (hgap : Blank gap)
    (hblank : isBlank c = false) (hbracket : c ≠ ']') :
    readValue (fuel + 1) (depth + 1) (start ++ '[' :: (gap ++ c :: rest)) =
      (readItems fuel depth (c :: rest)).map (fun (items, rest) => (.array items, rest)) := by
  rw [readValue, skipBlank_append hstart rfl]
  simp only [skipBlank_append hgap hblank]
  split
  · next hsame => exact absurd (List.cons.inj hsame).1 hbracket
  · rfl

theorem readValue_object {start : Text} (hstart : Blank start) (hgap : Blank gap) :
    readValue (fuel + 1) (depth + 1) (start ++ '\x7b' :: (gap ++ '"' :: rest)) =
      (readMembers fuel depth ('"' :: rest)).map
        (fun (members, rest) => (.object members, rest)) := by
  rw [readValue, skipBlank_append hstart rfl]
  simp only [skipBlank_append hgap (show isBlank '"' = false from rfl)]
  rfl

theorem readItems_last {item : Json} {text : Text} (hgap : Blank gap)
    (hitem : readValue fuel depth text = some (item, gap ++ ']' :: rest)) :
    readItems (fuel + 1) depth text = some ([item], rest) := by
  rw [readItems, hitem]
  simp only [skipBlank_append hgap (show isBlank ']' = false from rfl)]

theorem readItems_cons {item : Json} {text : Text} (hgap : Blank gap)
    (hitem : readValue fuel depth text = some (item, gap ++ ',' :: rest)) :
    readItems (fuel + 1) depth text =
      (readItems fuel depth rest).map (fun (items, rest) => (item :: items, rest)) := by
  rw [readItems, hitem]
  simp only [skipBlank_append hgap (show isBlank ',' = false from rfl)]

theorem readMembers_last {name text start : Text} {value : Json} (hstart : Blank start)
    (hgap : Blank gap) (hvalue : readValue fuel depth text = some (value, gap ++ '\x7d' :: rest)) :
    readMembers (fuel + 1) depth (start ++ (writeString name ++ ':' :: text)) =
      some ([(name, value)], rest) := by
  rw [readMembers, writeString_append, skipBlank_append hstart rfl]
  simp only [readString_escaped, skipBlank_cons (show isBlank ':' = false from rfl), hvalue,
    skipBlank_append hgap (show isBlank '\x7d' = false from rfl)]

theorem readMembers_cons {name text start : Text} {value : Json} (hstart : Blank start)
    (hgap : Blank gap) (hvalue : readValue fuel depth text = some (value, gap ++ ',' :: rest)) :
    readMembers (fuel + 1) depth (start ++ (writeString name ++ ':' :: text)) =
      (readMembers fuel depth rest).map
        (fun (members, rest) => ((name, value) :: members, rest)) := by
  rw [readMembers, writeString_append, skipBlank_append hstart rfl]
  simp only [readString_escaped, skipBlank_cons (show isBlank ':' = false from rfl), hvalue,
    skipBlank_append hgap (show isBlank ',' = false from rfl)]

/-! # Reading -/

mutual

/-- Behind white space a layout is read as its value, up to what stands behind it.  Two steps for
each character are enough. -/
theorem Layout.readValue_append {depth : Nat} {value : Json} {text : Text} :
    Layout depth value text ->
      forall {fuel : Nat} {start rest : Text}, 2 * text.length <= fuel -> Blank start ->
        Stops rest -> readValue fuel depth (start ++ (text ++ rest)) = some (value, rest)
  | .null, fuel + 1, start, rest, _, hstart, _ => by
      show readValue (fuel + 1) depth (start ++ 'n' :: 'u' :: 'l' :: 'l' :: rest) = _
      rw [readValue, skipBlank_append hstart rfl]
      rfl
  | .bool true, fuel + 1, start, rest, _, hstart, _ => by
      show readValue (fuel + 1) depth (start ++ 't' :: 'r' :: 'u' :: 'e' :: rest) = _
      rw [readValue, skipBlank_append hstart rfl]
      rfl
  | .bool false, fuel + 1, start, rest, _, hstart, _ => by
      show readValue (fuel + 1) depth (start ++ 'f' :: 'a' :: 'l' :: 's' :: 'e' :: rest) = _
      rw [readValue, skipBlank_append hstart rfl]
      rfl
  | .number, fuel + 1, start, rest, _, hstart, hstops => by
      show readValue (fuel + 1) depth (start ++ '0' :: rest) = _
      rw [readValue, skipBlank_append hstart rfl]
      exact congrArg (Option.map _) (readNumber_zero hstops)
  | .string text, fuel + 1, start, rest, _, hstart, _ => by
      rw [readValue, writeString_append, skipBlank_append hstart rfl]
      simp only [readString_escaped]
      rfl
  | @Layout.emptyArray depth gap hgap, fuel + 1, start, rest, _, hstart, _ => by
      simp only [List.cons_append, List.append_assoc, List.nil_append]
      rw [readValue, skipBlank_append hstart rfl]
      simp only [skipBlank_append hgap (show isBlank ']' = false from rfl)]
  | @Layout.array depth items gap text hgap hitems, fuel + 1, start, rest, hfuel, hstart, _ => by
      rcases hitems.exists_cons with ⟨c, behind, htext, hblank, hbracket⟩
      simp only [List.length_cons, List.length_append] at hfuel
      have hread : readItems fuel depth (text ++ ']' :: rest) = some (items, rest) :=
        hitems.readItems_append (by omega) blank_nil
      rw [htext, List.cons_append] at hread
      simp only [List.cons_append, List.append_assoc, List.nil_append]
      rw [htext, List.cons_append, readValue_array hstart hgap hblank hbracket, hread]
      rfl
  | @Layout.emptyObject depth gap hgap, fuel + 1, start, rest, _, hstart, _ => by
      simp only [List.cons_append, List.append_assoc, List.nil_append]
      rw [readValue, skipBlank_append hstart rfl]
      simp only [skipBlank_append hgap (show isBlank '\x7d' = false from rfl)]
  | @Layout.object depth members gap text hgap hmembers, fuel + 1, start, rest, hfuel, hstart,
      _ => by
      rcases hmembers.exists_cons with ⟨behind, htext⟩
      simp only [List.length_cons, List.length_append] at hfuel
      have hread : readMembers fuel depth (text ++ '\x7d' :: rest) = some (members, rest) :=
        hmembers.readMembers_append (by omega) blank_nil
      rw [htext, List.cons_append] at hread
      simp only [List.cons_append, List.append_assoc, List.nil_append]
      rw [htext, List.cons_append, readValue_object hstart hgap, hread]
      rfl

theorem LayoutItems.readItems_append {depth : Nat} {items : List Json} {text : Text} :
    LayoutItems depth items text -> forall {fuel : Nat} {start rest : Text},
      2 * text.length + 1 <= fuel -> Blank start ->
      readItems fuel depth (start ++ (text ++ ']' :: rest)) = some (items, rest)
  | @LayoutItems.last depth item text gap hitem hgap, fuel + 1, start, rest, hfuel, hstart => by
      rw [List.length_append] at hfuel
      have hread : readValue fuel depth (start ++ (text ++ (gap ++ ']' :: rest))) =
          some (item, gap ++ ']' :: rest) :=
        hitem.readValue_append (by omega) hstart ((stops_bracket rest).of_blank_append hgap)
      rw [List.append_assoc]
      exact readItems_last hgap hread
  | @LayoutItems.cons depth item items text before after later hitem hbefore hafter hitems,
      fuel + 1, start, rest, hfuel, hstart => by
      simp only [List.length_cons, List.length_append] at hfuel
      have hread : readValue fuel depth
          (start ++ (text ++ (before ++ ',' :: (after ++ (later ++ ']' :: rest))))) =
            some (item, before ++ ',' :: (after ++ (later ++ ']' :: rest))) :=
        hitem.readValue_append (by omega) hstart ((stops_comma _).of_blank_append hbefore)
      have hlater : readItems fuel depth (after ++ (later ++ ']' :: rest)) = some (items, rest) :=
        hitems.readItems_append (by omega) hafter
      simp only [List.append_assoc, List.cons_append]
      rw [readItems_cons hbefore hread, hlater]
      rfl

theorem LayoutMembers.readMembers_append {depth : Nat} {members : List (Text × Json)}
    {text : Text} :
    LayoutMembers depth members text -> forall {fuel : Nat} {start rest : Text},
      2 * text.length + 1 <= fuel -> Blank start ->
      readMembers fuel depth (start ++ (text ++ '\x7d' :: rest)) = some (members, rest)
  | @LayoutMembers.last depth name value text between gap hbetween hvalue hgap, fuel + 1, start,
      rest, hfuel, hstart => by
      simp only [List.length_cons, List.length_append] at hfuel
      have hread : readValue fuel depth (between ++ (text ++ (gap ++ '\x7d' :: rest))) =
          some (value, gap ++ '\x7d' :: rest) :=
        hvalue.readValue_append (by omega) hbetween ((stops_brace rest).of_blank_append hgap)
      simp only [List.append_assoc, List.cons_append]
      exact readMembers_last hstart hgap hread
  | @LayoutMembers.cons depth name value members text between before after later hbetween hvalue
      hbefore hafter hmembers, fuel + 1, start, rest, hfuel, hstart => by
      simp only [List.length_cons, List.length_append] at hfuel
      have hread : readValue fuel depth
          (between ++ (text ++ (before ++ ',' :: (after ++ (later ++ '\x7d' :: rest))))) =
            some (value, before ++ ',' :: (after ++ (later ++ '\x7d' :: rest))) :=
        hvalue.readValue_append (by omega) hbetween ((stops_comma _).of_blank_append hbefore)
      have hlater : readMembers fuel depth (after ++ (later ++ '\x7d' :: rest)) =
          some (members, rest) :=
        hmembers.readMembers_append (by omega) hafter
      simp only [List.append_assoc, List.cons_append]
      rw [readMembers_cons hstart hbefore hread, hlater]
      rfl

end

theorem Layout.read_eq {value : Json} {text start ending : Text}
    (h : Layout maxDepth value text) (hstart : Blank start) (hending : Blank ending) :
    read (start ++ (text ++ ending)) = some value := by
  have hstops : Stops ending := by
    rw [← List.append_nil ending]
    exact stops_nil.of_blank_append hending
  have hlength : 2 * text.length <= 2 * (start ++ (text ++ ending)).length + 2 := by
    simp only [List.length_append]
    omega
  rw [read, h.readValue_append hlength hstart hstops]
  simp only [skipBlank_of_blank hending]
  rfl

end Json
end TreeQuery
