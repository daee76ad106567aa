import Mathlib.Data.List.Induction
import TreeQuery.Document.Attributes

/-!
# Looking up attributes

A dictionary is determined by the values that it gives for names.  Made from a list of pairs it
gives for each name the value of the last pair with this name, and attributes do so for names
that are folded first.
-/

namespace TreeQuery

/-- The value of the last pair with the given name. -/
def lastValue (name : Text) (pairs : List (Text × Text)) : Option Text :=
  ((pairs.filter (fun pair => pair.1 == name)).getLast?).map Prod.snd

theorem lastValue_concat (name : Text) (pairs : List (Text × Text)) (pair : Text × Text) :
    lastValue name (pairs ++ [pair]) = if pair.1 = name then some pair.2 else lastValue name pairs := by
  unfold lastValue
  rw [List.filter_append]
  by_cases h : pair.1 = name
  · simp [h]
  · simp [h]

theorem lookup_eq_none {name : Text} {entries : List (Text × Text)}
    (h : forall entry, entry ∈ entries -> entry.1 ≠ name) : entries.lookup name = none := by
  apply List.lookup_eq_none_iff.mpr
  intro entry member
  exact bne_iff_ne.mpr (Ne.symm (h entry member))

theorem Ascending.ne_head {head : Text × Text} {rest : List (Text × Text)}
    (h : Ascending (head :: rest)) : forall entry, entry ∈ rest -> entry.1 ≠ head.1 := by
  intro entry member same
  have hlarger := (List.pairwise_cons.mp h).1 entry member
  rw [same] at hlarger
  exact List.lt_irrefl _ hlarger

theorem lookup_head (head : Text × Text) (rest : List (Text × Text)) :
    (head :: rest).lookup head.1 = some head.2 :=
  List.lookup_cons_self

theorem lookup_of_ne {name : Text} {head : Text × Text} (h : name ≠ head.1)
    (rest : List (Text × Text)) : (head :: rest).lookup name = rest.lookup name := by
  rw [List.lookup_cons, beq_eq_false_iff_ne.mpr h]

theorem Ascending.lookup_of_mem {entries : List (Text × Text)} (h : Ascending entries)
    {entry : Text × Text} (hmem : entry ∈ entries) : entries.lookup entry.1 = some entry.2 := by
  induction entries with
  | nil => cases hmem
  | cons head rest ih =>
      rcases List.mem_cons.mp hmem with rfl | hmem
      · exact lookup_head _ rest
      · rw [lookup_of_ne (h.ne_head entry hmem)]
        exact ih (List.pairwise_cons.mp h).2 hmem

theorem Ascending.lastValue_eq {entries : List (Text × Text)} (h : Ascending entries)
    (name : Text) : lastValue name entries = entries.lookup name := by
  induction entries with
  | nil => rfl
  | cons head rest ih =>
      obtain ⟨other, value⟩ := head
      have hrest := ih (List.pairwise_cons.mp h).2
      by_cases hname : name = other
      · have hempty : rest.filter (fun pair => pair.1 == name) = [] := by
          apply List.filter_eq_nil_iff.mpr
          intro entry member
          rw [hname]
          simpa using h.ne_head entry member
        rw [lastValue, List.filter_cons_of_pos (by simp [hname]), hempty]
        simp [hname]
      · rw [lastValue, List.filter_cons_of_neg (by simp [Ne.symm hname]), ← lastValue, hrest,
          lookup_of_ne hname]

theorem Ascending.lookup_of_lt {head : Text × Text} {rest : List (Text × Text)} {name : Text}
    (h : Ascending (head :: rest)) (hlt : name < head.1) : (head :: rest).lookup name = none := by
  apply lookup_eq_none
  intro entry member same
  have hlarger : name < entry.1 := by
    rcases List.mem_cons.mp member with rfl | member
    · exact hlt
    · exact List.lt_trans hlt ((List.pairwise_cons.mp h).1 entry member)
  rw [same] at hlarger
  exact List.lt_irrefl _ hlarger

theorem Ascending.eq_of_lookup {first second : List (Text × Text)} (hfirst : Ascending first)
    (hsecond : Ascending second) (h : forall name, first.lookup name = second.lookup name) :
    first = second := by
  induction first generalizing second with
  | nil =>
      cases second with
      | nil => rfl
      | cons head rest =>
          have hhead := h head.1
          rw [lookup_head] at hhead
          cases hhead
  | cons left first ih =>
      cases second with
      | nil =>
          have hhead := h left.1
          rw [lookup_head] at hhead
          cases hhead
      | cons right second =>
          -- The smaller of the two names would be found on one side only.
          have hname : left.1 = right.1 := by
            rcases Std.lt_trichotomy left.1 right.1 with hlt | hsame | hlt
            · have hhead := h left.1
              rw [hsecond.lookup_of_lt hlt, lookup_head] at hhead
              cases hhead
            · exact hsame
            · have hhead := h right.1
              rw [hfirst.lookup_of_lt hlt, lookup_head] at hhead
              cases hhead
          have hvalue : left.2 = right.2 := by
            have hhead := h left.1
            rw [lookup_head, hname, lookup_head] at hhead
            exact Option.some.inj hhead
          have hrest : forall name, first.lookup name = second.lookup name := by
            intro name
            by_cases hsame : name = left.1
            · rw [hsame, lookup_eq_none hfirst.ne_head, hname, lookup_eq_none hsecond.ne_head]
            · have hother := h name
              rwa [lookup_of_ne hsame, lookup_of_ne (hname ▸ hsame)] at hother
          rw [Prod.ext hname hvalue, ih (List.pairwise_cons.mp hfirst).2
            (List.pairwise_cons.mp hsecond).2 hrest]

namespace Dictionary

theorem get?_insert (dictionary : Dictionary) (name value other : Text) :
    (dictionary.insert name value).get? other =
      if name = other then some value else dictionary.get? other := by
  show (enter name value dictionary.entries).lookup other = _
  unfold get?
  induction dictionary.entries with
  | nil =>
      by_cases h : name = other
      · simp [enter, h]
      · rw [enter, lookup_of_ne (Ne.symm h), if_neg h]
  | cons head rest ih =>
      obtain ⟨first, old⟩ := head
      rw [enter]
      split
      · by_cases h : name = other
        · simp [h]
        · rw [lookup_of_ne (Ne.symm h), if_neg h]
      · split
        · rename_i hsame
          by_cases h : name = other
          · simp [h]
          · rw [lookup_of_ne (Ne.symm h), lookup_of_ne (hsame ▸ Ne.symm h), if_neg h]
        · rename_i hdifferent
          by_cases h : other = first
          · subst h
            rw [List.lookup_cons_self, List.lookup_cons_self, if_neg hdifferent]
          · rw [lookup_of_ne h, lookup_of_ne h, ih]

theorem ext_get? {a b : Dictionary} (h : forall name, a.get? name = b.get? name) : a = b :=
  ext (a.ascending.eq_of_lookup b.ascending h)

theorem ofList_concat (pairs : List (Text × Text)) (pair : Text × Text) :
    ofList (pairs ++ [pair]) = (ofList pairs).insert pair.1 pair.2 := by
  simp [ofList]

theorem get?_ofList (pairs : List (Text × Text)) (name : Text) :
    (ofList pairs).get? name = lastValue name pairs := by
  induction pairs using List.reverseRecOn with
  | nil => rfl
  | append_singleton pairs pair ih => rw [ofList_concat, get?_insert, lastValue_concat, ih]

theorem ofList_entries (dictionary : Dictionary) : ofList dictionary.entries = dictionary := by
  apply ext_get?
  intro name
  rw [get?_ofList, dictionary.ascending.lastValue_eq, get?]

end Dictionary

/-! # Attributes -/

def foldNames (pairs : List (Text × Text)) : List (Text × Text) :=
  pairs.map (fun pair => (Text.foldAscii pair.1, pair.2))

namespace Attributes

theorem ext {a b : Attributes} (h : a.values = b.values) : a = b := by
  cases a
  cases b
  cases h
  rfl

theorem values_ofList (pairs : List (Text × Text)) :
    (ofList pairs).values = .ofList (foldNames pairs) := by
  induction pairs using List.reverseRecOn with
  | nil => rfl
  | append_singleton pairs pair ih =>
      have hpairs : ofList (pairs ++ [pair]) = (ofList pairs).set pair.1 pair.2 := by
        simp [ofList]
      have hnames : foldNames (pairs ++ [pair]) =
          foldNames pairs ++ [(Text.foldAscii pair.1, pair.2)] := by
        simp [foldNames]
      rw [hpairs, hnames, Dictionary.ofList_concat, ← ih]
      rfl

theorem foldNames_entries (attributes : Attributes) :
    foldNames attributes.values.entries = attributes.values.entries := by
  have hkept : forall entry, entry ∈ attributes.values.entries ->
      (Text.foldAscii entry.1, entry.2) = entry := by
    intro entry member
    rw [attributes.folded entry member]
  exact (List.map_congr_left hkept).trans (List.map_id _)

theorem get?_of_mem {attributes : Attributes} {entry : Text × Text}
    (h : entry ∈ attributes.toList) : attributes.get? entry.1 = some entry.2 := by
  rw [get?, attributes.folded entry h]
  exact attributes.values.ascending.lookup_of_mem h

theorem ofList_entries (attributes : Attributes) :
    ofList attributes.values.entries = attributes := by
  apply ext
  rw [values_ofList, foldNames_entries, Dictionary.ofList_entries]

end Attributes
end TreeQuery
