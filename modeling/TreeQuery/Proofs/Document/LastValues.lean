import Mathlib.Data.List.Dedup
import TreeQuery.Proofs.Document.Attributes
import TreeQuery.Proofs.Text.LetterCase

/-!
# The attributes that were set

Attributes answer for a name with the value of the last pair that was set under it, in any letter
case, and list each folded name once.  No more can be seen of them: those that answer alike for
every name are equal, whatever was set in whatever order.
-/

namespace TreeQuery

open Text

/-- The value of the last pair with the given name in any letter case. -/
def lastNamed (name : Text) (pairs : List (Text × Text)) : Option Text :=
  ((pairs.filter (fun pair => decide (SameName pair.1 name))).getLast?).map Prod.snd

def distinctNames (pairs : List (Text × Text)) : List Text :=
  ((foldNames pairs).map Prod.fst).dedup

theorem lastNamed_eq (name : Text) (pairs : List (Text × Text)) :
    lastNamed name pairs = lastValue (foldAscii name) (foldNames pairs) := by
  have htest : (fun pair : Text × Text => pair.1 == foldAscii name) ∘
      (fun pair : Text × Text => (foldAscii pair.1, pair.2)) =
        fun pair => decide (SameName pair.1 name) := by
    funext pair
    exact Bool.eq_iff_iff.mpr
      (beq_iff_eq.trans ((alike_iff_sameName pair.1 name).trans decide_eq_true_iff.symm))
  rw [lastNamed, lastValue, foldNames, List.filter_map, htest, List.getLast?_map, Option.map_map]
  rfl

theorem lastNamed_isSome_iff (name : Text) (pairs : List (Text × Text)) :
    (lastNamed name pairs).isSome = true ↔ exists pair, pair ∈ pairs ∧ SameName pair.1 name := by
  rw [lastNamed, Option.isSome_map, List.getLast?_isSome, Ne, List.filter_eq_nil_iff]
  simp

theorem mem_distinctNames (name : Text) (pairs : List (Text × Text)) :
    name ∈ distinctNames pairs ↔
      foldAscii name = name ∧ exists pair, pair ∈ pairs ∧ SameName pair.1 name := by
  unfold distinctNames foldNames
  rw [List.mem_dedup, List.map_map, List.mem_map]
  constructor
  · intro h
    rcases h with ⟨pair, hmem, rfl⟩
    have hfolded := foldAscii_foldAscii pair.1
    exact ⟨hfolded, pair, hmem, (alike_iff_sameName _ _).mp hfolded.symm⟩
  · intro h
    rcases h with ⟨hfolded, pair, hmem, hsame⟩
    exact ⟨pair, hmem, ((alike_iff_sameName _ _).mpr hsame).trans hfolded⟩

namespace Attributes

/-! # What is seen of attributes -/

theorem mem_toList_iff (attributes : Attributes) (name value : Text) :
    (name, value) ∈ attributes.toList ↔
      foldAscii name = name ∧ attributes.get? name = some value := by
  constructor
  · intro h
    exact ⟨attributes.folded _ h, get?_of_mem h⟩
  · intro h
    rcases h with ⟨hfolded, hvalue⟩
    rw [get?, hfolded, Dictionary.get?, List.lookup_eq_some_iff] at hvalue
    rcases hvalue with ⟨before, after, hentries, _⟩
    rw [toList, hentries]
    exact List.mem_append_right before List.mem_cons_self

theorem mem_names_iff (attributes : Attributes) (name : Text) :
    name ∈ attributes.names ↔ foldAscii name = name ∧ attributes.contains name = true := by
  unfold names contains
  rw [List.mem_map, Option.isSome_iff_exists]
  constructor
  · intro h
    rcases h with ⟨⟨name, value⟩, hmem, rfl⟩
    rcases (mem_toList_iff attributes name value).mp hmem with ⟨hfolded, hvalue⟩
    exact ⟨hfolded, value, hvalue⟩
  · intro h
    rcases h with ⟨hfolded, value, hvalue⟩
    exact ⟨(name, value), (mem_toList_iff attributes name value).mpr ⟨hfolded, hvalue⟩, rfl⟩

theorem nodup_names (attributes : Attributes) : attributes.names.Nodup := by
  apply List.pairwise_map.mpr
  refine attributes.values.ascending.imp ?_
  intro first second hlt hsame
  rw [hsame] at hlt
  exact List.lt_irrefl _ hlt

theorem get?_values_of_ne {attributes : Attributes} {name : Text} (h : foldAscii name ≠ name) :
    attributes.values.get? name = none := by
  apply lookup_eq_none
  intro entry hmem hsame
  apply h
  rw [← hsame]
  exact attributes.folded entry hmem

theorem ext_get? {a b : Attributes} (h : forall name, a.get? name = b.get? name) : a = b := by
  apply ext
  apply Dictionary.ext_get?
  intro name
  by_cases hfolded : foldAscii name = name
  · have hname := h name
    rwa [get?, get?, hfolded] at hname
  · rw [get?_values_of_ne hfolded, get?_values_of_ne hfolded]

theorem get?_set (attributes : Attributes) (name value other : Text) :
    (attributes.set name value).get? other =
      if SameName name other then some value else attributes.get? other := by
  show (attributes.values.insert (foldAscii name) value).get? (foldAscii other) = _
  rw [Dictionary.get?_insert, get?]
  simp only [← alike_iff_sameName, Alike]

theorem set_comm (attributes : Attributes) {name other : Text} (h : ¬ SameName name other)
    (value value' : Text) :
    (attributes.set name value).set other value' = (attributes.set other value').set name value := by
  apply ext_get?
  intro asked
  rw [get?_set, get?_set, get?_set, get?_set]
  by_cases hname : SameName name asked
  · have hother : ¬ SameName other asked := by
      intro hother
      apply h
      rw [← alike_iff_sameName] at hname hother ⊢
      exact hname.trans hother.symm
    rw [if_pos hname, if_neg hother, if_pos hname]
  · rw [if_neg hname, if_neg hname]

/-! # Histories -/

def setAll (attributes : Attributes) (pairs : List (Text × Text)) : Attributes :=
  pairs.foldl (fun attributes (name, value) => attributes.set name value) attributes

theorem setAll_ofList (collected pairs : List (Text × Text)) :
    (ofList collected).setAll pairs = ofList (collected ++ pairs) := by
  rw [ofList, ofList, List.foldl_append, setAll]

/-- Attributes show what the pairs, set one after the other, leave: under every name the last
value, and each folded name once. -/
structure Reflects (attributes : Attributes) (pairs : List (Text × Text)) : Prop where
  get? : forall name, attributes.get? name = lastNamed name pairs
  contains : forall name, attributes.contains name = true ↔
    exists pair, pair ∈ pairs ∧ SameName pair.1 name
  names : attributes.names.Perm (distinctNames pairs)
  entries : (attributes.toList.map Prod.fst).Perm (distinctNames pairs)
  values : forall name value, (name, value) ∈ attributes.toList ->
    lastNamed name pairs = some value
  size : attributes.size = (distinctNames pairs).length

theorem get?_ofList (pairs : List (Text × Text)) (name : Text) :
    (ofList pairs).get? name = lastNamed name pairs := by
  rw [get?, values_ofList, Dictionary.get?_ofList, lastNamed_eq]

theorem contains_ofList (pairs : List (Text × Text)) (name : Text) :
    (ofList pairs).contains name = true ↔ exists pair, pair ∈ pairs ∧ SameName pair.1 name := by
  rw [contains, get?_ofList, lastNamed_isSome_iff]

theorem names_ofList (pairs : List (Text × Text)) :
    (ofList pairs).names.Perm (distinctNames pairs) := by
  have hdistinct : (distinctNames pairs).Nodup := List.nodup_dedup _
  apply (List.perm_ext_iff_of_nodup (nodup_names _) hdistinct).mpr
  intro name
  rw [mem_names_iff, contains_ofList, mem_distinctNames]

theorem reflects_ofList (pairs : List (Text × Text)) : (ofList pairs).Reflects pairs where
  get? := get?_ofList pairs
  contains := contains_ofList pairs
  names := names_ofList pairs
  entries := names_ofList pairs
  values := by
    intro name value h
    rw [← get?_ofList]
    exact get?_of_mem h
  size := by
    rw [← (names_ofList pairs).length_eq]
    exact (List.length_map Prod.fst).symm

/-- After any history attributes show the last values; answers for names tell them apart, and so
it does not matter which of two different names is set first. -/
theorem shows_last_values :
    (forall collected pairs : List (Text × Text),
      ((ofList collected).setAll pairs).Reflects (collected ++ pairs)) ∧
    (forall a b : Attributes, a = b ↔ forall name, a.get? name = b.get? name) ∧
    forall (attributes : Attributes) (name other value value' : Text), ¬ SameName name other ->
      (attributes.set name value).set other value' =
        (attributes.set other value').set name value := by
  refine ⟨?_, ?_, ?_⟩
  · intro collected pairs
    rw [setAll_ofList]
    exact reflects_ofList (collected ++ pairs)
  · intro a b
    constructor
    · rintro rfl name
      rfl
    · exact ext_get?
  · intro attributes name other value value' h
    exact set_comm attributes h value value'

theorem shows_last_values_links :
    ¬ SameName "Ä" "ä" ∧
      ((ofList [("href", "/a")]).setAll [("HREF", "/b"), ("Ä", "1")]).get? "Href" = some "/b" ∧
      (empty.set "Ä" "1").set "ä" "2" = (empty.set "ä" "2").set "Ä" "1" := by
  have hne : ¬ SameName "Ä" "ä" := by decide
  rcases shows_last_values with ⟨hreflects, _, hcomm⟩
  refine ⟨hne, ?_, hcomm empty "Ä" "ä" "1" "2" hne⟩
  rw [(hreflects [("href", "/a")] [("HREF", "/b"), ("Ä", "1")]).get?]
  decide

end Attributes
end TreeQuery
