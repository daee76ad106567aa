import TreeQuery.Text.Basic

/-!
# Dictionaries

A dictionary maps names to values.  Its entries are kept in ascending order of their names, each
name once, so that two dictionaries with the same entries are equal.  The order of names is that
of their code points.
-/

namespace TreeQuery

def enter (name value : Text) : List (Text × Text) -> List (Text × Text)
  | [] => [(name, value)]
  | (other, old) :: rest =>
      if name < other then (name, value) :: (other, old) :: rest
      else if name = other then (name, value) :: rest
      else (other, old) :: enter name value rest

theorem mem_enter {name value : Text} {entries : List (Text × Text)} {entry : Text × Text}
    (h : entry ∈ enter name value entries) : entry = (name, value) ∨ entry ∈ entries := by
  induction entries with
  | nil => simpa [enter] using h
  | cons head rest ih =>
      obtain ⟨other, old⟩ := head
      rw [enter] at h
      split at h
      · simpa using h
      · split at h
        · rcases List.mem_cons.mp h with h | h
          · exact .inl h
          · exact .inr (List.mem_cons_of_mem _ h)
        · rcases List.mem_cons.mp h with h | h
          · exact .inr (by simp [h])
          · rcases ih h with h | h
            · exact .inl h
            · exact .inr (List.mem_cons_of_mem _ h)

def Ascending (entries : List (Text × Text)) : Prop :=
  entries.Pairwise (fun a b => a.1 < b.1)

theorem ascending_enter {name value : Text} {entries : List (Text × Text)}
    (h : Ascending entries) : Ascending (enter name value entries) := by
  induction entries with
  | nil => simp [enter, Ascending]
  | cons head rest ih =>
      obtain ⟨other, old⟩ := head
      obtain ⟨first, later⟩ := List.pairwise_cons.mp h
      rw [enter]
      split
      · rename_i below
        refine List.pairwise_cons.mpr ⟨fun entry member => ?_, h⟩
        rcases List.mem_cons.mp member with member | member
        · simpa [member] using below
        · exact List.lt_trans below (first entry member)
      · rename_i notBelow
        split
        · rename_i same
          refine List.pairwise_cons.mpr ⟨fun entry member => ?_, later⟩
          simpa [same] using first entry member
        · rename_i different
          refine List.pairwise_cons.mpr ⟨fun entry member => ?_, ih later⟩
          rcases mem_enter member with member | member
          · rw [member]
            rcases Std.lt_trichotomy name other with case | case | case
            · exact absurd case notBelow
            · exact absurd case different
            · exact case
          · exact first entry member

structure Dictionary where
  entries : List (Text × Text)
  ascending : Ascending entries

namespace Dictionary

def empty : Dictionary := ⟨[], List.Pairwise.nil⟩

def insert (dictionary : Dictionary) (name value : Text) : Dictionary :=
  ⟨enter name value dictionary.entries, ascending_enter dictionary.ascending⟩

def get? (dictionary : Dictionary) (name : Text) : Option Text :=
  dictionary.entries.lookup name

def ofList (pairs : List (Text × Text)) : Dictionary :=
  pairs.foldl (fun dictionary (name, value) => dictionary.insert name value) empty

theorem ext {a b : Dictionary} (h : a.entries = b.entries) : a = b := by
  cases a
  cases b
  cases h
  rfl

instance : DecidableEq Dictionary := fun a b =>
  decidable_of_iff (a.entries = b.entries) ⟨ext, fun h => h ▸ rfl⟩

instance : Repr Dictionary := ⟨fun dictionary => reprPrec dictionary.entries⟩

instance : Inhabited Dictionary := ⟨empty⟩

end Dictionary
end TreeQuery
