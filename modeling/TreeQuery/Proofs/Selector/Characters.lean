import TreeQuery.Proofs.Selector.Checks
import TreeQuery.Proofs.Selector.Delimiters
import TreeQuery.Proofs.Text.Character

/-!
# Characters of selectors

The characters of names neither delimit nor separate anything, and a name is read up to the
first character that is none of its own.
-/

namespace TreeQuery
namespace Selector

open Scan Grammar

/-- The character stands for itself wherever it is in a compound. -/
structure Plain (c : Char) : Prop where
  ordinary : IsOrdinary c
  delimiter : isDelimiter c = false
  separator : isSeparator c = false

theorem not_whitespace_of_not_separator {c : Char} (h : isSeparator c = false) :
    Text.isWhitespace c = false :=
  (Bool.or_eq_false_iff.mp h).2

theorem ofMark?_of_not_separator {c : Char} (h : isSeparator c = false) :
    Combinator.ofMark? c = none := by
  apply Option.not_isSome_iff_eq_none.mp
  rw [Combinator.isSome_ofMark?, (Bool.or_eq_false_iff.mp h).1]
  exact Bool.false_ne_true

def structuralMarks : Text :=
  [escapeMark, endMark, '(', ')', '[', ']']

theorem ordinary_of_not_mem {c : Char} (h : c ∉ structuralMarks) :
    IsOrdinary c ∧ isDelimiter c = false := by
  simp only [structuralMarks, List.mem_cons, List.not_mem_nil, or_false, not_or] at h
  rcases h with ⟨hescape, hend, hopen, hclose, hopen', hclose'⟩
  constructor
  · exact ⟨hescape, hend⟩
  · simp [isDelimiter, hopen, hclose, hopen', hclose']

theorem plain_of_alphanumeric {c : Char} (h : Text.isAlphanumeric c = true) : Plain c := by
  have hwhitespace : Text.isWhitespace c = false := by
    apply Bool.eq_false_iff.mpr
    intro hspace
    rw [Text.not_alphanumeric_of_whitespace hspace] at h
    contradiction
  have hmark : c ∉ Combinator.marks := Text.not_mem_of_test (by decide +kernel) h
  rcases ordinary_of_not_mem (Text.not_mem_of_test (by decide +kernel) h)
    with ⟨hordinary, hdelimiter⟩
  constructor
  case ordinary => exact hordinary
  case delimiter => exact hdelimiter
  case separator => simp [isSeparator, hmark, hwhitespace]

instance (c : Char) : Decidable (Plain c) :=
  decidable_of_iff (IsOrdinary c ∧ isDelimiter c = false ∧ isSeparator c = false)
    ⟨fun h => ⟨h.1, h.2.1, h.2.2⟩, fun h => ⟨h.ordinary, h.delimiter, h.separator⟩⟩

theorem plain_of_tagChar {c : Char} (h : isTagChar c = true) : Plain c := by
  unfold isTagChar at h
  simp only [Bool.or_eq_true, beq_iff_eq] at h
  rcases h with ((h | rfl) | rfl) | rfl
  · exact plain_of_alphanumeric h
  · decide
  · decide
  · decide

theorem tagChar_of_nameChar {c : Char} (h : isNameChar c = true) : isTagChar c = true := by
  unfold isNameChar at h
  simp only [Bool.or_eq_true, beq_iff_eq] at h
  rcases h with (h | rfl) | rfl
  · simp [isTagChar, h]
  · decide +kernel
  · decide +kernel

theorem plain_of_keyChar {c : Char} (h : isKeyChar c = true) : Plain c := by
  unfold isKeyChar at h
  simp only [Bool.or_eq_true, beq_iff_eq] at h
  rcases h with ((h | rfl) | rfl) | rfl
  · exact plain_of_alphanumeric h
  · decide
  · decide
  · decide

/-! # Texts of plain characters -/

theorem closed_of_plain {text : Text} (h : forall c, c ∈ text -> Plain c) : Closed text :=
  closed_of_all fun c hc => ⟨(h c hc).ordinary, (h c hc).delimiter⟩

theorem whole_of_plain {text : Text} (h : forall c, c ∈ text -> Plain c) : Whole text :=
  whole_of_all fun c hc => ⟨(h c hc).delimiter, (h c hc).separator⟩

theorem tight_of_plain {text : Text} (hne : text ≠ []) (h : forall c, c ∈ text -> Plain c) :
    Text.Tight text :=
  .of_all hne fun c hc => not_whitespace_of_not_separator (h c hc).separator

theorem Grammar.Name.plain (name : Name) : forall c, c ∈ name.text -> Plain c :=
  fun c hc => plain_of_tagChar (tagChar_of_nameChar (name.characters c hc))

theorem Grammar.TagName.plain (name : TagName) : forall c, c ∈ name.write -> Plain c := by
  intro c hc
  cases hc with
  | head => exact plain_of_alphanumeric name.start
  | tail _ hc => exact plain_of_tagChar (name.characters c hc)

theorem Grammar.Key.plain (key : Key) : forall c, c ∈ key.text -> Plain c :=
  fun c hc => plain_of_keyChar (key.characters c hc)

theorem Grammar.Blank.closed (blank : Blank) : Closed blank.text := by
  apply closed_of_all
  intro c hc
  exact ordinary_of_not_mem (Text.not_mem_of_test (by decide) (blank.spaces c hc))

/-! # Reading a run of characters -/

/-- The text is at its end or goes on with a character that fails the test. -/
def Stops (test : Char -> Bool) (text : Text) : Prop :=
  forall c, text.head? = some c -> test c = false

theorem dropWhile_of_stops {test : Char -> Bool} {text : Text} (h : Stops test text) :
    text.dropWhile test = text := by
  cases text with
  | nil => rfl
  | cons c rest => exact List.dropWhile_cons_of_neg (by simp [h c rfl])

theorem run_append {test : Char -> Bool} {text rest : Text}
    (htext : forall c, c ∈ text -> test c = true) (hrest : Stops test rest) :
    run test (text ++ rest) = (text, rest) := by
  have htake : rest.takeWhile test = [] := by
    cases rest with
    | nil => rfl
    | cons c rest => exact List.takeWhile_cons_of_neg (by simp [hrest c rfl])
  unfold run
  rw [List.takeWhile_append_of_pos htext, List.dropWhile_append_of_pos htext, htake,
    dropWhile_of_stops hrest, List.append_nil]

theorem stops_nameChar {rest : Text} (h : Stops isTagChar rest) : Stops isNameChar rest := by
  intro c hc
  apply Bool.eq_false_iff.mpr
  intro hname
  have htag := h c hc
  rw [tagChar_of_nameChar hname] at htag
  contradiction

theorem Grammar.Name.run_write (name : Name) {rest : Text} (hrest : Stops isTagChar rest) :
    run isNameChar (name.text ++ rest) = (name.text, rest) :=
  run_append name.characters (stops_nameChar hrest)

theorem Grammar.Name.not_empty (name : Name) : name.text.isEmpty = false :=
  List.isEmpty_eq_false_iff.mpr name.nonempty

/-! # Looking for an operator -/

theorem upTo_append {found : Text -> Bool} {text : Text} (rest : Text)
    (h : forall c, c ∈ text -> forall more, found (c :: more) = false) :
    upTo found (text ++ rest) = (text ++ (upTo found rest).1, (upTo found rest).2) := by
  induction text with
  | nil => rfl
  | cons c text ih =>
      rw [List.cons_append, upTo, h c List.mem_cons_self,
        ih fun d hd => h d (List.mem_cons_of_mem _ hd)]
      rfl

def operatorStarts : List Char :=
  ['=', '!', '^', '$', '*', '~']

theorem not_startsWithAny {c : Char} (h : c ∉ operatorStarts) (more : Text) :
    startsWithAny attributeMarks (c :: more) = false := by
  have hstarts : attributeMarks.all (fun mark => mark.head?.any (fun first =>
      Text.isSettled first && operatorStarts.contains first)) = true := by
    decide +kernel
  apply Bool.eq_false_iff.mpr
  intro hfound
  rcases List.any_eq_true.mp hfound with ⟨mark, hmem, hstart⟩
  have hmark := List.all_eq_true.mp hstarts mark hmem
  cases mark with
  | nil => cases hmark
  | cons first rest =>
      rcases Bool.and_eq_true_iff.mp hmark with ⟨hsettled, hcontains⟩
      have hletter : Text.sameLetter c first = true := (Bool.and_eq_true_iff.mp hstart).1
      rw [Text.eq_of_sameLetter hsettled hletter] at h
      exact h (List.contains_iff_mem.mp hcontains)

/-! # Escapes and quotes -/

/-- What is written for the text is turned into the text again, whatever follows. -/
def Unescapes (written text : Text) : Prop :=
  forall last rest, last ≠ escapeMark ->
    exists next, next ≠ escapeMark ∧
      unescapeAfter last (written ++ rest) = text ++ unescapeAfter next rest

theorem Unescapes.append {first second text other : Text} (hfirst : Unescapes first text)
    (hsecond : Unescapes second other) : Unescapes (first ++ second) (text ++ other) := by
  intro last rest hlast
  rcases hfirst last (second ++ rest) hlast with ⟨middle, hmiddle, hfirst⟩
  rcases hsecond middle rest hmiddle with ⟨next, hnext, hsecond⟩
  refine ⟨next, hnext, ?_⟩
  rw [List.append_assoc, hfirst, hsecond, List.append_assoc]

theorem unescapes_char {c : Char} (hc : c ≠ escapeMark) : Unescapes [c] [c] := by
  intro last rest _
  refine ⟨c, hc, ?_⟩
  show unescapeAfter last (c :: rest) = c :: unescapeAfter c rest
  rw [unescapeAfter]
  simp [hc]

theorem unescapes_escaped {c : Char} (hc : c ≠ escapeMark) : Unescapes [escapeMark, c] [c] := by
  intro last rest hlast
  refine ⟨c, hc, ?_⟩
  show unescapeAfter last (escapeMark :: c :: rest) = c :: unescapeAfter c rest
  rw [unescapeAfter, unescapeAfter]
  simp [hc, hlast]

theorem unescapes_of_all {text : Text} (h : forall c, c ∈ text -> c ≠ escapeMark) :
    Unescapes text text := by
  induction text with
  | nil => exact fun last _ hlast => ⟨last, hlast, rfl⟩
  | cons c rest ih =>
      have hrest := ih fun d hd => h d (List.mem_cons_of_mem _ hd)
      exact (unescapes_char (h c List.mem_cons_self)).append hrest

theorem unescapes_escapeWhere (test : Char -> Bool) {text : Text}
    (h : forall c, c ∈ text -> c ≠ escapeMark) : Unescapes (escapeWhere test text) text := by
  induction text with
  | nil => exact fun last _ hlast => ⟨last, hlast, rfl⟩
  | cons c rest ih =>
      have hc : c ≠ escapeMark := h c List.mem_cons_self
      have hrest := ih fun d hd => h d (List.mem_cons_of_mem _ hd)
      show Unescapes ((if test c then [escapeMark, c] else [c]) ++ escapeWhere test rest) (c :: rest)
      cases test c with
      | true => exact (unescapes_escaped hc).append hrest
      | false => exact (unescapes_char hc).append hrest

theorem unescapes_escape {text : Text} (h : forall c, c ∈ text -> IsOrdinary c) :
    Unescapes (escape text) text :=
  unescapes_escapeWhere isDelimiter fun c hc => (h c hc).1

theorem Unescapes.unescape_eq {written text : Text} (h : Unescapes written text) :
    unescape written = text := by
  rcases h endMark [] (by decide) with ⟨next, _, htext⟩
  unfold unescape
  rw [List.append_nil] at htext
  rw [htext]
  simp [unescapeAfter]

theorem dropQuotes_quoted (text : Text) : dropQuotes ('"' :: text ++ ['"']) = text := by
  have hstart : Text.dropStart? ['"'] ('"' :: text ++ ['"']) = some (text ++ ['"']) := by
    simp [Text.dropStart?]
  have hend : Text.dropEnd? ['"'] (text ++ ['"']) = some text := by
    have hsuffix : List.isSuffixOf ['"'] (text ++ ['"']) = true :=
      List.isSuffixOf_iff_suffix.mpr ⟨text, rfl⟩
    simp [Text.dropEnd?, hsuffix]
  unfold dropQuotes dropQuotes?
  rw [hstart]
  simp only [hend]

end Selector
end TreeQuery
