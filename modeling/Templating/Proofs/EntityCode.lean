import Templating.Proofs.AlikePasses
import Templating.Proofs.EscapedPortions

/-!
# Entities as a code

Each character comes to a word of its own: its entity, or itself. Only the words of special
characters hold an ampersand, and only in front; so what stands at an ampersand in escaped text is
the entity of one character of the text, and reading the entities back gives the text
(`Escape.unescape_escape`). What looks like an entity in the text itself is escaped like all else.
-/

namespace Templating.Escape

/-- Reads entities back, from left to right. -/
def unescapeChars : List Char → List Char
  | '&' :: 'a' :: 'm' :: 'p' :: ';' :: rest => '&' :: unescapeChars rest
  | '&' :: 'l' :: 't' :: ';' :: rest => '<' :: unescapeChars rest
  | '&' :: 'g' :: 't' :: ';' :: rest => '>' :: unescapeChars rest
  | '&' :: 'q' :: 'u' :: 'o' :: 't' :: ';' :: rest => '"' :: unescapeChars rest
  | '&' :: '#' :: 'x' :: '2' :: '7' :: ';' :: rest => '\'' :: unescapeChars rest
  | c :: rest => c :: unescapeChars rest
  | [] => []

def unescape (text : String) : String :=
  String.ofList (unescapeChars text.toList)

theorem escapeChar_eq_of_entity {c : Char} {entity : String} (known : (c, entity) ∈ entities) :
    escapeChar c = entity.toList := by
  rw [escapeChar, entity?_eq_some_iff.mpr known]

theorem ne_of_clean {c : Char} (clean : isSpecial c = false) : c ≠ '&' := by
  rintro rfl
  cases clean

theorem exists_entity {c : Char} (special : isSpecial c = true) :
    ∃ entity, (c, entity) ∈ entities := by
  obtain ⟨⟨_, entity⟩, known, rfl⟩ := List.mem_map.mp (isSpecial_eq_true_iff.mp special)
  exact ⟨entity, known⟩

/-- An entity is an ampersand and then none. -/
theorem entity_eq_cons {c : Char} {entity : String} (known : (c, entity) ∈ entities) :
    ∃ name, entity.toList = '&' :: name ∧ '&' ∉ name := by
  have all : ∀ e ∈ entities, e.2.toList.head? = some '&' ∧ '&' ∉ e.2.toList.tail := by decide
  obtain ⟨front, name⟩ := all _ known
  obtain ⟨tail, whole⟩ := List.head?_eq_some_iff.mp front
  exact ⟨tail, whole, by simpa [whole] using name⟩

theorem unescapeChars_cons {c : Char} (other : c ≠ '&') (rest : List Char) :
    unescapeChars (c :: rest) = c :: unescapeChars rest := by
  simp [unescapeChars, other]

theorem unescapeChars_escapeChar (c : Char) (rest : List Char) :
    unescapeChars (escapeChar c ++ rest) = c :: unescapeChars rest := by
  cases special : isSpecial c with
  | true =>
    obtain ⟨entity, known⟩ := exists_entity special
    rw [escapeChar_eq_of_entity known]
    simp only [entities, List.mem_cons, Prod.mk.injEq, List.not_mem_nil, or_false] at known
    obtain ⟨rfl, rfl⟩ | ⟨rfl, rfl⟩ | ⟨rfl, rfl⟩ | ⟨rfl, rfl⟩ | ⟨rfl, rfl⟩ := known <;> rfl
  | false =>
    rw [escapeChar_of_clean special, List.singleton_append, unescapeChars_cons (ne_of_clean special)]

theorem unescape_escape (text : String) : unescape (escape text) = text := by
  have chars : ∀ chars : List Char, unescapeChars (chars.flatMap escapeChar) = chars := by
    intro chars
    induction chars with
    | nil => rfl
    | cons c rest ih => rw [List.flatMap_cons, unescapeChars_escapeChar, ih]
  rw [unescape, escape, String.toList_ofList, chars, String.ofList_toList]

/-- No entity is the beginning of another. -/
theorem entity_unique {c d : Char} {entity other : String} {text : List Char}
    (known : (c, entity) ∈ entities) (listed : (d, other) ∈ entities)
    (here : entity.toList <+: text) (there : other.toList <+: text) : entity = other := by
  have apart : ∀ e ∈ entities, ∀ o ∈ entities, e.2.toList <+: o.2.toList → e.2 = o.2 := by decide
  rcases List.prefix_or_prefix_of_prefix here there with first | second
  · exact apart _ known _ listed first
  · exact (apart _ listed _ known second).symm

theorem escapeChar_ampersand {c : Char} {pre word : List Char}
    (found : escapeChar c = pre ++ '&' :: word) : isSpecial c = true ∧ pre = [] := by
  cases special : isSpecial c with
  | false =>
    rw [escapeChar_of_clean special] at found
    have here : '&' ∈ [c] := by rw [found]; simp
    exact absurd (List.mem_singleton.mp here).symm (ne_of_clean special)
  | true =>
    obtain ⟨entity, known⟩ := exists_entity special
    obtain ⟨name, whole, apart⟩ := entity_eq_cons known
    rw [escapeChar_eq_of_entity known, whole] at found
    cases pre with
    | nil => exact ⟨rfl, rfl⟩
    | cons d pre =>
      obtain ⟨-, later⟩ := List.cons.inj found
      rw [later] at apart
      simp at apart

/-- An ampersand in escaped text is where the entity of a character of the text begins. -/
theorem ampersand_escaped {text : List Char} (pre : List Char) {post : List Char}
    (found : text.flatMap escapeChar = pre ++ '&' :: post) :
    ∃ before c after entity, text = before ++ c :: after ∧ pre = before.flatMap escapeChar ∧
      (c, entity) ∈ entities ∧ '&' :: post = entity.toList ++ after.flatMap escapeChar := by
  induction text generalizing pre with
  | nil => simp at found
  | cons c rest ih =>
    rw [List.flatMap_cons] at found
    -- The ampersand stands behind the word of `c`, or in it.
    rcases List.append_eq_append_iff.mp found with ⟨between, rfl, later⟩ | ⟨word, split, begun⟩
    · obtain ⟨before, d, after, entity, rfl, rfl, known, stands⟩ := ih _ later
      exact ⟨c :: before, d, after, entity, rfl, rfl, known, stands⟩
    · cases word with
      | nil =>
        obtain ⟨before, d, after, entity, rfl, empty, known, stands⟩ := ih [] begun.symm
        refine ⟨c :: before, d, after, entity, rfl, ?_, known, stands⟩
        rw [List.flatMap_cons, ← empty, split]
        simp
      | cons d word =>
        obtain ⟨rfl, -⟩ := List.cons.inj begun
        obtain ⟨special, rfl⟩ := escapeChar_ampersand split
        obtain ⟨entity, known⟩ := exists_entity special
        refine ⟨[], c, rest, entity, rfl, rfl, known, ?_⟩
        rw [← escapeChar_eq_of_entity known, split]
        exact begun

/-- The entity that an ampersand begins is the only one that begins there. -/
theorem entity_at_ampersand {text : String} {pre post : List Char}
    (found : (escape text).toList = pre ++ '&' :: post) :
    (∃! entity, entity ∈ entities.map Prod.snd ∧ entity.toList <+: '&' :: post) ∧
      ∃ before c after entity, text = before ++ String.singleton c ++ after ∧
        String.ofList pre = escape before ∧ (c, entity) ∈ entities ∧
        String.ofList ('&' :: post) = entity ++ escape after := by
  rw [escape, String.toList_ofList] at found
  obtain ⟨before, c, after, entity, whole, rfl, known, stands⟩ := ampersand_escaped _ found
  constructor
  · refine ⟨entity, ⟨List.mem_map_of_mem known, _, stands.symm⟩, ?_⟩
    rintro other ⟨listed, there⟩
    obtain ⟨⟨d, _⟩, row, rfl⟩ := List.mem_map.mp listed
    exact entity_unique row known there ⟨_, stands.symm⟩
  · refine ⟨String.ofList before, c, String.ofList after, entity, ?_, ?_, known, ?_⟩
    · apply String.toList_injective
      simp [whole]
    · simp [escape]
    · apply String.toList_injective
      simp [escape, stands]

theorem isClean_escape_iff (text : String) : isClean (escape text) = true ↔ isClean text = true := by
  constructor
  · intro clean
    by_contra dirty
    obtain ⟨c, member, special⟩ : ∃ c ∈ text.toList, isSpecial c = true := by
      simpa [isClean] using dirty
    obtain ⟨entity, known⟩ := exists_entity special
    obtain ⟨name, whole, -⟩ := entity_eq_cons known
    have ampersand : '&' ∈ (escape text).toList := by
      rw [escape, String.toList_ofList]
      refine List.mem_flatMap.mpr ⟨c, member, ?_⟩
      rw [escapeChar_eq_of_entity known, whole]
      exact List.mem_cons_self
    have plain := List.all_eq_true.mp clean '&' ampersand
    cases plain
  · intro clean
    rwa [(escape_eq_self_iff text).mpr clean]

/-- Escaping keeps the borders of a text, can be read back, and leaves no character that ends a tag
or the value of an attribute. Every ampersand that it leaves begins the entity of one character of
the text, and no other. It is idempotent only where there is nothing to escape. -/
theorem escape_code (s t : String) :
    (EscapedText.of? s).map EscapedText.text = some (escape s) ∧
    escape (s ++ t) = escape s ++ escape t ∧
    (escape s = escape t → s = t) ∧ unescape (escape s) = s ∧
    (∀ c ∈ (escape s).toList, c ≠ '<' ∧ c ≠ '>' ∧ c ≠ '"' ∧ c ≠ '\'') ∧
    (∀ pre post, (escape s).toList = pre ++ '&' :: post →
      (∃! entity, entity ∈ entities.map Prod.snd ∧ entity.toList <+: '&' :: post) ∧
      ∃ before c after entity, s = before ++ String.singleton c ++ after ∧
        String.ofList pre = escape before ∧ (c, entity) ∈ entities ∧
        String.ofList ('&' :: post) = entity ++ escape after) ∧
    (escape (escape s) = escape s ↔ ∀ c ∈ s.toList, c ∉ entities.map Prod.fst) := by
  refine ⟨EscapedText.of?_text s, escape_append s t, fun same => ?_, unescape_escape s, ?_, ?_, ?_⟩
  · rw [← unescape_escape s, same, unescape_escape]
  · intro c member
    have plain := List.filter_eq_nil_iff.mp (markup_escape s) c member
    simpa [isMarkup, and_assoc] using plain
  · exact fun pre post found => entity_at_ampersand found
  · rw [escape_eq_self_iff, isClean_escape_iff]
    simp [isClean, ← isSpecial_eq_true_iff]

/-- A text that looks like an entity keeps its ampersand as an entity, and is told apart from the
character that the entity stands for. -/
theorem escape_code_entityText :
    (escape "&lt;" = "&amp;lt;" ∧ escape "&lt;" ≠ escape "<" ∧ unescape (escape "&lt;") = "&lt;") ∧
      ∃! entity, entity ∈ entities.map Prod.snd ∧ entity.toList <+: "&amp;lt;".toList := by
  have escaped : escape "&lt;" = "&amp;lt;" := by decide +kernel
  obtain ⟨-, -, injective, back, -, ampersands, -⟩ := escape_code "&lt;" "<"
  have found : (escape "&lt;").toList = [] ++ '&' :: "amp;lt;".toList := by decide +kernel
  exact ⟨⟨escaped, fun same => absurd (injective same) (by decide), back⟩, (ampersands _ _ found).1⟩

end Templating.Escape
