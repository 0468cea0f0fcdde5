import Templating.Proofs.ConfigDocuments

/-!
# Configurations written and read back

A configuration is written as a flat document of its four keys (`madeOf_toYaml`), each with a word
for its value, so that it is read back from there and validated, whatever its capacity
(`ofYaml_toYaml`).
-/

namespace Templating.Config

open Yaml (Line MadeOf isContent indicators isPlain unifyBreaks)

theorem isContent_of_isDigit {c : Char} (digit : c.isDigit = true) :
    isContent c = true ∧ c ∉ indicators := by
  obtain ⟨least, most⟩ := Char.isDigit_iff_toNat.mp digit
  simp only [Char.reduceToNat] at least most
  rw [← c.ofNat_toNat]
  generalize c.toNat = n at least most
  interval_cases n <;> decide

namespace Key

/-- The word that is written for the value of a key. -/
def word : (k : Key) → Config → String
  | encoding => fun c => c.encoding.name
  | bufferCapacity => fun c => c.bufferCapacity.repr
  | strictAttributeCount => fun c => boolWord c.strictAttributeCount
  | requireLayoutBody => fun c => boolWord c.requireLayoutBody

theorem isPlain_word (k : Key) (c : Config) : isPlain '\n' (k.word c).toList = true := by
  have encoding : ∀ e : Encoding, isPlain '\n' e.name.toList = true := fun e => by
    cases e <;> decide
  have bool : ∀ b, isPlain '\n' (boolWord b).toList = true := by decide
  cases k with
  | encoding => exact encoding _
  | bufferCapacity =>
    rw [word, Nat.toList_repr]
    exact Yaml.isPlain_of_forall Nat.toDigits_ne_nil fun x mem =>
      isContent_of_isDigit (Nat.isDigit_of_mem_toDigits (by decide) (by decide) mem)
  | strictAttributeCount => exact bool _
  | requireLayoutBody => exact bool _

theorem denotes_word (k : Key) {c : Config} (fits : c.bufferCapacity < 2 ^ 64) :
    k.Denotes (k.word c) (k.get c) := by
  cases k with
  | encoding => rfl
  | bufferCapacity => exact denotesNat_repr fits
  | strictAttributeCount => exact denotesBool_boolWord _
  | requireLayoutBody => exact denotesBool_boolWord _

def line (k : Key) (c : Config) : Line where
  key := k.name
  value := k.word c
  plainKey := by cases k <;> decide
  unmarked := by cases k <;> decide
  shortKey := by cases k <;> decide
  plainValue := k.isPlain_word c

end Key

/-- The lines of a configuration's document. -/
def lines (c : Config) : List Line :=
  Key.all.map fun k => k.line c

theorem toList_yamlLine (line : Line) :
    (yamlLine line.key line.value).toList = line.chars ++ ['\n'] := by
  have colon : ": ".toList = [':', ' '] := by decide
  have lineFeed : "\n".toList = ['\n'] := by decide
  rw [yamlLine, String.toList_append, String.toList_append, String.toList_append, colon, lineFeed,
    Line.chars]
  simp only [List.append_assoc, List.cons_append, List.nil_append]

theorem toList_toYaml (c : Config) :
    (toYaml c).toList = c.lines.flatMap fun line => line.chars ++ ['\n'] := by
  have document : toYaml c = yamlLine (Key.encoding.line c).key (Key.encoding.line c).value ++
      yamlLine (Key.bufferCapacity.line c).key (Key.bufferCapacity.line c).value ++
      yamlLine (Key.strictAttributeCount.line c).key (Key.strictAttributeCount.line c).value ++
      yamlLine (Key.requireLayoutBody.line c).key (Key.requireLayoutBody.line c).value := rfl
  rw [document]
  simp only [String.toList_append, toList_yamlLine, lines, Key.all, List.map_cons, List.map_nil,
    List.flatMap_cons, List.flatMap_nil, List.append_assoc, List.append_nil]

/-- What is written is a flat document. -/
theorem madeOf_toYaml (c : Config) : MadeOf (unifyBreaks (toYaml c).toList) c.lines := by
  have made := MadeOf.of_lines c.lines
  rw [← toList_toYaml] at made
  rwa [made.unifyBreaks_eq]

theorem eq_line_of_mem {c : Config} {line : Line} {k : Key} (mem : line ∈ c.lines)
    (key : line.key = k.name) : line = k.line c := by
  obtain ⟨k', -, rfl⟩ := List.mem_map.mp mem
  rw [Key.name_injective key]

theorem line_mem_lines (k : Key) (c : Config) : k.line c ∈ c.lines :=
  List.mem_map_of_mem (by cases k <;> decide)

theorem overwritten_lines {c : Config} (fits : c.bufferCapacity < 2 ^ 64) :
    Overwritten c.lines c where
  present k line mem key := by
    rw [eq_line_of_mem mem key]
    exact k.denotes_word fits
  absent k absent := absurd rfl (absent (k.line c) (line_mem_lines k c))

theorem settled_lines {c : Config} (fits : c.bufferCapacity < 2 ^ 64) : Settled c.lines where
  once k := by
    have keys : c.lines.map Line.key = Key.all.map Key.name := by
      rw [lines, List.map_map]
      rfl
    rw [keys]
    cases k <;> decide
  typed k line mem key := ⟨k.get c, (overwritten_lines fits).present k line mem key⟩

theorem validate_eq_ok_iff (c : Config) :
    c.validate = .ok () ↔ 1 ≤ c.bufferCapacity ∧ c.bufferCapacity ≤ maxBufferCapacity := by
  unfold validate
  split_ifs <;> simp <;> omega

/-- What is read has been validated. -/
theorem validate_of_ofYaml {text : String} {c : Config} (read : ofYaml text = .ok c) :
    c.validate = .ok () := by
  unfold ofYaml at read
  split at read
  · cases read
  · split at read
    · rename_i valid
      cases read
      exact valid
    · cases read

/-- What is written is validated again when it is read. -/
theorem read_toYaml {c : Config} (fits : c.bufferCapacity < 2 ^ 64) :
    ofYaml (toYaml c) = do c.validate; return c :=
  ofYaml_overwritten (madeOf_toYaml c) (settled_lines fits) (overwritten_lines fits)

/-- A configuration whose capacity is a word of 64 bits is written as a flat document that holds its
values, and from there it is validated again: it is read back just if it is valid, that is if its
capacity lies between 1 and 16 MiB, and otherwise it is refused with the fault of its validation.
What is read from any text at all is valid, and therefore read back from what is written for it. -/
theorem ofYaml_toYaml :
    (∀ c : Config, c.bufferCapacity < 2 ^ 64 →
      (∃ lines,
        MadeOf (unifyBreaks (toYaml c).toList) lines ∧ Settled lines ∧ Overwritten lines c) ∧
      (ofYaml (toYaml c) = .ok c ↔ c.validate = .ok ()) ∧
      (c.validate = .ok () ↔ 1 ≤ c.bufferCapacity ∧ c.bufferCapacity ≤ 16 * 1024 * 1024) ∧
      ∀ fault, c.validate = .error fault → ofYaml (toYaml c) = .error fault) ∧
    ∀ (text : String) (c : Config), ofYaml text = .ok c →
      c.validate = .ok () ∧ ofYaml (toYaml c) = .ok c := by
  refine ⟨fun c fits => ⟨?_, ⟨validate_of_ofYaml, fun valid => ?_⟩, c.validate_eq_ok_iff, ?_⟩,
    fun text c read => ?_⟩
  · exact ⟨c.lines, madeOf_toYaml c, settled_lines fits, overwritten_lines fits⟩
  · rw [read_toYaml fits, valid]
    rfl
  · intro fault invalid
    rw [read_toYaml fits, invalid]
    rfl
  · have valid := validate_of_ofYaml read
    have bounds := c.validate_eq_ok_iff.mp valid
    have fits : c.bufferCapacity < 2 ^ 64 := Nat.lt_of_le_of_lt bounds.2 (by decide)
    rw [read_toYaml fits, valid]
    exact ⟨rfl, rfl⟩

/-- A valid capacity, and the two faults. -/
theorem ofYaml_toYaml_64 :
    ofYaml (toYaml { encoding := .raw, bufferCapacity := 64 }) =
        .ok { encoding := .raw, bufferCapacity := 64 } ∧
      validate { encoding := .raw, bufferCapacity := 64 } = .ok () ∧
      ofYaml (toYaml { bufferCapacity := 0 }) = .error .emptyCapacity ∧
      ofYaml (toYaml { bufferCapacity := 2 ^ 64 - 1 }) =
        .error (.oversizedCapacity (16 * 1024 * 1024) (2 ^ 64 - 1)) := by
  obtain ⟨written, read⟩ := ofYaml_toYaml
  have valid := (written { encoding := .raw, bufferCapacity := 64 } (by decide)).2.1.mpr rfl
  exact ⟨valid, (read _ _ valid).1, (written { bufferCapacity := 0 } (by decide)).2.2.2 _ rfl,
    (written { bufferCapacity := 2 ^ 64 - 1 } (by decide)).2.2.2 _ rfl⟩

end Templating.Config
