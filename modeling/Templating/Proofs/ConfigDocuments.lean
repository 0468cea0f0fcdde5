import Mathlib.Tactic.Choose
import Templating.Proofs.FlatDocuments
import Templating.Proofs.ScalarWords

/-!
# Configurations from flat documents

What a configuration document means, line by line: the default configuration, overwritten by the
lines of the known keys. The reader makes one pass and keeps what was set; each key sees the words
of its own lines only (`Settings.foldlM_set_eq_some_iff`), so neither the order of the lines nor
those of other keys matter, and a second line of a key is refused wherever it stands
(`ofYaml_flat`).
-/

namespace Templating.Config

open Yaml (Line MadeOf unifyBreaks)

/-- The known keys. -/
inductive Key where
  | encoding | bufferCapacity | strictAttributeCount | requireLayoutBody
  deriving DecidableEq, Repr

namespace Key

def name : Key → String
  | encoding => "encoding"
  | bufferCapacity => "buffer_capacity"
  | strictAttributeCount => "strict_attribute_count"
  | requireLayoutBody => "require_layout_body"

/-- The type of the values of a key. -/
def Value : Key → Type
  | encoding => Encoding
  | bufferCapacity => Nat
  | strictAttributeCount | requireLayoutBody => Bool

/-- The word is the value, as a plain scalar of the key's type. -/
def Denotes : (k : Key) → String → k.Value → Prop
  | encoding => fun word (e : Encoding) => word = e.name
  | bufferCapacity => DenotesNat
  | strictAttributeCount | requireLayoutBody => DenotesBool

def get : (k : Key) → Config → k.Value
  | encoding => Config.encoding
  | bufferCapacity => Config.bufferCapacity
  | strictAttributeCount => Config.strictAttributeCount
  | requireLayoutBody => Config.requireLayoutBody

def read? : (k : Key) → String → Option k.Value
  | encoding => Encoding.ofName?
  | bufferCapacity => readNat?
  | strictAttributeCount | requireLayoutBody => readBool?

def setting? : (k : Key) → Settings → Option k.Value
  | encoding => Settings.encoding?
  | bufferCapacity => Settings.bufferCapacity?
  | strictAttributeCount => Settings.strictAttributeCount?
  | requireLayoutBody => Settings.requireLayoutBody?

def put : (k : Key) → Settings → Option k.Value → Settings
  | encoding => fun s encoding? => { s with encoding? }
  | bufferCapacity => fun s bufferCapacity? => { s with bufferCapacity? }
  | strictAttributeCount => fun s strictAttributeCount? => { s with strictAttributeCount? }
  | requireLayoutBody => fun s requireLayoutBody? => { s with requireLayoutBody? }

theorem name_injective {k k' : Key} (same : k.name = k'.name) : k = k' := by
  revert same
  cases k <;> cases k' <;> decide

theorem read?_eq_some_iff (k : Key) (word : String) (v : k.Value) :
    k.read? word = some v ↔ k.Denotes word v := by
  cases k with
  | encoding => exact ofName?_eq_some_iff word v
  | bufferCapacity => exact readNat?_eq_some_iff word v
  | strictAttributeCount => exact readBool?_eq_some_iff word v
  | requireLayoutBody => exact readBool?_eq_some_iff word v

theorem get_injective {c d : Config} (same : ∀ k : Key, k.get c = k.get d) : c = d := by
  cases c
  cases d
  rw [Config.mk.injEq]
  exact ⟨same .encoding, same .bufferCapacity, same .strictAttributeCount, same .requireLayoutBody⟩

theorem get_config (k : Key) (s : Settings) :
    k.get s.config = (k.setting? s).getD (k.get {}) := by
  cases k <;> rfl

theorem setting?_injective {s t : Settings} (same : ∀ k : Key, k.setting? s = k.setting? t) :
    s = t := by
  cases s
  cases t
  rw [Settings.mk.injEq]
  exact ⟨same .encoding, same .bufferCapacity, same .strictAttributeCount, same .requireLayoutBody⟩

theorem exists_setting? (f : ∀ k : Key, Option k.Value) :
    ∃ s : Settings, ∀ k : Key, k.setting? s = f k :=
  ⟨⟨f encoding, f bufferCapacity, f strictAttributeCount, f requireLayoutBody⟩,
    fun k => by cases k <;> rfl⟩

@[simp]
theorem setting?_put (k : Key) (s : Settings) (v? : Option k.Value) :
    k.setting? (k.put s v?) = v? := by
  cases k <;> rfl

theorem setting?_put_of_ne {k k' : Key} (other : k' ≠ k) (s : Settings) (v? : Option k.Value) :
    k'.setting? (k.put s v?) = k'.setting? s := by
  cases k <;> cases k' <;> first | rfl | exact absurd rfl other

/-- What the words of a key make of its setting. -/
def collect (k : Key) (before : Option k.Value) (words : List String) :
    Option (Option k.Value) :=
  words.foldlM (fun before word => Settings.once before (k.read? word)) before

/-- The words that stand behind a key. -/
def words (k : Key) (lines : List Line) : List String :=
  (lines.filter fun line => line.key == k.name).map Line.value

theorem collect_cons (k : Key) (before : Option k.Value) (word : String) (words : List String) :
    k.collect before (word :: words) =
      (Settings.once before (k.read? word)).bind fun before => k.collect before words :=
  List.foldlM_cons

theorem words_cons_of_eq {k : Key} {line : Line} (key : line.key = k.name) (lines : List Line) :
    k.words (line :: lines) = line.value :: k.words lines := by
  simp [words, key]

theorem words_cons_of_ne {k : Key} {line : Line} (key : line.key ≠ k.name) (lines : List Line) :
    k.words (line :: lines) = k.words lines := by
  simp [words, key]

end Key

namespace Settings

open Key

theorem set_known (k : Key) (word : String) (s : Settings) :
    s.set k.name (.scalar .plain none word) =
      (once (k.setting? s) (k.read? word)).map (k.put s) := by
  cases k <;> rfl

theorem set_unknown {key : String} (unknown : ∀ k : Key, key ≠ k.name) (value : Yaml.Node)
    (s : Settings) : s.set key value = some s := by
  unfold set
  split
  · exact absurd rfl (unknown .encoding)
  · exact absurd rfl (unknown .bufferCapacity)
  · exact absurd rfl (unknown .strictAttributeCount)
  · exact absurd rfl (unknown .requireLayoutBody)
  · rfl

/-- The pass over the lines, as each key sees it. -/
theorem foldlM_set_eq_some_iff (lines : List Line) (before s : Settings) :
    lines.foldlM (fun s line => s.set line.key (.scalar .plain none line.value)) before = some s ↔
      ∀ k : Key, k.collect (k.setting? before) (k.words lines) = some (k.setting? s) := by
  induction lines generalizing before with
  | nil =>
    simp only [List.foldlM_nil, Option.pure_def, Key.words, Key.collect, List.filter_nil,
      List.map_nil, Option.some.injEq]
    exact ⟨fun same k => by rw [same], setting?_injective⟩
  | cons line lines ih =>
    rw [List.foldlM_cons]
    by_cases known : ∃ k : Key, line.key = k.name
    · obtain ⟨k, key⟩ := known
      have elsewhere : ∀ k' ≠ k, line.key ≠ k'.name := fun k' other same =>
        other (name_injective (same.symm.trans key))
      rw [key, set_known]
      cases taken : once (k.setting? before) (k.read? line.value) with
      | none =>
        have refused : k.collect (k.setting? before) (k.words (line :: lines)) = none := by
          rw [words_cons_of_eq key, collect_cons, taken, Option.bind_none]
        exact ⟨nofun, fun each => nomatch refused.symm.trans (each k)⟩
      | some v? =>
        simp only [Option.map_some, Option.bind_eq_bind, Option.bind_some, ih]
        -- the line counts for its own key and for no other
        refine forall_congr' fun k' => ?_
        by_cases same : k' = k
        · subst same
          rw [setting?_put, words_cons_of_eq key, collect_cons, taken, Option.bind_some]
        · rw [setting?_put_of_ne same, words_cons_of_ne (elsewhere k' same)]
    · simp only [not_exists] at known
      simp only [set_unknown known, Option.bind_eq_bind, Option.bind_some, ih,
        words_cons_of_ne (known _)]

theorem ofFields_eq_some_iff (lines : List Line) (s : Settings) :
    ofFields (lines.map Line.field) = some s ↔
      ∀ k : Key, k.collect none (k.words lines) = some (k.setting? s) := by
  have start : ∀ k : Key, k.setting? {} = none := fun k => by cases k <;> rfl
  have pass := foldlM_set_eq_some_iff lines {} s
  simp only [start] at pass
  rw [← pass, ofFields, List.foldlM_map]
  rfl

end Settings

namespace Key

/-- A key takes at most one word. -/
theorem collect_eq_some_iff (k : Key) (words : List String) (v? : Option k.Value) :
    k.collect none words = some v? ↔
      words = [] ∧ v? = none ∨ ∃ word v, words = [word] ∧ k.Denotes word v ∧ v? = some v := by
  simp only [← read?_eq_some_iff]
  match words with
  | [] => simp [collect, eq_comm]
  | [word] =>
    rw [collect_cons]
    cases read : k.read? word with
    | none => simp [Settings.once, read]
    | some v => simp [collect, Settings.once, read, eq_comm]
  | word :: word' :: words =>
    rw [collect_cons]
    cases read : k.read? word with
    | none => simp [Settings.once]
    | some v => simp [collect_cons, Settings.once]

theorem collect_of_perm {k : Key} {words words' : List String} (perm : words.Perm words')
    {v? : Option k.Value} (collected : k.collect none words = some v?) :
    k.collect none words' = some v? := by
  rw [collect_eq_some_iff] at collected ⊢
  rcases collected with ⟨rfl, rfl⟩ | ⟨word, v, rfl, denotes, rfl⟩
  · exact .inl ⟨perm.nil_eq.symm, rfl⟩
  · exact .inr ⟨word, v, perm.singleton_eq.symm, denotes, rfl⟩

/-- The keys, in the order of the fields. -/
def all : List Key :=
  [encoding, bufferCapacity, strictAttributeCount, requireLayoutBody]

def ofName? (name : String) : Option Key :=
  all.find? fun k => k.name == name

theorem isSome_ofName?_name (k : Key) : (ofName? k.name).isSome = true := by
  cases k <;> rfl

end Key

/-- The lines of known keys. -/
def known (lines : List Line) : List Line :=
  lines.filter fun line => (Key.ofName? line.key).isSome

/-- Only the lines of known keys hold words of a known key. -/
theorem Key.words_known (k : Key) (lines : List Line) : k.words (known lines) = k.words lines := by
  simp only [words, known, List.filter_filter]
  congr 2
  funext line
  by_cases key : line.key = k.name
  · simp [key, k.isSome_ofName?_name]
  · simp [key]

theorem Key.words_perm {k : Key} {lines lines' : List Line}
    (perm : (known lines).Perm (known lines')) : (k.words lines).Perm (k.words lines') := by
  rw [← words_known, ← k.words_known lines']
  exact (perm.filter _).map _

theorem Key.length_words (k : Key) (lines : List Line) :
    (k.words lines).length = (lines.map Line.key).count k.name := by
  rw [words, List.length_map, List.count_eq_countP, List.countP_map, List.countP_eq_length_filter]
  rfl

theorem Key.forall_mem_words {k : Key} {lines : List Line} {P : String → Prop} :
    (∀ word ∈ k.words lines, P word) ↔ ∀ line ∈ lines, line.key = k.name → P line.value := by
  simp only [words, List.forall_mem_map, List.mem_filter, beq_iff_eq, and_imp]

theorem Key.words_eq_nil_iff {k : Key} {lines : List Line} :
    k.words lines = [] ↔ ∀ line ∈ lines, line.key ≠ k.name := by
  simp [words]

/-- Each known key stands on one line at most, with a value of its type. -/
structure Settled (lines : List Line) : Prop where
  once (k : Key) : (lines.map Line.key).count k.name ≤ 1
  typed (k : Key) : ∀ line ∈ lines, line.key = k.name → ∃ v, k.Denotes line.value v

/-- The default configuration, overwritten by the known keys among the lines. -/
structure Overwritten (lines : List Line) (c : Config) : Prop where
  present (k : Key) : ∀ line ∈ lines, line.key = k.name → k.Denotes line.value (k.get c)
  absent (k : Key) : (∀ line ∈ lines, line.key ≠ k.name) → k.get c = k.get {}

/-- A settled key has its setting. -/
theorem Settled.exists_collected {lines : List Line} (settled : Settled lines) (k : Key) :
    ∃ v?, k.collect none (k.words lines) = some v? := by
  have one := settled.once k
  have typed : ∀ word ∈ k.words lines, ∃ v, k.Denotes word v :=
    Key.forall_mem_words.mpr (settled.typed k)
  rw [← k.length_words] at one
  match words : k.words lines with
  | [] => exact ⟨none, rfl⟩
  | [word] =>
    obtain ⟨v, denotes⟩ := typed word (words ▸ List.mem_singleton_self word)
    exact ⟨some v, (k.collect_eq_some_iff _ _).mpr (.inr ⟨word, v, rfl, denotes, rfl⟩)⟩
  | _ :: _ :: _ => simp [words] at one

theorem Settled.exists_settings {lines : List Line} (settled : Settled lines) :
    ∃ s, Settings.ofFields (lines.map Line.field) = some s := by
  choose f collected using settled.exists_collected
  obtain ⟨s, setting⟩ := Key.exists_setting? f
  exact ⟨s, (Settings.ofFields_eq_some_iff lines s).mpr fun k => by rw [setting]; exact collected k⟩

/-- The one value that a key has: that of its word, or the default. -/
theorem Key.value_iff {k : Key} {lines : List Line} {v? : Option k.Value}
    (collected : k.collect none (k.words lines) = some v?) (v : k.Value) :
    ((∀ line ∈ lines, line.key = k.name → k.Denotes line.value v) ∧
      ((∀ line ∈ lines, line.key ≠ k.name) → v = k.get {})) ↔ v = v?.getD (k.get {}) := by
  rw [← Key.words_eq_nil_iff, ← Key.forall_mem_words (P := fun word => k.Denotes word v)]
  rcases (k.collect_eq_some_iff _ _).mp collected with
    ⟨words, rfl⟩ | ⟨word, value, words, denotes, rfl⟩
  · simp [words]
  · rw [← k.read?_eq_some_iff] at denotes
    simp [words, ← k.read?_eq_some_iff, denotes, eq_comm]

/-- The settings that are read make one configuration: the overwritten default. -/
theorem overwritten_iff {lines : List Line} {s : Settings}
    (read : Settings.ofFields (lines.map Line.field) = some s) (c : Config) :
    Overwritten lines c ↔ c = s.config := by
  have value (k : Key) := Key.value_iff ((Settings.ofFields_eq_some_iff lines s).mp read k)
  constructor
  · intro overwritten
    refine Key.get_injective fun k => ?_
    rw [k.get_config]
    exact (value k _).mp ⟨overwritten.present k, overwritten.absent k⟩
  · rintro rfl
    exact ⟨fun k => ((value k _).mpr (k.get_config s)).1,
      fun k => ((value k _).mpr (k.get_config s)).2⟩

/-- Nothing is read unless each key is settled. -/
theorem settled_of_settings {lines : List Line} {s : Settings}
    (read : Settings.ofFields (lines.map Line.field) = some s) : Settled lines := by
  have collected (k : Key) := (k.collect_eq_some_iff _ _).mp
    ((Settings.ofFields_eq_some_iff lines s).mp read k)
  constructor
  · intro k
    rw [← k.length_words]
    rcases collected k with ⟨words, -⟩ | ⟨word, v, words, -⟩ <;> simp [words]
  · intro k
    rw [← Key.forall_mem_words (P := fun word => ∃ v, k.Denotes word v)]
    rcases collected k with ⟨words, -⟩ | ⟨word, v, words, denotes, -⟩
    · simp [words]
    · simpa [words] using ⟨v, denotes⟩

theorem ofFields_of_not_settled {lines : List Line} (unsettled : ¬ Settled lines) :
    Settings.ofFields (lines.map Line.field) = none :=
  Option.eq_none_iff_forall_ne_some.mpr fun _ read => unsettled (settled_of_settings read)

/-- Neither the order of the lines nor those of other keys matter. -/
theorem ofFields_perm {lines lines' : List Line} (perm : (known lines).Perm (known lines')) :
    Settings.ofFields (lines.map Line.field) = Settings.ofFields (lines'.map Line.field) := by
  ext s
  rw [Settings.ofFields_eq_some_iff, Settings.ofFields_eq_some_iff]
  exact forall_congr' fun k =>
    ⟨Key.collect_of_perm (Key.words_perm perm), Key.collect_of_perm (Key.words_perm perm.symm)⟩

theorem fields?_flat {text : String} {lines : List Line}
    (made : MadeOf (unifyBreaks text.toList) lines) :
    fields? text = some (lines.map Line.field) := by
  rw [fields?, Yaml.Document.ofText?_flat made]
  cases lines with
  | nil => rfl
  | cons line lines => simp [Yaml.Document.follow, Line.field]

/-- What was read is validated. -/
theorem ofYaml_of_settings {text : String} {s : Settings}
    (read : (fields? text).bind Settings.ofFields = some s) :
    ofYaml text = do s.config.validate; return s.config := by
  rw [ofYaml, read]
  cases validated : s.config.validate <;> simp only [validated] <;> rfl

theorem ofYaml_overwritten {text : String} {lines : List Line}
    (made : MadeOf (unifyBreaks text.toList) lines) (settled : Settled lines) {c : Config}
    (overwritten : Overwritten lines c) : ofYaml text = do c.validate; return c := by
  obtain ⟨s, read⟩ := settled.exists_settings
  rw [(overwritten_iff read c).mp overwritten]
  exact ofYaml_of_settings (by rw [fields?_flat made, Option.bind_some, read])

theorem ofYaml_of_not_settled {text : String} {lines : List Line}
    (made : MadeOf (unifyBreaks text.toList) lines) (unsettled : ¬ Settled lines) :
    ofYaml text = .error .malformed := by
  rw [ofYaml, fields?_flat made, Option.bind_some, ofFields_of_not_settled unsettled]

/-- A configuration document of plain lines. If each known key stands there at most once with a
value of its type, it is the default configuration overwritten by these lines, and then validated;
otherwise, so with a known key on two lines wherever they stand, it is an error. Two documents whose
lines of known keys are the same, in any order, among any others, have the same outcome. -/
theorem ofYaml_flat {text : String} {lines : List Line}
    (made : MadeOf (unifyBreaks text.toList) lines) :
    (Settled lines → ∃ c, (∀ d, Overwritten lines d ↔ d = c) ∧
      ofYaml text = do c.validate; return c) ∧
    (¬ Settled lines → ofYaml text = .error .malformed) ∧
    ((∃ k : Key, 2 ≤ (lines.map Line.key).count k.name) → ofYaml text = .error .malformed) ∧
    ∀ (text' : String) (lines' : List Line), MadeOf (unifyBreaks text'.toList) lines' →
      (known lines).Perm (known lines') → ofYaml text' = ofYaml text := by
  refine ⟨fun settled => ?_, ofYaml_of_not_settled made, fun ⟨k, repeated⟩ => ?_,
    fun text' lines' made' perm => ?_⟩
  · obtain ⟨s, read⟩ := settled.exists_settings
    refine ⟨s.config, overwritten_iff read, ofYaml_overwritten made settled ?_⟩
    exact (overwritten_iff read _).mpr rfl
  · exact ofYaml_of_not_settled made fun settled => Nat.not_lt.mpr (settled.once k) repeated
  · rw [ofYaml, ofYaml, fields?_flat made, fields?_flat made', Option.bind_some, Option.bind_some,
      ofFields_perm perm]

/-- Known keys in another order than that of the fields, among lines of an unknown one. -/
def mixedLines : List Line :=
  [{ key := "a", value := "1" }, { key := "buffer_capacity", value := "+0x4B" },
    { key := "a", value := "2" }, { key := "encoding", value := "raw" }]

theorem overwritten_mixedLines :
    Overwritten mixedLines { encoding := .raw, bufferCapacity := 75 } where
  present k line mem key := by
    rw [← k.read?_eq_some_iff]
    simp only [mixedLines, List.mem_cons, List.not_mem_nil, or_false] at mem
    rcases mem with rfl | rfl | rfl | rfl <;> cases k <;>
      first | rfl | exact absurd key (by decide)
  absent k absent := by
    cases k with
    | encoding => exact absurd rfl (absent mixedLines[3] (List.getElem_mem _))
    | bufferCapacity => exact absurd rfl (absent mixedLines[1] (List.getElem_mem _))
    | strictAttributeCount => rfl
    | requireLayoutBody => rfl

theorem settled_mixedLines : Settled mixedLines where
  once k := by cases k <;> decide
  typed k line mem key := ⟨_, overwritten_mixedLines.present k line mem key⟩

def repeatedLines : List Line :=
  [{ key := "encoding", value := "raw" }, { key := "a", value := "1" },
    { key := "encoding", value := "raw" }]

theorem ofYaml_flat_mixedLines :
    ofYaml "a: 1\nbuffer_capacity: +0x4B\na: 2\nencoding: raw\n" =
        .ok { encoding := .raw, bufferCapacity := 75 } ∧
      ofYaml "encoding: raw\na: 1\nencoding: raw\n" = .error .malformed := by
  have mixed := MadeOf.of_lines mixedLines
  have mixedText : mixedLines.flatMap (fun line => line.chars ++ ['\n']) =
      unifyBreaks "a: 1\nbuffer_capacity: +0x4B\na: 2\nencoding: raw\n".toList := by decide
  have repeated := MadeOf.of_lines repeatedLines
  have repeatedText : repeatedLines.flatMap (fun line => line.chars ++ ['\n']) =
      unifyBreaks "encoding: raw\na: 1\nencoding: raw\n".toList := by decide
  rw [mixedText] at mixed
  rw [repeatedText] at repeated
  constructor
  · obtain ⟨c, overwritten, outcome⟩ := (ofYaml_flat mixed).1 settled_mixedLines
    rw [outcome, ← (overwritten _).mp overwritten_mixedLines]
    rfl
  · exact (ofYaml_flat repeated).2.2.1 ⟨.encoding, by decide⟩

end Templating.Config
