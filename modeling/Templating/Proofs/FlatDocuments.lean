import Templating.Proofs.PlainScalars
import Templating.Yaml.Node

/-!
# Flat documents

A document is flat if each of its lines is a key, a colon, a space and a plain scalar. `MadeOf text
lines` says so of characters with unified line breaks. The tokens of a flat document are those of
its lines, inside one block (`Token.ofText?_flat`), and it is read as the mapping of the keys to
their scalars, in the order of the lines (`Document.ofText?_flat`).
-/

namespace Templating.Yaml

/-- A line of a flat document: two plain scalars of one line. The key is not the mark that begins or
ends a document, and it is no longer than 1024 bytes, the longest that a key of one line may be. -/
structure Line where
  key : String
  value : String
  plainKey : isPlain ':' key.toList = true := by decide
  unmarked : opensMarker key.toList = false := by decide
  shortKey : key.utf8ByteSize ≤ 1024 := by decide
  plainValue : isPlain '\n' value.toList = true := by decide

namespace Line

/-- The line without its break. -/
def chars (line : Line) : List Char :=
  line.key.toList ++ ':' :: ' ' :: line.value.toList

def tokens (line : Line) : List Token :=
  [.key, .scalar .plain line.key, .value, .scalar .plain line.value]

def field (line : Line) : Node × Node :=
  (.scalar .plain none line.key, .scalar .plain none line.value)

end Line

/-- The characters are those of the lines. The last line need not be ended. -/
inductive MadeOf : List Char → List Line → Prop
  | nothing : MadeOf [] []
  | last (line : Line) : MadeOf line.chars [line]
  | line (line : Line) {text : List Char} {lines : List Line} (rest : MadeOf text lines) :
      MadeOf (line.chars ++ '\n' :: text) (line :: lines)

theorem MadeOf.of_lines (lines : List Line) :
    MadeOf (lines.flatMap fun line => line.chars ++ ['\n']) lines := by
  induction lines with
  | nil => exact .nothing
  | cons line lines ih => simpa using ih.line line

/-- The tokens of the lines, inside one block. -/
def documentTokens (lines : List Line) : List Token :=
  if lines.isEmpty then []
  else .blockMappingStart :: lines.flatMap Line.tokens ++ [.blockEnd]

theorem isPlain_ne_hash {behind x : Char} {s : List Char} (plain : isPlain behind (x :: s) = true) :
    x ≠ '#' := by
  rintro rfl
  obtain ⟨-, -, opens⟩ := isPlain_cons plain
  obtain ⟨-, sign⟩ := opens (by decide)
  revert sign
  decide

theorem isPlain_eq_cons {behind : Char} {s : List Char} (plain : isPlain behind s = true) :
    ∃ x r, s = x :: r := by
  cases s with
  | nil => cases plain
  | cons x r => exact ⟨x, r, rfl⟩

theorem Line.chars_eq_cons (line : Line) :
    ∃ x r, line.chars = x :: r ∧ isContent x = true := by
  obtain ⟨x, s, key⟩ := isPlain_eq_cons line.plainKey
  have plain : isPlain ':' (x :: s) = true := key ▸ line.plainKey
  exact ⟨x, s ++ ':' :: ' ' :: line.value.toList, by rw [chars, key]; rfl, (isPlain_cons plain).1⟩

theorem MadeOf.head_content {text : List Char} {lines : List Line} (made : MadeOf text lines) :
    ∀ y ∈ text.head?, isContent y = true := by
  cases made with
  | nothing => exact nofun
  | last line =>
    obtain ⟨x, r, chars, content⟩ := line.chars_eq_cons
    simp [chars, content]
  | line line rest =>
    obtain ⟨x, r, chars, content⟩ := line.chars_eq_cons
    simp [chars, content]

namespace Lexer

theorem skipGaps_content {l : Lexer} {x : Char} (seen : l.cursor.peek? = some x)
    (content : isContent x = true) (hash : x ≠ '#') (fuel : Nat) : skipGaps (fuel + 1) l = l := by
  obtain ⟨-, noBlank, noBreak, -, -, noMark⟩ := (isContent_iff x).mp content
  simp only [isBlank, Bool.or_eq_false_iff] at noBlank
  simp [skipGaps, seen, noBlank, noBreak, noMark, hash]

theorem skipGaps_space {l : Lexer} {x : Char} (space : l.cursor.peek? = some ' ')
    (seen : (l.skip 1).cursor.peek? = some x) (content : isContent x = true) (hash : x ≠ '#')
    (fuel : Nat) : skipGaps (fuel + 2) l = l.skip 1 := by
  rw [skipGaps]
  simp only [space, beq_self_eq_true, Bool.true_or, if_true]
  exact skipGaps_content seen content hash fuel

theorem dropStaleMarks_none {l : Lexer} (marks : l.marks = [none]) : l.dropStaleMarks = some l := by
  cases l
  cases marks
  rfl

theorem dropStaleMarks_some {l : Lexer} {k : KeyMark} (marks : l.marks = [some k])
    (line : l.cursor.line = k.line) (near : l.cursor.index ≤ k.index + 1024) :
    l.dropStaleMarks = some l := by
  cases l
  cases marks
  dsimp only at line near
  simp [dropStaleMarks, dropStale, line, Nat.not_lt.mpr near]

theorem outdentTo_of_le {l : Lexer} {column : Int} (le : l.indent ≤ column) :
    l.outdentTo column = l := by
  rw [outdentTo]
  split
  · rfl
  · cases outer : l.outerIndents with
    | nil => rfl
    | cons indent rest => simp [outdentTo.close, Int.not_lt.mpr le]

/-- One round of the lexer, where no block ends. -/
theorem lexAll_step {l m l' : Lexer} {x : Char}
    (gaps : l.skipGaps (l.cursor.rest.length + 1) = m) (fresh : m.dropStaleMarks = some m)
    (seen : m.cursor.peek? = some x) (deep : m.indent ≤ m.cursor.column)
    (one : m.lexOne x = some l') (fuel : Nat) : lexAll (fuel + 1) l = lexAll fuel l' := by
  rw [lexAll, gaps, fresh]
  simp only [seen, outdentTo_of_le deep, one]

/-- Outside flow collections, what begins like a plain scalar is lexed as one. -/
theorem lexOne_plain {l : Lexer} {x : Char} {s r : List Char} {behind : Char}
    (block : l.inFlow = false) (plain : isPlain behind (x :: s) = true)
    (rest : l.cursor.rest = x :: s ++ r) (followed : isContent behind = true → r.head? = some behind)
    (unmarked : l.cursor.atDocumentMarker = false) : l.lexOne x = l.lexPlain := by
  obtain ⟨content, -, opens⟩ := isPlain_cons plain
  obtain ⟨-, noBlank, noBreak, -⟩ := (isContent_iff x).mp content
  simp only [Cursor.atDocumentMarker, Bool.or_eq_false_iff] at unmarked
  by_cases indicator : indicators.contains x = true
  · obtain ⟨next, sign⟩ := opens indicator
    have head : (s ++ r).head? = some (s.headD behind) := by
      cases s with
      | nil => exact followed next
      | cons y s => rfl
    obtain ⟨-, noBlank', noBreak', -⟩ := (isContent_iff _).mp next
    have gap : l.cursor.gapAt 1 = false := by
      rw [Cursor.gapAt_one (r := s ++ r) rest head, noBlank', noBreak']
      rfl
    have one : l.cursor.rest[1]? = some (s.headD behind) := by
      rw [rest, List.cons_append, List.getElem?_cons_succ, ← List.head?_eq_getElem?, head]
    have starts : l.startsPlain x = true := by
      rcases sign with rfl | rfl | rfl <;> simp only [startsPlain, one, noBlank', gap, block] <;> rfl
    rcases sign with rfl | rfl | rfl <;> simp [lexOne, unmarked, gap, block, starts]
  · rw [Bool.not_eq_true] at indicator
    have starts : l.startsPlain x = true := by
      have listed : "-?:,[]\x7b\x7d#&*!|>'\"%@`".toList = indicators := by decide
      simp only [startsPlain, noBlank, noBreak, listed, indicator]
      rfl
    have other : x ∉ indicators := by
      intro mem
      rw [List.contains_iff_mem.mpr mem] at indicator
      cases indicator
    simp only [indicators, List.mem_cons, not_or] at other
    simp [lexOne, unmarked, starts, other]

/-- The token in front of the first line of a block. -/
def opening (opened : Bool) : List Token :=
  if opened then [] else [.blockMappingStart]

/-- The lexer between two tokens of a flat document, after `tokens`. The block is opened by the
first colon. -/
def between (opened : Bool) (tokens : List Token) (keyAllowed : Bool) (c : Cursor) : Lexer where
  cursor := c
  tokens := tokens.toArray
  indent := if opened then 0 else -1
  outerIndents := if opened then [-1] else []
  keyAllowed := keyAllowed

/-- The lexer behind a key that stands where `start` is. -/
def behindKey (opened : Bool) (tokens : List Token) (key : String) (start : Cursor) : Lexer :=
  { between opened (tokens ++ [.scalar .plain key]) false (start.skip key.toList.length) with
    marks := [some ⟨opened, tokens.length, start.line, start.column, start.index⟩] }

theorem lexOne_colon {l : Lexer} (inside : 0 < l.cursor.column) (gap : l.cursor.gapAt 1 = true) :
    l.lexOne ':' = l.lexValue := by
  have column : (l.cursor.column == 0) = false := by simp; omega
  simp [lexOne, Cursor.atMarker, column, gap]

theorem insertIdx_append {α : Type} (before after : List α) (a : α) :
    (before ++ after).insertIdx before.length a = before ++ a :: after := by
  induction before with
  | nil => rfl
  | cons b before ih => simp [ih]

theorem lexPlain_eq {l m : Lexer} {text : String} {passed : Bool} {c : Cursor}
    (marked : l.mark = some m)
    (read : readPlain m.inFlow (m.indent + 1) [] .none (m.cursor.rest.length + 1) m.cursor =
      some (text, passed, c)) :
    l.lexPlain =
      some { m with
        cursor := c, tokens := m.tokens.push (.scalar .plain text), keyAllowed := passed } := by
  simp only [lexPlain, marked, Option.bind_eq_bind, Option.bind_some, read]
  rfl

end Lexer

/-- Behind its key a line goes on with the colon. -/
theorem Line.skip_key (line : Line) {c : Cursor} {r : List Char} (rest : c.rest = line.chars ++ r) :
    c.skip line.key.toList.length =
      { rest := ':' :: ' ' :: line.value.toList ++ r, line := c.line
        column := c.column + line.key.toList.length, index := c.index + line.key.utf8ByteSize } := by
  have split : c.rest = line.key.toList ++ (':' :: ' ' :: line.value.toList ++ r) := by
    rw [rest, Line.chars, List.append_assoc]
  rw [Cursor.skip_eq split fun x => isBreak_of_mem_isPlain line.plainKey, String.ofList_toList]

namespace Lexer

theorem lexAll_key (opened : Bool) (tokens : List Token) (line : Line) {c : Cursor} {r : List Char}
    (rest : c.rest = line.chars ++ r) (start : c.column = 0) (fuel : Nat) :
    lexAll (fuel + 1) (between opened tokens true c) =
      lexAll fuel (behindKey opened tokens line.key c) := by
  have split : c.rest = line.key.toList ++ ':' :: ' ' :: (line.value.toList ++ r) := by
    rw [rest, Line.chars, List.append_assoc]
    rfl
  have unmarked := Cursor.atDocumentMarker_of_key split line.plainKey line.unmarked
  obtain ⟨x, s, key⟩ := isPlain_eq_cons line.plainKey
  have plain : isPlain ':' (x :: s) = true := key ▸ line.plainKey
  obtain ⟨content, -, -⟩ := isPlain_cons plain
  have seen : c.peek? = some x := by simp [Cursor.peek?, split, key]
  have scalar := readPlain_key ((if opened then 0 else -1) + 1) line.plainKey split
    unmarked (by cases opened <;> simp [start])
  rw [String.ofList_toList] at scalar
  have marked : (between opened tokens true c).mark =
      some { between opened tokens true c with
        marks := [some ⟨opened, tokens.length, c.line, c.column, c.index⟩] } := by
    cases opened <;> simp [mark, between, dropMark, inFlow, start]
  refine lexAll_step (skipGaps_content seen content (isPlain_ne_hash plain) _)
    (dropStaleMarks_none rfl) seen ?_ ?_ fuel
  · cases opened <;> simp [between, start]
  · rw [lexOne_plain rfl plain (key ▸ split) (fun _ => rfl) unmarked, lexPlain_eq marked scalar]
    simp [behindKey, between]

theorem lexAll_colon (opened : Bool) (tokens : List Token) (line : Line) {c : Cursor}
    {r : List Char} (rest : c.rest = line.chars ++ r) (start : c.column = 0) (fuel : Nat) :
    lexAll (fuel + 1) (behindKey opened tokens line.key c) =
      lexAll fuel (between true
        (tokens ++ opening opened ++ [.key, .scalar .plain line.key, .value]) false
        (c.skip line.key.toList.length).next) := by
  have moved := line.skip_key rest
  obtain ⟨x, s, key⟩ := isPlain_eq_cons line.plainKey
  have inside : 0 < (c.skip line.key.toList.length).column := by
    rw [moved, key]
    exact Nat.lt_of_lt_of_le (Nat.succ_pos _) (Nat.le_add_left ..)
  have seen : (c.skip line.key.toList.length).peek? = some ':' := by simp [Cursor.peek?, moved]
  have gap : (c.skip line.key.toList.length).gapAt 1 = true := by
    rw [Cursor.gapAt_one (x := ':') (y := ' ') (by rw [moved]; rfl) rfl]
    rfl
  refine lexAll_step (skipGaps_content seen (by decide) (by decide) _)
    (dropStaleMarks_some rfl ?_ ?_) seen ?_ ?_ fuel
  · simp [behindKey, between, moved]
  · simpa [behindKey, between, moved] using line.shortKey
  · cases opened <;> simp [behindKey, between]
  · have colon : lexOne ':' (behindKey opened tokens line.key c) =
        lexValue (behindKey opened tokens line.key c) :=
      lexOne_colon inside gap
    rw [colon]
    cases opened <;>
      simp [lexValue, behindKey, between, indentTo, inFlow, push, allowKey, skip, Cursor.skip,
        opening, start, insertIdx_append]

theorem lexAll_value (tokens : List Token) (line : Line) {c : Cursor} {tail : List Char}
    (rest : c.rest = ' ' :: line.value.toList ++ tail) (ends : EndsLine tail) (fuel : Nat) :
    ∃ c' : Cursor, c'.rest = tail.tail ∧ (tail ≠ [] → c'.column = 0) ∧
      lexAll (fuel + 1) (between true tokens false c) =
        lexAll fuel (between true (tokens ++ [.scalar .plain line.value]) (!tail.isEmpty) c') := by
  obtain ⟨x, s, value⟩ := isPlain_eq_cons line.plainValue
  have plain : isPlain '\n' (x :: s) = true := value ▸ line.plainValue
  obtain ⟨content, -, -⟩ := isPlain_cons plain
  have space : c.peek? = some ' ' := by simp [Cursor.peek?, rest]
  have moved := Cursor.next_eq (r := line.value.toList ++ tail) rest (by decide)
  have inside' : 0 < c.next.column := by rw [moved]; exact Nat.succ_pos _
  have rest' : c.next.rest = line.value.toList ++ tail := by rw [moved]
  have seen : c.next.peek? = some x := by simp [Cursor.peek?, rest', value]
  obtain ⟨c', scalar, after, below⟩ :=
    readPlain_value (0 + 1) line.plainValue rest' ends inside' (by decide) (by omega)
  rw [String.ofList_toList] at scalar
  refine ⟨c', after, below, ?_⟩
  have skipped : (between true tokens false c).skip 1 = between true tokens false c.next := rfl
  have fuel' : c.rest.length + 1 = s.length + tail.length + 1 + 2 := by simp [rest, value]
  refine lexAll_step (m := between true tokens false c.next) ?_ (dropStaleMarks_none rfl) seen ?_ ?_
    fuel
  · change skipGaps (c.rest.length + 1) _ = _
    rw [fuel', ← skipped]
    exact skipGaps_space (l := between true tokens false c) space seen content
      (isPlain_ne_hash plain) _
  · simp [between]
  · have behind : isContent '\n' = true → tail.head? = some '\n' := fun content =>
      absurd content (by decide)
    rw [lexOne_plain rfl plain (value ▸ rest') behind (Cursor.atDocumentMarker_of_column inside'),
      lexPlain_eq (m := between true tokens false c.next) rfl scalar]
    simp [between]

/-- A whole line takes three rounds of the lexer. -/
theorem lexAll_line (opened : Bool) (tokens : List Token) (line : Line) {c : Cursor}
    {tail : List Char} (rest : c.rest = line.chars ++ tail) (ends : EndsLine tail)
    (start : c.column = 0) (fuel : Nat) :
    ∃ c' : Cursor, c'.rest = tail.tail ∧ (tail ≠ [] → c'.column = 0) ∧
      lexAll (fuel + 3) (between opened tokens true c) =
        lexAll fuel
          (between true (tokens ++ opening opened ++ line.tokens) (!tail.isEmpty) c') := by
  have behind := line.skip_key rest
  have space : (c.skip line.key.toList.length).next.rest = ' ' :: line.value.toList ++ tail := by
    rw [Cursor.next_eq (r := ' ' :: line.value.toList ++ tail) (by rw [behind]; rfl) (by decide)]
  obtain ⟨c', after, below, value⟩ := lexAll_value
    (tokens ++ opening opened ++ [.key, .scalar .plain line.key, .value]) line space ends fuel
  refine ⟨c', after, below, ?_⟩
  rw [lexAll_key opened tokens line rest start, lexAll_colon opened tokens line rest start, value,
    List.append_assoc _ _ [Token.scalar .plain line.value]]
  rfl

theorem lexAll_end (opened : Bool) (tokens : List Token) (keyAllowed : Bool) {c : Cursor}
    (rest : c.rest = []) (fuel : Nat) :
    lexAll (fuel + 1) (between opened tokens keyAllowed c) =
      some (tokens ++ if opened then [Token.blockEnd] else []).toArray := by
  have ended : c.peek? = none := by simp [Cursor.peek?, rest]
  cases opened <;>
    simp [lexAll, skipGaps, between, ended, dropStaleMarks, dropStale, outdentTo, inFlow,
      outdentTo.close, dropMark]

/-- Lines take their tokens in order. -/
theorem lexAll_lines {text : List Char} {lines : List Line} (made : MadeOf text lines)
    (tokens : List Token) (keyAllowed : Bool) {c : Cursor} (rest : c.rest = text)
    (start : text ≠ [] → c.column = 0 ∧ keyAllowed = true) (fuel : Nat) :
    lexAll (fuel + 1 + 3 * lines.length) (between true tokens keyAllowed c) =
      some (tokens ++ lines.flatMap Line.tokens ++ [Token.blockEnd]).toArray := by
  induction made generalizing tokens keyAllowed c with
  | nothing => simpa using lexAll_end true tokens keyAllowed rest fuel
  | last line =>
    obtain ⟨column, rfl⟩ := start (by simp [Line.chars])
    have alone : c.rest = line.chars ++ [] := by rw [rest, List.append_nil]
    obtain ⟨c', after, -, lexed⟩ := lexAll_line true tokens line alone (.inl rfl) column (fuel + 1)
    rw [show fuel + 1 + 3 * [line].length = fuel + 1 + 3 from rfl, lexed, lexAll_end true _ _ after]
    simp [opening]
  | @line line text lines made ih =>
    obtain ⟨column, rfl⟩ := start (by simp [Line.chars])
    obtain ⟨c', after, below, lexed⟩ := lexAll_line true tokens line rest
      (.inr ⟨text, rfl, made.head_content⟩) column (fuel + 1 + 3 * lines.length)
    have next := ih (tokens ++ opening true ++ line.tokens) true after fun _ =>
      ⟨below (List.cons_ne_nil _ _), rfl⟩
    rw [List.length_cons, Nat.mul_succ, ← Nat.add_assoc, lexed]
    simpa [opening] using next

/-- The first line opens the block that all lines stand in. -/
theorem lexAll_document {text : List Char} {lines : List Line} (made : MadeOf text lines)
    {c : Cursor} (rest : c.rest = text) (start : c.column = 0) (fuel : Nat) :
    lexAll (fuel + 1 + 3 * lines.length) (between false [] true c) =
      some (documentTokens lines).toArray := by
  cases made with
  | nothing => exact lexAll_end false [] true rest fuel
  | last line =>
    have alone : c.rest = line.chars ++ [] := by rw [rest, List.append_nil]
    obtain ⟨c', after, -, lexed⟩ := lexAll_line false [] line alone (.inl rfl) start (fuel + 1)
    rw [show fuel + 1 + 3 * [line].length = fuel + 1 + 3 from rfl, lexed, lexAll_end true _ _ after]
    simp [opening, documentTokens]
  | @line line text lines made =>
    obtain ⟨c', after, below, lexed⟩ := lexAll_line false [] line rest
      (.inr ⟨text, rfl, made.head_content⟩) start (fuel + 1 + 3 * lines.length)
    have next := lexAll_lines made ([] ++ opening false ++ line.tokens) true after
      (fun _ => ⟨below (List.cons_ne_nil _ _), rfl⟩) fuel
    rw [List.length_cons, Nat.mul_succ, ← Nat.add_assoc, lexed]
    simpa [opening, documentTokens] using next

end Lexer

theorem Line.length_chars (line : Line) : 4 ≤ line.chars.length := by
  obtain ⟨x, s, key⟩ := isPlain_eq_cons line.plainKey
  obtain ⟨y, t, value⟩ := isPlain_eq_cons line.plainValue
  simp only [chars, key, value, List.length_append, List.length_cons]
  omega

theorem MadeOf.length_le {text : List Char} {lines : List Line} (made : MadeOf text lines) :
    3 * lines.length ≤ text.length := by
  induction made with
  | nothing => exact Nat.le_refl 0
  | last line =>
    have long := line.length_chars
    simp only [List.length_cons, List.length_nil]
    omega
  | line line rest ih =>
    have long := line.length_chars
    simp only [List.length_cons, List.length_append]
    omega

theorem Line.of_mem_chars {line : Line} {x : Char} (mem : x ∈ line.chars) :
    isBlank x = true ∨ isContent x = true := by
  simp only [chars, List.mem_append, List.mem_cons] at mem
  rcases mem with key | rfl | rfl | value
  · exact of_mem_isPlain line.plainKey key
  · exact .inr (by decide)
  · exact .inl (by decide)
  · exact of_mem_isPlain line.plainValue value

/-- A flat document has no other characters than its lines and line feeds. -/
theorem MadeOf.of_mem {text : List Char} {lines : List Line} (made : MadeOf text lines) :
    ∀ x ∈ text, isBlank x = true ∨ isContent x = true ∨ x = '\n' := by
  induction made with
  | nothing => exact nofun
  | last line =>
    intro x mem
    exact (Line.of_mem_chars mem).imp_right .inl
  | line line rest ih =>
    intro x mem
    rcases List.mem_append.mp mem with here | later
    · exact (Line.of_mem_chars here).imp_right .inl
    · rcases List.mem_cons.mp later with rfl | later
      · exact .inr (.inr rfl)
      · exact ih x later

theorem MadeOf.printable {text : List Char} {lines : List Line} (made : MadeOf text lines) :
    ∀ x ∈ text, isPrintable x = true := by
  intro x mem
  rcases made.of_mem x mem with blank | content | rfl
  · rcases (isBlank_iff x).mp blank with rfl | rfl <;> rfl
  · exact ((isContent_iff x).mp content).1
  · rfl

theorem unifyBreaks_eq_self {s : List Char} (unified : ∀ x ∈ s, x ≠ '\r' ∧ x ≠ '\u0085') :
    unifyBreaks s = s := by
  induction s with
  | nil => rfl
  | cons c s ih =>
    have here := unified c (List.mem_cons_self ..)
    have later := ih fun x mem => unified x (List.mem_cons_of_mem _ mem)
    rw [unifyBreaks.eq_2 c s fun _ same _ => here.1 same, later]
    simp [here]

/-- The breaks of a flat document are unified. -/
theorem MadeOf.unifyBreaks_eq {text : List Char} {lines : List Line} (made : MadeOf text lines) :
    unifyBreaks text = text := by
  refine unifyBreaks_eq_self fun x mem => ?_
  rcases made.of_mem x mem with blank | content | rfl
  · rcases (isBlank_iff x).mp blank with rfl | rfl <;> decide
  · obtain ⟨-, -, -, noReturn, noNextLine, -⟩ := (isContent_iff x).mp content
    exact ⟨noReturn, noNextLine⟩
  · decide

theorem all_isPrintable_unifyBreaks (s : List Char) :
    (unifyBreaks s).all isPrintable = s.all isPrintable := by
  induction s using unifyBreaks.induct with
  | case1 s ih => simp [unifyBreaks, ih, show isPrintable '\n' = true from rfl,
      show isPrintable '\r' = true from rfl]
  | case2 c s apart ih =>
    have here : isPrintable (if c == '\r' || c == '\u0085' then '\n' else c) = isPrintable c := by
      split
      · rename_i breaks
        simp only [Bool.or_eq_true, beq_iff_eq] at breaks
        rcases breaks with rfl | rfl <;> rfl
      · rfl
    rw [unifyBreaks, List.all_cons, List.all_cons, ih, here]
    exact apart
  | case3 => rfl

/-- A flat document is lexed line by line. -/
theorem Token.ofText?_flat {text : String} {lines : List Line}
    (made : MadeOf (unifyBreaks text.toList) lines) :
    Token.ofText? text = some (documentTokens lines) := by
  have printable : text.toList.all isPrintable = true := by
    rw [← all_isPrintable_unifyBreaks, List.all_eq_true]
    exact made.printable
  obtain ⟨fuel, enough⟩ := Nat.exists_eq_add_of_le made.length_le
  have lexed := Lexer.lexAll_document made (c := { rest := unifyBreaks text.toList }) rfl rfl fuel
  have rounds : (unifyBreaks text.toList).length + 1 = fuel + 1 + 3 * lines.length := by omega
  simp only [ofText?, Cursor.ofText?, printable, if_true, Option.bind_eq_bind, Option.bind_some,
    rounds]
  change (Lexer.lexAll _ (Lexer.between false [] true _)).bind _ = _
  rw [lexed]
  rfl

namespace Node

theorem read_scalar (text : String) (s : Scope) (ts : Tokens) (fuel : Nat) :
    read true true (fuel + 2) s (.scalar .plain text :: ts) =
      some (.scalar .plain none text, s, ts) := by
  simp [read, readProperties, readContent, Scope.announce, Scope.complete]

theorem readBlockFields_line (line : Line) (fields : List (Node × Node)) (s : Scope) (ts : Tokens)
    (fuel : Nat) :
    readBlockFields none fields (fuel + 3) s (line.tokens ++ ts) =
      readBlockFields none (line.field :: fields) (fuel + 2) s ts := by
  simp [readBlockFields, Line.tokens, Line.field, orEmpty, endsBlockField, read_scalar]

theorem readBlockFields_lines (lines : List Line) (fields : List (Node × Node)) (s : Scope)
    (fuel : Nat) :
    readBlockFields none fields (fuel + lines.length + 2) s
        (lines.flatMap Line.tokens ++ [.blockEnd]) =
      some (.mapping none (fields.reverse ++ lines.map Line.field), s, []) := by
  induction lines generalizing fields with
  | nil => simp [readBlockFields]
  | cons line lines ih =>
    rw [List.flatMap_cons, List.append_assoc, List.length_cons]
    change readBlockFields none fields (fuel + lines.length + 3) s _ = _
    rw [readBlockFields_line, ih]
    simp

theorem read_block (lines : List Line) (s : Scope) (fuel : Nat) :
    read true false (fuel + lines.length + 4) s
        (.blockMappingStart :: lines.flatMap Line.tokens ++ [.blockEnd]) =
      some (.mapping none (lines.map Line.field), s, []) := by
  have fields := readBlockFields_lines lines [] s fuel
  rw [List.reverse_nil, List.nil_append] at fields
  simp [read, readProperties, readContent, Scope.announce, Scope.complete, fields]

end Node

theorem length_flatMap_tokens (lines : List Line) :
    (lines.flatMap Line.tokens).length = 4 * lines.length := by
  induction lines with
  | nil => rfl
  | cons line lines ih =>
    rw [List.flatMap_cons, List.length_append, ih, List.length_cons, Line.tokens]
    simp only [List.length_cons, List.length_nil]
    omega

theorem Document.ofTokens?_block {ts : List Token} {root : Node} {s : Scope}
    (read : Node.read true false (4 * (ts.length + 1) + 8) {} (.blockMappingStart :: ts) =
      some (root, s, [])) :
    ofTokens? (.blockMappingStart :: ts) = some (some { root, anchors := s.anchors.toList }) := by
  simp [ofTokens?, readDirectives, read]

/-- A flat document is the mapping of its keys to their scalars, in the order of the lines. -/
theorem Document.ofText?_flat {text : String} {lines : List Line}
    (made : MadeOf (unifyBreaks text.toList) lines) :
    Document.ofText? text =
      some (if lines.isEmpty then none
        else some { root := .mapping none (lines.map Line.field), anchors := [] }) := by
  have block := Node.read_block lines {} (15 * lines.length + 12)
  have fuel : 15 * lines.length + 12 + lines.length + 4 =
      4 * ((lines.flatMap Line.tokens ++ [Token.blockEnd]).length + 1) + 8 := by
    rw [List.length_append, length_flatMap_tokens, List.length_singleton]
    omega
  rw [fuel] at block
  simp only [ofText?, Token.ofText?_flat made, Option.bind_eq_bind, Option.bind_some, documentTokens]
  cases lines with
  | nil => rfl
  | cons line lines => exact ofTokens?_block block

end Templating.Yaml
