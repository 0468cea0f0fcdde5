import Templating.TextBuffer
import Templating.Yaml.Token

/-!
# Plain scalars on one line

`isPlain behind s` says, in terms of the characters alone, that `s` is a plain scalar of one line of
a block when the character `behind` stands behind it: the productions of YAML 1.2 for a plain
scalar outside flow collections. The reader of scalars takes exactly such a text from a place where
it stands (`readPlain_key`, `readPlain_value`).
-/

namespace Templating.Yaml

/-- May stand in a line, and is not blank. -/
def isContent (c : Char) : Bool :=
  isPrintable c && !isBlank c && !isBreak c && c != '\r' && c != '\u0085' && c != '\ufeff'

/-- Characters that do not begin a plain scalar; the first three do in front of content. -/
def indicators : List Char :=
  ['-', '?', ':', ',', '[', ']', '\x7b', '\x7d', '#', '&', '*', '!', '|', '>', '\'', '"', '%', '@',
    '\x60']

/-- A plain scalar can begin with `c` when `next` stands behind it. -/
def opensPlain (c next : Char) : Bool :=
  isContent c &&
    (!indicators.contains c || ((c == '-' || c == '?' || c == ':') && isContent next))

/-- A plain scalar goes on with these characters, between `before` and `behind`: content stands
behind every colon, no blank in front of a hash sign, and no blank at the end. -/
def staysPlain (behind : Char) : (before : Char) → List Char → Bool
  | before, [] => !isBlank before
  | before, c :: s =>
    (isBlank c || isContent c) && !(c == '#' && isBlank before) &&
      !(c == ':' && !isContent (s.headD behind)) && staysPlain behind c s

def isPlain (behind : Char) : List Char → Bool
  | [] => false
  | c :: s => opensPlain c (s.headD behind) && staysPlain behind c s

/-- Three marks and a blank, which begin or end a document where they begin a line. -/
def opensMarker : List Char → Bool
  | '-' :: '-' :: '-' :: c :: _ | '.' :: '.' :: '.' :: c :: _ => isBlank c
  | _ => false

theorem isContent_iff (c : Char) :
    isContent c = true ↔ isPrintable c = true ∧ isBlank c = false ∧ isBreak c = false ∧
      c ≠ '\r' ∧ c ≠ '\u0085' ∧ c ≠ '\ufeff' := by
  simp [isContent, and_assoc]

theorem isBlank_iff (c : Char) : isBlank c = true ↔ c = ' ' ∨ c = '\t' := by
  simp [isBlank]

theorem isBreak_of_isBlank {c : Char} (blank : isBlank c = true) : isBreak c = false := by
  rcases (isBlank_iff c).mp blank with rfl | rfl <;> rfl

theorem isPlain_cons {behind c : Char} {s : List Char} (plain : isPlain behind (c :: s) = true) :
    isContent c = true ∧ staysPlain behind c s = true ∧
      (indicators.contains c = true → isContent (s.headD behind) = true ∧
        (c = '-' ∨ c = '?' ∨ c = ':')) := by
  simp only [isPlain, opensPlain, Bool.and_eq_true, Bool.or_eq_true, Bool.not_eq_true',
    beq_iff_eq] at plain
  obtain ⟨⟨content, opens⟩, stays⟩ := plain
  refine ⟨content, stays, fun indicator => ?_⟩
  rcases opens with plain | ⟨one, next⟩
  · rw [indicator] at plain
    cases plain
  · exact ⟨next, by simpa [or_assoc] using one⟩

/-- What stands behind the first character of a plain scalar is blank or content. -/
theorem of_mem_staysPlain {behind before x : Char} {s : List Char}
    (stays : staysPlain behind before s = true) (mem : x ∈ s) :
    isBlank x = true ∨ isContent x = true := by
  induction s generalizing before with
  | nil => cases mem
  | cons c s ih =>
    simp only [staysPlain, Bool.and_eq_true, Bool.or_eq_true] at stays
    rcases List.mem_cons.mp mem with rfl | later
    · exact stays.1.1.1
    · exact ih stays.2 later

theorem of_mem_isPlain {behind x : Char} {s : List Char} (plain : isPlain behind s = true)
    (mem : x ∈ s) : isBlank x = true ∨ isContent x = true := by
  cases s with
  | nil => cases mem
  | cons c s =>
    obtain ⟨content, stays, -⟩ := isPlain_cons plain
    rcases List.mem_cons.mp mem with rfl | later
    · exact .inr content
    · exact of_mem_staysPlain stays later

theorem isBreak_of_mem_isPlain {behind x : Char} {s : List Char}
    (plain : isPlain behind s = true) (mem : x ∈ s) : isBreak x = false := by
  rcases of_mem_isPlain plain mem with blank | content
  · exact isBreak_of_isBlank blank
  · exact ((isContent_iff x).mp content).2.2.1

theorem staysPlain_of_forall {behind before : Char} {s : List Char}
    (noBlank : isBlank before = false) (free : ∀ c ∈ s, isContent c = true ∧ c ∉ indicators) :
    staysPlain behind before s = true := by
  induction s generalizing before with
  | nil => simp [staysPlain, noBlank]
  | cons c s ih =>
    obtain ⟨content, noIndicator⟩ := free c (List.mem_cons_self ..)
    have hash : c ≠ '#' := fun same => noIndicator (same ▸ by decide)
    have colon : c ≠ ':' := fun same => noIndicator (same ▸ by decide)
    have later := ih ((isContent_iff c).mp content).2.1 fun x mem =>
      free x (List.mem_cons_of_mem _ mem)
    simp [staysPlain, content, hash, colon, later]

/-- Content without indicators is a plain scalar, whatever stands behind it. -/
theorem isPlain_of_forall {behind : Char} {s : List Char} (nonempty : s ≠ [])
    (free : ∀ c ∈ s, isContent c = true ∧ c ∉ indicators) : isPlain behind s = true := by
  cases s with
  | nil => exact absurd rfl nonempty
  | cons c s =>
    obtain ⟨content, noIndicator⟩ := free c (List.mem_cons_self ..)
    have later : staysPlain behind c s = true :=
      staysPlain_of_forall ((isContent_iff c).mp content).2.1 fun x mem =>
        free x (List.mem_cons_of_mem _ mem)
    simp [isPlain, opensPlain, content, noIndicator, later]

namespace Cursor

theorem next_eq {c : Cursor} {x : Char} {r : List Char} (rest : c.rest = x :: r)
    (inLine : isBreak x = false) :
    c.next = { rest := r, line := c.line, column := c.column + 1, index := c.index + x.utf8Size } := by
  simp [next, rest, inLine]

/-- Characters without a break among them move the cursor along its line. -/
theorem skip_eq {c : Cursor} {s r : List Char} (rest : c.rest = s ++ r)
    (inLine : ∀ x ∈ s, isBreak x = false) :
    c.skip s.length =
      { rest := r, line := c.line, column := c.column + s.length
        index := c.index + (String.ofList s).utf8ByteSize } := by
  induction s generalizing c with
  | nil =>
    cases c
    simp_all [skip]
  | cons x s ih =>
    have moved := next_eq (r := s ++ r) rest (inLine x (List.mem_cons_self ..))
    have rest' : c.next.rest = s ++ r := by rw [moved]
    rw [List.length_cons, skip, ih rest' fun y mem => inLine y (List.mem_cons_of_mem _ mem), moved,
      TextBuffer.utf8ByteSize_ofList_cons]
    simp only [Cursor.mk.injEq, true_and]
    omega

theorem atDocumentMarker_of_column {c : Cursor} (inside : 0 < c.column) :
    c.atDocumentMarker = false := by
  have column : (c.column == 0) = false := by simp; omega
  simp [atDocumentMarker, atMarker, column]

/-- A key does not begin or end a document. -/
theorem atDocumentMarker_of_key {c : Cursor} {s r : List Char} (rest : c.rest = s ++ ':' :: r)
    (plain : isPlain ':' s = true) (unmarked : opensMarker s = false) :
    c.atDocumentMarker = false := by
  have inLine : ∀ x ∈ s, isBreak x = false := fun x => isBreak_of_mem_isPlain plain
  rcases s with _ | ⟨x, _ | ⟨y, _ | ⟨z, _ | ⟨gap, s⟩⟩⟩⟩
  · cases plain
  · simp [atDocumentMarker, atMarker, sees, rest]
  · simp [atDocumentMarker, atMarker, sees, rest]
  · simp [atDocumentMarker, atMarker, gapAt, rest, isBlank, isBreak]
  · have noBreak := inLine gap (by simp)
    have dashes : x = '-' → y = '-' → z = '-' → isBlank gap = false := by
      rintro rfl rfl rfl
      exact unmarked
    have dots : x = '.' → y = '.' → z = '.' → isBlank gap = false := by
      rintro rfl rfl rfl
      exact unmarked
    simp only [atDocumentMarker, atMarker, sees, gapAt, rest, List.cons_append,
      List.getElem?_cons_zero, List.getElem?_cons_succ, noBreak, Bool.or_false, Bool.or_eq_false_iff,
      Option.some_beq_some]
    constructor <;> grind

theorem gapAt_one {c : Cursor} {x y : Char} {r : List Char} (rest : c.rest = x :: r)
    (next : r.head? = some y) : c.gapAt 1 = (isBlank y || isBreak y) := by
  obtain ⟨r', rfl⟩ := List.head?_eq_some_iff.mp next
  simp [gapAt, rest]

end Cursor

/-- A plain scalar does not end where content stands behind the colon. -/
theorem endsPlain_eq_false {behind x : Char} {s r : List Char} {c : Cursor}
    (rest : c.rest = x :: (s ++ r)) (followed : isContent behind = true → r.head? = some behind)
    (colon : x = ':' → isContent (s.headD behind) = true) : endsPlain false c x = false := by
  by_cases colons : x = ':'
  · have content := colon colons
    have next : (s ++ r).head? = some (s.headD behind) := by
      cases s with
      | nil => exact followed content
      | cons y s => rfl
    obtain ⟨-, noBlank, noBreak, -⟩ := (isContent_iff _).mp content
    simp only [endsPlain, Cursor.gapAt_one rest next, noBlank, noBreak, Bool.or_false,
      Bool.and_false, Bool.false_and]
  · simp [endsPlain, colons]

/-- Inside a line, `readPlain` takes what a plain scalar goes on with. Blanks that it has passed are
kept aside in the gap until content follows. -/
theorem readPlain_stays {indent : Int} {behind before : Char} {s r run text : List Char}
    {c : Cursor} (stays : staysPlain behind before s = true) (rest : c.rest = s ++ r)
    (followed : isContent behind = true → r.head? = some behind) (inside : 0 < c.column)
    (deep : indent ≤ c.column) (gap : run = [] ↔ isBlank before = false) (fuel : Nat) :
    readPlain false indent text (.blanks run) (s.length + fuel) c =
      readPlain false indent (s.reverse ++ (run ++ text)) .none fuel (c.skip s.length) := by
  induction s generalizing before run text c with
  | nil =>
    have none : run = [] := gap.mpr (by simpa [staysPlain] using stays)
    subst none
    simp [Cursor.skip, Gap.none]
  | cons x s ih =>
    simp only [staysPlain, Bool.and_eq_true, Bool.or_eq_true, Bool.not_eq_true'] at stays
    obtain ⟨⟨⟨kind, comment⟩, colon⟩, stays⟩ := stays
    have inLine : isBreak x = false := by
      rcases kind with blank | content
      · exact isBreak_of_isBlank blank
      · exact ((isContent_iff x).mp content).2.2.1
    have moved := Cursor.next_eq (r := s ++ r) rest inLine
    have rest' : c.next.rest = s ++ r := by rw [moved]
    have inside' : 0 < c.next.column := by rw [moved]; exact Nat.succ_pos _
    have deep' : indent ≤ c.next.column := by
      rw [moved]
      exact Int.le_trans deep (Int.ofNat_le.mpr (Nat.le_succ _))
    have seen : c.peek? = some x := by simp [Cursor.peek?, rest]
    rw [List.length_cons, Nat.add_right_comm, readPlain]
    simp only [seen]
    by_cases blank : isBlank x = true
    · -- a blank is kept aside
      simp only [blank, Bool.true_or, if_true, Gap.hasBreak, Bool.false_and, Bool.false_eq_true,
        if_false, Gap.add, inLine]
      rw [ih stays rest' inside' deep' (by simp [blank])]
      simp [Cursor.skip]
    · -- content comes behind what was kept aside
      rw [Bool.not_eq_true] at blank
      have shallow : ¬ (c.column : Int) < indent := by omega
      have hash : (x == '#' && !(Gap.blanks run).isNone) = false := by
        cases run with
        | nil => simp [Gap.isNone]
        | cons y run =>
          have blanks : isBlank before = true := by
            rw [← Bool.not_eq_false, ← gap]
            exact List.cons_ne_nil _ _
          have content : x ≠ '#' := by simpa [blanks] using comment
          simp [content]
      have ends : endsPlain false c x = false :=
        endsPlain_eq_false rest followed fun colons => by simpa [colons] using colon
      simp only [blank, inLine, Bool.or_false, Bool.false_eq_true, if_false, shallow, decide_false,
        Bool.and_false, Cursor.atDocumentMarker_of_column inside, hash, strayColon, Bool.false_and,
        ends]
      have step : readPlain false indent (x :: (run ++ text)) (.blanks []) (s.length + fuel) c.next =
          _ := ih stays rest' inside' deep' (by simp [blank])
      simpa [extend, Gap.fold, Gap.none, Cursor.skip] using step

/-- `readPlain` takes a plain scalar from where it stands, unless that is a mark of a document. -/
theorem readPlain_scalar {indent : Int} {behind : Char} {s r : List Char} {c : Cursor}
    (plain : isPlain behind s = true) (rest : c.rest = s ++ r)
    (followed : isContent behind = true → r.head? = some behind)
    (unmarked : c.atDocumentMarker = false) (deep : indent ≤ c.column + 1) (fuel : Nat) :
    readPlain false indent [] .none (s.length + fuel) c =
      readPlain false indent s.reverse .none fuel (c.skip s.length) := by
  cases s with
  | nil => cases plain
  | cons x s =>
    obtain ⟨content, stays, opens⟩ := isPlain_cons plain
    obtain ⟨-, noBlank, inLine, -⟩ := (isContent_iff x).mp content
    have moved := Cursor.next_eq (r := s ++ r) rest inLine
    have seen : c.peek? = some x := by simp [Cursor.peek?, rest]
    have ends : endsPlain false c x = false := by
      refine endsPlain_eq_false rest followed fun colons => ?_
      subst colons
      exact (opens (by decide)).1
    rw [List.length_cons, Nat.add_right_comm, readPlain]
    simp only [seen, noBlank, inLine, Bool.or_false, Bool.false_eq_true, if_false, Gap.isNone,
      Gap.none, Bool.not_true, Bool.and_false, Bool.false_and, unmarked, strayColon, ends]
    have rest' : c.next.rest = s ++ r := by rw [moved]
    have step : readPlain false indent [x] (.blanks []) (s.length + fuel) c.next = _ :=
      readPlain_stays stays rest' followed (by rw [moved]; exact Nat.succ_pos _)
        (by rw [moved]; simpa using deep) (by simp [noBlank]) fuel
    simpa [extend, Gap.fold, Gap.none, Cursor.skip] using step

/-- A scalar that is a key ends in front of the colon and the space behind it. -/
theorem readPlain_key (indent : Int) {s r : List Char} {c : Cursor}
    (plain : isPlain ':' s = true) (rest : c.rest = s ++ ':' :: ' ' :: r)
    (unmarked : c.atDocumentMarker = false) (deep : indent ≤ c.column + 1) :
    readPlain false indent [] .none (c.rest.length + 1) c =
      some (String.ofList s, false, c.skip s.length) := by
  have moved := Cursor.skip_eq rest fun x => isBreak_of_mem_isPlain plain
  have seen : (c.skip s.length).peek? = some ':' := by simp [Cursor.peek?, moved]
  have gap : (c.skip s.length).gapAt 1 = true := by
    rw [Cursor.gapAt_one (x := ':') (y := ' ') (r := ' ' :: r) (by rw [moved]) rfl]
    rfl
  have inside : 0 < (c.skip s.length).column := by
    cases s with
    | nil => cases plain
    | cons x s => rw [moved]; exact Nat.lt_of_lt_of_le (Nat.succ_pos _) (Nat.le_add_left ..)
  have enough : c.rest.length + 1 = s.length + (r.length + 2 + 1) := by
    rw [rest, List.length_append, List.length_cons, List.length_cons]
    omega
  rw [enough, readPlain_scalar plain rest (fun _ => rfl) unmarked deep, readPlain]
  simp [seen, Gap.none, Gap.isNone, Gap.hasBreak, Cursor.atDocumentMarker_of_column inside,
    strayColon, endsPlain, gap, show isBlank ':' = false from rfl, show isBreak ':' = false from rfl]

/-- Behind a value the text ends, or its line, and then no blank begins the next. -/
def EndsLine (tail : List Char) : Prop :=
  tail = [] ∨ ∃ r, tail = '\n' :: r ∧ ∀ y ∈ r.head?, isContent y = true

/-- A value is read together with the break that ends its line. -/
theorem readPlain_value (indent : Int) {s tail : List Char} {c : Cursor}
    (plain : isPlain '\n' s = true) (rest : c.rest = s ++ tail) (ends : EndsLine tail)
    (inside : 0 < c.column) (nested : 0 < indent) (deep : indent ≤ c.column + 1) :
    ∃ c' : Cursor,
      readPlain false indent [] .none (c.rest.length + 1) c =
        some (String.ofList s, !tail.isEmpty, c') ∧
      c'.rest = tail.tail ∧ (tail ≠ [] → c'.column = 0) := by
  have moved := Cursor.skip_eq rest fun x => isBreak_of_mem_isPlain plain
  have scalar := readPlain_scalar plain rest nofun (Cursor.atDocumentMarker_of_column inside) deep
  have enough : c.rest.length + 1 = s.length + (tail.length + 1) := by
    rw [rest, List.length_append, Nat.add_assoc]
  rw [enough, scalar]
  rcases ends with rfl | ⟨r, rfl, begins⟩
  · refine ⟨c.skip s.length, ?_, by rw [moved]; rfl, fun some => absurd rfl some⟩
    have ended : (c.skip s.length).peek? = none := by simp [Cursor.peek?, moved]
    simp [readPlain, ended, Gap.none, Gap.hasBreak]
  · have seen : (c.skip s.length).peek? = some '\n' := by simp [Cursor.peek?, moved]
    have below : (c.skip s.length).next.rest = r ∧ (c.skip s.length).next.column = 0 := by
      simp [Cursor.next, moved, isBreak]
    refine ⟨(c.skip s.length).next, ?_, below.1, fun _ => below.2⟩
    rw [readPlain]
    simp only [seen, show isBreak '\n' = true from rfl, Bool.or_true, if_true, Gap.none,
      Gap.hasBreak, Bool.false_and, Bool.false_eq_true, if_false, Gap.add]
    rw [List.length_cons, readPlain]
    cases r with
    | nil =>
      have ended : (c.skip s.length).next.peek? = none := by simp [Cursor.peek?, below.1]
      simp [ended, Gap.hasBreak]
    | cons y r =>
      have next : (c.skip s.length).next.peek? = some y := by simp [Cursor.peek?, below.1]
      obtain ⟨-, noBlank, noBreak, -⟩ := (isContent_iff y).mp (begins y rfl)
      simp [next, noBlank, noBreak, Gap.isNone, Gap.hasBreak, below.2, nested]

end Templating.Yaml
