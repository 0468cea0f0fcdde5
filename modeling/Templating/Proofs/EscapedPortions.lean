import Templating.Destination.Recorder
import Templating.EscapedText
import Templating.Proofs.AttributeCalls
import Templating.Proofs.RawValues

/-!
# The portions of escaped text

Text is escaped in three ways: character by character (`Escape.replaced`), by copying it from its
first special character on, and by handing over slices of it with the entities between them. The
last two walk over byte offsets. Where the walk stands, the text is what was handed over, a run of
characters without an entity, and what is still to come; so every slice begins and ends at a position
of the text, and the portions are the entities and the longest runs (`Action.writeEscaped_portions`).
-/

namespace Templating

variable {σ : Type}

namespace Escape

/-- The special characters, each with its entity. -/
def entities : List (Char × String) :=
  [('&', "&amp;"), ('<', "&lt;"), ('>', "&gt;"), ('"', "&quot;"), ('\'', "&#x27;")]

/-- The text with every special character replaced by its entity. -/
def replaced (text : String) : String :=
  String.join (text.toList.map fun c => (entities.lookup c).getD (String.singleton c))

/-- Of a text that consists of `before`, `part` and `after` the portion stands for `part`: for one
character whose entity it is, or for a run without special characters that could not be longer. -/
inductive StandsFor (before part after : List Char) (portion : String) : Prop
  | entity (c : Char) (single : part = [c]) (known : (c, portion) ∈ entities)
  | run (same : portion = String.ofList part) (present : part ≠ [])
      (plain : ∀ c ∈ part, isSpecial c = false)
      (left : ∀ c ∈ before.getLast?, isSpecial c = true)
      (right : ∀ c ∈ after.head?, isSpecial c = true)

theorem entity?_eq_some_iff {c : Char} {entity : String} :
    entity? c = some entity ↔ (c, entity) ∈ entities := by
  constructor
  · intro found
    unfold entity? at found
    split at found <;> cases found <;> simp [entities]
  · intro listed
    simp only [entities, List.mem_cons, Prod.mk.injEq, List.not_mem_nil, or_false] at listed
    obtain ⟨rfl, rfl⟩ | ⟨rfl, rfl⟩ | ⟨rfl, rfl⟩ | ⟨rfl, rfl⟩ | ⟨rfl, rfl⟩ := listed <;> rfl

theorem entity?_eq_lookup (c : Char) : entity? c = entities.lookup c := by
  cases found : entity? c with
  | some entity =>
    have listed := entity?_eq_some_iff.mp found
    simp only [entities, List.mem_cons, Prod.mk.injEq, List.not_mem_nil, or_false] at listed
    obtain ⟨rfl, rfl⟩ | ⟨rfl, rfl⟩ | ⟨rfl, rfl⟩ | ⟨rfl, rfl⟩ | ⟨rfl, rfl⟩ := listed <;> rfl
  | none =>
    refine (List.lookup_eq_none_iff.mpr ?_).symm
    rintro ⟨d, entity⟩ listed
    have known := entity?_eq_some_iff.mpr listed
    apply bne_iff_ne.mpr
    rintro rfl
    cases found.symm.trans known

theorem isSpecial_eq_true_iff {c : Char} : isSpecial c = true ↔ c ∈ entities.map Prod.fst := by
  rw [isSpecial, Option.isSome_iff_exists, List.mem_map]
  constructor
  · rintro ⟨entity, found⟩
    exact ⟨(c, entity), entity?_eq_some_iff.mp found, rfl⟩
  · rintro ⟨⟨_, entity⟩, listed, rfl⟩
    exact ⟨entity, entity?_eq_some_iff.mpr listed⟩

theorem replaced_eq (text : String) : replaced text = escape text := by
  have chars : ∀ c : Char,
      ((entities.lookup c).getD (String.singleton c)).toList = escapeChar c := by
    intro c
    rw [← entity?_eq_lookup, escapeChar]
    cases entity? c <;> simp
  rw [replaced, escape, ← String.toList_inj, String.toList_join, List.flatMap_map,
    String.toList_ofList]
  simp only [chars]

theorem escape_append (text more : String) : escape (text ++ more) = escape text ++ escape more := by
  simp [escape]

theorem escape_ofList_plain {text : List Char} (plain : ∀ c ∈ text, isSpecial c = false) :
    escape (String.ofList text) = String.ofList text := by
  apply (escape_eq_self_iff _).mpr
  simpa [isClean] using plain

theorem join_cut (run text : List Char) :
    String.join ((cut run text).map String.ofList) =
      String.ofList run.reverse ++ escape (String.ofList text) := by
  have chars := flatten_cut run text
  apply String.toList_injective
  rw [String.toList_join, List.flatMap_map]
  simpa [escape, List.flatMap_def] using chars

/-- A special character ends what a run could reach back to. -/
theorem StandsFor.behind {before part after : List Char} {portion : String} {c : Char}
    (stands : StandsFor before part after portion) (special : isSpecial c = true)
    (earlier : List Char) : StandsFor (earlier ++ c :: before) part after portion := by
  cases stands with
  | entity d single known => exact .entity d single known
  | run same present plain left right =>
    refine .run same present plain (fun d last => ?_) right
    rw [List.getLast?_append, List.getLast?_cons] at last
    cases ended : before.getLast? with
    | none =>
      rw [ended] at last
      cases last
      exact special
    | some e =>
      rw [ended] at last
      cases last
      exact left _ ended

theorem StandsFor.ne_empty {before part after : List Char} {portion : String}
    (stands : StandsFor before part after portion) : portion ≠ "" := by
  rintro rfl
  cases stands with
  | entity c single known => simp [entities] at known
  | run same present plain left right => exact present (by simpa using same.symm)

/-- A portion of a list that begins with a run is the run, or one of those behind it. -/
theorem portion_cases {run : List Char} {later before after : List String} {p : String}
    (made : (portion run).map String.ofList ++ later = before ++ p :: after) :
    run ≠ [] ∧ before = [] ∧ p = String.ofList run ∧ after = later ∨
      ∃ between, before = (portion run).map String.ofList ++ between ∧
        later = between ++ p :: after := by
  cases run with
  | nil => exact .inr ⟨before, rfl, made⟩
  | cons c run =>
    cases before with
    | nil =>
      obtain ⟨rfl, rfl⟩ := List.cons.inj made
      exact .inl ⟨List.cons_ne_nil c run, rfl, rfl, rfl⟩
    | cons q between =>
      obtain ⟨rfl, rfl⟩ := List.cons.inj made
      exact .inr ⟨between, rfl, rfl⟩

theorem join_portion (run : List Char) :
    String.join ((portion run).map String.ofList) = String.ofList run := by
  cases run <;> simp [portion]

theorem cut_clean {c : Char} (found : entity? c = none) (run text : List Char) :
    cut run (c :: text) = cut (c :: run) text := by
  simp only [cut, found]

theorem cut_special {c : Char} {entity : String} (found : entity? c = some entity)
    (run text : List Char) :
    cut run (c :: text) = portion run.reverse ++ entity.toList :: cut [] text := by
  simp only [cut, found]

/-- What the portions of a text stand for, when `run` are the characters since the last entity. -/
theorem cut_standsFor (run : List Char) {text : List Char} {before after : List String} {p : String}
    (plain : ∀ c ∈ run, isSpecial c = false)
    (made : (cut run text).map String.ofList = before ++ p :: after) :
    ∃ pre part post, run.reverse ++ text = pre ++ part ++ post ∧
      String.join before = escape (String.ofList pre) ∧
      String.join after = escape (String.ofList post) ∧ StandsFor pre part post p := by
  have reversed : ∀ c ∈ run.reverse, isSpecial c = false := by simpa using plain
  induction text generalizing run before with
  | nil =>
    rw [cut, ← List.append_nil (List.map _ _)] at made
    rcases portion_cases made with ⟨present, rfl, rfl, rfl⟩ | ⟨between, -, ended⟩
    · exact ⟨[], run.reverse, [], by simp, by simp [escape], by simp [escape],
        .run rfl present reversed (by simp) (by simp)⟩
    · simp at ended
  | cons c text ih =>
    cases found : entity? c with
    | none =>
      have clean : isSpecial c = false := by rw [isSpecial, found]; rfl
      have plain' : ∀ d ∈ c :: run, isSpecial d = false := by simpa [clean] using plain
      rw [cut_clean found] at made
      obtain ⟨pre, part, post, whole, stands⟩ :=
        ih _ plain' made fun d listed => plain' d (List.mem_reverse.mp listed)
      refine ⟨pre, part, post, ?_, stands⟩
      rw [← whole, List.reverse_cons, List.append_assoc, List.singleton_append]
    | some entity =>
      have special : isSpecial c = true := by rw [isSpecial, found]; rfl
      have later : cut [] (c :: text) = entity.toList :: cut [] text := cut_special found [] text
      rw [cut_special found, ← later, List.map_append] at made
      rcases portion_cases made with ⟨present, rfl, rfl, rfl⟩ | ⟨between, rfl, ended⟩
      · refine ⟨[], run.reverse, c :: text, by simp, by simp [escape], ?_, ?_⟩
        · rw [join_cut]
          simp
        · exact .run rfl present reversed (by simp) (by simpa using special)
      · rw [later, List.map_cons, String.ofList_toList] at ended
        cases between with
        | nil =>
          obtain ⟨rfl, rfl⟩ := List.cons.inj ended
          refine ⟨run.reverse, [c], text, by simp, ?_, ?_, ?_⟩
          · rw [List.append_nil, join_portion, escape_ofList_plain reversed]
          · rw [join_cut]
            simp
          · exact .entity c rfl (entity?_eq_some_iff.mp found)
        | cons q between =>
          obtain ⟨rfl, more⟩ := List.cons.inj ended
          obtain ⟨pre, part, post, whole, first, last, stands⟩ := ih [] (by simp) more (by simp)
          refine ⟨run.reverse ++ c :: pre, part, post, ?_, ?_, last, stands.behind special _⟩
          · simpa using whole
          · have shown : escape (String.ofList [c]) = entity := by simp [escape, escapeChar, found]
            rw [String.join_append, join_portion, String.join_cons, first, String.ofList_append,
              escape_append, escape_ofList_plain reversed, ← List.singleton_append,
              String.ofList_append, escape_append, shown]

theorem foldl_pushEscaped (output : String) (text : List Char) :
    text.foldl EscapedText.pushEscaped output = output ++ escape (String.ofList text) := by
  induction text generalizing output with
  | nil => simp [escape]
  | cons c text ih =>
    rw [List.foldl_cons, ih]
    apply String.toList_injective
    cases found : entity? c <;> simp [EscapedText.pushEscaped, escape, escapeChar, found]

end Escape

theorem EscapedText.of?_eq (text : String) :
    of? text = some (if Escape.isClean text then borrowed text else owned (Escape.escape text)) := by
  cases found : text.toList.find? Escape.isSpecial with
  | none =>
    have clean : ∀ c ∈ text.toList, Escape.isSpecial c = false := by
      simpa using List.find?_eq_none.mp found
    rw [of?, Text.find?_charOffsets_eq_none 0 clean, if_pos]
    simpa [Escape.isClean] using clean
  | some c =>
    obtain ⟨special, before, after, whole, clean⟩ := List.find?_eq_some_iff_append.mp found
    have clean : ∀ d ∈ before, Escape.isSpecial d = false := by simpa using clean
    have dirty : ¬ Escape.isClean text = true := by
      simp [Escape.isClean, whole, special]
    have first : (Text.charOffsets 0 text.toList).find? (Escape.isSpecial ·.2) =
        some ((String.ofList before).utf8ByteSize, c) := by
      rw [whole, Text.charOffsets_append, List.find?_append, Text.find?_charOffsets_eq_none 0 clean,
        Nat.zero_add, Option.none_or, Text.charOffsets]
      exact List.find?_cons_of_pos special
    obtain rfl : text = String.ofList before ++ String.ofList (c :: after) := by
      apply String.toList_injective
      rw [whole]
      simp
    have copied := Text.slice?_between "" (String.ofList before) (String.ofList (c :: after))
    have left := Text.slice?_between (String.ofList before) (String.ofList (c :: after)) ""
    rw [String.empty_append, String.utf8ByteSize_empty] at copied
    rw [String.append_empty] at left
    rw [of?, first, if_neg dirty]
    simp only [copied, left, Option.bind_eq_bind, Option.bind_some, Option.pure_def]
    rw [String.toList_ofList, Escape.foldl_pushEscaped, Escape.escape_append,
      Escape.escape_ofList_plain clean]

theorem EscapedText.of?_text (text : String) :
    (of? text).map EscapedText.text = some (Escape.escape text) := by
  rw [of?_eq, Option.map_some]
  by_cases clean : Escape.isClean text = true
  · rw [if_pos clean, (Escape.escape_eq_self_iff text).mpr clean]
    rfl
  · rw [if_neg clean]
    rfl

namespace Action

variable [Destination σ]

theorem writeAll_append (texts more : List String) :
    (writeAll (texts ++ more) : Action σ Unit) = (writeAll texts >>= fun _ => writeAll more) := by
  induction texts with
  | nil => rfl
  | cons text texts ih =>
    rw [List.cons_append, writeAll, ih, writeAll, bind_assoc]

/-- The slice that ends a run is the run, unless it is empty. -/
theorem writeSlice_run (before run rest : List Char) :
    (if (String.ofList before).utf8ByteSize < (String.ofList (before ++ run)).utf8ByteSize then
      writeSlice (String.ofList (before ++ run ++ rest)) (String.ofList before).utf8ByteSize
        (String.ofList (before ++ run)).utf8ByteSize
    else pure ()) = (writeAll ((Escape.portion run).map String.ofList) : Action σ Unit) := by
  have sliced := Text.slice?_between (String.ofList before) (String.ofList run) (String.ofList rest)
  rw [← String.ofList_append, ← String.ofList_append] at sliced
  cases run with
  | nil =>
    rw [List.append_nil, if_neg (Nat.lt_irrefl _)]
    rfl
  | cons c run =>
    have positive := c.utf8Size_pos
    have longer := Text.utf8ByteSize_ofList_append before (c :: run)
    rw [TextBuffer.utf8ByteSize_ofList_cons] at longer
    rw [if_pos (by omega), writeSlice, sliced]
    exact (bind_pure (write _)).symm

/-- The walk, where it has handed over `before` and has come to the end of `run`. -/
theorem writeEscapedFrom_eq (before run rest : List Char) :
    (writeEscapedFrom (String.ofList (before ++ run ++ rest)) (String.ofList before).utf8ByteSize
        (Text.charOffsets (String.ofList (before ++ run)).utf8ByteSize rest) : Action σ Unit) =
      writeAll ((Escape.cut run.reverse rest).map String.ofList) := by
  induction rest generalizing before run with
  | nil =>
    rw [Escape.cut, List.reverse_reverse, ← writeSlice_run before run []]
    simp only [Text.charOffsets, writeEscapedFrom, List.append_nil]
  | cons c rest ih =>
    have passed : (String.ofList (before ++ run ++ [c])).utf8ByteSize =
        (String.ofList (before ++ run)).utf8ByteSize + c.utf8Size := by
      rw [Text.utf8ByteSize_ofList_append, TextBuffer.utf8ByteSize_ofList_cons]
      rfl
    rw [Text.charOffsets, writeEscapedFrom, ← passed]
    cases found : Escape.entity? c with
    | none =>
      have cuts : Escape.cut run.reverse (c :: rest) = Escape.cut (run ++ [c]).reverse rest := by
        rw [Escape.cut_clean found, List.reverse_concat]
      have more := ih before (run ++ [c])
      rw [← List.append_assoc, List.append_assoc _ [c], List.singleton_append] at more
      rw [cuts, ← more]
    | some entity =>
      have cuts : Escape.cut run.reverse (c :: rest) =
          Escape.portion run ++ entity.toList :: Escape.cut [] rest := by
        rw [Escape.cut_special found, List.reverse_reverse]
      have more := ih (before ++ run ++ [c]) []
      rw [List.append_nil, List.append_assoc _ [c], List.singleton_append] at more
      rw [cuts, List.map_append, writeAll_append, ← writeSlice_run before run (c :: rest),
        List.map_cons, String.ofList_toList, writeAll]
      simp only [more, List.reverse_nil]
      split <;> rfl

theorem writeEscaped_eq (text : String) :
    (writeEscaped text : Action σ Unit) = writeAll (Escape.pieces text) := by
  have walked : (writeEscapedFrom _ _ _ : Action σ Unit) = _ :=
    writeEscapedFrom_eq [] [] text.toList
  rw [writeEscaped, Escape.pieces]
  simpa using walked

theorem writeEncoded_eq (encoding : Encoding) (text : String) :
    (writeEncoded encoding text : Action σ Unit) = writeAll (Escape.portions encoding text) := by
  cases encoding with
  | html => exact writeEscaped_eq text
  | raw => exact (bind_pure (write text)).symm

/-- The action hands over these texts in order, and nothing behind the first that is refused; with
that it fails. -/
def Sends (texts : List String) (act : Action σ Unit) : Prop :=
  ∀ s,
    (∃ s', Delivers texts s (.ok ()) s' ∧ act s = .done (.ok ()) s') ∨
      ∃ before text after s' e s'', texts = before ++ text :: after ∧
        Delivers before s (.ok ()) s' ∧ Destination.write text s' = (.error e, s'') ∧
        act s = .done (.failed e) s''

end Action

/-- The text that the sink refused comes behind those that it took. -/
theorem Delivers.refused_at [Destination σ] {texts : List String} {s s'' : σ} {e : RenderError}
    (delivers : Delivers texts s (.error e) s'') :
    ∃ before text after s', texts = before ++ text :: after ∧ Delivers before s (.ok ()) s' ∧
      Destination.write text s' = (.error e, s'') := by
  generalize failed : Except.error e = result at delivers
  induction delivers with
  | all s => cases failed
  | @next text rest s s' s'' result taken later ih =>
    obtain ⟨before, refused, after, t, rfl, first, last⟩ := ih failed
    exact ⟨text :: before, refused, after, t, rfl, .next taken first, last⟩
  | @refused text rest s s' e' refused =>
    cases failed
    exact ⟨[], text, rest, s, rfl, .all s, refused⟩

theorem Action.writeAll_sends [Destination σ] (texts : List String) :
    (writeAll texts : Action σ Unit).Sends texts := by
  intro s
  obtain ⟨result, s', delivers, ended⟩ := Delivers.exists_writeAll texts s
  cases result with
  | ok _ => exact .inl ⟨s', delivers, ended⟩
  | error e =>
    obtain ⟨before, text, after, t, whole, first, refused⟩ := delivers.refused_at
    exact .inr ⟨before, text, after, t, e, s', whole, first, refused, ended⟩

namespace Recorder

/-- What a recorder keeps of the texts that it takes. -/
def recording (r : Recorder) (texts : List String) : Recorder :=
  { r with
    writes := r.writes + texts.length
    taken := r.taken ++ texts.map fun text => (.sync, text) }

theorem writeAll_taken (texts more : List String) (r : Recorder)
    (taken : ∀ i < texts.length, r.writes + i ∉ r.refusals) :
    Action.writeAll (texts ++ more) r = Action.writeAll more (r.recording texts) := by
  induction texts generalizing r with
  | nil => simp [recording]
  | cons text texts ih =>
    have now : r.refusals.contains r.writes = false := by
      simpa using taken 0 (Nat.succ_pos _)
    have later : ∀ i < texts.length,
        (r.recording [text]).writes + i ∉ (r.recording [text]).refusals := by
      intro i bound
      have next := taken (i + 1) (Nat.succ_lt_succ bound)
      rwa [Nat.add_comm i 1, ← Nat.add_assoc] at next
    have recorded : (r.recording [text]).recording texts = r.recording (text :: texts) := by
      simp [recording, Nat.add_comm, Nat.add_left_comm]
    have first : Action.write text r = .done (.ok ()) (r.recording [text]) := by
      simp only [Action.write, Action.ofStep, Destination.write, take, now]
      rfl
    rw [← recorded, ← ih _ later]
    show (Action.write text r).bind _ = _
    rw [first]
    rfl

/-- Where a write is refused, the texts before it have been taken. -/
theorem writeAll_refused (texts : List String) (r : Recorder) (i : Nat) (bound : i < texts.length)
    (refused : r.writes + i ∈ r.refusals) (taken : ∀ j < i, r.writes + j ∉ r.refusals) :
    Action.writeAll texts r = .done (.failed (.output "sink failed"))
      { r.recording (texts.take i) with writes := r.writes + i + 1 } := by
  have length : (texts.take i).length = i := List.length_take_of_le (Nat.le_of_lt bound)
  have before := writeAll_taken (texts.take i) (texts.drop i) r (by rwa [length])
  have counted : (r.recording (texts.take i)).refusals.contains
      (r.recording (texts.take i)).writes = true := by
    simpa [recording, length] using refused
  rw [List.take_append_drop] at before
  rw [before, List.drop_eq_getElem_cons bound]
  show (Action.write texts[i] _).bind _ = _
  simp only [Action.write, Action.ofStep, Destination.write, take, counted]
  simp [recording, length, Run.bind]

end Recorder

/-- Escaping by copying, by handing over slices and by replacing characters one by one agree on
every text. Nothing is copied of a text without special characters. What is handed over are the
entities and the longest runs of other characters, in order and none of them empty; so no slice is
ever cut inside a character. Raw text is handed over whole. A sink that refuses one portion has taken
those before it, and gets no other. -/
theorem Action.writeEscaped_portions (text : String) :
    (∃ escaped, EscapedText.of? text = some escaped ∧ escaped.text = Escape.replaced text ∧
      (escaped.isBorrowed = true ↔ ∀ c ∈ text.toList, c ∉ Escape.entities.map Prod.fst)) ∧
    String.join (Escape.pieces text) = Escape.replaced text ∧
    (∀ before portion after, Escape.pieces text = before ++ portion :: after → portion ≠ "" ∧
      ∃ pre part post, text = String.ofList (pre ++ part ++ post) ∧
        String.join before = Escape.replaced (String.ofList pre) ∧
        String.join after = Escape.replaced (String.ofList post) ∧
        Escape.StandsFor pre part post portion) ∧
    (∀ (σ : Type) [Destination σ],
      (writeEscaped text : Action σ Unit).Sends (Escape.pieces text) ∧
      (writeEncoded .html text : Action σ Unit).Sends (Escape.pieces text) ∧
      (writeEncoded .raw text : Action σ Unit).Sends [text]) ∧
    ∀ r : Recorder,
      ((∀ i < (Escape.pieces text).length, r.writes + i ∉ r.refusals) →
        writeEscaped text r = .done (.ok ()) (r.recording (Escape.pieces text))) ∧
      ∀ i < (Escape.pieces text).length, r.writes + i ∈ r.refusals →
        (∀ j < i, r.writes + j ∉ r.refusals) →
        writeEscaped text r = .done (.failed (.output "sink failed"))
          { r.recording ((Escape.pieces text).take i) with writes := r.writes + i + 1 } := by
  refine ⟨?_, ?_, fun before portion after made => ?_, fun σ _ => ⟨?_, ?_, ?_⟩, fun r => ⟨?_, ?_⟩⟩
  · obtain ⟨escaped, made, shown⟩ := Option.map_eq_some_iff.mp (EscapedText.of?_text text)
    refine ⟨escaped, made, shown.trans (Escape.replaced_eq text).symm, ?_⟩
    obtain rfl := Option.some.inj (made.symm.trans (EscapedText.of?_eq text))
    have plain : Escape.isClean text = true ↔
        ∀ c ∈ text.toList, c ∉ Escape.entities.map Prod.fst := by
      simp [Escape.isClean, ← Escape.isSpecial_eq_true_iff]
    rw [← plain]
    cases Escape.isClean text <;> simp [EscapedText.isBorrowed]
  · rw [Escape.join_pieces, Escape.replaced_eq]
  · obtain ⟨pre, part, post, whole, first, last, stands⟩ :=
      Escape.cut_standsFor [] (by simp) made
    refine ⟨stands.ne_empty, pre, part, post, ?_, ?_, ?_, stands⟩
    · rw [← whole]
      simp
    · rw [first, Escape.replaced_eq]
    · rw [last, Escape.replaced_eq]
  · rw [writeEscaped_eq]
    exact writeAll_sends _
  · rw [writeEncoded_eq]
    exact writeAll_sends _
  · rw [writeEncoded_eq]
    exact writeAll_sends _
  · intro taken
    have sent := r.writeAll_taken (Escape.pieces text) [] taken
    rw [List.append_nil] at sent
    rw [writeEscaped_eq, sent]
    rfl
  · intro i bound refused taken
    rw [writeEscaped_eq, r.writeAll_refused _ i bound refused taken]

/-- The second of two adjacent entities is refused, between characters of two bytes. -/
theorem Action.writeEscaped_portions_umlautText :
    let r : Recorder := { refusals := [2] }
    (2 < (Escape.pieces "ü<&é").length ∧ 2 ∈ r.refusals ∧ ∀ j < 2, 0 + j ∉ r.refusals) ∧
      writeEscaped "ü<&é" r = .done (.failed (.output "sink failed"))
        { r with writes := 3, taken := [(.sync, "ü"), (.sync, "&lt;")] } := by
  intro r
  have bound : 2 < (Escape.pieces "ü<&é").length := by decide +kernel
  have refused : 0 + 2 ∈ r.refusals := by decide
  have taken : ∀ j < 2, 0 + j ∉ r.refusals := by decide
  obtain ⟨-, -, -, -, recorded⟩ := writeEscaped_portions "ü<&é"
  refine ⟨⟨bound, refused, taken⟩, ((recorded r).2 2 bound refused taken).trans ?_⟩
  have sent : (Escape.pieces "ü<&é").take 2 = ["ü", "&lt;"] := by decide +kernel
  rw [sent]
  rfl

end Templating
