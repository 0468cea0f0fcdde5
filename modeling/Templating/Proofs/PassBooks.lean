import Templating.Proofs.IssuedTexts

/-!
# The books of a pass

`Books` keeps account of the calls of a pass without any captures: the texts outside of sections,
the section that is open, the sections that are closed, and the layout. `Books.pass` is the pass
that they describe. It changes with its calls as the books do, and once a layout is chosen only
empty texts can have been issued to the sink.
-/

namespace Templating

variable {σ : Type}

/-- A call that was made, the texts that it issued, and how it ended. There is no outcome if the
call was given up. -/
structure Entry where
  call : Call
  texts : List String
  outcome? : Option (Outcome Reply)
  deriving DecidableEq

namespace Entry

def succeeded (e : Entry) : Bool :=
  match e.outcome? with
  | some o => o.isOk
  | none => false

def panicked (e : Entry) : Bool :=
  match e.outcome? with
  | some (.misused _) => true
  | _ => false

/-- The layout that the call chose. -/
def layout? (e : Entry) : Option String :=
  match e.call with
  | .setLayout name => if e.succeeded then some name else none
  | _ => none

end Entry

structure Books where
  /-- The texts that were issued while no section was open. -/
  outside : List String := []
  /-- Those of them that were issued before a layout was chosen. -/
  direct : List String := []
  /-- The section that is open, and what was issued in it. -/
  opened? : Option (String × String) := none
  /-- The latest section comes first. -/
  closed : List (String × String) := []
  layout? : Option String := none
  deriving DecidableEq, Repr

namespace Books

def mark (call : Call) (b : Books) : Books :=
  match call with
  | .setLayout name => { b with layout? := some name }
  | .beginSection name => { b with opened? := some (name, "") }
  | .endSection => { b with opened? := none, closed := b.opened?.toList ++ b.closed }
  | _ => b

def post (texts : List String) (b : Books) : Books :=
  match b.opened? with
  | some (name, text) => { b with opened? := some (name, text ++ String.join texts) }
  | none =>
    { b with
      outside := b.outside ++ texts
      direct := if b.layout? = none then b.direct ++ texts else b.direct }

def record (b : Books) (e : Entry) : Books :=
  (if e.succeeded then b.mark e.call else b).post e.texts

def ofHistory (history : List Entry) : Books :=
  history.foldl record {}

/-- What has to be captured, the innermost capture first. -/
def captures (b : Books) : List Capture :=
  (match b.opened? with
    | some (name, text) => [{ kind := .section name, text }]
    | none => []) ++
  if b.layout? = none then [] else [{ kind := .body, text := String.join b.outside }]

/-- The pass that the books describe. -/
def pass (config : Config) (writer : AttributeWriter) (input? : Option LayoutInput) (b : Books) :
    Pass where
  config
  writer
  captures := b.captures
  layout? := b.layout?
  sections := b.closed
  input?
  written := b.direct.any (!·.isEmpty)

/-- A layout is chosen only as long as nothing was issued to the sink. -/
structure Sound (b : Books) : Prop where
  undivided : b.layout? = none → b.outside = b.direct
  quiet : b.layout? ≠ none → ∀ text ∈ b.direct, text = ""

@[simp] theorem post_nil (b : Books) : b.post [] = b := by
  obtain ⟨outside, direct, open?, closed, layout?⟩ := b
  cases open? <;> simp [post]

theorem Sound.post {b : Books} (sound : b.Sound) (texts : List String) : (b.post texts).Sound := by
  obtain ⟨undivided, quiet⟩ := sound
  unfold Books.post
  split
  · exact ⟨undivided, quiet⟩
  · constructor
    · intro unchosen
      dsimp only at unchosen ⊢
      rw [if_pos unchosen, undivided unchosen]
    · intro chosen
      dsimp only at chosen ⊢
      rw [if_neg chosen]
      exact quiet chosen

/-- The pass takes the texts as the books do. -/
theorem takeAll_pass (config : Config) (writer : AttributeWriter) (input? : Option LayoutInput)
    (b : Books) (texts : List String) :
    (b.pass config writer input?).takeAll texts = (b.post texts).pass config writer input? := by
  cases opened : b.opened? with
  | some s =>
    have captured : (b.pass config writer input?).captures =
        { kind := .section s.1, text := s.2 } ::
          if b.layout? = none then [] else [{ kind := .body, text := String.join b.outside }] := by
      simp [Books.pass, Books.captures, opened]
    rw [Pass.takeAll_captured _ texts captured]
    simp [Books.pass, Books.captures, Books.post, opened]
  | none =>
    by_cases chosen : b.layout? = none
    · have direct : (b.pass config writer input?).captures = [] := by
        simp [Books.pass, Books.captures, opened, chosen]
      rw [Pass.takeAll_direct _ texts direct]
      simp [Books.pass, Books.captures, Books.post, opened, chosen]
    · have captured : (b.pass config writer input?).captures =
          [{ kind := .body, text := String.join b.outside }] := by
        simp [Books.pass, Books.captures, opened, chosen]
      rw [Pass.takeAll_captured _ texts captured]
      simp [Books.pass, Books.captures, Books.post, opened, chosen]

/-- What is posted to a frame is in its sink exactly if the books call it direct. -/
theorem direct_post (config : Config) (writer : AttributeWriter) (input? : Option LayoutInput)
    (b : Books) (texts : List String) :
    (b.post texts).direct =
      b.direct ++ if (b.pass config writer input?).captures = [] then texts else [] := by
  cases opened : b.opened? with
  | some s => simp [Books.pass, Books.captures, Books.post, opened]
  | none =>
    by_cases chosen : b.layout? = none <;>
      simp [Books.pass, Books.captures, Books.post, opened, chosen]

/-- A layout can be chosen while nothing but empty texts is in the sink. -/
theorem setLayout_pass {config : Config} {writer : AttributeWriter} {input? : Option LayoutInput}
    {b : Books} (sound : b.Sound) {name : String} {p : Pass}
    (chosen : (b.pass config writer input?).setLayout name = .ok p) :
    p = (b.mark (.setLayout name)).pass config writer input? ∧
      (b.mark (.setLayout name)).Sound := by
  unfold Pass.setLayout at chosen
  split at chosen
  · cases chosen
  · next unwritten =>
    have quiet : ∀ text ∈ b.direct, text = "" := by
      simpa [Books.pass] using unwritten
    refine ⟨?_, (fun unchosen => nomatch unchosen), fun _ => quiet⟩
    cases chosen
    by_cases again : b.layout? = none
    · have blank : String.join b.outside = "" := by
        rw [sound.undivided again]
        exact join_eq_empty quiet
      cases opened : b.opened? <;>
        simp [Books.pass, Books.captures, Books.mark, Pass.capturesBody, opened, again, blank]
    · cases opened : b.opened? <;>
        simp [Books.pass, Books.captures, Books.mark, Pass.capturesBody, opened, again]

theorem beginSection_pass {config : Config} {writer : AttributeWriter}
    {input? : Option LayoutInput} {b : Books} {name : String} {p : Pass}
    (begun : (b.pass config writer input?).beginSection name = .ok p) :
    p = (b.mark (.beginSection name)).pass config writer input? := by
  unfold Pass.beginSection at begun
  split at begun
  · cases begun
  · next unopened =>
    have closed : b.opened? = none := by
      cases opened : b.opened? with
      | none => rfl
      | some s => simp [Pass.openSection?, Books.pass, Books.captures, opened] at unopened
    split at begun
    · cases begun
    · cases begun
      simp [Books.pass, Books.captures, Books.mark, closed]
      rfl

theorem endSection_pass {config : Config} {writer : AttributeWriter}
    {input? : Option LayoutInput} {b : Books} {o : Outcome Unit} {p : Pass}
    (ended : (b.pass config writer input?).endSection = (o, p)) :
    (∃ m, o = .misused m) ∨
      o = .ok () ∧ p = (b.mark .endSection).pass config writer input? := by
  cases opened : b.opened? with
  | some s =>
    simp only [Pass.endSection, Books.pass, Books.captures, opened, List.cons_append,
      Prod.mk.injEq] at ended
    obtain ⟨rfl, rfl⟩ := ended
    exact .inr ⟨rfl, by simp [Books.pass, Books.captures, Books.mark, opened]⟩
  | none =>
    refine .inl ?_
    by_cases chosen : b.layout? = none
    · simp only [Pass.endSection, Books.pass, Books.captures, opened, if_pos chosen,
        List.append_nil, Prod.mk.injEq] at ended
      exact ⟨_, ended.1.symm⟩
    · simp only [Pass.endSection, Books.pass, Books.captures, opened, if_neg chosen,
        List.nil_append, Prod.mk.injEq] at ended
      exact ⟨_, ended.1.symm⟩

theorem record_layout? (b : Books) (e : Entry) :
    (b.record e).layout? = e.layout?.or b.layout? := by
  have posted : ∀ (b : Books) texts, (b.post texts).layout? = b.layout? := by
    intro b texts
    unfold Books.post
    split <;> rfl
  rw [Books.record, posted, Entry.layout?]
  cases e.succeeded with
  | false => cases e.call <;> rfl
  | true => cases e.call <;> rfl

/-- The layout that counts is the last one that was chosen. -/
theorem ofHistory_layout? (history : List Entry) :
    (ofHistory history).layout? = (history.filterMap Entry.layout?).getLast? := by
  have later : ∀ b : Books, (history.foldl record b).layout? =
      (history.filterMap Entry.layout?).getLast?.or b.layout? := by
    induction history with
    | nil => intro b; rfl
    | cons e rest ih =>
      intro b
      rw [List.foldl_cons, ih, record_layout?]
      cases chosen : e.layout? with
      | none => simp [chosen]
      | some name =>
        rw [List.filterMap_cons_some chosen, List.getLast?_cons]
        cases (rest.filterMap Entry.layout?).getLast? <;> rfl
  rw [ofHistory, later, Option.or_none]

end Books

end Templating
