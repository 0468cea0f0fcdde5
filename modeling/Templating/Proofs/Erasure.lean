import Templating.Proofs.BodyHistory
import Templating.Proofs.Completion
import Templating.Proofs.Renders

/-!
# Templates that never wait

`Catalog.erase` takes everything asynchronous out of the bodies of a catalog: asynchronous calls
are replaced by those that do not wait, and flushes and waits are left out. If an execution
completes and no step fails in it, the execution of what is left comes to the same end at once
(`execute_erases`), on any destination that takes at once what the other one takes in the end.
-/

namespace Templating

variable {σ τ σ' τ' α β : Type}

/-- What is left of a call without anything asynchronous, if anything is. -/
def Call.erase? : Call → Option Call
  | literalAsync text => some (.literal text)
  | templateAsync name => some (.write (.template name))
  | flush | wait _ | stall => none
  | call => some call

def Step.erase? (step : Step) : Option Step :=
  step.call.erase?.map fun call => { step with call }

def Body.erase (body : Body) : Body :=
  { body with steps := body.steps.filterMap Step.erase? }

def Blueprint.erase (b : Blueprint) : Blueprint :=
  { b with body := b.body.erase }

def Catalog.erase (catalog : Catalog) : Catalog := fun name =>
  (catalog name).erase

/-- Whenever `act` completes and no step fails in it, `ref` comes to the same end at once. Unless
`whole`, that is said of ends with a value only. -/
structure Action.Erases (whole : Prop) (c : Coupling σ τ) (act : Action σ α) (ref : Action τ α) :
    Prop where
  brings : ∀ {s t}, c.now s t → ∀ {o s'}, (act s).Completes o s' → whole ∨ o.isOk = true →
    ∃ t', (ref t).Gives o t' ∧ c.now s' t'

namespace Action.Erases

variable {whole : Prop} {c : Coupling σ τ} {act : Action σ α} {ref : Action τ α}

theorem conclude (o : Outcome α) : Erases whole c (conclude o) (conclude o) := by
  constructor
  rintro s t same _ _ ⟨rfl, rfl⟩ -
  exact ⟨t, ⟨rfl, rfl⟩, same⟩

theorem pure (a : α) : Erases whole c (pure a) (pure a) :=
  conclude (.ok a)

theorem fail (e : RenderError) : Erases whole c (fail e : Action σ α) (fail e) :=
  conclude (.failed e)

theorem log (entry : LogEntry) : Erases whole c (log entry) (log entry) := by
  constructor
  rintro s t same _ _ ⟨-, rfl, rfl⟩ -
  exact ⟨t, ⟨rfl, rfl⟩, same⟩

theorem read {f : σ → α} {g : τ → α} (same : ∀ s t, c.now s t → f s = g t) :
    Erases whole c (read f) (read g) := by
  constructor
  rintro s t here _ _ ⟨rfl, rfl⟩ -
  exact ⟨t, ⟨congrArg Outcome.ok (same s t here).symm, rfl⟩, here⟩

theorem update {f : σ → σ} {g : τ → τ} (now : ∀ s t, c.now s t → c.now (f s) (g t)) :
    Erases whole c (update f) (update g) := by
  constructor
  rintro s t here _ _ ⟨rfl, rfl⟩ -
  exact ⟨g t, ⟨rfl, rfl⟩, now s t here⟩

theorem bind {next : α → Action σ β} {next' : α → Action τ β} (h : Erases whole c act ref)
    (hn : ∀ a, Erases whole c (next a) (next' a)) :
    Erases whole c (act >>= next) (ref >>= next') := by
  constructor
  intro s t same o s' completes compared
  rcases completes.of_bind with ⟨a, s₁, value, later⟩ | ⟨halted, ended, passed⟩
  · obtain ⟨t₁, gives, same₁⟩ := h.brings same value (.inr rfl)
    obtain ⟨t', gives', same'⟩ := (hn a).brings same₁ later compared
    exact ⟨t', gives.bind gives', same'⟩
  · have failing : o.isOk = false := Outcome.not_isOk_of_passOn? passed
    have all : whole := compared.resolve_right (by simp [failing])
    obtain ⟨t', gives, same'⟩ := h.brings same ended (.inl all)
    exact ⟨t', gives.bind_passOn passed, same'⟩

theorem unit {act : Action σ Unit} {ref : Action τ Unit} (h : Erases whole c act ref) :
    Erases whole c act.unit ref.unit :=
  .bind h fun _ => .pure Reply.unit

theorem compositional : Compositional fun _ => Erases whole c :=
  ⟨fun o _ => conclude o, log, bind⟩

/-- What counts as a whole counts for its values. -/
theorem values (h : Erases True c act ref) : Erases whole c act ref :=
  ⟨fun same _ _ completes _ => h.brings same completes (.inl trivial)⟩

/-- Actions on parts of two states, performed within the whole. The parts are coupled by `d`. -/
theorem focus {d : Coupling σ' τ'} {part : Action σ' α} {part' : Action τ' α}
    {enter : σ → σ'} {leave : σ → σ' → σ} {enter' : τ → τ'} {leave' : τ → τ' → τ}
    (h : Erases whole d part part') (enters : ∀ s t, c.now s t → d.now (enter s) (enter' t))
    (leaves : ∀ s t x y, c.now s t → d.now x y → c.now (leave s x) (leave' t y)) :
    Erases whole c (fun s => (part (enter s)).recast (leave s) fun o _ => o)
      (fun t => (part' (enter' t)).recast (leave' t) fun o _ => o) := by
  constructor
  intro s t same o s' completes compared
  obtain ⟨o, x, value, rfl, rfl⟩ := completes.of_recast
  obtain ⟨y, gives, same'⟩ := h.brings (enters s t same) value compared
  exact ⟨leave' t y, gives.recast, leaves s t x y same same'⟩

/-- A first poll that brings a value is the whole run. -/
theorem firstPoll (h : Erases whole c act ref) : Erases False c act.firstPoll ref.firstPoll := by
  constructor
  intro s t same o s' completes compared
  cases o with
  | ok a =>
    obtain ⟨t', gives, same'⟩ := h.brings same completes.of_firstPoll (.inr rfl)
    exact ⟨t', gives.firstPoll, same'⟩
  | _ => rcases compared with ⟨⟨⟩⟩ | ⟨⟨⟩⟩

theorem firstPoll_right (h : Erases whole c act ref) : Erases whole c act ref.firstPoll := by
  constructor
  intro s t same o s' completes compared
  obtain ⟨t', gives, same'⟩ := h.brings same completes compared
  exact ⟨t', gives.firstPoll, same'⟩

end Action.Erases

namespace Coupling

/-- The one destination comes in the end to what the other one comes to at once. -/
structure Hastens [Destination σ] [Destination τ] (c : Coupling σ τ) : Prop where
  write : ∀ text, Action.Erases False c (Action.write text) (Action.write text)
  writeAsync : ∀ text, Action.Erases False c (Action.writeAsync text) (Action.write text)
  flush : Action.Erases True c Action.flush (pure ())

namespace Hastens

variable {c : Coupling σ τ}

/-- What a frame hands on to its sink unless it captures. -/
private theorem handsOn {all : Prop} {act : Action σ Unit} {ref : Action τ Unit}
    (h : Action.Erases all c act ref) {whole : Action (Frame σ) Unit}
    {whole' : Action (Frame τ) Unit} (put : Frame σ → σ → Frame σ) (put' : Frame τ → τ → Frame τ)
    (direct : ∀ f, f.pass.captures = [] →
      whole f = (act f.task.sink).recast (put f) fun o _ => o)
    (direct' : ∀ g, g.pass.captures = [] →
      whole' g = (ref g.task.sink).recast (put' g) fun o _ => o)
    (captured : ∀ f, f.pass.captures ≠ [] → whole f = .done (.ok ()) (put f f.task.sink))
    (captured' : ∀ g, g.pass.captures ≠ [] → whole' g = .done (.ok ()) (put' g g.task.sink))
    (puts : ∀ f g s t, c.frame.now f g → c.now s t → c.frame.now (put f s) (put' g t)) :
    Action.Erases all c.frame whole whole' := by
  constructor
  intro f g same o f' completes compared
  by_cases empty : g.pass.captures = []
  · rw [direct f (same.1 ▸ empty)] at completes
    obtain ⟨o, s, value, rfl, rfl⟩ := completes.of_recast
    obtain ⟨t, gives, here⟩ := h.brings same.2.2 value compared
    rw [direct' g empty]
    exact ⟨put' g t, gives.recast, puts f g s t same here⟩
  · rw [captured f (same.1 ▸ empty)] at completes
    obtain ⟨rfl, rfl⟩ := completes
    rw [captured' g empty]
    exact ⟨_, ⟨rfl, rfl⟩, puts f g _ _ same same.2.2⟩

theorem frame [Destination σ] [Destination τ] (hastens : c.Hastens) : c.frame.Hastens where
  write text :=
    handsOn (hastens.write text) _ _ (Frame.write_direct · text) (Frame.write_direct · text)
      (Frame.write_captured · text) (Frame.write_captured · text)
      fun _ _ _ _ same here => ⟨congrArg (Pass.take · text) same.1, same.2.1, here⟩
  writeAsync text :=
    handsOn (hastens.writeAsync text) _ _ (Frame.writeAsync_direct · text)
      (Frame.write_direct · text) (Frame.writeAsync_captured · text)
      (Frame.write_captured · text)
      fun _ _ _ _ same here => ⟨congrArg (Pass.take · text) same.1, same.2.1, here⟩
  flush :=
    handsOn hastens.flush Frame.withSink Frame.withSink Frame.flush_direct
      (fun _ _ => rfl) Frame.flush_captured (fun _ _ => rfl)
      fun _ _ _ _ same here => ⟨same.1, same.2.1, here⟩

end Hastens

end Coupling

namespace TextBuffer

/-- Memory over memory that lacks what was in the first before. -/
def beyond (before : String) : Coupling TextBuffer TextBuffer where
  now b b' := b.text = before ++ b'.text
  past _ _ := True
  lossy := False
  now_past _ _ _ := trivial

theorem beyond_hastens (before : String) : (beyond before).Hastens where
  write text := .update fun _ _ same => push_behind same text
  writeAsync text := .update fun _ _ same => push_behind same text
  flush := .pure ()

end TextBuffer

/-- What a template is rendered to by `nesting` it is rendered to at once by `nesting'`. -/
def Nesting.Erases (nesting nesting' : Nesting) : Prop :=
  ∀ {σ τ : Type} [Destination σ] [Destination τ] {c : Coupling σ τ}, c.Hastens →
    ∀ name, Action.Erases True c (nesting name σ) (nesting' name τ)

namespace Action.Erases

variable {whole : Prop} {c : Coupling σ τ}

/-- What is rendered to memory leaves the states around it alone. -/
theorem inMemory {act ref : Action TextBuffer Unit}
    (h : Erases whole (TextBuffer.beyond "") act ref) :
    Erases whole c act.inMemory ref.inMemory := by
  constructor
  intro s t same o s' completes compared
  obtain ⟨o, b, value, rfl, rfl⟩ := completes.of_recast
  have compared : whole ∨ o.isOk = true := compared.imp id fun ok => by
    cases o with
    | ok _ => rfl
    | _ => exact ok
  obtain ⟨b', gives, text⟩ := @h.brings {} {} rfl _ _ value compared
  have text : b.text = b'.text := text.trans (String.empty_append ..)
  rw [text]
  exact ⟨t, gives.recast, same⟩

theorem change (f : Pass → Outcome Pass) :
    Erases whole c.frame (Frame.change f) (Frame.change f) := by
  constructor
  rintro x y same o x' completes -
  unfold Frame.change at completes ⊢
  rw [same.1] at completes
  cases changed : f y.pass with
  | ok pass =>
    rw [changed] at completes
    obtain ⟨rfl, rfl⟩ := completes
    exact ⟨_, ⟨rfl, rfl⟩, rfl, same.2⟩
  | _ =>
    rw [changed] at completes
    obtain ⟨rfl, rfl⟩ := completes
    exact ⟨_, ⟨rfl, rfl⟩, same⟩

theorem endSection : Erases whole c.frame Frame.endSection Frame.endSection := by
  constructor
  rintro f g same o f' completes -
  unfold Frame.endSection at completes ⊢
  rw [same.1] at completes
  obtain ⟨rfl, rfl⟩ := completes
  exact ⟨_, ⟨rfl, rfl⟩, rfl, same.2⟩

variable [Destination σ] [Destination τ]

variable {nesting nesting' : Nesting}

/-- What is left of a call writes at once what the call writes. -/
theorem output (hastens : c.Hastens) (nested : nesting.Erases nesting') (p : Pass)
    {call call' : Call} (left : call.erase? = some call') :
    Erases False c (call.output nesting p) (call'.output nesting' p) := by
  cases call with
  | literalAsync text =>
    cases left
    refine .unit ?_
    split
    · exact .pure ()
    · exact hastens.writeAsync text
  | templateAsync name =>
    cases left
    exact .unit (nested hastens name).values.firstPoll_right
  | write v =>
    cases left
    exact .unit (compositional.value hastens.write nesting nesting'
      (fun name => (nested hastens name).firstPoll) _ v)
  | flush | wait _ | stall => cases left
  | _ =>
    cases left
    exact compositional.output_of_writesTexts hastens.write nesting nesting' p rfl

omit [Destination σ] [Destination τ] in
theorem resolve (nested : nesting.Erases nesting') (value : Value) :
    Erases False c (value.resolve nesting) (value.resolve nesting') := by
  have memory := TextBuffer.beyond_hastens ""
  cases value with
  | plain text? => exact .pure (MarkedText.dynamic text?)
  | safe text => exact .pure (MarkedText.raw text)
  | encoded content =>
    exact .bind (.inMemory (compositional.content memory.write nesting nesting'
      (fun name => (nested memory name).firstPoll) content)) fun text => .pure (MarkedText.raw text)
  | template name =>
    exact .bind (.inMemory (nested memory name).firstPoll) fun text =>
      .pure (MarkedText.raw text)

/-- What is left of a call does at once what the call does. -/
theorem perform (hastens : c.Hastens) (nested : nesting.Erases nesting') {call call' : Call}
    (left : call.erase? = some call') :
    Erases False c.frame (call.perform nesting) (call'.perform nesting') := by
  by_cases writing : call.writes = true
  · have kept : call'.writes = call.writes ∧ ∀ p : Pass, call'.prepare p = call.prepare p := by
      cases call <;> cases left <;> exact ⟨rfl, fun _ => rfl⟩
    constructor
    intro f g same o f' completes compared
    rw [Call.perform_output nesting call f writing] at completes
    rw [Call.perform_output nesting' call' g (kept.1.trans writing), kept.2, ← same.1]
    have prepared : c.frame.now { f with pass := call.prepare f.pass }
        { g with pass := call.prepare f.pass } := ⟨rfl, same.2⟩
    exact (output hastens.frame nested f.pass left).brings prepared completes compared
  · cases call with
    | beginAttribute head =>
      cases left
      exact .unit (.change _)
    | attributeValue head value =>
      cases left
      exact .unit (.bind (.resolve nested value) fun value => .change _)
    | setLayout name =>
      cases left
      exact .unit (.change _)
    | beginSection name =>
      cases left
      exact .unit (.change _)
    | endSection =>
      cases left
      exact .unit .endSection
    | isSectionDefined name =>
      cases left
      exact .read fun f g same => by rw [same.1]
    | encoding =>
      cases left
      exact .read fun f g same => by rw [same.1]
    | config =>
      cases left
      exact .read fun f g same => by rw [same.1]
    | cancel =>
      cases left
      exact .unit (.update fun f g same => ⟨same.1, rfl, same.2.2⟩)
    | isCancelled =>
      cases left
      exact .read fun f g same => by rw [same.2.1]
    | ensureNotCancelled =>
      cases left
      refine .unit (.bind (.read fun f g same => same.2.1) fun cancelled => ?_)
      split
      · exact .fail _
      · exact .pure ()
    | fail error =>
      cases left
      exact .fail error
    | _ => first | exact absurd rfl writing | cases left

end Action.Erases

namespace Step

variable [Destination σ] {nesting nesting' : Nesting}

/-- A step in which nothing fails was skipped, or its call succeeded. -/
theorem completes_cases {template : String} {position : Nat} {step : Step} {f f' : Frame σ}
    {o : Outcome Unit} (completes : (step.run nesting template position f).Completes o f') :
    o = .ok () ∧ (step.isSkipped f.pass = true ∧ f' = f ∨
      step.isSkipped f.pass = false ∧
        ∃ reply, (step.call.perform nesting f).Completes (.ok reply) f') := by
  cases skipped : step.isSkipped f.pass with
  | true =>
    rw [step.run_skipped template position f skipped] at completes
    obtain ⟨-, rfl, rfl⟩ := completes
    exact ⟨rfl, .inl ⟨rfl, rfl⟩⟩
  | false =>
    rw [step.run_needed nesting template position f skipped] at completes
    rcases completes.of_bind with ⟨outcome, f₁, attempted, ended⟩ | ⟨halted, attempted, passed⟩
    · obtain ⟨_, _, made, ⟨⟩, rfl⟩ := attempted.of_recast
      obtain ⟨succeeded, left⟩ := ended
      cases outcome with
      | ok reply =>
        obtain ⟨rfl, rfl⟩ := left
        exact ⟨rfl, .inr ⟨rfl, reply, made⟩⟩
      | _ => cases succeeded
    · obtain ⟨_, _, -, rfl, -⟩ := attempted.of_recast
      cases passed

theorem gives_of_skipped (template : String) (position : Nat) {step : Step} {f : Frame σ}
    (skipped : step.isSkipped f.pass = true) :
    (step.run nesting template position f).Gives (.ok ()) f := by
  rw [step.run_skipped template position f skipped]
  exact ⟨rfl, rfl⟩

theorem gives_of_call (template : String) (position : Nat) {step : Step} {f f' : Frame σ}
    {reply : Reply} (needed : step.isSkipped f.pass = false)
    (made : (step.call.perform nesting f).Gives (.ok reply) f') :
    (step.run nesting template position f).Gives (.ok ()) f' := by
  rw [step.run_needed nesting template position f needed]
  exact Run.Gives.bind (made.recast) ⟨rfl, rfl⟩

variable [Destination τ] {c : Coupling σ τ}

/-- A call of which nothing is left changed nothing, if it succeeded. -/
theorem stays_of_erased (hastens : c.Hastens) {call : Call} (left : call.erase? = none)
    {f f' : Frame σ} {g : Frame τ} {reply : Reply} (same : c.frame.now f g)
    (completes : (call.perform nesting f).Completes (.ok reply) f') : c.frame.now f' g := by
  have alone : ∀ {act : Action (Frame σ) Unit},
      (act.unit f).Completes (.ok reply) f' → (act f).Completes (.ok ()) f' := by
    intro act completes
    rcases completes.of_bind with ⟨_, _, value, -, rfl⟩ | ⟨halted, -, passed⟩
    · exact value
    · cases halted <;> cases passed
  cases call with
  | flush =>
    obtain ⟨_, ⟨-, rfl⟩, here⟩ := hastens.frame.flush.brings same (alone completes) (.inl trivial)
    exact here
  | wait polls =>
    have waited : ∀ polls, (Action.wait polls f).Completes (.ok ()) f' → f' = f := by
      intro polls
      induction polls with
      | zero => exact fun ended => ended.2.symm
      | succ polls ih => exact ih
    rw [waited polls (alone completes)]
    exact same
  | stall => exact (alone completes).elim
  | _ => cases left

/-- Of a step in which nothing fails, what is left comes to the same end. -/
theorem runAll_erases (hastens : c.Hastens) (nested : nesting.Erases nesting') (template : String)
    (position position' : Nat) (steps : List Step) :
    Action.Erases True c.frame (runAll nesting template position steps)
      (runAll nesting' template position' (steps.filterMap erase?)) := by
  induction steps generalizing position position' with
  | nil => exact .pure ()
  | cons step rest ih =>
    constructor
    intro f g same o f' completes _
    rcases completes.of_bind with ⟨_, f₁, made, later⟩ | ⟨halted, made, passed⟩
    · obtain ⟨-, played⟩ := completes_cases made
      cases left : step.call.erase? with
      | none =>
        have deleted : step.erase? = none := by rw [erase?, left, Option.map_none]
        rw [List.filterMap_cons_none deleted]
        have here : c.frame.now f₁ g := by
          rcases played with ⟨-, rfl⟩ | ⟨-, reply, made⟩
          · exact same
          · exact stays_of_erased hastens left same made
        exact (ih (position + 1) position').brings here later (.inl trivial)
      | some call =>
        have replaced : step.erase? = some { step with call } := by
          rw [erase?, left, Option.map_some]
        have skips : ({ step with call } : Step).isSkipped g.pass = step.isSkipped f.pass := by
          rw [← same.1]
          rfl
        rw [List.filterMap_cons_some replaced]
        have gives : ∃ g₁,
            (run nesting' template position' { step with call } g).Gives (.ok ()) g₁ ∧
              c.frame.now f₁ g₁ := by
          rcases played with ⟨skipped, rfl⟩ | ⟨needed, reply, made⟩
          · exact ⟨g, gives_of_skipped template position' (skips.trans skipped), same⟩
          · obtain ⟨g₁, made', here⟩ :=
              (Action.Erases.perform hastens nested left).brings same made (.inr rfl)
            exact ⟨g₁, gives_of_call template position' (skips.trans needed) made', here⟩
        obtain ⟨g₁, made', here⟩ := gives
        obtain ⟨g', later', there⟩ :=
          (ih (position + 1) (position' + 1)).brings here later (.inl trivial)
        exact ⟨g', made'.bind later', there⟩
    · obtain ⟨rfl, -⟩ := completes_cases made
      cases passed

end Step

namespace Action.Erases

variable {whole : Prop} {c : Coupling σ τ}

theorem finish : Erases whole c.frame Frame.finish Frame.finish := by
  refine .bind (.read fun f g same => same.1) fun pass => ?_
  split
  · exact .conclude _
  · split
    · exact .bind (.log _) fun _ => .pure pass.next?
    · exact .pure pass.next?

theorem isolate {act : Action (Task σ) α} {ref : Action (Task τ) α}
    (h : Erases whole c.task act ref) : Erases whole c (Task.isolate act) (Task.isolate ref) :=
  h.focus (fun _ _ same => ⟨rfl, same⟩) fun _ _ _ _ _ same => same.2

theorem enter {act : Action (Frame σ) α} {ref : Action (Frame τ) α} (pass : Pass)
    (h : Erases whole c.frame act ref) :
    Erases whole c.task (Task.enter pass act) (Task.enter pass ref) :=
  h.focus (fun _ _ same => ⟨rfl, same⟩) fun _ _ _ _ _ same => same.2

end Action.Erases

/-- An execution that completes comes to what its templates come to without anything asynchronous,
and those come there at once. -/
theorem execute_erases (catalog : Catalog) (depth : Nat) {σ τ : Type} [Destination σ]
    [Destination τ] {c : Coupling σ τ} (hastens : c.Hastens) (config : Config) (body : Body)
    (input? : Option LayoutInput) :
    Action.Erases True c.task (execute catalog depth config body input?)
      (execute catalog.erase depth config body.erase input?) := by
  induction depth generalizing σ τ config body input? with
  | zero => exact .conclude .tooDeep
  | succ depth ih =>
    rw [execute_succ, execute_succ]
    have nested : (catalog.nesting depth).Erases (catalog.erase.nesting depth) :=
      fun hastens name => .isolate (ih hastens _ _ none)
    refine .bind (.enter _ (.bind ?_ fun _ => .finish)) fun next? => ?_
    · exact Step.runAll_erases hastens nested body.name 0 0 body.steps
    · cases next? with
      | none => exact .pure ()
      | some next => exact .bind (.log _) fun _ => ih hastens config _ _

end Templating
