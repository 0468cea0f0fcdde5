import Templating.Proofs.CancelledRenders
import Templating.Proofs.ComposedText
import Templating.Proofs.SinkCalls

/-!
# The buffer of a template

A template may be rendered again and again, into its own buffer or elsewhere, and its buffer may be
written to and cleared in between. Whatever was done, its buffer holds what was appended since it
was cleared last: what was pushed, and of every render into it the texts that the render issued, as
far as it came. Those texts are the same for every history (`Template.own_buffer`).
-/

namespace Templating

variable {σ : Type}

/-- The texts that a render issues in so many polls to memory that was empty. -/
def Blueprint.issuedTexts (catalog : Catalog) (depth : Nat) (b : Blueprint)
    (allowed : Option Nat) (polls : Nat) : List String :=
  ((b.renderCancellable catalog depth allowed).drive polls
    ({ sink := {} } : Logged TextBuffer)).state.texts

namespace Template

/-- Renders into a sink of the caller. -/
def renderTo [Destination σ] (catalog : Catalog) (depth : Nat) (allowed : Option Nat) :
    Action (Template × σ) Unit := fun (t, sink) =>
  (t.blueprint.renderTo catalog depth allowed sink).recast (t, ·) fun o _ => o

/-- What may be done to a template. A render is polled so often and then dropped if it has not
ended; its caller may cancel it once `allowed` polls were started. -/
inductive Operation : Type 1 where
  | push (text : String)
  | clear
  | render (allowed : Option Nat) (polls : Nat)
  | renderTo {σ : Type} [Destination σ] (sink : σ) (allowed : Option Nat) (polls : Nat)

namespace Operation

def clears : Operation → Bool
  | clear => true
  | _ => false

def perform (catalog : Catalog) (depth : Nat) : Operation → Template → Template
  | push text, t => t.pushOutput text
  | clear, t => t.clearOutput
  | render allowed polls, t => ((Template.render catalog depth allowed).drive polls t).state
  | renderTo sink allowed polls, t =>
    ((Template.renderTo catalog depth allowed).drive polls (t, sink)).state.1

/-- The texts that the operation appends to the buffer of a template that is made so. -/
def texts (catalog : Catalog) (depth : Nat) (b : Blueprint) : Operation → List String
  | push text => [text]
  | render allowed polls => b.issuedTexts catalog depth allowed polls
  | clear | renderTo .. => []

end Operation

/-- The template when all this was done to it. -/
def after (catalog : Catalog) (depth : Nat) (t : Template) (history : List Operation) : Template :=
  history.foldl (fun t operation => operation.perform catalog depth t) t

end Template

namespace Blueprint

variable (catalog : Catalog) (depth : Nat) (b : Blueprint) (allowed : Option Nat) (polls : Nat)

/-- What memory held before makes no difference to what is issued to it. -/
theorem issuedTexts_seeded (t : TextBuffer) :
    ((b.renderCancellable catalog depth allowed).drive polls
        ({ sink := t } : Logged TextBuffer)).state.texts =
      b.issuedTexts catalog depth allowed polls := by
  cases polls with
  | zero => rfl
  | succ more =>
    have follows := renderCancellable_follows (c := (TextBuffer.seeded t.text).logged) id
      (TextBuffer.seeded_respects t.text).logged catalog depth b allowed
    have start : (TextBuffer.seeded t.text).logged.now { sink := {} } { sink := t } :=
      ⟨rfl, String.append_empty.symm⟩
    exact (((follows.run start).drive id more).2.1).symm

/-- A render into memory appends the texts that it issues, and ends as it does if the memory was
empty. -/
theorem drive_renderCancellable_buffer (t : TextBuffer) :
    let d := (b.renderCancellable catalog depth allowed).drive polls t
    d.state = t.push (String.join (b.issuedTexts catalog depth allowed polls)) ∧
      d.outcome? =
        ((b.renderCancellable catalog depth allowed).drive polls ({} : TextBuffer)).outcome? := by
  intro d
  cases polls with
  | zero => exact ⟨(TextBuffer.push_empty t).symm, rfl⟩
  | succ more =>
    have fresh := renderCancellable_follows id (TextBuffer.seeded_respects t.text) catalog depth b
      allowed
    have log := renderCancellable_follows id (TextBuffer.logged_respects t.text) catalog depth b
      allowed
    have seeded : (TextBuffer.seeded t.text).now {} t := String.append_empty.symm
    have logged : (TextBuffer.logged t.text).now t { sink := t } := ⟨rfl, String.append_empty.symm⟩
    have text : d.state.text = t.text ++ String.join _ := ((log.run logged).drive id more).2.2
    have issued := b.issuedTexts_seeded catalog depth allowed (more + 1) t
    refine ⟨congrArg TextBuffer.mk (text.trans ?_), ((fresh.run seeded).drive id more).1.symm⟩
    rw [← issued]
    rfl

/-- A render into memory that succeeds issues all of its text, cancellable or not. -/
theorem issuedTexts_whole
    (ok : ((b.renderCancellable catalog depth allowed).drive polls ({} : TextBuffer)).outcome? =
      some (.ok ())) :
    String.join (b.issuedTexts catalog depth allowed polls) = b.memoryText catalog depth ∧
      ((b.renderTo catalog depth none).await ({} : TextBuffer)).outcome? = some (.ok ()) := by
  let free := (b.renderCancellable catalog depth none).drive polls ({} : TextBuffer)
  have same : (b.renderCancellable catalog depth allowed).drive polls ({} : TextBuffer) = free := by
    cases allowed with
    | none => rfl
    | some k =>
      have cut := b.drive_renderCancellable_some catalog depth ({} : TextBuffer) k polls
      rw [cut] at ok ⊢
      dsimp only at ok ⊢
      split
      · rfl
      · next stopped =>
        rw [if_neg stopped] at ok
        cases ok
  have ended : free.outcome? = some (.ok ()) := same ▸ ok
  have text := (b.drive_renderCancellable_buffer catalog depth allowed polls {}).1
  rw [same] at text
  cases polls with
  | zero => cases ended
  | succ more =>
    have awaited : (b.renderCancellable catalog depth none).await ({} : TextBuffer) = free :=
      Run.await_of_ended fun unfinished => nomatch unfinished.symm.trans ended
    have whole : ((b.renderTo catalog depth none).drive (more + 1) ({} : TextBuffer)).outcome? =
        some (.ok ()) :=
      (drive_renderTo_ok (fun _ => rfl) catalog depth b none (more + 1) ({} : TextBuffer)).mpr
        ⟨ended, rfl⟩
    refine ⟨?_, ?_⟩
    · rw [memoryText, await_renderTo_memory, awaited, text, TextBuffer.push_text,
        String.empty_append]
    · refine Eq.trans (congrArg Driven.outcome? ?_) whole
      exact Run.await_of_ended fun unfinished => nomatch unfinished.symm.trans whole

end Blueprint

namespace Template

/-- However a render into the own buffer ends, it has appended what it issued; if it succeeds, that
is its result. -/
theorem drive_render (catalog : Catalog) (depth : Nat) (allowed : Option Nat) (polls : Nat)
    (t : Template) :
    let appended := String.join (t.blueprint.issuedTexts catalog depth allowed polls)
    let fresh := (t.blueprint.renderCancellable catalog depth allowed).drive polls ({} : TextBuffer)
    let d := (render catalog depth allowed).drive polls t
    d.state = t.pushOutput appended ∧
      d.outcome? = fresh.outcome?.map fun o => o.map fun _ => appended := by
  intro appended fresh d
  obtain ⟨state, outcome⟩ :=
    t.blueprint.drive_renderCancellable_buffer catalog depth allowed polls t.output
  have encloses := t.render_encloses catalog depth allowed
  constructor
  case left =>
    have left := encloses.state_eq id (fun o output => by rw [Blueprint.closeBuffer_state]) polls
    rw [state] at left
    exact left
  case right =>
    cases ended : fresh.outcome? with
    | none => exact (encloses.of_none (outcome.trans ended)).2.2
    | some o =>
      have answer := (encloses.of_some (outcome.trans ended)).1
      rw [state, Blueprint.closeBuffer_push] at answer
      exact answer

/-- Rendering elsewhere leaves the template as it is. -/
theorem drive_renderTo [Destination σ] (catalog : Catalog) (depth : Nat) (allowed : Option Nat)
    (polls : Nat) (t : Template) (sink : σ) :
    ((renderTo catalog depth allowed).drive polls (t, sink)).state.1 = t := by
  cases polls with
  | zero => rfl
  | succ more =>
    have recast := Run.drive_recast (t.blueprint.renderTo catalog depth allowed sink) (t, ·)
      (fun o _ => o) more
    exact congrArg (·.state.1) recast

variable (catalog : Catalog) (depth : Nat)

/-- An operation that does not clear the buffer appends its texts to it. -/
theorem Operation.perform_eq (o : Operation) (t : Template) :
    o.perform catalog depth t =
      if o.clears then t.clearOutput
      else t.pushOutput (String.join (o.texts catalog depth t.blueprint)) := by
  cases o with
  | push text =>
    have single : String.join [text] = text := by
      rw [String.join_cons, String.join_nil, String.append_empty]
    exact congrArg t.pushOutput single.symm
  | clear => rfl
  | render allowed polls => exact (drive_render catalog depth allowed polls t).1
  | renderTo sink allowed polls =>
    exact (drive_renderTo catalog depth allowed polls t sink).trans
      (congrArg (Template.mk t.blueprint) (TextBuffer.push_empty t.output).symm)

theorem after_blueprint (t : Template) (history : List Operation) :
    (t.after catalog depth history).blueprint = t.blueprint := by
  induction history generalizing t with
  | nil => rfl
  | cons o history ih =>
    have step : (o.perform catalog depth t).blueprint = t.blueprint := by
      rw [o.perform_eq]
      split <;> rfl
    exact (ih _).trans step

/-- What is not cleared is kept: the operations append their texts, one after the other. -/
theorem after_pushes (t : Template) (history : List Operation)
    (kept : ∀ o ∈ history, o.clears = false) :
    t.after catalog depth history =
      t.pushOutput (String.join (history.flatMap (·.texts catalog depth t.blueprint))) := by
  induction history generalizing t with
  | nil => exact congrArg (Template.mk t.blueprint) (TextBuffer.push_empty t.output).symm
  | cons o history ih =>
    have step : o.perform catalog depth t = t.pushOutput _ :=
      (o.perform_eq catalog depth t).trans (if_neg (by simp [kept o List.mem_cons_self]))
    have rest := ih (o.perform catalog depth t) fun o' later =>
      kept o' (List.mem_cons_of_mem o later)
    rw [List.flatMap_cons, String.join_append]
    refine rest.trans ?_
    rw [step]
    exact congrArg (Template.mk t.blueprint) (TextBuffer.push_push ..)

/-- What a render into the own buffer shows, which is `t.output` when it starts: `b` is rendered, it
is cancelled once `allowed` polls were started, and dropped after `polls` polls. -/
structure Appends (b : Blueprint) (allowed : Option Nat) (polls : Nat) (t : Template)
    (d : Driven Template String) : Prop where
  /-- The texts that reach the buffer are those that reach any other. -/
  issued :
    ((b.renderCancellable catalog depth allowed).drive polls
      ({ sink := t.output } : Logged TextBuffer)).state.texts =
        b.issuedTexts catalog depth allowed polls
  /-- They are appended, and nothing is removed. -/
  appended :
    d.state = t.pushOutput (String.join (b.issuedTexts catalog depth allowed polls))
  /-- The offset where the render started is a position of the text. -/
  sliced :
    d.state.output.since? t.output.length =
      some (String.join (b.issuedTexts catalog depth allowed polls))
  /-- The render ends as it does in an empty buffer, with what it appended as its value. -/
  answered :
    d.outcome? =
      ((b.renderCancellable catalog depth allowed).drive polls ({} : TextBuffer)).outcome?.map
        fun o => o.map fun _ => String.join (b.issuedTexts catalog depth allowed polls)
  /-- That is what a render to memory delivers, which succeeds too. -/
  whole : ∀ text, d.outcome? = some (.ok text) →
    d.state.output = t.output.push text ∧ text = b.memoryText catalog depth ∧
      ((b.renderTo catalog depth none).await ({} : TextBuffer)).outcome? = some (.ok ())

theorem drive_render_appends (allowed : Option Nat) (polls : Nat) (t : Template) :
    Appends catalog depth t.blueprint allowed polls t
      ((render catalog depth allowed).drive polls t) := by
  obtain ⟨state, outcome⟩ := drive_render catalog depth allowed polls t
  refine ⟨t.blueprint.issuedTexts_seeded catalog depth allowed polls t.output, state, ?_, outcome,
    fun text ok => ?_⟩
  · rw [state]
    exact t.output.since?_push _
  · obtain ⟨o, ended, mapped⟩ := Option.map_eq_some_iff.mp (outcome.symm.trans ok)
    cases o with
    | ok _ =>
      obtain ⟨joined, delivered⟩ :=
        t.blueprint.issuedTexts_whole catalog depth allowed polls ended
      cases mapped
      exact ⟨congrArg Template.output state, joined, delivered⟩
    | _ => cases mapped

/-- Whatever was done to a template, a render into its buffer appends the texts that it issues,
which depend neither on the buffer nor on what was done before. If it succeeds they are its result,
and all that a render delivers to empty memory. Nothing but clearing removes text from the buffer,
and rendering elsewhere leaves the template as it is. -/
theorem own_buffer (t₀ : Template) (history : List Operation) :
    let t := t₀.after catalog depth history
    t.blueprint = t₀.blueprint ∧
      (∀ later : List Operation, (∀ o ∈ later, o.clears = false) →
        t.after catalog depth later =
          t.pushOutput (String.join (later.flatMap (·.texts catalog depth t₀.blueprint)))) ∧
      (t.after catalog depth [.clear]).output = {} ∧
      (∀ allowed polls, Appends catalog depth t₀.blueprint allowed polls t
        ((render catalog depth allowed).drive polls t)) ∧
      (∀ allowed, ∃ polls,
        let awaited := (render catalog depth allowed).await t
        let d := (render catalog depth allowed).drive polls t
        awaited.state = d.state ∧ awaited.outcome? = d.outcome?) ∧
      ∀ (σ : Type) [Destination σ] (sink : σ) allowed,
        (∀ polls, ((renderTo catalog depth allowed).drive polls (t, sink)).state.1 = t) ∧
          ((renderTo catalog depth allowed).await (t, sink)).state.1 = t := by
  intro t
  have made : t.blueprint = t₀.blueprint := t₀.after_blueprint catalog depth history
  rw [← made]
  refine ⟨rfl, fun later => t.after_pushes catalog depth later, rfl, fun allowed polls => ?_,
    fun allowed => ?_, fun σ _ sink allowed => ?_⟩
  · exact drive_render_appends catalog depth allowed polls t
  · obtain ⟨more, state, outcome⟩ := (render catalog depth allowed t).exists_drive_await
    exact ⟨more + 1, state.symm, outcome.symm⟩
  · have stays := fun polls => drive_renderTo catalog depth allowed polls t sink
    obtain ⟨more, state, -⟩ := (renderTo catalog depth allowed (t, sink)).exists_drive_await
    exact ⟨stays, (congrArg Prod.fst state).symm.trans (stays (more + 1))⟩

/-- A page of two-byte letters that waits between them. -/
def umlautPage : Blueprint :=
  { body := { name := "page", steps := [{ call := .literal "ü" }, { call := .wait 1 },
      { call := .literal "ö" }] } }

/-- Behind what was pushed after clearing, a render that is dropped leaves its first letter, and so
does one that is cancelled; the last one returns both letters. -/
theorem own_buffer_umlautPage :
    let catalog : Catalog := fun _ => umlautPage
    let t₀ : Template := { blueprint := umlautPage, output := { text := "old" } }
    let history : List Operation := [.render none 2, .clear, .push "ß"]
    let later : List Operation := [.render none 1, .renderTo ({} : TextBuffer) none 2,
      .render (some 1) 2]
    let t := t₀.after catalog 1 (history ++ later)
    let d := (render catalog 1 none).drive 2 t
    (∀ o ∈ later, o.clears = false) ∧ t.output.text = "ßüü" ∧ d.outcome? = some (.ok "üö") ∧
      d.state.output.text = "ßüüüö" := by
  intro catalog t₀ history later t d
  have kept : ∀ o ∈ later, o.clears = false := by
    simp [later, Operation.clears]
  have cleared : (t₀.after catalog 1 history).output.text = "ß" := by decide +kernel
  obtain ⟨-, pushes, -⟩ := own_buffer catalog 1 t₀ history
  have issued : String.join (later.flatMap (·.texts catalog 1 t₀.blueprint)) = "üü" := by
    decide +kernel
  have before : t.output.text = "ßüü" := by
    have joined : t = (t₀.after catalog 1 history).after catalog 1 later := List.foldl_append
    rw [joined, pushes later kept, issued, pushOutput, TextBuffer.push_text, cleared]
    rfl
  obtain ⟨-, -, -, appends, -⟩ := own_buffer catalog 1 t₀ (history ++ later)
  have last : Appends catalog 1 t₀.blueprint none 2 t d := appends none 2
  have ended : d.outcome? = some (.ok "üö") := last.answered.trans (by decide +kernel)
  refine ⟨kept, before, ended, ?_⟩
  rw [(last.whole "üö" ended).1, TextBuffer.push_text, before]
  rfl

end Template

end Templating
