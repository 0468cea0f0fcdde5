import Mathlib.Data.List.Induction
import Templating.Proofs.Composition
import Templating.Proofs.Polls

/-!
# Attributes, call by call

An attribute writer may be called in any order, and goes on after a call that does not fit, which
is a misuse and changes nothing. Whatever the order, an attribute that is closed is what was added
since it was started (`AttributeOutput.pending_eq_some_iff`), and it is written whole, in portions
up to the first that the sink refuses, or left out whole (`AttributeOutput.protocol_after`).
Unless the writer is strict, names and offsets have no part in it, and of the count that was
declared it only matters whether there is room for so many fragments: if not, nothing is opened,
and what is meant for the attribute does not fit either (`AttributeOutput.declared_decides`).
-/

namespace Templating

variable {σ : Type}

/-- An attribute writer, and the sink that closed attributes are written to. -/
@[ext]
structure AttributeOutput (σ : Type) where
  writer : AttributeWriter
  sink : σ

inductive AttributeCall where
  | start (head : AttributeHead)
  | add (fragment : Fragment)
  | close (encoding : Encoding)

def Outcome.ofExcept {α : Type} : Except RenderError α → Outcome α
  | .ok a => ok a
  | .error e => failed e

namespace AttributeCall

def closes : AttributeCall → Bool
  | close _ => true
  | _ => false

def fragment? : AttributeCall → Option Fragment
  | add fragment => some fragment
  | _ => none

/-- Changes the writer, unless the call does not fit. -/
def change (f : AttributeWriter → Except Misuse AttributeWriter) :
    Action (AttributeOutput σ) Reply := fun s =>
  match f s.writer with
  | .ok writer => .done (.ok .unit) { s with writer }
  | .error m => .done (.misused m) s

/-- Closing answers whether the attribute was written. -/
def perform [Destination σ] : AttributeCall → Action (AttributeOutput σ) Reply
  | start head => change (·.start head)
  | add fragment => change (·.add fragment)
  | close encoding => fun s =>
    (s.writer.close.1.write encoding s.sink).recast
      (fun sink => { writer := s.writer.close.2, sink }) fun o _ => o.map .flag

end AttributeCall

namespace AttributeOutput

variable [Destination σ]

/-- What the calls leave, each made whatever became of those before. -/
def after (s : AttributeOutput σ) (calls : List AttributeCall) : AttributeOutput σ :=
  calls.foldl (fun s call => (call.perform s).await.state) s

/-- How the calls end. -/
def outcomes (s : AttributeOutput σ) : List AttributeCall → List (Option (Outcome Reply))
  | [] => []
  | call :: rest =>
    let made := (call.perform s).await
    made.outcome? :: outcomes made.state rest

theorem after_append (s : AttributeOutput σ) (calls later : List AttributeCall) :
    s.after (calls ++ later) = (s.after calls).after later :=
  List.foldl_append

end AttributeOutput

/-- The texts were handed to the sink in order, up to the first that it refused. -/
inductive Delivers [Destination σ] : List String → σ → Except RenderError Unit → σ → Prop
  | all (s : σ) : Delivers [] s (.ok ()) s
  | next {text : String} {rest : List String} {s s' s'' : σ} {result : Except RenderError Unit}
      (taken : Destination.write text s = (.ok (), s')) (later : Delivers rest s' result s'') :
      Delivers (text :: rest) s result s''
  | refused {text : String} {rest : List String} {s s' : σ} {e : RenderError}
      (refused : Destination.write text s = (.error e, s')) :
      Delivers (text :: rest) s (.error e) s'

namespace Delivers

variable [Destination σ]

theorem exists_writeAll (texts : List String) (s : σ) :
    ∃ result s', Delivers texts s result s' ∧
      Action.writeAll texts s = .done (.ofExcept result) s' := by
  induction texts generalizing s with
  | nil => exact ⟨.ok (), s, .all s, rfl⟩
  | cons text rest ih =>
    have written : Action.writeAll (text :: rest) s =
        (Action.write text s).bind fun _ => Action.writeAll rest := rfl
    rw [written, Action.write, Action.ofStep]
    cases answer : Destination.write text s with
    | mk result s' =>
      cases result with
      | ok _ =>
        obtain ⟨result, s'', later, ended⟩ := ih s'
        exact ⟨result, s'', .next answer later, ended⟩
      | error e => exact ⟨.error e, s', .refused answer, rfl⟩

theorem unique {texts : List String} {s s' t : σ} {result other : Except RenderError Unit}
    (first : Delivers texts s result s') (second : Delivers texts s other t) :
    result = other ∧ s' = t := by
  induction first with
  | all s =>
    cases second
    exact ⟨rfl, rfl⟩
  | next taken later ih =>
    cases second with
    | next again more =>
      obtain ⟨-, rfl⟩ := Prod.mk.inj (taken.symm.trans again)
      exact ih more
    | refused refused => cases taken.symm.trans refused
  | refused refused =>
    cases second with
    | next taken more => cases refused.symm.trans taken
    | refused again =>
      obtain ⟨same, rfl⟩ := Prod.mk.inj (refused.symm.trans again)
      exact ⟨same, rfl⟩

end Delivers

namespace Closing

variable [Destination σ]

theorem await_leftOut (a : Attribute) (encoding : Encoding) (s : σ) :
    ((leftOut a).write encoding s).await.outcome? = some (.ok false) ∧
      ((leftOut a).write encoding s).await.state = s ∧
      ((leftOut a).write encoding s).pauses = [] := by
  cases miscounted : a.miscounted <;> simp only [write, reportCount, miscounted] <;>
    exact ⟨rfl, rfl, rfl⟩

theorem await_written (a : Attribute) (encoding : Encoding) (s : σ) :
    ((written a).write encoding s).pauses = [] ∧
      ∃ result s', Delivers (a.portions encoding) s result s' ∧
        ((written a).write encoding s).await.outcome? =
          some (.ofExcept (result.map fun _ => true)) ∧
        ((written a).write encoding s).await.state = s' := by
  obtain ⟨result, s', delivers, ended⟩ := Delivers.exists_writeAll (a.portions encoding) s
  let close (s : σ) : Run σ Bool :=
    (Action.writeAll (a.portions encoding) s).bind fun _ s => .done (.ok true) s
  have closed : (close s).pauses = [] ∧
      (close s).await.outcome? = some (.ofExcept (result.map fun _ => true)) ∧
      (close s).await.state = s' := by
    simp only [close, ended]
    cases result <;> exact ⟨rfl, rfl, rfl⟩
  have counted : ((written a).write encoding s).pauses = (close s).pauses ∧
      ((written a).write encoding s).await.outcome? = (close s).await.outcome? ∧
      ((written a).write encoding s).await.state = (close s).await.state := by
    cases miscounted : a.miscounted <;> simp only [write, reportCount, miscounted] <;>
      exact ⟨rfl, rfl, rfl⟩
  obtain ⟨pauses, outcome, state⟩ := counted
  rw [pauses, outcome, state]
  exact ⟨closed.1, result, s', delivers, closed.2⟩

end Closing

/-- The fragment is a dynamic value that is missing or empty. -/
def Fragment.IsVoid (f : Fragment) : Prop :=
  f.head.literal = false ∧ (f.value.text? = none ∨ f.value.text? = some "")

namespace Attribute

/-- The attribute has fragments, and all of them are void. -/
def IsVoid (a : Attribute) : Prop :=
  a.fragments ≠ [] ∧ ∀ f ∈ a.fragments, f.IsVoid

theorem isWritten_eq_false_iff (a : Attribute) : a.isWritten = false ↔ a.IsVoid := by
  have void : ∀ f : Fragment, f.isPresent = false ↔ f.IsVoid := by
    intro f
    unfold Fragment.isPresent Fragment.IsVoid MarkedText.isAbsent MarkedText.text
    cases f.value.text? <;> simp
  unfold isWritten IsVoid
  simp [void]

/-- Only a strict writer minds the count that was declared. -/
def IsRefused (a : Attribute) (strict : Bool) : Prop :=
  strict = true ∧ a.fragments.length ≠ a.head.declared

/-- How closing the attribute ends: it is refused for its count, left out, or delivered. -/
structure Closes [Destination σ] (a : Attribute) (strict : Bool) (encoding : Encoding) (s : σ)
    (outcome? : Option (Outcome Reply)) (s' : σ) : Prop where
  refused : (∃ m, outcome? = some (.misused m)) ↔ a.IsRefused strict
  leftOut : outcome? = some (.ok (.flag false)) ↔ ¬ a.IsRefused strict ∧ a.IsVoid
  silent : a.IsRefused strict ∨ a.IsVoid → s' = s
  delivered : ¬ a.IsRefused strict → ¬ a.IsVoid →
    ∃ result, Delivers (a.portions encoding) s result s' ∧
      outcome? = some (.ofExcept (result.map fun _ => .flag true))

theorem close_closes [Destination σ] (a : Attribute) (strict : Bool) (encoding : Encoding)
    (s : σ) :
    let made := ((AttributeWriter.close { strict, pending := some a }).1.write encoding s)
    made.pauses = [] ∧ a.Closes strict encoding s
      (made.await.outcome?.map fun o => o.map .flag) made.await.state := by
  have counted : a.miscounted = true ↔ a.fragments.length ≠ a.head.declared := by
    simp [miscounted]
  by_cases misused : (strict && a.miscounted) = true
  · have refused : a.IsRefused strict := by
      rw [IsRefused, ← counted]
      simpa using misused
    simp only [AttributeWriter.close, misused, if_true]
    refine ⟨rfl, ⟨fun _ => refused, fun _ => ⟨_, rfl⟩⟩, ?_, fun _ => rfl, ?_⟩
    · exact ⟨nofun, fun ⟨allowed, _⟩ => absurd refused allowed⟩
    · exact fun allowed => absurd refused allowed
  · have allowed : ¬ a.IsRefused strict := by
      rw [IsRefused, ← counted]
      simpa using misused
    simp only [AttributeWriter.close, misused, if_false, Bool.false_eq_true]
    cases written : a.isWritten with
    | false =>
      have void := a.isWritten_eq_false_iff.1 written
      obtain ⟨outcome, state, pauses⟩ := Closing.await_leftOut a encoding s
      simp only [Bool.false_eq_true, if_false, outcome, state]
      refine ⟨pauses, ⟨nofun, fun refused => absurd refused allowed⟩, ?_, fun _ => rfl, ?_⟩
      · exact ⟨fun _ => ⟨allowed, void⟩, fun _ => rfl⟩
      · exact fun _ shown => absurd void shown
    | true =>
      have shown : ¬ a.IsVoid := by
        rw [← a.isWritten_eq_false_iff, written]
        exact Bool.noConfusion
      obtain ⟨pauses, result, s', delivers, outcome, state⟩ := Closing.await_written a encoding s
      simp only [if_true, outcome, state]
      refine ⟨pauses, ⟨?_, fun refused => absurd refused allowed⟩,
        ⟨?_, fun left => absurd left.2 shown⟩, ?_, fun _ _ => ⟨result, delivers, ?_⟩⟩
      · rintro ⟨m, misused⟩
        cases result <;> cases misused
      · intro left
        cases result <;> cases left
      · exact fun silent => absurd silent (not_or.2 ⟨allowed, shown⟩)
      · cases result <;> rfl

end Attribute

namespace AttributeCall

variable [Destination σ] {s : AttributeOutput σ}

theorem perform_start_closed {head : AttributeHead} (closed : s.writer.pending = none)
    (room : head.hasRoom = true) :
    (start head).perform s =
      .done (.ok .unit) { s with writer := { s.writer with pending := some { head } } } := by
  simp [perform, change, AttributeWriter.start, closed, room]

theorem perform_start_noRoom {head : AttributeHead} (closed : s.writer.pending = none)
    (full : head.hasRoom = false) :
    (start head).perform s = .done (.misused .noRoom) s := by
  simp [perform, change, AttributeWriter.start, closed, full]

theorem perform_start_open (head : AttributeHead) {a : Attribute}
    (opened : s.writer.pending = some a) :
    (start head).perform s = .done (.misused (.attributeStillOpen head.name a.head.name)) s := by
  simp [perform, change, AttributeWriter.start, opened]

theorem perform_add_closed (f : Fragment) (closed : s.writer.pending = none) :
    (add f).perform s = .done (.misused .fragmentWithoutAttribute) s := by
  simp [perform, change, AttributeWriter.add, closed]

theorem perform_add_open (f : Fragment) {a : Attribute} (opened : s.writer.pending = some a) :
    (add f).perform s = .done (.ok .unit) { s with
      writer := { s.writer with pending := some { a with fragments := a.fragments ++ [f] } } } := by
  simp [perform, change, AttributeWriter.add, opened]

theorem perform_close_closed (encoding : Encoding) (closed : s.writer.pending = none) :
    (close encoding).perform s = .done (.misused .endWithoutAttribute) s := by
  obtain ⟨⟨strict, pending⟩, sink⟩ := s
  obtain rfl : pending = none := closed
  rfl

theorem perform_close_open {a : Attribute} (encoding : Encoding)
    (opened : s.writer.pending = some a) :
    let made := (close encoding).perform s
    made.pauses = [] ∧ made.await.state.writer = { strict := s.writer.strict, pending := none } ∧
      a.Closes s.writer.strict encoding s.sink made.await.outcome? made.await.state.sink := by
  have writer : s.writer = { strict := s.writer.strict, pending := some a } := by
    rw [← opened]
  have closes := a.close_closes s.writer.strict encoding s.sink
  rw [← writer] at closes
  obtain ⟨pauses, closes⟩ := closes
  obtain ⟨state, outcome⟩ := Run.await_recast (s.writer.close.1.write encoding s.sink)
    (fun sink => ({ writer := s.writer.close.2, sink } : AttributeOutput σ))
    fun o _ => o.map Reply.flag
  intro made
  rw [show made.await.state = _ from state, show made.await.outcome? = _ from outcome]
  refine ⟨?_, s.writer.close_snd, closes⟩
  show (Run.recast _ _ _).pauses = []
  rw [Run.pauses_recast, pauses, List.map_nil]

/-- Whether the call is to open an attribute with more fragments than there is room for. -/
def lacksRoom (pending? : Option Attribute) : AttributeCall → Bool
  | start head => pending?.isNone && !head.hasRoom
  | _ => false

theorem hasRoom_of_closed {head : AttributeHead} (room : (start head).lacksRoom none = false) :
    head.hasRoom = true := by
  simpa [lacksRoom] using room

theorem perform_lacksRoom {call : AttributeCall}
    (lacks : call.lacksRoom s.writer.pending = true) :
    call.perform s = .done (.misused .noRoom) s := by
  cases call with
  | start head =>
    simp only [lacksRoom, Bool.and_eq_true, Option.isNone_iff_eq_none, Bool.not_eq_true'] at lacks
    exact perform_start_noRoom lacks.1 lacks.2
  | add f => cases lacks
  | close encoding => cases lacks

/-- The open attribute after the call, if there was `pending?` before. -/
def pending (pending? : Option Attribute) : AttributeCall → Option Attribute
  | start head => pending?.or (if head.hasRoom then some { head } else none)
  | add f => pending?.map fun a => { a with fragments := a.fragments ++ [f] }
  | close _ => none

theorem perform_writer (call : AttributeCall) (s : AttributeOutput σ) :
    (call.perform s).await.state.writer =
      { s.writer with pending := call.pending s.writer.pending } := by
  obtain ⟨⟨strict, pending?⟩, sink⟩ := s
  cases pending? with
  | none =>
    cases call with
    | start head =>
      simp only [perform, change, AttributeWriter.start, pending]
      cases head.hasRoom <;> rfl
    | add f => rfl
    | close encoding => rfl
  | some a =>
    cases call with
    | start head => rfl
    | add f => rfl
    | close encoding => exact (perform_close_open encoding rfl).2.1

end AttributeCall

namespace AttributeOutput

variable [Destination σ]

theorem after_concat_writer (s : AttributeOutput σ) (calls : List AttributeCall)
    (call : AttributeCall) :
    (s.after (calls ++ [call])).writer =
      { (s.after calls).writer with pending := call.pending (s.after calls).writer.pending } := by
  rw [s.after_append]
  exact call.perform_writer (s.after calls)

theorem after_strict (s : AttributeOutput σ) (calls : List AttributeCall) :
    (s.after calls).writer.strict = s.writer.strict := by
  induction calls using List.reverseRecOn with
  | nil => rfl
  | append_singleton calls call ih => rw [after_concat_writer, ih]

/-- While nothing is closed, the open attribute collects the fragments. -/
theorem pending_after_during {s : AttributeOutput σ} {a : Attribute}
    (opened : s.writer.pending = some a) {during : List AttributeCall}
    (unclosed : ∀ call ∈ during, call.closes = false) :
    (s.after during).writer.pending =
      some { a with fragments := a.fragments ++ during.filterMap AttributeCall.fragment? } := by
  induction during using List.reverseRecOn with
  | nil => simpa [after] using opened
  | append_singleton during call ih =>
    rw [List.forall_mem_append, List.forall_mem_singleton] at unclosed
    rw [after_concat_writer, ih unclosed.1]
    cases call with
    | start head => simp [AttributeCall.pending, AttributeCall.fragment?]
    | add f => simp [AttributeCall.pending, AttributeCall.fragment?]
    | close encoding => cases unclosed.2

/-- The attribute was started on the closed writer, which had room for it, nothing was closed since,
and its fragments are those of the calls since. -/
structure StartedIn (s : AttributeOutput σ) (calls earlier during : List AttributeCall)
    (a : Attribute) : Prop where
  history : calls = earlier ++ .start a.head :: during
  closed : (s.after earlier).writer.pending = none
  room : a.head.hasRoom = true
  unclosed : ∀ call ∈ during, call.closes = false
  collected : a.fragments = during.filterMap AttributeCall.fragment?

/-- A call that closes nothing leaves the attribute open, with the fragment that it adds. -/
theorem StartedIn.concat {s : AttributeOutput σ} {calls earlier during : List AttributeCall}
    {a : Attribute} (started : s.StartedIn calls earlier during a) {call : AttributeCall}
    (unclosed : call.closes = false) :
    s.StartedIn (calls ++ [call]) earlier (during ++ [call])
      { a with fragments := a.fragments ++ call.fragment?.toList } where
  history := by simp [started.history]
  closed := started.closed
  room := started.room
  unclosed := by simpa [or_imp, forall_and, unclosed] using started.unclosed
  collected := by cases found : call.fragment? <;> simp [started.collected, found]

/-- An open attribute holds what was added since it was started, and nothing of other attributes. -/
theorem pending_eq_some_iff {s : AttributeOutput σ} (fresh : s.writer.pending = none)
    (calls : List AttributeCall) (a : Attribute) :
    (s.after calls).writer.pending = some a ↔
      ∃ earlier during, s.StartedIn calls earlier during a := by
  constructor
  · -- By the last call: it starts the attribute, or it was open before.
    intro opened
    induction calls using List.reverseRecOn generalizing a with
    | nil => cases fresh.symm.trans opened
    | append_singleton calls call ih =>
      rw [after_concat_writer] at opened
      cases pending : (s.after calls).writer.pending with
      | none =>
        rw [pending] at opened
        cases call with
        | start head =>
          obtain ⟨room, rfl⟩ : head.hasRoom = true ∧ { head } = a := by
            simpa [AttributeCall.pending] using opened
          exact ⟨calls, [], rfl, pending, room, nofun, rfl⟩
        | add f => cases opened
        | close encoding => cases opened
      | some b =>
        obtain ⟨earlier, during, started⟩ := ih b pending
        rw [pending] at opened
        cases call with
        | start head =>
          obtain rfl := Option.some.inj opened
          have unclosed : (AttributeCall.start head).closes = false := rfl
          refine ⟨earlier, during ++ [.start head], ?_⟩
          simpa [AttributeCall.fragment?] using started.concat unclosed
        | add f =>
          obtain rfl := Option.some.inj opened
          exact ⟨earlier, during ++ [.add f], started.concat rfl⟩
        | close encoding => cases opened
  · rintro ⟨earlier, during, history, closed, room, unclosed, collected⟩
    have started : (s.after (earlier ++ [.start a.head])).writer.pending =
        some { head := a.head } := by
      rw [after_concat_writer, closed]
      simp only [AttributeCall.pending, room, if_true, Option.none_or]
    have opened := pending_after_during started unclosed
    rw [← s.after_append, List.append_assoc, List.singleton_append, ← history] at opened
    simpa [← collected] using opened

end AttributeOutput

/-- What a caller that catches misuses sees; one misuse is as another to it. -/
def Outcome.caught {α : Type} : Outcome α → Option (Except RenderError α)
  | ok a => some (.ok a)
  | failed e => some (.error e)
  | misused _ | tooDeep => none

/-! What is bare has neither names nor offsets, and declares no count. -/

def FragmentHead.bare (h : FragmentHead) : FragmentHead where
  lead := h.lead
  literal := h.literal

def Fragment.bare (f : Fragment) : Fragment where
  head := f.head.bare
  value := f.value

def AttributeHead.bare (h : AttributeHead) : AttributeHead where
  name := ""
  opening := h.opening
  closing := h.closing

def Attribute.bare (a : Attribute) : Attribute where
  head := a.head.bare
  fragments := a.fragments.map Fragment.bare

def AttributeCall.bare : AttributeCall → AttributeCall
  | start head => start head.bare
  | add f => add f.bare
  | close encoding => close encoding

def AttributeOutput.bare (s : AttributeOutput σ) : AttributeOutput σ :=
  { s with writer := { s.writer with pending := s.writer.pending.map Attribute.bare } }

namespace Attribute

theorem bare_portions (a : Attribute) (encoding : Encoding) :
    a.bare.portions encoding = a.portions encoding := by
  simp only [portions, bare, List.flatMap_map]
  rfl

theorem bare_isVoid (a : Attribute) : a.bare.IsVoid ↔ a.IsVoid := by
  simp only [IsVoid, bare, ne_eq, List.map_eq_nil_iff, List.forall_mem_map]
  rfl

/-- A lenient writer closes the attribute as it closes the bare one. -/
theorem Closes.bare [Destination σ] {a : Attribute} {encoding : Encoding} {s s' s'' : σ}
    {o? o'? : Option (Outcome Reply)} (closes : a.Closes false encoding s o? s')
    (bared : a.bare.Closes false encoding s o'? s'') : o? = o'? ∧ s' = s'' := by
  have lenient : ∀ a : Attribute, ¬ a.IsRefused false := fun _ refused => nomatch refused.1
  by_cases void : a.IsVoid
  · have void' := a.bare_isVoid.2 void
    rw [closes.leftOut.2 ⟨lenient a, void⟩, bared.leftOut.2 ⟨lenient a.bare, void'⟩]
    exact ⟨rfl, (closes.silent (.inr void)).trans (bared.silent (.inr void')).symm⟩
  · obtain ⟨result, delivers, outcome⟩ := closes.delivered (lenient a) void
    obtain ⟨result', delivers', outcome'⟩ :=
      bared.delivered (lenient a.bare) fun void' => void (a.bare_isVoid.1 void')
    rw [a.bare_portions] at delivers'
    obtain ⟨rfl, rfl⟩ := delivers.unique delivers'
    exact ⟨outcome.trans outcome'.symm, rfl⟩

end Attribute

namespace AttributeCall

variable [Destination σ]

theorem pending_bare {call : AttributeCall} {pending? : Option Attribute}
    (room : call.lacksRoom pending? = false) :
    call.bare.pending (pending?.map Attribute.bare) =
      (call.pending pending?).map Attribute.bare := by
  cases call with
  | start head =>
    cases pending? with
    | none =>
      simp only [pending, hasRoom_of_closed room]
      rfl
    | some a => rfl
  | add f => cases pending? <;> simp [bare, pending, Attribute.bare]
  | close encoding => rfl

/-- A lenient writer makes the call as it makes the bare one, unless the call lacks room; the bare
one never does. -/
theorem perform_bare {call : AttributeCall} {s : AttributeOutput σ}
    (lenient : s.writer.strict = false) (room : call.lacksRoom s.writer.pending = false) :
    (call.bare.perform s.bare).await.state = (call.perform s).await.state.bare ∧
      (call.bare.perform s.bare).await.outcome?.map Outcome.caught =
        (call.perform s).await.outcome?.map Outcome.caught := by
  have writers : (call.bare.perform s.bare).await.state.writer =
      (call.perform s).await.state.bare.writer := by
    simp only [AttributeOutput.bare, perform_writer, pending_bare room]
  suffices ended : (call.bare.perform s.bare).await.state.sink = (call.perform s).await.state.sink ∧
      (call.bare.perform s.bare).await.outcome?.map Outcome.caught =
        (call.perform s).await.outcome?.map Outcome.caught from
    ⟨AttributeOutput.ext writers ended.1, ended.2⟩
  obtain ⟨⟨strict, pending?⟩, sink⟩ := s
  obtain rfl : strict = false := lenient
  cases pending? with
  | none =>
    cases call with
    | start head =>
      simp only [perform, change, AttributeWriter.start, hasRoom_of_closed room]
      exact ⟨rfl, rfl⟩
    | add f => exact ⟨rfl, rfl⟩
    | close encoding => exact ⟨rfl, rfl⟩
  | some a =>
    cases call with
    | start head => exact ⟨rfl, rfl⟩
    | add f => exact ⟨rfl, rfl⟩
    | close encoding =>
      let s : AttributeOutput σ := ⟨⟨false, some a⟩, sink⟩
      obtain ⟨-, -, closes⟩ := perform_close_open (s := s) encoding rfl
      obtain ⟨-, -, bared⟩ := perform_close_open (s := s.bare) encoding rfl
      obtain ⟨outcomes, sinks⟩ := closes.bare bared
      exact ⟨sinks.symm, congrArg _ outcomes.symm⟩

/-- Two calls that are the same when they are bare, made where there is room for both or for
neither, leave the same and end alike. -/
theorem perform_alike {call other : AttributeCall} {s t : AttributeOutput σ}
    (lenient : s.writer.strict = false) (lenient' : t.writer.strict = false)
    (states : t.bare = s.bare) (calls : other.bare = call.bare)
    (rooms : other.lacksRoom t.writer.pending = call.lacksRoom s.writer.pending) :
    (other.perform t).await.state.bare = (call.perform s).await.state.bare ∧
      (other.perform t).await.outcome?.map Outcome.caught =
        (call.perform s).await.outcome?.map Outcome.caught := by
  cases lacks : call.lacksRoom s.writer.pending with
  | true =>
    rw [perform_lacksRoom lacks, perform_lacksRoom (rooms.trans lacks)]
    exact ⟨states, rfl⟩
  | false =>
    obtain ⟨state, outcome⟩ := perform_bare lenient lacks
    obtain ⟨state', outcome'⟩ := perform_bare lenient' (rooms.trans lacks)
    rw [calls, states] at state' outcome'
    exact ⟨state'.symm.trans state, outcome'.symm.trans outcome⟩

end AttributeCall

namespace AttributeOutput

variable [Destination σ]

/-- Which of the calls lack room, each made whatever became of those before. -/
def shortages (pending? : Option Attribute) : List AttributeCall → List Bool
  | [] => []
  | call :: rest => call.lacksRoom pending? :: shortages (call.pending pending?) rest

theorem calls_alike {calls others : List AttributeCall} {s t : AttributeOutput σ}
    (lenient : s.writer.strict = false) (lenient' : t.writer.strict = false)
    (states : t.bare = s.bare)
    (same : others.map AttributeCall.bare = calls.map AttributeCall.bare)
    (rooms : shortages t.writer.pending others = shortages s.writer.pending calls) :
    (t.after others).bare = (s.after calls).bare ∧
      (t.outcomes others).map (·.map Outcome.caught) =
        (s.outcomes calls).map (·.map Outcome.caught) := by
  induction calls generalizing others s t with
  | nil =>
    obtain rfl := List.map_eq_nil_iff.1 same
    exact ⟨states, rfl⟩
  | cons call rest ih =>
    obtain ⟨other, others, rfl, first, same⟩ := List.map_eq_cons_iff.1 same
    obtain ⟨firstRoom, rooms⟩ := List.cons.inj rooms
    obtain ⟨state, outcome⟩ := AttributeCall.perform_alike lenient lenient' states first firstRoom
    have writer := call.perform_writer s
    have writer' := other.perform_writer t
    obtain ⟨later, outcomes⟩ := ih
      ((congrArg AttributeWriter.strict writer).trans lenient)
      ((congrArg AttributeWriter.strict writer').trans lenient') state same
      (by rw [writer, writer']; exact rooms)
    refine ⟨later, ?_⟩
    simp only [AttributeOutput.outcomes, List.map_cons, outcome, outcomes]

/-- A writer as it is made, with nothing open. -/
def fresh (strict : Bool) (sink : σ) : AttributeOutput σ where
  writer := { strict }
  sink := sink

/-- What holds of a writer that was given the calls since it was made. -/
structure Protocol (strict : Bool) (sink : σ) (calls : List AttributeCall) (s : AttributeOutput σ) :
    Prop where
  opened (a : Attribute) : s.writer.pending = some a ↔
    ∃ earlier during, (fresh strict sink).StartedIn calls earlier during a
  start_closed (head : AttributeHead) : s.writer.pending = none → head.hasRoom = true →
    ∃ s', (AttributeCall.start head).perform s = .done (.ok .unit) s' ∧ s'.sink = s.sink
  start_noRoom (head : AttributeHead) : s.writer.pending = none → head.hasRoom = false →
    (AttributeCall.start head).perform s = .done (.misused .noRoom) s
  add_open (f : Fragment) (a : Attribute) : s.writer.pending = some a →
    ∃ s', (AttributeCall.add f).perform s = .done (.ok .unit) s' ∧ s'.sink = s.sink
  start_open (head : AttributeHead) (a : Attribute) : s.writer.pending = some a →
    (AttributeCall.start head).perform s =
      .done (.misused (.attributeStillOpen head.name a.head.name)) s
  add_closed (f : Fragment) : s.writer.pending = none →
    (AttributeCall.add f).perform s = .done (.misused .fragmentWithoutAttribute) s
  close_closed (encoding : Encoding) : s.writer.pending = none →
    (AttributeCall.close encoding).perform s = .done (.misused .endWithoutAttribute) s
  close_open (encoding : Encoding) (a : Attribute) : s.writer.pending = some a →
    let made := (AttributeCall.close encoding).perform s
    made.pauses = [] ∧ made.await.state.writer = { strict, pending := none } ∧
      a.Closes strict encoding s.sink made.await.outcome? made.await.state.sink
  portions (encoding : Encoding) (a : Attribute) :
    String.join (a.portions encoding) = a.shown encoding
  /-- Calls that differ in names, offsets and counts alone, and of which the same lack room, leave
  the same and end alike. -/
  lenient : strict = false →
    ∀ others : List AttributeCall, others.map AttributeCall.bare = calls.map AttributeCall.bare →
      shortages none others = shortages none calls →
      ((fresh strict sink).after others).sink = s.sink ∧
        ((fresh strict sink).outcomes others).map (·.map Outcome.caught) =
          ((fresh strict sink).outcomes calls).map (·.map Outcome.caught)

/-- Whatever the calls, and whatever became of each of them. -/
theorem protocol_after (strict : Bool) (sink : σ) (calls : List AttributeCall) :
    Protocol strict sink calls ((fresh strict sink).after calls) where
  opened := pending_eq_some_iff rfl calls
  start_closed _ closed room := ⟨_, AttributeCall.perform_start_closed closed room, rfl⟩
  start_noRoom _ closed full := AttributeCall.perform_start_noRoom closed full
  add_open f _ opened := ⟨_, AttributeCall.perform_add_open f opened, rfl⟩
  start_open head _ opened := AttributeCall.perform_start_open head opened
  add_closed f closed := AttributeCall.perform_add_closed f closed
  close_closed encoding closed := AttributeCall.perform_close_closed encoding closed
  close_open encoding a opened := by
    have strictly : ((fresh strict sink).after calls).writer.strict = strict :=
      after_strict (fresh strict sink) calls
    obtain ⟨unwaiting, writer, closes⟩ := AttributeCall.perform_close_open encoding opened
    rw [strictly] at writer closes
    exact ⟨unwaiting, writer, closes⟩
  portions encoding a := a.join_portions encoding
  lenient := by
    rintro rfl others same rooms
    have start : (fresh false sink).writer.strict = false := rfl
    obtain ⟨left, ended⟩ := calls_alike start start rfl same rooms
    exact ⟨congrArg (·.sink) left, ended⟩

/-- Of calls that differ in the declared count alone, the first have a lenient writer write the
attribute; for the count of the others it has no room, stays closed, and writes nothing. -/
theorem declared_decides :
    let calls (declared : Nat) : List AttributeCall :=
      [.start { name := "id", opening := " id=", closing := ";", declared },
        .add { head := { literal := true }, value := .raw "x" }, .close .html]
    let s : AttributeOutput TextBuffer := fresh false {}
    (s.after (calls 1)).sink.text = " id=x;" ∧
      (s.after (calls 1000000000000000000)).sink.text = "" ∧
      s.outcomes (calls 1000000000000000000) = [some (.misused .noRoom),
        some (.misused .fragmentWithoutAttribute), some (.misused .endWithoutAttribute)] := by
  exact ⟨rfl, rfl, rfl⟩

end AttributeOutput

end Templating
