import Templating.Event

/-!
# Runs

A render may be interrupted: it is polled, and every poll carries it on to its end or to the next
place where it waits. `Run σ α` is everything that polling it can show. It is a finite tree: what
is reported on the way, the state of the destination at every place where it waits, and in the
end an outcome with the last state. Waiting for ever is `stalled`. No poll passes anything in, so
what the caller does in between (drop the render, cancel it) is a function on the tree.

An `Action σ α` is a run for every state that it starts in. The state is kept whatever the
outcome: an action that fails leaves what it did before.
-/

namespace Templating

variable {σ τ α β : Type}

inductive Run (σ α : Type) where
  | done (outcome : Outcome α) (state : σ)
  | note (event : Event) (rest : Run σ α)
  | pause (state : σ) (rest : Unit → Run σ α)
  | stalled (state : σ)

namespace Outcome

def bind (o : Outcome α) (k : α → Outcome β) : Outcome β :=
  match o with
  | ok a => k a
  | failed e => failed e
  | misused m => misused m
  | tooDeep => tooDeep

def map (f : α → β) (o : Outcome α) : Outcome β :=
  o.bind fun a => ok (f a)

end Outcome

/-- What a caller saw of a run that it polled. There is no outcome if the run was dropped. -/
structure Driven (σ α : Type) where
  events : List Event
  polls : Nat
  state : σ
  outcome? : Option (Outcome α)

namespace Run

/-- Goes on with `k` after a value, and ends with any other outcome. -/
def bind (k : α → σ → Run σ β) : Run σ α → Run σ β
  | done (.ok a) s => k a s
  | done (.failed e) s => done (.failed e) s
  | done (.misused m) s => done (.misused m) s
  | done .tooDeep s => done .tooDeep s
  | note e rest => note e (bind k rest)
  | pause s rest => pause s fun _ => bind k (rest ())
  | stalled s => stalled s

/-- The same run as it shows from a state that is computed from its own; the outcome may draw on
the last state. -/
def recast (project : σ → τ) (conclude : Outcome α → σ → Outcome β) : Run σ α → Run τ β
  | done o s => done (conclude o s) (project s)
  | note e rest => note e (recast project conclude rest)
  | pause s rest => pause (project s) fun _ => recast project conclude (rest ())
  | stalled s => stalled (project s)

/-- The first poll alone. Where the run would wait it is given up. -/
def firstPoll : Run σ α → Run σ α
  | done o s => done o s
  | note e rest => note e (firstPoll rest)
  | pause s _ | stalled s => done (.failed .nestedSuspended) s

/-- Waits for `polls` more polls than the one under way, and is cancelled at the next. -/
def idle (s : σ) : Nat → Run σ α
  | 0 => pause s fun _ => done (.failed .cancelled) s
  | polls + 1 => pause s fun _ => idle s polls

/-- Ends as cancelled at the first poll that finds the run cancelled, and does nothing in that
poll. The caller cancels once `allowed` more polls have started, `none` for never; the run
itself may have cancelled in the state that it waits in. -/
def untilCancelled (cancelled : σ → Bool) : Option Nat → Run σ α → Run σ α
  | _, done o s => done o s
  | allowed, note e rest => note e (untilCancelled cancelled allowed rest)
  | allowed, pause s rest => pause s fun _ =>
    if cancelled s || allowed == some 0 then done (.failed .cancelled) s
    else untilCancelled cancelled (allowed.map (· - 1)) (rest ())
  | allowed, stalled s =>
    if cancelled s then idle s 0
    else
      match allowed with
      | none => stalled s
      | some polls => idle s polls

/-- Polls the run that is under way, `more` times again at most, and then drops it. -/
def drive : Nat → Run σ α → Driven σ α
  | _, done o s => ⟨[], 1, s, some o⟩
  | more, note e rest =>
    let d := drive more rest
    { d with events := e :: d.events }
  | 0, pause s _ => ⟨[], 1, s, none⟩
  | more + 1, pause _ rest =>
    let d := drive more (rest ())
    { d with polls := d.polls + 1 }
  | more, stalled s => ⟨[], more + 1, s, none⟩

/-- Polls the run to its end. A run that waits for ever has no outcome. -/
def await : Run σ α → Driven σ α
  | done o s => ⟨[], 1, s, some o⟩
  | note e rest =>
    let d := await rest
    { d with events := e :: d.events }
  | pause _ rest =>
    let d := await (rest ())
    { d with polls := d.polls + 1 }
  | stalled s => ⟨[], 1, s, none⟩

/-- The states in which the run waits, in order. -/
def pauses : Run σ α → List σ
  | done _ _ => []
  | note _ rest => pauses rest
  | pause s rest => s :: pauses (rest ())
  | stalled s => [s]

@[simp] theorem bind_ok (k : α → σ → Run σ β) (a : α) (s : σ) :
    (done (.ok a) s).bind k = k a s := rfl

@[simp] theorem bind_failed (k : α → σ → Run σ β) (e : RenderError) (s : σ) :
    (done (.failed e) s).bind k = done (.failed e) s := rfl

@[simp] theorem bind_note (k : α → σ → Run σ β) (e : Event) (rest : Run σ α) :
    (note e rest).bind k = note e (rest.bind k) := rfl

theorem bind_assoc {γ : Type} (r : Run σ α) (k : α → σ → Run σ β) (l : β → σ → Run σ γ) :
    (r.bind k).bind l = r.bind fun a s => (k a s).bind l := by
  induction r with
  | done o s => cases o <;> rfl
  | note e rest ih => simp [bind, ih]
  | pause s rest ih => simp [bind, ih]
  | stalled s => rfl

theorem bind_done (r : Run σ α) : (r.bind fun a s => done (.ok a) s) = r := by
  induction r with
  | done o s => cases o <;> rfl
  | note e rest ih => simp [bind, ih]
  | pause s rest ih => simp [bind, ih]
  | stalled s => rfl

end Run

def Action (σ α : Type) : Type :=
  σ → Run σ α

namespace Action

instance : Monad (Action σ) where
  pure a := fun s => .done (.ok a) s
  bind act k := fun s => (act s).bind k

instance : LawfulMonad (Action σ) :=
  LawfulMonad.mk' (Action σ) (fun act => funext fun s => Run.bind_done (act s))
    (fun _ _ => rfl) (fun act k l => funext fun s => Run.bind_assoc (act s) k l)

def conclude (o : Outcome α) : Action σ α := fun s =>
  .done o s

def fail (e : RenderError) : Action σ α :=
  conclude (.failed e)

def misuse (m : Misuse) : Action σ α :=
  conclude (.misused m)

def report (e : Event) : Action σ Unit := fun s =>
  .note e (.done (.ok ()) s)

def log (entry : LogEntry) : Action σ Unit :=
  report (.log entry)

def read (f : σ → α) : Action σ α := fun s =>
  .done (.ok (f s)) s

def update (f : σ → σ) : Action σ Unit := fun s =>
  .done (.ok ()) (f s)

/-- Waits for that many polls. -/
def wait : Nat → Action σ Unit
  | 0 => pure ()
  | times + 1 => fun s => .pause s fun _ => wait times s

def stall : Action σ Unit := fun s =>
  .stalled s

/-- Ends with the outcome of `act` as its value, whatever it is. -/
def attempt (act : Action σ α) : Action σ (Outcome α) := fun s =>
  (act s).recast id fun o _ => .ok o

def firstPoll (act : Action σ α) : Action σ α := fun s =>
  (act s).firstPoll

/-- Runs until it is cancelled; at most `allowed` polls are started before the caller cancels. -/
def untilCancelled (cancelled : σ → Bool) (allowed : Option Nat) (act : Action σ α) :
    Action σ α := fun s =>
  if allowed = some 0 then .done (.failed .cancelled) s
  else (act s).untilCancelled cancelled (allowed.map (· - 1))

/-- Polls the action `polls` times at most, and then drops it. -/
def drive (polls : Nat) (act : Action σ α) (s : σ) : Driven σ α :=
  match polls with
  | 0 => ⟨[], 0, s, none⟩
  | more + 1 => (act s).drive more

def await (act : Action σ α) (s : σ) : Driven σ α :=
  (act s).await

end Action

end Templating
