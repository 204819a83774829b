import Shop.Proofs.Event.Bus
import Shop.Proofs.Http.Serving
import Shop.Proofs.Service.Commands

/-!
# Reachable sessions

A session is reachable if requests, in any order and each in a context of its own, lead to it from a
session in which nothing has happened.  Between requests the dispatcher may deliver events and record
the executions.  Contexts are arbitrary: times, settings, what lies at an address, and which
statements and pictures fail.
-/

namespace Shop

/-- A session to which requests and deliveries can lead. -/
inductive Reachable : Session → Prop
  | start (queueCapacity : Nat) : Reachable (.start queueCapacity)
  | serve {s : Session} (reachable : Reachable s) (c : Context) (fresh : String)
    (r : Http.Request) : Reachable (Http.serve c fresh s r).2
  | deliver {s : Session} (reachable : Reachable s) (c : Context)
    (answered : Webhook → Json → Except DeliveryFault Nat) (d : Dispatcher) (event : Event) :
    Reachable (((d.dispatch (m := Work)
      (Service.courier fun webhook payload => pure (answered webhook payload)) event).run
        c).run (.start s)).2.session

/-- A session to which requests and deliveries can lead of which every command that succeeds, in its
context and in the session that it finds, is of a certain sort. -/
inductive ReachableBy (sort : Context → Session → Command → Prop) : Session → Prop
  | start (queueCapacity : Nat) : ReachableBy sort (.start queueCapacity)
  | serve {s : Session} (reached : ReachableBy sort s) (c : Context) (fresh : String)
    (r : Http.Request)
    (sorted : ∀ command, r.served? = some command → (Http.serve c fresh s r).1.status < 400 →
      sort c s command) :
    ReachableBy sort (Http.serve c fresh s r).2
  | deliver {s : Session} (reached : ReachableBy sort s) (c : Context)
    (answered : Webhook → Json → Except DeliveryFault Nat) (d : Dispatcher) (event : Event) :
    ReachableBy sort (((d.dispatch (m := Work)
      (Service.courier fun webhook payload => pure (answered webhook payload)) event).run
        c).run (.start s)).2.session

theorem ReachableBy.reachable {sort : Context → Session → Command → Prop} {s : Session}
    (reached : ReachableBy sort s) : Reachable s := by
  induction reached with
  | start queueCapacity => exact .start queueCapacity
  | serve _ c fresh r _ inductionHypothesis => exact .serve inductionHypothesis c fresh r
  | deliver _ c answered d event inductionHypothesis =>
    exact .deliver inductionHypothesis c answered d event

/-! ## Runs within effects -/

/-- What an action does for a client is a run within its effects. -/
theorem Action.Within.serve {allowed : Effect → Prop} {a : Action Reply} (within : a.Within allowed)
    (c : Context) (s : Session) : Session.Reach allowed s (a.serve c s).2 := by
  rw [serve_snd]
  exact within c (.start s)

namespace Work.Within

variable {allowed : Effect → Prop}

theorem pure (a : α) : Work.Within allowed (Pure.pure a) :=
  fun _ _ => .refl

theorem bind {w : Work α} {next : α → Work β} (first : w.Within allowed)
    (rest : ∀ x, (next x).Within allowed) : Work.Within allowed (w >>= next) :=
  fun c p => (first c p).trans (rest _ c _)

end Work.Within

namespace Service

variable {allowed : Effect → Prop}

theorem attempt_within {s : Statement α} (within : s.Within allowed) :
    Work.Within allowed (attempt s) := by
  refine .bind (fun c p => Action.Within.statement within c p) fun answered => ?_
  split <;> exact .pure _

/-- Delivering an event inserts executions and nothing else. -/
theorem dispatch_within (answered : Webhook → Json → Except DeliveryFault Nat) (d : Dispatcher)
    (event : Event) :
    Work.Within (· ∈ [Effect.insert .execution])
      (d.dispatch (courier fun webhook payload => Pure.pure (answered webhook payload)) event) := by
  have executed : ∀ webhooks, Work.Within (· ∈ [Effect.insert .execution])
      (Dispatcher.executeAll (courier fun webhook payload => Pure.pure (answered webhook payload))
        event.payload webhooks) := by
    intro webhooks
    induction webhooks with
    | nil => exact .pure _
    | cons webhook webhooks inductionHypothesis =>
      refine .bind (.bind (.pure _) fun answer => ?_) fun _ => inductionHypothesis
      refine .bind (.bind (attempt_within ?_) fun _ => .pure _) fun _ => .pure _
      exact .insert (by decide) (fun _ _ => rfl) fun _ _ => rfl
  refine .bind (attempt_within (.passing (.select _) _)) fun found => ?_
  split
  · exact .pure _
  · exact .bind (executed _) fun _ => .pure _

end Service

/-! ## What reachable sessions keep -/

/-- What all steps preserve holds of every reachable session, if it holds at the start. -/
theorem Reachable.preserves {s : Session} (reachable : Reachable s) (kept : Session → Prop)
    (starts : ∀ queueCapacity, kept (.start queueCapacity))
    (step : ∀ x y, Session.Step (fun _ => True) x y → kept x → kept y) : kept s := by
  have wider {effects : List Effect} {x y : Session} (steps : Session.Reach (· ∈ effects) x y)
      (before : kept x) : kept y :=
    steps.preserves kept (fun x y next => step x y (next.mono fun _ _ => trivial)) before
  induction reachable with
  | start queueCapacity => exact starts queueCapacity
  | serve _ c fresh r inductionHypothesis =>
    rcases Http.serve_session c fresh _ r with same | ⟨command, _, served⟩
    · rw [same]
      exact inductionHypothesis
    · rw [served]
      exact wider (command.within.serve c _) inductionHypothesis
  | deliver _ c answered d event inductionHypothesis =>
    exact wider (Service.dispatch_within answered d event c (.start _)) inductionHypothesis

theorem Session.Step.open {allowed : Effect → Prop} {s s' : Session} (step : Step allowed s s')
    (before : s.bus.closed = false) : s'.bus.closed = false := by
  cases step with
  | publish may event => exact (s.bus.closed_publish event).trans before
  | _ => exact before

/-- Rows of reachable sessions stand in the order of their numbers, none above the last drawn. -/
theorem Reachable.numbered {s : Session} (reachable : Reachable s) :
    s.tables.Numbered s.sequences :=
  reachable.preserves (fun x => x.tables.Numbered x.sequences) (fun _ => .start)
    fun _ _ step => step.numbered

/-- In reachable sessions no live row has the key of another one. -/
theorem Reachable.unclashed {s : Session} (reachable : Reachable s) : s.tables.Unclashed :=
  reachable.preserves (fun x => x.tables.Unclashed) (fun _ => Tables.unclashed_empty)
    fun _ _ step => step.unclashed

theorem Reachable.open {s : Session} (reachable : Reachable s) : s.bus.closed = false :=
  reachable.preserves (fun x => x.bus.closed = false) (fun _ => rfl) fun _ _ step => step.open

/-! ## Histories -/

/-- What can happen to a session. -/
inductive Happening where
  | served (c : Context) (fresh : String) (r : Http.Request)
  | delivered (c : Context) (answered : Webhook → Json → Except DeliveryFault Nat) (d : Dispatcher)
    (event : Event)

namespace Session

/-- The session after something has happened to it. -/
def after (s : Session) : Happening → Session
  | .served c fresh r => (Http.serve c fresh s r).2
  | .delivered c answered d event =>
    (((d.dispatch (m := Work)
      (Service.courier fun webhook payload => pure (answered webhook payload)) event).run
        c).run (.start s)).2.session

/-- The session after a history, of which the latest comes first. -/
def since (queueCapacity : Nat) : List Happening → Session
  | [] => .start queueCapacity
  | latest :: earlier => (since queueCapacity earlier).after latest

end Session

theorem Reachable.after {s : Session} (reachable : Reachable s) (next : Happening) :
    Reachable (s.after next) := by
  cases next with
  | served c fresh r => exact .serve reachable c fresh r
  | delivered c answered d event => exact .deliver reachable c answered d event

/-- The reachable sessions are those that have a history. -/
theorem reachable_iff {s : Session} :
    Reachable s ↔ ∃ queueCapacity history, s = .since queueCapacity history := by
  constructor
  · intro reachable
    induction reachable with
    | start queueCapacity => exact ⟨queueCapacity, [], rfl⟩
    | serve _ c fresh r inductionHypothesis =>
      rcases inductionHypothesis with ⟨queueCapacity, earlier, rfl⟩
      exact ⟨queueCapacity, .served c fresh r :: earlier, rfl⟩
    | deliver _ c answered d event inductionHypothesis =>
      rcases inductionHypothesis with ⟨queueCapacity, earlier, rfl⟩
      exact ⟨queueCapacity, .delivered c answered d event :: earlier, rfl⟩
  · rintro ⟨queueCapacity, history, rfl⟩
    induction history with
    | nil => exact .start queueCapacity
    | cons latest earlier inductionHypothesis => exact inductionHypothesis.after latest

theorem Session.since_reachable (queueCapacity : Nat) (history : List Happening) :
    Reachable (since queueCapacity history) :=
  reachable_iff.mpr ⟨queueCapacity, history, rfl⟩

end Shop
