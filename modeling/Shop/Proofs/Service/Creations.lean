import Shop.Proofs.Http.Routing
import Shop.Proofs.Service.Reachable

/-!
# The roots of a history

Every root in a history, with its images and products, goes back to one request that was answered as
created and showed it.  A request for a new root either leaves the tables as they are or is this
request of a root.
-/

namespace Shop

namespace Http

/-- A request creates a root: it asks for one in its body, and is answered with a view of it. -/
structure Creates (c : Context) (fresh : String) (s : Session) (r : Request)
    (request : RootRequest) (view : RootView) : Prop where
  asks : r.Asks .post ["product"]
  body : r.readBody RootRequest.reader = .ok request
  status : (serve c fresh s r).1.status = 201
  shown : (serve c fresh s r).1.body = .json view.toJson

theorem shirtRequest_asks : shirtRequest.Asks .post ["product"] := by
  refine ⟨rfl, ?_, by decide⟩
  rw [Text.splitOn_slash]
  decide +kernel

variable {s : Session} {r : Request} {request : Accepted RootRequest.problems}

/-- A request for a new root is served by creating it, and answered with the view that this ends
with. -/
theorem creates_of_ok (c : Context) (fresh : String)
    (served : r.served? = some (.createRoot request)) {view : RootView} {q : Progress}
    (ran : (Service.createRoot request.val).perform c (.start s) =
      (.ok (.created view.toJson), q)) :
    Creates c fresh s r request.val view ∧ (serve c fresh s r).2 = q.session := by
  rcases Request.served?_eq_some.mp served with ⟨other, outside, stands⟩
  rcases Request.asks_of_createRoot served with ⟨asks, body⟩
  have bodied : r.method ≠ .head := by simp [asks.method]
  rcases serve_command (c := c) (s := s) fresh other bodied outside stands with
    ⟨status, shows, session⟩
  have replied : (Command.createRoot request).action.serve c s =
      (.created view.toJson, q.session) := by
    change Action.serve (Service.createRoot request.val) c s = _
    rw [Action.serve, ran]
  rw [replied] at status shows session
  exact ⟨⟨asks, body, status, shows _ rfl⟩, session⟩

/-- A request for a new root that is accepted is served by creating it. -/
theorem served_of_accept (asks : r.Asks .post ["product"])
    (accepted : r.accept RootRequest.reader RootRequest.problems = .ok request) :
    r.served? = some (.createRoot request) := by
  have stands : r.command =
      Command.createRoot <$> r.accept RootRequest.reader RootRequest.problems := asks.command rfl
  rw [accepted] at stands
  exact asks.served (by decide) stands

/-- Behind a request for a new root that was answered as created stands a creation that ended
well. -/
theorem served_of_created {c : Context} {fresh : String} (asks : r.Asks .post ["product"])
    (created : (serve c fresh s r).1.status = 201) :
    ∃ (request : Accepted RootRequest.problems) (reply : Reply) (q : Progress),
      r.served? = some (.createRoot request) ∧
      (Service.createRoot request.val).perform c (.start s) = (.ok reply, q) := by
  cases accepted : r.accept RootRequest.reader RootRequest.problems with
  | error rejection =>
    have stands : r.command =
        Command.createRoot <$> r.accept RootRequest.reader RootRequest.problems := asks.command rfl
    rw [accepted] at stands
    have status := (serve_rejected (c := c) (s := s) fresh (by simp [asks.method]) asks.outside
      stands).1
    exact absurd (status.symm.trans created) rejection.status_ne_created
  | ok request =>
    have served := served_of_accept asks accepted
    have status : (serve c fresh s r).1.status =
        (Action.serve (Service.createRoot request.val) c s).1.status :=
      (serve_served c fresh s served).1
    rcases Action.serve_cases (Service.createRoot request.val) c s with
      ⟨failure, q, _, replied⟩ | ⟨reply, q, done, _⟩
    · rw [replied] at status
      exact absurd (status.symm.trans created) failure.status_ne_created
    · exact ⟨request, reply, q, served, done⟩

/-- A request for a new root that fails leaves the tables as they are. -/
theorem tables_of_error (c : Context) (fresh : String)
    (served : r.served? = some (.createRoot request)) {failure : Failure} {q : Progress}
    (failed : (Service.createRoot request.val).perform c (.start s) = (.error failure, q)) :
    (serve c fresh s r).2.tables = s.tables := by
  rw [(serve_served c fresh s served).2, Action.serve_snd]
  change ((Service.createRoot request.val).perform c (.start s)).2.session.tables = s.tables
  rw [failed]
  exact (Service.createRoot_atomic request.val c _ failure q failed).1

/-- A request for a new root leaves the tables as they are, or adds the rows of the root that the
answer shows. -/
theorem creates_or_tables_eq (reachable : Reachable s) (c : Context) (fresh : String)
    (served : r.served? = some (.createRoot request)) :
    (serve c fresh s r).2.tables = s.tables ∨ ∃ view links,
      Creates c fresh s r request.val view ∧
      s.tables.Gains (view.tables links) (serve c fresh s r).2.tables ∧
      view.ComposedFrom Listing.stored (request.val.withDefaults c.clock) c.clock links := by
  rcases ran : (Service.createRoot request.val).perform c (.start s) with ⟨failure | reply, q⟩
  · exact .inl (tables_of_error c fresh served ran)
  · rcases Service.createRoot_ok reachable.numbered ran with
      ⟨_, view, links, _, committed, _, _, ⟨gains, _⟩, composed, rfl, ended⟩
    rcases creates_of_ok c fresh served ran with ⟨creates, session⟩
    refine .inr ⟨view, links, creates, ?_, composed⟩
    rw [session, ended]
    exact gains

end Http

namespace Session

/-- What happens changes nothing that is live but executions, or is a request for a new root, or is
the serving of another command. -/
theorem after_cases (s : Session) (next : Happening) :
    ((∀ k, k ≠ .execution → (s.after next).tables.live k = s.tables.live k) ∧
      (s.after next).shelf = s.shelf) ∨
    (∃ c fresh r request, next = .served c fresh r ∧ r.served? = some (.createRoot request)) ∨
    ∃ c, ∃ command : Command, (∀ request, command ≠ .createRoot request) ∧
      s.after next = (command.action.serve c s).2 := by
  cases next with
  | delivered c answered d event =>
    have steps := Service.dispatch_within answered d event c (.start s)
    refine .inl ⟨fun k other => congrArg (List.filter k.live) (steps.rows_eq fun e may => ?_),
      steps.shelf_eq (by decide)⟩
    rw [List.mem_singleton.mp may]
    exact fun same => other (Option.some.inj same).symm
  | served c fresh r =>
    rcases served : r.served? with _ | command
    · have same : s.after (.served c fresh r) = s := Http.serve_unserved c fresh s served
      exact .inl ⟨fun k _ => congrArg (·.tables.live k) same, congrArg Session.shelf same⟩
    by_cases creation : ∃ request, command = .createRoot request
    · rcases creation with ⟨request, rfl⟩
      exact .inr (.inl ⟨c, fresh, r, request, rfl, served⟩)
    · exact .inr (.inr ⟨c, command, not_exists.mp creation,
        (Http.serve_served c fresh s served).2⟩)

/-- A request of a history has created a root, in its context and where it stands in the history. -/
def Created (queueCapacity : Nat) (history : List Happening) (c : Context) (request : RootRequest)
    (view : RootView) : Prop :=
  ∃ later fresh r earlier, history = later ++ .served c fresh r :: earlier ∧
    Http.Creates c fresh (since queueCapacity earlier) r request view

namespace Created

variable {queueCapacity : Nat} {history : List Happening} {c : Context} {request : RootRequest}
  {view : RootView}

theorem now {fresh : String} {r : Http.Request} {earlier : List Happening}
    (creates : Http.Creates c fresh (since queueCapacity earlier) r request view) :
    Created queueCapacity (.served c fresh r :: earlier) c request view :=
  ⟨[], fresh, r, earlier, rfl, creates⟩

theorem before (created : Created queueCapacity history c request view) (latest : Happening) :
    Created queueCapacity (latest :: history) c request view := by
  rcases created with ⟨later, fresh, r, earlier, rfl, creates⟩
  exact ⟨latest :: later, fresh, r, earlier, rfl, creates⟩

/-- In a history of one request, this is the one that has created the root. -/
theorem single {c' : Context} {fresh : String} {r : Http.Request}
    (created : Created queueCapacity [.served c' fresh r] c request view) :
    c = c' ∧ Http.Creates c fresh (.start queueCapacity) r request view := by
  rcases created with ⟨later, fresh', r', earlier, same, creates⟩
  rcases List.singleton_eq_append_iff.mp same with ⟨rfl, last⟩ | ⟨_, none⟩
  · cases last
    exact ⟨rfl, creates⟩
  · cases none

end Created
end Session
end Shop
