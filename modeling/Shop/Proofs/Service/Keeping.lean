import Shop.Proofs.Service.Closure

/-!
# Laws of the tables

A rule that requests are to keep is often kept by some commands only.  A law says of such a rule
which commands these are: wherever the rule holds, a command that succeeds leaves it so exactly if
it is of a certain sort, and one that fails always does.  So the rule holds in every session to which
commands of this sort lead, and a further request breaks it exactly if its command succeeds and is
not one of them.
-/

namespace Shop

/-! ## Changes of single rows -/

namespace Action

variable {c : Context} {p q : Progress}

/-- A change that was answered changed the live row of its number, or there was none. -/
theorem perform_updateLive_ok {k : Kind} {id : Int} {parameters : List Parameter}
    {change : Instant → k.Row → k.Row} {found : Option k.Row}
    (done : (statement (.passing parameters (.updateLive k id change))).perform c p =
      (.ok found, q)) :
    q.session.tables = p.session.tables.put k ((p.session.tables.rows k).map fun row =>
        if k.live row && k.number row == id then change c.now row else row) ∧
      (found = none → q.session.tables = p.session.tables) := by
  rcases perform_statement_ok done with ⟨tables, sequences, answered, session⟩
  rcases Statement.updateLive_ok (Statement.passing_ok answered) with ⟨rfl, rfl, _⟩
  rw [session]
  refine ⟨rfl, fun missing => ?_⟩
  rw [List.head?_eq_none_iff, List.map_eq_nil_iff, List.filter_eq_nil_iff] at missing
  have unchanged : ((p.session.tables.rows k).map fun row =>
      if k.live row && k.number row == id then change c.now row else row) =
        p.session.tables.rows k :=
    (List.map_congr_left fun row member => if_neg (missing row member)).trans (List.map_id _)
  change p.session.tables.put k _ = p.session.tables
  rw [unchanged, Tables.put_rows]

/-- A change that finds no live row was asked for one that is not there. -/
theorem perform_updateLive_missing {k : Kind} {id : Int} {parameters : List Parameter}
    {change : Instant → k.Row → k.Row}
    (done : (statement (.passing parameters (.updateLive k id change))).perform c p = (.ok none, q)) :
    ∀ row ∈ p.session.tables.live k, k.number row ≠ id := by
  rcases perform_statement_ok done with ⟨tables, sequences, answered, _⟩
  have none := (Statement.updateLive_ok (Statement.passing_ok answered)).1.symm
  rw [List.head?_eq_none_iff, List.map_eq_nil_iff, List.filter_eq_nil_iff] at none
  intro row alive number
  rcases Tables.mem_live.mp alive with ⟨member, live⟩
  exact none row member (Bool.and_eq_true_iff.mpr ⟨live, beq_iff_eq.mpr number⟩)

/-- A change that must find a row goes on with the live row of its number, as it is after the change.
-/
theorem perform_requireChanged_ok {k : Kind} {id : Int} {parameters : List Parameter}
    {change : Instant → k.Row → k.Row} {refusal : Refusal} {next : k.Row → Action α} {a : α}
    (done : (do
      let row ← require refusal (← statement (.passing parameters (.updateLive k id change)))
      next row : Action α).perform c p = (.ok a, q)) :
    ∃ row, (p.session.tables.live k).find? (k.number · == id) = some row ∧ ∃ middle,
      middle.session.tables = p.session.tables.put k ((p.session.tables.rows k).map fun row =>
        if k.live row && k.number row == id then change c.now row else row) ∧
      (next (change c.now row)).perform c middle = (.ok a, q) := by
  rcases perform_bind_ok.mp done with ⟨found, middle, updated, rest⟩
  rcases perform_bind_ok.mp rest with ⟨changed, last, required, ended⟩
  rcases perform_require_ok.mp required with ⟨rfl, rfl⟩
  rcases perform_statement_ok updated with ⟨_, _, answered, _⟩
  have answer := Statement.updateLive_answer (Statement.passing_ok answered)
  rcases Option.map_eq_some_iff.mp answer.symm with ⟨row, there, rfl⟩
  exact ⟨row, there, last, (perform_updateLive_ok updated).1, ended⟩

/-- A statement that answers with a row, or with none and changes nothing then, leaves no trace if it
is refused for want of a row and nothing fails after it. -/
theorem AtomicIn.requireOne {allowed : Effect → Prop} {s : Statement (Option β)}
    (within : s.Within allowed) (silent : ¬ allowed .publish)
    (missing : ∀ p q, (statement s).perform c p = (.ok none, q) →
      q.session.tables = p.session.tables)
    {refusal : Refusal} {next : β → Action α} (rest : ∀ row, (next row).SureIn c) :
    (do
      let row ← require refusal (← statement s)
      next row).AtomicIn c := by
  intro p failure q failed
  rcases perform_bind_error.mp failed with failed | ⟨found, middle, answered, failed⟩
  · exact Atomic.statement within silent c p failure q failed
  rcases perform_bind_error.mp failed with failed | ⟨row, _, _, failed⟩
  · rw [perform_require] at failed
    cases found with
    | some row => cases failed
    | none =>
      cases failed
      have steps := (Within.statement within).reach_ok answered
      exact ⟨missing p q answered, steps.bus_eq silent⟩
  · exact absurd failed (rest row _ failure q)

/-- A change of a live row leaves no trace if it is refused for want of one. -/
theorem AtomicIn.change {k : Kind} {id : Int} {parameters : List Parameter}
    {change : Instant → k.Row → k.Row} (keeps : ∀ now row, k.Keeps row (change now row))
    {refusal : Refusal} {next : k.Row → Action α} (rest : ∀ row, (next row).SureIn c) :
    (do
      let row ← require refusal
        (← Action.statement (.passing parameters (.updateLive k id change)))
      next row).AtomicIn c := by
  have changes : (Statement.passing parameters (.updateLive k id change)).Within
      (· ∈ [Effect.amend k]) := .passing (.updateLive List.mem_cons_self keeps) _
  exact .requireOne changes (by simp) (fun p q answered => (perform_updateLive_ok answered).2 rfl) rest

theorem Atomic.change {k : Kind} {id : Int} {parameters : List Parameter}
    {change : Instant → k.Row → k.Row} (keeps : ∀ now row, k.Keeps row (change now row))
    {refusal : Refusal} {next : k.Row → Action α} (rest : ∀ row, (next row).Sure) :
    (do
      let row ← require refusal
        (← Action.statement (.passing parameters (.updateLive k id change)))
      next row).Atomic :=
  fun c => AtomicIn.change keeps fun row => rest row c

/-! ## Actions that end well -/

/-- An action whose result, if it ends well, stands in a relation to the tables before and after. -/
def Yields (a : Action α) (relation : Context → Tables → α → Tables → Prop) : Prop :=
  ∀ c p x q, a.perform c p = (.ok x, q) → relation c p.session.tables x q.session.tables

/-- What comes before may be anything without effects. -/
theorem Yields.after {a : Action α} {next : α → Action β}
    {relation : Context → Tables → β → Tables → Prop} (still : a.Within (· ∈ ([] : List Effect)))
    (rest : ∀ x, (next x).Yields relation) : (a >>= next).Yields relation := by
  intro c p y q done
  rcases perform_bind_ok.mp done with ⟨x, middle, ran, done⟩
  rw [← (still.reach_ok ran).tables_eq]
  exact rest x c middle y q done

end Action

/-- Commands that neither insert nor amend rows of a kind leave no row live that was not. -/
theorem Command.live_sublist (command : Command) (c : Context) (s : Session) {k : Kind}
    (archives : k ≠ .execution)
    (spares : (command.effects.contains (.insert k) ||
      command.effects.contains (.amend k)) = false) :
    ((command.action.serve c s).2.tables.live k).Sublist (s.tables.live k) := by
  rcases Bool.or_eq_false_iff.mp spares with ⟨inserts, amends⟩
  rw [List.contains_eq_mem, decide_eq_false_iff_not] at inserts amends
  exact (command.within.serve c s).live_sublist archives inserts amends

/-! ## Laws -/

namespace Action

variable {c : Context} {s : Session} {kept : Tables → Prop}

/-- An atomic action whose success leaves something so under a condition leaves it so if it fails or
the condition is met. -/
theorem serve_kept_iff {a : Action Reply} {condition : Prop} (holds : kept s.tables)
    (atomic : a.Atomic)
    (done : ∀ reply q, a.perform c (.start s) = (.ok reply, q) →
      reply.status < 400 ∧ (kept q.session.tables ↔ condition)) :
    kept (a.serve c s).2.tables ↔ ((a.serve c s).1.status < 400 → condition) := by
  unfold serve
  rcases ran : a.perform c (.start s) with ⟨failure | reply, q⟩
  · refine iff_of_true ?_ fun accepted => absurd failure.status_ge (Nat.not_le.mpr accepted)
    change kept q.session.tables
    rw [(atomic c _ failure q ran).1]
    exact holds
  · rcases done reply q ran with ⟨accepted, exactly⟩
    exact exactly.trans ⟨fun met _ => met, fun met => met accepted⟩

end Action

/-- A new root leaves something so if it fails, or if its rows leave it so under a condition and the
condition is met. -/
theorem Service.createRoot_kept_iff {c : Context} {s : Session} {kept : Tables → Prop}
    {request : RootRequest} {condition : Prop} (numbered : s.tables.Numbered s.sequences)
    (holds : kept s.tables)
    (gained : ∀ view links after, s.tables.Gains (RootView.tables view links) after →
      view.ComposedFrom Listing.stored (request.withDefaults c.clock) c.clock links →
        (kept after ↔ condition)) :
    kept ((createRoot request).serve c s).2.tables ↔
      (((createRoot request).serve c s).1.status < 400 → condition) := by
  refine Action.serve_kept_iff holds (createRoot_atomic request) fun reply q ran => ?_
  rcases createRoot_ok numbered ran with
    ⟨_, view, links, _, committed, _, _, ⟨gains, _⟩, composed, rfl, ended⟩
  have tables : q.session.tables = committed.session.tables := by
    rw [ended]
  have accepted : 201 < 400 := by decide
  refine ⟨accepted, ?_⟩
  rw [tables]
  exact gained view links _ gains composed

/-- Where every command keeps something exactly if it fails or is of a sort, so does every request
with the command that answers it. -/
theorem Http.serve_kept_iff {kept : Tables → Prop} {sort : Command → Prop} (c : Context)
    (fresh : String) {s : Session} (r : Http.Request) (holds : kept s.tables)
    (each : ∀ command : Command, kept (command.action.serve c s).2.tables ↔
      ((command.action.serve c s).1.status < 400 → sort command)) :
    kept (Http.serve c fresh s r).2.tables ↔
      ∀ command, r.served? = some command → (Http.serve c fresh s r).1.status < 400 →
        sort command := by
  cases served : r.served? with
  | none =>
    rw [serve_unserved c fresh s served]
    simpa using holds
  | some command =>
    rcases serve_served c fresh s served with ⟨status, session⟩
    rw [session, status, each command]
    simp

/-- What commands of a sort keep, and other commands break.  It says nothing of executions, which
are written at any time. -/
structure Law (kept : Tables → Prop) (sort : Context → Session → Command → Prop) : Prop where
  starts : kept .empty
  said : ∀ t t' : Tables, (∀ k, k ≠ .execution → t'.rows k = t.rows k) → kept t → kept t'
  command : ∀ {s}, Reachable s → kept s.tables → ∀ c (command : Command),
    kept (command.action.serve c s).2.tables ↔
      ((command.action.serve c s).1.status < 400 → sort c s command)

namespace Law

variable {kept : Tables → Prop} {sort : Context → Session → Command → Prop} {s : Session}

theorem serve_iff (law : Law kept sort) (reachable : Reachable s) (holds : kept s.tables)
    (c : Context) (fresh : String) (r : Http.Request) :
    kept (Http.serve c fresh s r).2.tables ↔
      ∀ command, r.served? = some command → (Http.serve c fresh s r).1.status < 400 →
        sort c s command :=
  Http.serve_kept_iff c fresh r holds (law.command reachable holds c)

/-- A law holds in every session to which commands lead that keep it. -/
theorem holds (law : Law kept sort) (reached : ReachableBy sort s) : kept s.tables := by
  induction reached with
  | start queueCapacity => exact law.starts
  | serve before c fresh r sorted inductionHypothesis =>
    exact (law.serve_iff before.reachable inductionHypothesis c fresh r).mpr sorted
  | @deliver before _ c answered d event inductionHypothesis =>
    refine law.said _ _ (fun k other => ?_) inductionHypothesis
    refine (Service.dispatch_within answered d event c (.start before)).rows_eq fun e may => ?_
    rw [List.mem_singleton.mp may]
    exact fun same => other (Option.some.inj same).symm

end Law
end Shop
