import Shop.Proofs.Service.Atomicity
import Shop.Proofs.Service.Reachable
import Shop.Proofs.Store.Conditions

/-!
# Why actions fail

An action fails where one of its parts does, and what was done up to there decides what can fail
next.  `Action.Fails` says of an action that, in a given session, it can fail for some reasons only.
The rules below compose this part by part.  A part that looks up leaves the session, so what comes
behind it may use what it has found; a part that writes leads to a session that its own lemmas
describe.

Sessions are sound if the rows stand in the order of their numbers, their keys are apart and they
keep the conditions of the store.  All reachable sessions are.  In a sound session a write fails only
because its parameters cannot be passed, because a live row has the key that is written, or because
the context makes it fail.
-/

namespace Shop

/-! ## Sound sessions -/

/-- A session whose rows are as the store wants them. -/
structure Session.Sound (s : Session) : Prop where
  numbered : s.tables.Numbered s.sequences
  unclashed : s.tables.Unclashed
  conforms : s.tables.Conforms

namespace Session

variable {allowed : Effect → Prop} {s s' : Session}

/-- Every step keeps the conditions of the store. -/
theorem Step.conforms (step : Step allowed s s') (before : s.tables.Conforms) :
    s'.tables.Conforms := by
  cases step with
  | insert may new numbers live admitted =>
    exact before.put admitted fun row member => ⟨row, List.mem_append_left _ member, rfl⟩
  | amend may change keeps admitted =>
    exact before.put admitted fun row member =>
      ⟨change row, List.mem_map_of_mem member, (keeps row).number⟩
  | @archive k may chosen now => exact before.archiveWhere k chosen now
  | _ => exact before

theorem Step.sound (step : Step allowed s s') (before : s.Sound) : s'.Sound where
  numbered := step.numbered before.numbered
  unclashed := step.unclashed before.unclashed
  conforms := step.conforms before.conforms

theorem Reach.sound (steps : Reach allowed s s') (before : s.Sound) : s'.Sound :=
  steps.preserves Sound (fun _ _ step => step.sound) before

end Session

/-- Reachable sessions are sound. -/
theorem Reachable.sound {s : Session} (reachable : Reachable s) : s.Sound :=
  reachable.preserves Session.Sound
    (fun _ => ⟨.start, Tables.unclashed_empty, .empty⟩) fun _ _ step => step.sound

/-! ## Actions -/

/-- Faults that the context brings about are among some reasons. -/
def Context.Disturbs (c : Context) (reasons : Failure → Prop) : Prop :=
  ∀ n fault, c.faults.statement n = some fault → reasons (.store fault)

/-- Parameters that cannot be passed are among some reasons. -/
def Parameter.Stop (parameters : List Parameter) (reasons : Failure → Prop) : Prop :=
  ∀ parameter ∈ parameters, ∀ fault, parameter.fault? = some fault → reasons (.store fault)

namespace Action

/-- An action that in a session can fail for some reasons only. -/
def Fails (c : Context) (s : Session) (a : Action α) (reasons : Failure → Prop) : Prop :=
  ∀ p failure q, p.session = s → a.perform c p = (.error failure, q) → reasons failure

namespace Fails

variable {c : Context} {s : Session} {reasons : Failure → Prop}

theorem pure (a : α) : Fails c s (Pure.pure a) reasons := by
  intro p failure q _ failed
  rw [perform_pure] at failed
  cases failed

theorem throw {failure : Failure} (reason : reasons failure) :
    Fails c s (MonadExcept.throw failure : Action α) reasons := by
  intro p other q _ failed
  cases failed
  exact reason

/-- What can never fail has no reasons to. -/
theorem of_sure {a : Action α} (sure : a.Sure) : Fails c s a reasons :=
  fun p failure q _ failed => absurd failed (sure c p failure q)

/-- A sequence fails as its first part does, or as its second part does where the first one leads. -/
theorem bind {a : Action α} {next : α → Action β} (first : Fails c s a reasons)
    (rest : ∀ p x q, p.session = s → a.perform c p = (.ok x, q) →
      Fails c q.session (next x) reasons) : Fails c s (a >>= next) reasons := by
  intro p failure q found failed
  rcases perform_bind_error.mp failed with failed | ⟨x, middle, ran, failed⟩
  · exact first p failure q found failed
  · exact rest p x middle found ran middle failure q rfl failed

/-- What follows on something that does not fail and leaves the session decides alone. -/
theorem context_bind {next : Context → Action β} (rest : Fails c s (next c) reasons) :
    Fails c s (context >>= next) reasons := by
  intro p failure q start failed
  exact rest p failure q start failed

theorem require {refusal : Refusal} {found : Option α}
    (missing : found = none → reasons (.refused refusal)) :
    Fails c s (Action.require refusal found) reasons := by
  cases found with
  | none => exact .throw (missing rfl)
  | some a => exact .pure a

theorem require_bind {refusal : Refusal} {found : Option α} {next : α → Action β}
    (missing : found = none → reasons (.refused refusal))
    (rest : ∀ a, found = some a → Fails c s (next a) reasons) :
    Fails c s (Action.require refusal found >>= next) reasons := by
  cases found with
  | none => exact fun p failure q start failed => by cases failed; exact missing rfl
  | some a => exact rest a rfl

theorem ensure_bind {decided : Except Refusal α} {next : α → Action β}
    (refused : ∀ refusal, decided = .error refusal → reasons (.refused refusal))
    (rest : ∀ a, decided = .ok a → Fails c s (next a) reasons) :
    Fails c s (ensure decided >>= next) reasons := by
  cases decided with
  | error refusal => exact fun p failure q start failed => by cases failed; exact refused refusal rfl
  | ok a => exact rest a rfl

theorem ensureFree_bind {taken : Bool} {message : String} {next : Unit → Action β}
    (held : taken = true → reasons (.refused (.conflict message)))
    (rest : taken = false → Fails c s (next ()) reasons) :
    Fails c s (ensureFree taken message >>= next) reasons := by
  cases taken with
  | true => exact fun p failure q start failed => by cases failed; exact held rfl
  | false => exact rest rfl

/-! ### Statements -/

/-- A statement fails by itself or because the context makes it fail. -/
theorem statement {st : Statement α} (disturbed : c.Disturbs reasons)
    (failed : ∀ fault drawn, st.run c.now s.tables s.sequences = (.error fault, drawn) →
      reasons (.store fault)) : Fails c s (statement st) reasons := by
  rintro p failure q rfl ended
  rw [perform_statement] at ended
  split at ended
  · rename_i fault made
    cases ended
    exact disturbed _ fault made
  · split at ended
    · rename_i fault drawn answered
      cases ended
      exact failed fault drawn answered
    · cases ended

theorem select (disturbed : c.Disturbs reasons) (f : Tables → α) :
    Fails c s (Action.statement (.select f)) reasons :=
  statement disturbed fun _ _ answered => by cases answered

/-- What was looked up is what the tables say. -/
theorem select_bind (disturbed : c.Disturbs reasons) {f : Tables → α} {next : α → Action β}
    (rest : Fails c s (next (f s.tables)) reasons) :
    Fails c s (Action.statement (.select f) >>= next) reasons := by
  refine bind (select disturbed f) fun p x q start ran => ?_
  rcases perform_select_ok ran with ⟨rfl, session⟩
  rw [session, start]
  exact rest

theorem map_bind (disturbed : c.Disturbs reasons) {f : Tables → α} {g : α → β}
    {next : β → Action γ} (rest : Fails c s (next (g (f s.tables))) reasons) :
    Fails c s (Action.statement ((Statement.select f).map g) >>= next) reasons :=
  select_bind disturbed rest

theorem passing (disturbed : c.Disturbs reasons) {parameters : List Parameter} {st : Statement α}
    (stop : Parameter.Stop parameters reasons)
    (failed : ∀ fault drawn, st.run c.now s.tables s.sequences = (.error fault, drawn) →
      reasons (.store fault)) :
    Fails c s (Action.statement (.passing parameters st)) reasons := by
  refine statement disturbed fun fault drawn answered => ?_
  rcases Statement.passing_error answered with ⟨parameter, member, stopped⟩ | answered
  · exact stop parameter member fault stopped
  · exact failed fault drawn answered

/-- What was looked up with parameters is what the tables say, if these can be passed. -/
theorem passing_bind (disturbed : c.Disturbs reasons) {parameters : List Parameter}
    (stop : Parameter.Stop parameters reasons) {f : Tables → α} {next : α → Action β}
    (rest : Fails c s (next (f s.tables)) reasons) :
    Fails c s (Action.statement (.passing parameters (.select f)) >>= next) reasons := by
  refine bind (passing disturbed stop fun _ _ answered => by cases answered) fun p x q start ran => ?_
  rcases perform_lookup_ok ran with ⟨rfl, session⟩
  rw [session, start]
  exact rest

/-- A new row is turned away only because a live row has its key. -/
theorem insert (sound : s.Sound) (disturbed : c.Disturbs reasons) {k : Kind}
    {parameters : List Parameter} (stop : Parameter.Stop parameters reasons)
    {make : Instant → Int → k.Row} (number : ∀ now id, k.number (make now id) = id)
    (live : ∀ now id, k.live (make now id) = true)
    (kept : ∀ now id, k.sound (make now id) = true)
    (anchored : ∀ now id, s.tables.anchored k (make now id) = true)
    (held : ∀ id, ∀ other ∈ s.tables.live k, k.sameKey (make c.now id) other = true →
      reasons (.store (.duplicateKey k.index))) :
    Fails c s (Action.statement (.passing parameters (.insert k make))) reasons := by
  refine passing disturbed stop fun fault drawn failed => ?_
  rcases Statement.insert_fault sound.numbered number live kept anchored failed with
    ⟨rfl, id, other, member, same⟩
  exact held id other member same

/-- A change of a live row is turned away only because another live row has the key that the row
gets. -/
theorem updateLive (sound : s.Sound) (disturbed : c.Disturbs reasons) {k : Kind}
    {parameters : List Parameter} (stop : Parameter.Stop parameters reasons) {id : Int}
    {change : Instant → k.Row → k.Row} (keeps : ∀ now row, k.Keeps row (change now row))
    (kept : ∀ row ∈ s.tables.rows k, k.sound (change c.now row) = true)
    (anchored : ∀ row ∈ s.tables.rows k, s.tables.anchored k (change c.now row) = true)
    (held : ∀ row ∈ s.tables.live k, k.number row = id → ∀ other ∈ s.tables.live k,
      k.number other ≠ id → k.sameKey (change c.now row) other = true →
        reasons (.store (.duplicateKey k.index))) :
    Fails c s (Action.statement (.passing parameters (.updateLive k id change))) reasons := by
  refine passing disturbed stop fun fault drawn failed => ?_
  have picks : ∀ row : k.Row, (k.live row && k.number row == id) = true → k.number row = id :=
    fun row picked => beq_iff_eq.mp (Bool.and_eq_true_iff.mp picked).2
  rcases Statement.update_fault sound.numbered (fun _ row => k.live row && k.number row == id)
      picks (fun row => (keeps c.now row).number) (fun row member _ => kept row member)
      (fun row member _ => anchored row member) (Statement.map_error failed) with
    ⟨rfl, row, member, picked, other, inside, clash⟩
  rcases Bool.and_eq_true_iff.mp picked with ⟨alive, _⟩
  simp only [Kind.clash, Bool.and_eq_true, bne_iff_ne, (keeps c.now row).number] at clash
  rcases clash with ⟨⟨⟨different, _⟩, otherAlive⟩, same⟩
  have own := picks row picked
  exact held row (Tables.mem_live.mpr ⟨member, alive⟩) own other
    (Tables.mem_live.mpr ⟨inside, otherAlive⟩) (fun otherOwn => different (own.trans otherOwn.symm))
    same

/-- Archiving rows fails only where the context makes it fail. -/
theorem archiveAll (sound : s.Sound) (disturbed : c.Disturbs reasons) {k : Kind}
    (archives : k ≠ .execution) (chosen : Tables → k.Row → Bool) :
    Fails c s (Action.statement (.archiveAll k chosen)) reasons :=
  statement disturbed fun _ _ failed =>
    (Statement.update_archived_ne_error sound.conforms archives _ (Statement.map_error failed)).elim

theorem archive (sound : s.Sound) (disturbed : c.Disturbs reasons) {k : Kind}
    (archives : k ≠ .execution) (id : Int) :
    Fails c s (Action.statement (.archive k id)) reasons :=
  statement disturbed fun _ _ failed =>
    (Statement.update_archived_ne_error sound.conforms archives _ (Statement.map_error failed)).elim

/-- A transaction fails as its action does, or because it cannot begin or end. -/
theorem transaction (disturbed : c.Disturbs reasons) {a : Action α}
    (fails : Fails c s a reasons) : Fails c s (Action.transaction a) reasons := by
  have whole : Fails c s (marked a) reasons := by
    refine bind (select disturbed _) fun p _ q start began => ?_
    rw [(perform_select_ok began).2, start]
    exact bind fails fun _ _ _ _ _ => bind (select disturbed _) fun _ _ _ _ _ => pure _
  intro p failure q start failed
  rw [perform_transaction] at failed
  rcases ran : (marked a).perform c p with ⟨other | result, after⟩
  · rw [ran] at failed
    cases failed
    exact whole p failure after start ran
  · rw [ran] at failed
    cases failed

end Fails
end Action
end Shop
