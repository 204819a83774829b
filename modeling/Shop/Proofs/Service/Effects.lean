import Mathlib.Logic.Relation
import Shop.Proofs.Service.Running
import Shop.Proofs.Store.Statements

/-!
# Effects

All that actions do to a session is done in steps of a few kinds: numbers are drawn, rows are
inserted under numbers drawn for them, rows are amended or archived, pictures are kept, and events
are published.  An action is within a set of effects if it only ever takes steps of these effects,
whatever it finds and whatever fails.  This is closed under sequences and transactions, so it is
read off an action part by part; and what every step preserves, the action preserves.

Drawing numbers is no effect: every insertion draws, also when it fails or is undone.
-/

namespace Shop

/-- What an action may do to a session, other than draw numbers. -/
inductive Effect where
  | insert (k : Kind)
  | amend (k : Kind)
  | archive (k : Kind)
  | picture
  | publish
  deriving Repr, DecidableEq

/-- The kind of rows that an effect concerns, if it concerns rows. -/
def Effect.kind? : Effect → Option Kind
  | .insert k | .amend k | .archive k => some k
  | .picture | .publish => none

namespace Session

/-- One step of an action whose effects are limited. -/
inductive Step (allowed : Effect → Prop) : Session → Session → Prop
  | spend (s : Session) (k : Kind) (count : Nat) :
    Step allowed s { s with sequences := s.sequences.draw count k }
  | insert (s : Session) {k : Kind} (may : allowed (.insert k)) (new : List k.Row)
    (numbers : new.map k.number = numbersAfter (s.sequences.last k) new.length)
    (live : ∀ row ∈ new, k.live row = true)
    (admitted : s.tables.Admits k (s.tables.rows k ++ new)) :
    Step allowed s
      { s with
        tables := s.tables.put k (s.tables.rows k ++ new)
        sequences := s.sequences.draw new.length k }
  | amend (s : Session) {k : Kind} (may : allowed (.amend k)) (change : k.Row → k.Row)
    (keeps : ∀ row, k.Keeps row (change row))
    (admitted : s.tables.Admits k ((s.tables.rows k).map change)) :
    Step allowed s { s with tables := s.tables.put k ((s.tables.rows k).map change) }
  | archive (s : Session) {k : Kind} (may : allowed (.archive k)) (chosen : k.Row → Bool)
    (now : Instant) :
    Step allowed s { s with tables := s.tables.archiveWhere k chosen now }
  | picture (s : Session) (may : allowed .picture) (shelf : Shelf) :
    Step allowed s { s with shelf }
  | publish (s : Session) (may : allowed .publish) (event : Event) :
    Step allowed s { s with bus := s.bus.publish event }

abbrev Reach (allowed : Effect → Prop) : Session → Session → Prop :=
  Relation.ReflTransGen (Step allowed)

variable {allowed more : Effect → Prop} {s s' : Session}

theorem Step.mono (wider : ∀ e, allowed e → more e) (step : Step allowed s s') : Step more s s' := by
  cases step with
  | spend k count => exact .spend s k count
  | insert may new numbers live admitted => exact .insert s (wider _ may) new numbers live admitted
  | amend may change keeps admitted => exact .amend s (wider _ may) change keeps admitted
  | archive may chosen now => exact .archive s (wider _ may) chosen now
  | picture may shelf => exact .picture s (wider _ may) shelf
  | publish may event => exact .publish s (wider _ may) event

/-- What every step preserves, every run preserves. -/
theorem Reach.preserves (steps : Reach allowed s s') (kept : Session → Prop)
    (step : ∀ x y, Step allowed x y → kept x → kept y) (starts : kept s) : kept s' := by
  induction steps with
  | refl => exact starts
  | tail _ next inductionHypothesis => exact step _ _ next inductionHypothesis

/-- Every step keeps rows in the order of their numbers. -/
theorem Step.numbered (step : Step allowed s s') (before : s.tables.Numbered s.sequences) :
    s'.tables.Numbered s'.sequences := by
  cases step with
  | spend k count => exact before.draw count k
  | insert may new numbers live => exact before.insert numbers
  | @amend k may change keeps => exact before.change k change fun row => (keeps row).number
  | @archive k may chosen now =>
    refine before.change k _ fun row => ?_
    split
    · exact Kind.number_archived now k row
    · rfl
  | picture may shelf => exact before
  | publish may event => exact before

theorem Reach.numbered (steps : Reach allowed s s') (before : s.tables.Numbered s.sequences) :
    s'.tables.Numbered s'.sequences :=
  steps.preserves (fun x => x.tables.Numbered x.sequences) (fun _ _ step => step.numbered) before

/-- Every step leaves the keys of live rows apart. -/
theorem Step.unclashed (step : Step allowed s s') (before : s.tables.Unclashed) :
    s'.tables.Unclashed := by
  cases step with
  | insert may new numbers live admitted => exact before.put admitted
  | amend may change keeps admitted => exact before.put admitted
  | @archive k may chosen now => exact before.archiveWhere k chosen now
  | _ => exact before

/-- Effects that concern other kinds leave the rows of a kind as they are. -/
theorem Reach.rows_eq (steps : Reach allowed s s') {k : Kind}
    (spares : ∀ e, allowed e → e.kind? ≠ some k) : s'.tables.rows k = s.tables.rows k := by
  refine steps.preserves (fun x => x.tables.rows k = s.tables.rows k) (fun x y step before => ?_) rfl
  have other {j : Kind} {e : Effect} (may : allowed e) (concerns : e.kind? = some j) : k ≠ j :=
    fun same => spares e may (same ▸ concerns)
  cases step with
  | insert may new numbers live => exact (Tables.rows_put_of_ne _ _ (other may rfl)).trans before
  | amend may change keeps => exact (Tables.rows_put_of_ne _ _ (other may rfl)).trans before
  | archive may chosen now => exact (Tables.rows_put_of_ne _ _ (other may rfl)).trans before
  | _ => exact before

/-- Where no rows of a kind are inserted or amended, those that are live in the end were so from the
start. -/
theorem Reach.live_sublist (steps : Reach allowed s s') {k : Kind} (archives : k ≠ .execution)
    (inserts : ¬ allowed (.insert k)) (amends : ¬ allowed (.amend k)) :
    (s'.tables.live k).Sublist (s.tables.live k) := by
  refine steps.preserves (fun x => (x.tables.live k).Sublist (s.tables.live k))
    (fun x y step before => ?_) (.refl _)
  have spared {j : Kind} (rows : List j.Row) (different : k ≠ j) :
      (x.tables.put j rows).live k = x.tables.live k :=
    congrArg (List.filter k.live) (Tables.rows_put_of_ne x.tables rows different)
  cases step with
  | @insert j may new numbers live admitted =>
    have same := spared (x.tables.rows j ++ new) fun same => inserts (same ▸ may)
    exact same.symm ▸ before
  | @amend j may change keeps admitted =>
    have same := spared ((x.tables.rows j).map change) fun same => amends (same ▸ may)
    exact same.symm ▸ before
  | @archive j may chosen now =>
    change ((x.tables.archiveWhere j chosen now).live k).Sublist (s.tables.live k)
    by_cases same : k = j
    · subst same
      rw [Tables.live_archiveWhere _ archives]
      exact List.filter_sublist.trans before
    · rw [Tables.live_archiveWhere_of_ne _ same]
      exact before
  | _ => exact before

/-- Where no rows of a kind are inserted, those that are live in the end were so from the start,
under the numbers that they have. -/
theorem Reach.live_number (steps : Reach allowed s s') {k : Kind} (archives : k ≠ .execution)
    (inserts : ¬ allowed (.insert k)) :
    ∀ row ∈ s'.tables.live k, ∃ old ∈ s.tables.live k, k.number old = k.number row := by
  refine steps.preserves
    (fun x => ∀ row ∈ x.tables.live k, ∃ old ∈ s.tables.live k, k.number old = k.number row)
    (fun x y step before => ?_) fun row alive => ⟨row, alive, rfl⟩
  have spared {j : Kind} (rows : List j.Row) (different : k ≠ j) :
      (x.tables.put j rows).live k = x.tables.live k :=
    congrArg (List.filter k.live) (Tables.rows_put_of_ne x.tables rows different)
  cases step with
  | @insert j may new numbers live admitted =>
    have same := spared (x.tables.rows j ++ new) fun same => inserts (same ▸ may)
    exact same.symm ▸ before
  | @amend j may change keeps admitted =>
    by_cases same : k = j
    · subst same
      change ∀ row ∈ (x.tables.put k ((x.tables.rows k).map change)).live k, _
      rw [Tables.live_put_map x.tables k fun row => (keeps row).live]
      refine List.forall_mem_map.mpr fun row alive => ?_
      rw [(keeps row).number]
      exact before row alive
    · have spared := spared ((x.tables.rows j).map change) same
      exact spared.symm ▸ before
  | @archive j may chosen now =>
    change ∀ row ∈ (x.tables.archiveWhere j chosen now).live k, _
    by_cases same : k = j
    · subst same
      rw [Tables.live_archiveWhere _ archives]
      exact fun row alive => before row (List.mem_filter.mp alive).1
    · rw [Tables.live_archiveWhere_of_ne _ same]
      exact before
  | _ => exact before

/-- Putting the tables back undoes what was done to rows.  The numbers drawn stay spent. -/
theorem Reach.rollback (steps : Reach allowed s s') :
    Reach allowed s { s' with tables := s.tables } := by
  induction steps with
  | refl => exact .refl
  | @tail middle _ _ next inductionHypothesis =>
    cases next with
    | spend k count => exact inductionHypothesis.tail (.spend _ k count)
    | @insert k may new => exact inductionHypothesis.tail (.spend _ k new.length)
    | amend => exact inductionHypothesis
    | archive => exact inductionHypothesis
    | picture may shelf => exact inductionHypothesis.tail (.picture _ may shelf)
    | publish may event => exact inductionHypothesis.tail (.publish _ may event)

end Session

/-! ## Statements -/

namespace Statement

variable {allowed : Effect → Prop}

/-- A statement within some effects, whether it is answered or fails. -/
def Within (allowed : Effect → Prop) (s : Statement α) : Prop :=
  ∀ now x, match s.run now x.tables x.sequences with
    | (.ok (_, tables), sequences) => Session.Reach allowed x { x with tables, sequences }
    | (.error _, sequences) => Session.Reach allowed x { x with sequences }

namespace Within

theorem select (f : Tables → α) : (Statement.select f).Within allowed :=
  fun _ _ => .refl

theorem map {s : Statement α} (within : s.Within allowed) (f : α → β) :
    (s.map f).Within allowed := by
  intro now x
  have steps := within now x
  rcases ran : s.run now x.tables x.sequences with ⟨fault | ⟨a, tables⟩, sequences⟩
  · simp only [ran] at steps
    simp only [Statement.map, ran]
    exact steps
  · simp only [ran] at steps
    simp only [Statement.map, ran]
    exact steps

theorem passing {s : Statement α} (within : s.Within allowed) (parameters : List Parameter) :
    (Statement.passing parameters s).Within allowed := by
  intro now x
  simp only [Statement.passing]
  cases parameters.findSome? Parameter.fault? with
  | some fault => exact .refl
  | none => exact within now x

/-- Rows are inserted under the numbers drawn for them, if these are what they are made with. -/
theorem insertAll {k : Kind} (may : allowed (.insert k)) {make : Instant → List (Int → k.Row)}
    (number : ∀ now, ∀ row ∈ make now, ∀ id, k.number (row id) = id)
    (live : ∀ now, ∀ row ∈ make now, ∀ id, k.live (row id) = true) :
    (Statement.insertAll k make).Within allowed := by
  intro now x
  rcases ran : (Statement.insertAll k make).run now x.tables x.sequences with
    ⟨fault | ⟨new, tables⟩, sequences⟩
  · rcases insertAll_error ran with ⟨count, rfl⟩
    exact .single (.spend x k count)
  · rcases insertAll_ok ran with ⟨rfl, rfl, rfl⟩
    refine .single (.insert x may _ ?_ ?_ (insertAll_admitted ran))
    · rw [map_numbered (number now), length_numbered]
    · intro row member
      rcases mem_numbered member with ⟨made, inMake, id, rfl⟩
      exact live now made inMake id

theorem insert {k : Kind} (may : allowed (.insert k)) {make : Instant → Int → k.Row}
    (number : ∀ now id, k.number (make now id) = id)
    (live : ∀ now id, k.live (make now id) = true) :
    (Statement.insert k make).Within allowed := by
  intro now x
  rcases ran : (Statement.insert k make).run now x.tables x.sequences with
    ⟨fault | ⟨row, tables⟩, sequences⟩
  · rcases insert_error ran with ⟨count, rfl⟩
    exact .single (.spend x k count)
  · rcases insert_ok ran with ⟨rfl, rfl, rfl⟩
    refine .single (.insert x may [_] ?_ ?_ (insert_admitted ran))
    · rw [List.map_singleton, number]
      rfl
    · exact List.forall_mem_singleton.mpr (live _ _)

theorem update {k : Kind} (may : allowed (.amend k)) {chosen : Tables → k.Row → Bool}
    {change : Instant → k.Row → k.Row} (keeps : ∀ now row, k.Keeps row (change now row)) :
    (Statement.update k chosen change).Within allowed := by
  intro now x
  rcases ran : (Statement.update k chosen change).run now x.tables x.sequences with
    ⟨fault | ⟨rows, tables⟩, sequences⟩
  · rcases update_error ran with rfl
    exact .refl
  · rcases update_ok ran with ⟨_, rfl, rfl⟩
    refine .single (.amend x may _ (fun row => ?_) (update_admitted ran))
    split
    · exact keeps now row
    · exact ⟨rfl, rfl, rfl⟩

theorem updateLive {k : Kind} (may : allowed (.amend k)) {id : Int}
    {change : Instant → k.Row → k.Row} (keeps : ∀ now row, k.Keeps row (change now row)) :
    (Statement.updateLive k id change).Within allowed :=
  (update may keeps).map _

theorem updateArchived {k : Kind} (may : allowed (.archive k)) (chosen : Tables → k.Row → Bool) :
    (Statement.update k (fun t row => k.live row && chosen t row) fun now => k.archived now).Within
      allowed := by
  intro now x
  rcases ran : (Statement.update k (fun t row => k.live row && chosen t row) fun now =>
    k.archived now).run now x.tables x.sequences with ⟨fault | ⟨rows, tables⟩, sequences⟩
  · rcases update_error ran with rfl
    exact .refl
  · rcases update_ok ran with ⟨_, rfl, rfl⟩
    exact .single (.archive x may (chosen x.tables) now)

theorem archiveAll {k : Kind} (may : allowed (.archive k)) (chosen : Tables → k.Row → Bool) :
    (Statement.archiveAll k chosen).Within allowed :=
  (updateArchived may chosen).map _

theorem archive {k : Kind} (may : allowed (.archive k)) (id : Int) :
    (Statement.archive k id).Within allowed :=
  (updateArchived may fun _ row => k.number row == id).map _

end Within
end Statement

/-! ## Actions -/

def Work.Within (allowed : Effect → Prop) (w : Work α) : Prop :=
  ∀ c p, Session.Reach allowed p.session ((w.run c).run p).2.session

namespace Action

variable {allowed more : Effect → Prop}

/-- An action within some effects, whether it ends well or fails. -/
def Within (allowed : Effect → Prop) (a : Action α) : Prop :=
  ∀ c p, Session.Reach allowed p.session (a.perform c p).2.session

namespace Within

theorem mono {a : Action α} (within : a.Within allowed) (wider : ∀ e, allowed e → more e) :
    a.Within more :=
  fun c p => Relation.ReflTransGen.mono (fun _ _ => Session.Step.mono wider) _ _ (within c p)

theorem reach_ok {a : Action α} (within : a.Within allowed) {c : Context} {p q : Progress} {x : α}
    (done : a.perform c p = (.ok x, q)) : Session.Reach allowed p.session q.session := by
  have steps := within c p
  rwa [done] at steps

theorem pure (a : α) : (Pure.pure a : Action α).Within allowed :=
  fun _ _ => .refl

theorem throw (failure : Failure) : (MonadExcept.throw failure : Action α).Within allowed :=
  fun _ _ => .refl

theorem context : Action.context.Within allowed :=
  fun _ _ => .refl

theorem bind {a : Action α} {next : α → Action β} (first : a.Within allowed)
    (rest : ∀ x, (next x).Within allowed) : (a >>= next).Within allowed := by
  intro c p
  have steps := first c p
  rw [perform_bind]
  rcases ran : a.perform c p with ⟨failure | x, middle⟩
  · rw [ran] at steps
    exact steps
  · rw [ran] at steps
    exact steps.trans (rest x c middle)

theorem tryCatch {a : Action α} {handle : Failure → Action α} (first : a.Within allowed)
    (rest : ∀ failure, (handle failure).Within allowed) :
    (MonadExcept.tryCatch a handle).Within allowed := by
  intro c p
  have steps := first c p
  rw [perform_tryCatch]
  rcases ran : a.perform c p with ⟨failure | x, middle⟩
  · rw [ran] at steps
    exact steps.trans (rest failure c middle)
  · rw [ran] at steps
    exact steps

theorem require (refusal : Refusal) (found : Option α) :
    (Action.require refusal found).Within allowed := by
  cases found with
  | none => exact throw _
  | some a => exact pure a

theorem ensure (decided : Except Refusal α) : (Action.ensure decided).Within allowed := by
  cases decided with
  | ok a => exact pure a
  | error refusal => exact throw _

theorem ensureFree (taken : Bool) (message : String) :
    (Action.ensureFree taken message).Within allowed := by
  cases taken with
  | false => exact pure ()
  | true => exact throw _

theorem statement {s : Statement α} (within : s.Within allowed) :
    (Action.statement s).Within allowed := by
  intro c p
  have steps := within c.now p.session
  rw [perform_statement]
  cases c.faults.statement p.statements with
  | some fault => exact .refl
  | none =>
    rcases ran : s.run c.now p.session.tables p.session.sequences with
      ⟨fault | ⟨a, tables⟩, sequences⟩
    · rw [ran] at steps
      exact steps
    · rw [ran] at steps
      exact steps

/-- A transaction is within the effects of its action: if it fails, these are undone. -/
theorem transaction {a : Action α} (within : a.Within allowed) :
    (Action.transaction a).Within allowed := by
  intro c p
  have marked : (Action.marked a).Within allowed :=
    bind (statement (.select _)) fun _ => bind within fun _ =>
      bind (statement (.select _)) fun _ => pure _
  have steps := marked c p
  rw [perform_transaction]
  rcases ran : (Action.marked a).perform c p with ⟨failure | x, after⟩
  · rw [ran] at steps
    exact steps.rollback
  · rw [ran] at steps
    exact steps

theorem keepPicture (may : allowed .picture) (sku : String) (position : Nat) (r : Renditions) :
    (Action.keepPicture sku position r).Within allowed := by
  intro c p
  rcases perform_keepPicture_session (c := c) (p := p) sku position r with ⟨shelf, session⟩
  rw [session]
  exact .single (.picture p.session may shelf)

theorem publish (may : allowed .publish) (eventType : String) (shown : Json) :
    (Action.publish eventType shown).Within allowed :=
  fun c p => .single (.publish p.session may (.of eventType shown c.clock))

theorem lift {w : Work α} (within : w.Within allowed) :
    (ExceptT.lift w : Action α).Within allowed :=
  fun c p => within c p

end Within
end Action
end Shop
