import Shop.Proofs.Service.Running
import Shop.Proofs.Store.Hashes

/-!
# Actions in sessions that are alike

Two sessions are alike if they are the same without the password hashes of users.  Two actions agree
if, in every context and however far each has come in sessions that are alike, the same shows of
them: both fail with the same failure, or both end with results of which a view is the same, and they
leave sessions that are alike.  An action hides the hashes if it agrees with itself on its whole
result.  Agreement is closed under sequences and transactions, so it is read off an action part by
part.
-/

namespace Shop

/-- The session with all hashes blotted out. -/
def Session.unhashed (s : Session) : Session := { s with tables := s.tables.unhashed }

namespace Progress

variable {p q : Progress}

def unhashed (p : Progress) : Progress := { p with session := p.session.unhashed }

/-- Where two actions have come alike, one has come as far as the other, with tables that are
alike. -/
theorem unhashed_eq_iff :
    p.unhashed = q.unhashed ↔ ∃ t, p.session.tables.unhashed = t.unhashed ∧
      q = { p with session := { p.session with tables := t } } := by
  constructor
  · intro alike
    rcases p with ⟨⟨tables, sequences, shelf, bus⟩, statements, pictures⟩
    rcases q with ⟨⟨tables', sequences', shelf', bus'⟩, statements', pictures'⟩
    simp only [unhashed, Session.unhashed, mk.injEq, Session.mk.injEq] at alike
    rcases alike with ⟨⟨alike, rfl, rfl, rfl⟩, rfl, rfl⟩
    exact ⟨tables', alike, rfl⟩
  · rintro ⟨t, alike, rfl⟩
    simp only [unhashed, Session.unhashed, alike]

theorem session_eq (alike : p.unhashed = q.unhashed) : p.session.unhashed = q.session.unhashed :=
  congrArg session alike

theorem tables_eq (alike : p.unhashed = q.unhashed) :
    p.session.tables.unhashed = q.session.tables.unhashed :=
  congrArg (·.session.tables) alike

end Progress

namespace Action

/-- Two ends of actions of which the same shows: both failed alike, or ended alike as far as a view
of the results tells, and left sessions that are alike. -/
inductive Alike (view : α → β) :
    Except Failure α × Progress → Except Failure α × Progress → Prop
  | failed {p q : Progress} (failure : Failure) (alike : p.unhashed = q.unhashed) :
    Alike view (.error failure, p) (.error failure, q)
  | ended {x y : α} {p q : Progress} (same : view x = view y) (alike : p.unhashed = q.unhashed) :
    Alike view (.ok x, p) (.ok y, q)

/-- Actions of which the same shows wherever they are performed alike. -/
def Agree (view : α → β) (a b : Action α) : Prop :=
  ∀ c p q, p.unhashed = q.unhashed → Alike view (a.perform c p) (b.perform c q)

/-- An action whose result is the same in sessions that are alike. -/
abbrev Hides (a : Action α) : Prop := Agree id a a

variable {view : α → β}

namespace Agree

theorem pure {x y : α} (same : view x = view y) :
    Agree view (Pure.pure x : Action α) (Pure.pure y) :=
  fun _ _ _ alike => .ended same alike

theorem throw (failure : Failure) :
    Agree view (MonadExcept.throw failure : Action α) (MonadExcept.throw failure) :=
  fun _ _ _ alike => .failed failure alike

/-- Sequences agree if their first parts do, and their second parts do after results of which the
same shows. -/
theorem bind {seen : γ → δ} {a b : Action α} {next next' : α → Action γ} (first : Agree view a b)
    (rest : ∀ x y, view x = view y → Agree seen (next x) (next' y)) :
    Agree seen (a >>= next) (b >>= next') := by
  intro c p q alike
  have ended := first c p q alike
  rw [perform_bind, perform_bind]
  generalize a.perform c p = ran at ended ⊢
  generalize b.perform c q = ran' at ended ⊢
  cases ended with
  | failed failure alike => exact .failed failure alike
  | ended same alike => exact rest _ _ same c _ _ alike

/-- Rows that are found are there in both runs or in neither. -/
theorem require (refusal : Refusal) {found found' : Option α}
    (same : found.map view = found'.map view) :
    Agree view (Action.require refusal found) (Action.require refusal found') := by
  cases found with
  | none =>
    cases found' with
    | none => exact throw _
    | some _ => cases same
  | some x =>
    cases found' with
    | none => cases same
    | some y => exact pure (Option.some.inj same)

theorem statement {s : Statement α} (blind : s.Blind view) :
    Agree view (Action.statement s) (Action.statement s) := by
  intro c p q alike
  rcases Progress.unhashed_eq_iff.mp alike with ⟨t, same, rfl⟩
  simp only [perform_statement]
  cases c.faults.statement p.statements with
  | some fault => exact .failed _ (Progress.unhashed_eq_iff.mpr ⟨t, same, rfl⟩)
  | none =>
    have ran := blind c.now p.session.tables t p.session.sequences same
    generalize s.run c.now p.session.tables p.session.sequences = first at ran ⊢
    generalize s.run c.now t p.session.sequences = second at ran ⊢
    cases ran with
    | failed fault drawn => exact .failed _ (Progress.unhashed_eq_iff.mpr ⟨t, same, rfl⟩)
    | answered shown after drawn =>
      exact .ended shown (Progress.unhashed_eq_iff.mpr ⟨_, after, rfl⟩)

end Agree

namespace Hides

theorem pure (a : α) : (Pure.pure a : Action α).Hides := Agree.pure rfl

theorem throw (failure : Failure) : (MonadExcept.throw failure : Action α).Hides :=
  Agree.throw failure

theorem context : Action.context.Hides := fun _ _ _ alike => .ended rfl alike

theorem bind {a : Action α} {next : α → Action γ} (first : a.Hides)
    (rest : ∀ x, (next x).Hides) : (a >>= next).Hides := by
  refine Agree.bind first fun x y same => ?_
  rcases (same : x = y) with rfl
  exact rest x

theorem tryCatch {a : Action α} {handle : Failure → Action α} (first : a.Hides)
    (rest : ∀ failure, (handle failure).Hides) : (MonadExcept.tryCatch a handle).Hides := by
  intro c p q alike
  have ended := first c p q alike
  rw [perform_tryCatch, perform_tryCatch]
  generalize a.perform c p = ran at ended ⊢
  generalize a.perform c q = ran' at ended ⊢
  cases ended with
  | failed failure alike => exact rest failure c _ _ alike
  | ended same alike => exact .ended same alike

theorem require (refusal : Refusal) (found : Option α) : (Action.require refusal found).Hides := by
  cases found with
  | none => exact throw _
  | some a => exact pure a

theorem ensure (decided : Except Refusal α) : (Action.ensure decided).Hides := by
  cases decided with
  | ok a => exact pure a
  | error refusal => exact throw _

theorem ensureFree (taken : Bool) (message : String) :
    (Action.ensureFree taken message).Hides := by
  cases taken with
  | false => exact pure ()
  | true => exact throw _

theorem statement {s : Statement α} (blind : s.Blind id) : (Action.statement s).Hides :=
  Agree.statement blind

/-- Tables that are put back are alike, since they were so in the beginning. -/
theorem transaction {a : Action α} (hides : a.Hides) : (Action.transaction a).Hides := by
  intro c p q alike
  have mark : Action.mark.Hides := statement (.select fun _ => rfl)
  have marked : (Action.marked a).Hides :=
    mark.bind fun _ => hides.bind fun _ => mark.bind fun _ => pure _
  have ended := marked c p q alike
  rw [perform_transaction, perform_transaction]
  generalize (Action.marked a).perform c p = ran at ended ⊢
  generalize (Action.marked a).perform c q = ran' at ended ⊢
  cases ended with
  | failed failure after =>
    have tables := Progress.tables_eq alike
    rcases Progress.unhashed_eq_iff.mp after with ⟨_, _, rfl⟩
    exact .failed failure (Progress.unhashed_eq_iff.mpr ⟨_, tables, rfl⟩)
  | ended same after => exact .ended same after

theorem keepPicture (sku : String) (position : Nat) (r : Renditions) :
    (Action.keepPicture sku position r).Hides := by
  intro c p q alike
  rcases Progress.unhashed_eq_iff.mp alike with ⟨t, same, rfl⟩
  simp only [perform_keepPicture]
  cases c.faults.picture p.pictures with
  | some mishap => exact .failed _ (Progress.unhashed_eq_iff.mpr ⟨t, same, rfl⟩)
  | none =>
    rcases p.session.shelf.keep pictureAddresses sku position r with ⟨fault | locations, shelf⟩
    · exact .failed _ (Progress.unhashed_eq_iff.mpr ⟨t, same, rfl⟩)
    · exact .ended rfl (Progress.unhashed_eq_iff.mpr ⟨t, same, rfl⟩)

theorem publish (eventType : String) (shown : Json) : (Action.publish eventType shown).Hides := by
  intro c p q alike
  rcases Progress.unhashed_eq_iff.mp alike with ⟨t, same, rfl⟩
  simp only [perform_publish]
  exact .ended rfl (Progress.unhashed_eq_iff.mpr ⟨t, same, rfl⟩)

end Hides
end Action
end Shop
