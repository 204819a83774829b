import Shop.Proofs.Store.Statements
import Shop.Service.Action

/-!
# Running actions

What an action does in a context is followed step by step: the first part of a sequence runs, and the
second goes on where it ended, unless the first failed.  A run that ended well tells how each of its
parts ended.
-/

namespace Shop
namespace Action

variable {c : Context} {p q : Progress}

theorem perform_pure (a : α) : (pure a : Action α).perform c p = (.ok a, p) := rfl

/-- A sequence goes on where its first part ended, unless that failed. -/
theorem perform_bind (a : Action α) (next : α → Action β) :
    (a >>= next).perform c p =
      match a.perform c p with
      | (.ok x, middle) => (next x).perform c middle
      | (.error failure, middle) => (.error failure, middle) := by
  change (match a.perform c p with
    | (result, middle) => (ExceptT.bindCont next result).run c |>.run middle) = _
  rcases a.perform c p with ⟨_ | _, _⟩ <;> rfl

/-- A sequence ended well if both of its parts did. -/
theorem perform_bind_ok {a : Action α} {next : α → Action β} {y : β} :
    (a >>= next).perform c p = (.ok y, q) ↔
      ∃ x middle, a.perform c p = (.ok x, middle) ∧ (next x).perform c middle = (.ok y, q) := by
  rw [perform_bind]
  rcases a.perform c p with ⟨failure | x, middle⟩
  · simp
  · simp [and_assoc]

/-- A sequence failed in its first part or, after that ended well, in its second. -/
theorem perform_bind_error {a : Action α} {next : α → Action β} {failure : Failure} :
    (a >>= next).perform c p = (.error failure, q) ↔
      a.perform c p = (.error failure, q) ∨
      ∃ x middle, a.perform c p = (.ok x, middle) ∧
        (next x).perform c middle = (.error failure, q) := by
  rw [perform_bind]
  rcases a.perform c p with ⟨_ | x, middle⟩
  · simp
  · simp [and_assoc]

theorem perform_bind_of_ok {a : Action α} {next : α → Action β} {x : α}
    (done : a.perform c p = (.ok x, q)) : (a >>= next).perform c p = (next x).perform c q := by
  rw [perform_bind, done]

/-- Sequences that go on alike where their first part ends well are alike. -/
theorem perform_bind_congr {a : Action α} {next next' : α → Action β}
    (same : ∀ x q, a.perform c p = (.ok x, q) → (next x).perform c q = (next' x).perform c q) :
    (a >>= next).perform c p = (a >>= next').perform c p := by
  rw [perform_bind, perform_bind]
  rcases ran : a.perform c p with ⟨failure | x, middle⟩
  · rfl
  · exact same x middle ran

theorem perform_tryCatch (a : Action α) (handle : Failure → Action α) :
    (tryCatch a handle).perform c p =
      match a.perform c p with
      | (.ok x, middle) => (.ok x, middle)
      | (.error failure, middle) => (handle failure).perform c middle := by
  rcases ran : a.perform c p with ⟨failure | x, middle⟩
  all_goals
    change (ReaderT.run a c).run p = _ at ran
    simp only [perform, tryCatch, tryCatchThe, MonadExceptOf.tryCatch, ExceptT.tryCatch,
      ExceptT.run_mk, ReaderT.run_bind, StateT.run_bind, ran]
    rfl

theorem perform_require (refusal : Refusal) (found : Option α) :
    (require refusal found).perform c p =
      match found with
      | some a => (.ok a, p)
      | none => (.error (.refused refusal), p) := by
  cases found <;> rfl

theorem perform_require_ok {refusal : Refusal} {found : Option α} {a : α} :
    (require refusal found).perform c p = (.ok a, q) ↔ found = some a ∧ q = p := by
  rw [perform_require]
  cases found <;> simp [eq_comm]

theorem perform_ensure_ok {decided : Except Refusal α} {a : α} :
    (ensure decided).perform c p = (.ok a, q) ↔ decided = .ok a ∧ q = p := by
  cases decided with
  | error refusal => exact iff_of_false (fun done => by cases done) fun ⟨done, _⟩ => by cases done
  | ok b =>
    change (Except.ok b, p) = (Except.ok a, q) ↔ _
    simp [eq_comm]

theorem perform_ensureFree_ok {taken : Bool} {message : String} {u : Unit} :
    (ensureFree taken message).perform c p = (.ok u, q) ↔ taken = false ∧ q = p := by
  cases taken with
  | true => exact iff_of_false (fun done => by cases done) fun ⟨done, _⟩ => by cases done
  | false =>
    change (Except.ok (), p) = (Except.ok u, q) ↔ _
    simp [eq_comm]

/-! ## Statements -/

theorem perform_statement (s : Statement α) :
    (statement s).perform c p =
      match c.faults.statement p.statements with
      | some fault => (.error (.store fault), { p with statements := p.statements + 1 })
      | none =>
        match s.run c.now p.session.tables p.session.sequences with
        | (.error fault, sequences) =>
          (.error (.store fault),
            { p with statements := p.statements + 1, session := { p.session with sequences } })
        | (.ok (a, tables), sequences) =>
          (.ok a,
            { p with
              statements := p.statements + 1
              session := { p.session with tables, sequences } }) := rfl

/-- A statement that ended well was not made to fail, and answered from the tables it found. -/
theorem perform_statement_ok {s : Statement α} {a : α}
    (done : (statement s).perform c p = (.ok a, q)) :
    ∃ tables sequences,
      s.run c.now p.session.tables p.session.sequences = (.ok (a, tables), sequences) ∧
      q.session = { p.session with tables, sequences } := by
  rw [perform_statement] at done
  split at done
  · cases done
  · split at done
    · cases done
    · rename_i answered
      cases done
      exact ⟨_, _, answered, rfl⟩

theorem perform_statement_error {s : Statement α} {failure : Failure}
    (failed : (statement s).perform c p = (.error failure, q)) :
    q.session.tables = p.session.tables := by
  rw [perform_statement] at failed
  split at failed
  · cases failed
    rfl
  · split at failed
    · cases failed
      rfl
    · cases failed

theorem perform_select_ok {f : Tables → α} {a : α}
    (done : (statement (.select f)).perform c p = (.ok a, q)) :
    a = f p.session.tables ∧ q.session = p.session := by
  rcases perform_statement_ok done with ⟨tables, sequences, answered, session⟩
  cases answered
  exact ⟨rfl, session⟩

/-- What was looked up with parameters is what the tables say. -/
theorem perform_lookup_ok {parameters : List Parameter} {f : Tables → α} {a : α}
    (done : (statement (.passing parameters (.select f))).perform c p = (.ok a, q)) :
    a = f p.session.tables ∧ q.session = p.session := by
  rcases perform_statement_ok done with ⟨_, _, answered, session⟩
  cases Statement.passing_ok answered
  exact ⟨rfl, session⟩

theorem perform_keepPicture (sku : String) (position : Nat) (r : Renditions) :
    (keepPicture sku position r).perform c p =
      match c.faults.picture p.pictures with
      | some mishap =>
        (.error (.picture mishap.fault),
          { p with
            pictures := p.pictures + 1
            session :=
              { p.session with shelf := p.session.shelf.keepPart sku position r mishap.steps } })
      | none =>
        ((p.session.shelf.keep pictureAddresses sku position r).1.mapError .picture,
          { p with
            pictures := p.pictures + 1
            session :=
              { p.session with
                shelf := (p.session.shelf.keep pictureAddresses sku position r).2 } }) := rfl

/-- A picture that was kept changes the shelf alone. -/
theorem perform_keepPicture_ok {sku : String} {position : Nat} {r : Renditions}
    {locations : Locations} (done : (keepPicture sku position r).perform c p = (.ok locations, q)) :
    ∃ shelf, p.session.shelf.keep pictureAddresses sku position r = (.ok locations, shelf) ∧
      q.session = { p.session with shelf } := by
  rw [perform_keepPicture] at done
  split at done
  · cases done
  · rcases kept : p.session.shelf.keep pictureAddresses sku position r with ⟨fault | found, shelf⟩
    · rw [kept] at done
      cases done
    · rw [kept] at done
      cases done
      exact ⟨shelf, rfl, rfl⟩

/-- A picture that could not be kept failed as pictures do. -/
theorem perform_keepPicture_error {sku : String} {position : Nat} {r : Renditions}
    {failure : Failure} (failed : (keepPicture sku position r).perform c p = (.error failure, q)) :
    ∃ fault, failure = .picture fault := by
  rw [perform_keepPicture] at failed
  split at failed
  · cases failed
    exact ⟨_, rfl⟩
  · rcases kept : p.session.shelf.keep pictureAddresses sku position r with ⟨fault | found, shelf⟩
    · rw [kept] at failed
      cases failed
      exact ⟨fault, rfl⟩
    · rw [kept] at failed
      cases failed

/-- Kept or not, a picture changes nothing but the shelf. -/
theorem perform_keepPicture_session (sku : String) (position : Nat) (r : Renditions) :
    ∃ shelf, ((keepPicture sku position r).perform c p).2.session = { p.session with shelf } := by
  rw [perform_keepPicture]
  split <;> exact ⟨_, rfl⟩

theorem perform_publish (eventType : String) (shown : Json) :
    (publish eventType shown).perform c p =
      (.ok (),
        { p with
          session :=
            { p.session with bus := p.session.bus.publish (.of eventType shown c.clock) } }) := rfl

/-! ## Transactions -/

/-- The statement that begins or ends a transaction. -/
def mark : Action Unit := statement (.select fun _ => ())

/-- An action between the statements that begin and end a transaction. -/
def marked (a : Action α) : Action α := do
  mark
  let result ← a
  mark
  return result

/-- A transaction is its action between two marks, which leaves the tables as they were if it
fails. -/
theorem perform_transaction (a : Action α) :
    (transaction a).perform c p =
      match (marked a).perform c p with
      | (.ok result, after) => (.ok result, after)
      | (.error failure, after) =>
        (.error failure,
          { after with session := { after.session with tables := p.session.tables } }) := rfl

/-- A transaction that ended well did what its action did. -/
theorem perform_transaction_ok {a : Action α} {x : α}
    (done : (transaction a).perform c p = (.ok x, q)) :
    ∃ before after, a.perform c before = (.ok x, after) ∧ before.session = p.session ∧
      q.session = after.session := by
  have ended : (marked a).perform c p = (.ok x, q) := by
    rw [perform_transaction] at done
    rcases ran : (marked a).perform c p with ⟨failure | result, after⟩
    · rw [ran] at done
      cases done
    · rw [ran] at done
      exact done
  rcases perform_bind_ok.mp ended with ⟨_, before, began, rest⟩
  rcases perform_bind_ok.mp rest with ⟨result, after, ran, rest⟩
  rcases perform_bind_ok.mp rest with ⟨_, last, finished, returned⟩
  cases returned
  exact ⟨before, after, ran, (perform_select_ok began).2, (perform_select_ok finished).2⟩

theorem perform_transaction_error {a : Action α} {failure : Failure}
    (failed : (transaction a).perform c p = (.error failure, q)) :
    q.session.tables = p.session.tables := by
  rw [perform_transaction] at failed
  rcases ran : (marked a).perform c p with ⟨fault | result, after⟩
  · rw [ran] at failed
    cases failed
    rfl
  · rw [ran] at failed
    cases failed

/-! ## Serving clients -/

/-- What a client is told or not, the action leaves what it leaves. -/
theorem serve_snd (a : Action Reply) (c : Context) (s : Session) :
    (a.serve c s).2 = (a.perform c (.start s)).2.session := by
  unfold serve
  rcases a.perform c (.start s) with ⟨failure | reply, after⟩ <;> rfl

/-- Serving an action ends in a failure or with a reply. -/
theorem serve_cases (a : Action Reply) (c : Context) (s : Session) :
    (∃ failure q, a.perform c (.start s) = (.error failure, q) ∧
      a.serve c s = (.ofFailure failure, q.session)) ∨
    ∃ reply q, a.perform c (.start s) = (.ok reply, q) ∧ a.serve c s = (reply, q.session) := by
  unfold serve
  rcases a.perform c (.start s) with ⟨failure | reply, q⟩
  · exact .inl ⟨failure, q, rfl, rfl⟩
  · exact .inr ⟨reply, q, rfl, rfl⟩

end Action
end Shop
