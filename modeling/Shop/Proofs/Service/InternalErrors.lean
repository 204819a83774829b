import Shop.Proofs.Http.Understanding
import Shop.Proofs.Service.Passwords
import Shop.Proofs.Service.Untouched

/-!
# Internal errors

A client is told of an internal error only where something fails that is not its own affair.  As
long as the store refuses rows for the constraints of their tables alone, and no pictures come with
a request, there is no such thing: what a row has to keep is checked before it is written, the key
that is taken has an index that the client may hear of, and the hashes of passwords can be read
again.
-/

namespace Shop

/-! ## Constraints of the store -/

namespace StoreFault

/-- The code of a value that is missing where one must be. -/
def absentCode : String := "23502"

/-- A fault that says that a row broke a constraint of its table: a value that must be there, a
reference, a key or a condition. -/
def OfConstraint : StoreFault → Prop
  | .rejected (some code) _ _ => code ∈ [absentCode, danglingCode, duplicateCode, conditionCode]
  | _ => False

theorem ofConstraint_duplicateKey (index : String) : (duplicateKey index).OfConstraint := by
  change duplicateCode ∈ [absentCode, danglingCode, duplicateCode, conditionCode]
  simp

/-- Parameters that cannot be passed break no constraint. -/
theorem not_ofConstraint_of_unpassable {parameter : Parameter} {fault : StoreFault}
    (stopped : parameter.fault? = some fault) : ¬ fault.OfConstraint := by
  have text : textCode ∉ [absentCode, danglingCode, duplicateCode, conditionCode] := by decide
  have time : timeCode ∉ [absentCode, danglingCode, duplicateCode, conditionCode] := by decide
  cases parameter with
  | text s =>
    rw [Parameter.badText_of_fault? stopped]
    exact text
  | time t =>
    simp only [Parameter.fault?] at stopped
    split at stopped
    · cases stopped
    · cases stopped
      exact time

end StoreFault

/-- The client may hear of the key of a product that is taken. -/
theorem Kind.brokenIndex_product :
    (StoreFault.duplicateKey (Kind.index .product)).brokenIndex? = some (Kind.index .product) := by
  decide +kernel

theorem Failure.status_colliding :
    (Failure.store (.duplicateKey (Kind.index .product))).status = 400 := by
  decide +kernel

/-! ## Reasons of commands -/

/-- The pictures that a command brings. -/
def Command.images : Command → List ImageInput
  | .createRoot request => request.val.images
  | _ => []

/-- Tables whose live users have hashes with which any password can be compared. -/
def Tables.Readable (t : Tables) : Prop :=
  ∀ user ∈ t.live .user, ∀ password, ∃ known, Password.verify password user.passwordHash = .ok known

/-- A client hears that what it looks for is not there. -/
theorem Command.status_of_sought {command : Command} {refusal : Refusal}
    (sought : command.sought? = some refusal) : (Failure.refused refusal).status = 404 := by
  cases command <;> cases sought <;> rfl

namespace Command.FailsFor

variable {c : Context} {t : Tables} {command : Command} {failure : Failure} {fault : StoreFault}

/-- What the store refuses is the key of a product, or what could not be passed. -/
theorem store (fails : command.FailsFor c t (.store fault)) (undisturbed : c.Undisturbed)
    (unpictured : command.images = []) :
    fault = .duplicateKey (Kind.index .product) ∨
      ∃ parameter ∈ command.parameters c.clock, parameter.fault? = some fault := by
  cases fails with
  | @disturbed n _ made =>
    rw [undisturbed n] at made
    cases made
  | unpassable passed stopped => exact .inr ⟨_, passed, stopped⟩
  | colliding creates collide => exact .inl rfl
  | pictured creates pictures of =>
    subst creates
    exact absurd unpictured pictures

/-- Of the constraints of the store, a command can break only that on the keys of products. -/
theorem duplicateKey (fails : command.FailsFor c t (.store fault)) (undisturbed : c.Undisturbed)
    (unpictured : command.images = []) (constraint : fault.OfConstraint) :
    fault = .duplicateKey (Kind.index .product) := by
  rcases fails.store undisturbed unpictured with same | ⟨parameter, _, stopped⟩
  · exact same
  · exact absurd constraint (StoreFault.not_ofConstraint_of_unpassable stopped)

/-- Where all parameters can be passed, the store refuses rows for their constraints alone. -/
theorem ofConstraint (fails : command.FailsFor c t (.store fault)) (undisturbed : c.Undisturbed)
    (unpictured : command.images = [])
    (passable : ∀ parameter ∈ command.parameters c.clock, parameter.fault? = none) :
    fault.OfConstraint := by
  rcases fails.store undisturbed unpictured with rfl | ⟨parameter, passed, stopped⟩
  · exact StoreFault.ofConstraint_duplicateKey _
  · rw [passable parameter passed] at stopped
    cases stopped

/-- Where the store refuses rows for their constraints alone, the client is at fault. -/
theorem status (fails : command.FailsFor c t failure) (undisturbed : c.Undisturbed)
    (unpictured : command.images = []) (readable : t.Readable)
    (constraint : ∀ fault, failure = .store fault → fault.OfConstraint) :
    failure.status = 400 ∨ failure.status = 404 := by
  cases fails with
  | @disturbed n _ made =>
    rw [undisturbed n] at made
    cases made
  | unpassable passed stopped =>
    exact absurd (constraint _ rfl) (StoreFault.not_ofConstraint_of_unpassable stopped)
  | missing sought => exact .inr (Command.status_of_sought sought)
  | invalid checked broken =>
    rcases Command.invalid_of_checks checked broken with ⟨message, rfl⟩
    exact .inl rfl
  | held wanted message => exact .inl rfl
  | colliding creates collide => exact .inl Failure.status_colliding
  | pictured creates pictures of =>
    subst creates
    exact absurd unpictured pictures
  | unproven changes wished message => exact .inl rfl
  | unreadable changes alive faulty message =>
    rcases readable _ alive _ with ⟨known, verified⟩
    cases faulty.symm.trans verified

end Command.FailsFor

/-! ## Hashes that are read again -/

/-- A happening whose salt, if it may make a hash with it, can be kept. -/
def Happening.Salted : Happening → Prop
  | .served c _ _ => EncodedHash.FitsSalt c.salt
  | .delivered .. => True

namespace Session

variable {queueCapacity : Nat} {history : List Happening}

/-- Passwords are given with salts that can be kept. -/
theorem fitsSalt_of_latest (salted : ∀ happening ∈ history, happening.Salted) {id : Int}
    {c : Context} {password : String}
    (latest : latestPassword? queueCapacity id history = some (c, password)) :
    EncodedHash.FitsSalt c.salt := by
  induction history with
  | nil => cases latest
  | cons last earlier inductionHypothesis =>
    have before := fun found => inductionHypothesis (fun happening member =>
      salted happening (List.mem_cons_of_mem last member)) found
    unfold latestPassword? at latest
    cases said : last.password? (since queueCapacity earlier) id with
    | none =>
      rw [said] at latest
      exact before latest
    | some gift =>
      rw [said] at latest
      cases latest
      cases last with
      | served c' fresh r =>
        rcases Option.bind_eq_some_iff.mp said with ⟨command, _, given⟩
        rcases Option.map_eq_some_iff.mp given with ⟨_, _, same⟩
        cases same
        exact salted _ List.mem_cons_self
      | delivered => cases said

/-- The hashes of all users can be read again. -/
theorem since_readable (salted : ∀ happening ∈ history, happening.Salted) :
    (since queueCapacity history).tables.Readable := by
  intro user alive password
  rcases holds_latest user (Tables.mem_live.mp alive).1 with ⟨c, kept, latest, holds⟩
  rw [holds.hash]
  exact ⟨_, Password.verify_hash (fitsSalt_of_latest salted latest) password kept⟩

end Session

/-! ## Statuses of answers -/

/-- What a command replies when it ends well is no internal error. -/
theorem Command.MayReply.status_ne {command : Command} {reply : Reply}
    (may : command.MayReply reply) : reply.status ≠ 500 := by
  by_cases probe : ∃ sku, command = .probeProduct sku
  · rcases probe with ⟨sku, rfl⟩
    rcases may.1 with same | same <;> rw [same] <;> decide
  · rw [(may.of_other (not_exists.mp probe)).1]
    rcases command.success_eq with same | same <;> rw [same] <;> decide

/-- A command is answered with no internal error if it can fail with none. -/
theorem Command.serve_status_ne {command : Command} {c : Context} {s : Session}
    (told : ∀ failure q, command.action.perform c (.start s) = (.error failure, q) →
      failure.status ≠ 500) : (command.action.serve c s).1.status ≠ 500 := by
  rcases Action.serve_cases command.action c s with
    ⟨failure, q, ran, replied⟩ | ⟨reply, q, ran, replied⟩
  · rw [replied]
    exact told failure q ran
  · rw [replied]
    exact (command.ends c _ reply q ran).status_ne

namespace Http

theorem preflightAt_status (path : String) : (preflightAt path).status = 200 := by
  simp only [preflightAt]
  split
  · rfl
  · simp only [Response.sized, Response.allowing, Response.withDefault_status, preflight]

/-- A request below the version for which no command is served is answered with no internal
error. -/
theorem serve_unserved_status_ne {r : Request} (c : Context) (fresh : String) (s : Session)
    (outside : filePath? (Target.read r.target).path = none) (unserved : r.served? = none) :
    (serve c fresh s r).1.status ≠ 500 := by
  by_cases preflight : r.method = .options
  · simp only [serve, preflight, if_true, share_status, preflightAt_status]
    decide
  · cases stands : r.command with
    | ok command =>
      rw [Request.served?_eq_some.mpr ⟨preflight, outside, stands⟩] at unserved
      cases unserved
    | error rejection =>
      rw [(serve_rejected fresh preflight outside stands).1]
      have told := Request.status_of_rejected stands
      omega

end Http

/-- The request for the twins has no pictures, and all that it passes to the store can be passed. -/
theorem Http.twinsRequest_plain : ∀ command, twinsRequest.served? = some command →
    command.images = [] ∧
      ∀ parameter ∈ command.parameters (Context.calm ⟨0, 0⟩).clock, parameter.fault? = none := by
  have plain : twinsRequest.served?.all (fun command => command.images.isEmpty &&
      (command.parameters (Context.calm ⟨0, 0⟩).clock).all (·.fault?.isNone)) = true := by
    simp only [Request.served?, Request.command, servedAt_eq]
    decide +kernel
  intro command served
  rw [served] at plain
  rcases Bool.and_eq_true_iff.mp plain with ⟨unpictured, passable⟩
  refine ⟨List.isEmpty_iff.mp unpictured, fun parameter passed => ?_⟩
  exact Option.isNone_iff_eq_none.mp (List.all_eq_true.mp passable parameter passed)

/-! ## Any request after any history -/

namespace Session

variable {queueCapacity : Nat} {history : List Happening}

/-- No internal error without a fault.  Whatever has happened, with salts that can be kept, and
whatever is requested below the version without pictures: if the store refuses rows for the
constraints of their tables alone, the status is never that of an internal error.  The only
constraint that a command can break is the one on the keys of products, whose index the client may
hear of and is told as a bad request; and the hashes of all users can be read again. -/
theorem since_never_internal (salted : ∀ happening ∈ history, happening.Salted)
    {c : Context} (undisturbed : c.Undisturbed) (fresh : String) {r : Http.Request}
    {segments : List String}
    (path : (Http.Target.read r.target).path.splitOn "/" = "" :: "v1" :: segments)
    (unpictured : ∀ command, r.served? = some command → command.images = [])
    (constraints : ∀ command fault q, r.served? = some command →
      command.action.perform c (.start (since queueCapacity history)) = (.error (.store fault), q) →
        fault.OfConstraint) :
    let s := since queueCapacity history
    let status := (Http.serve c fresh s r).1.status
    status ≠ 500 ∧
    (∀ command fault q, r.served? = some command →
      command.action.perform c (.start s) = (.error (.store fault), q) →
        fault = .duplicateKey (Kind.index .product) ∧
          fault.brokenIndex? = some (Kind.index .product) ∧ status = 400) ∧
    s.tables.Readable := by
  intro s status
  have readable : s.tables.Readable := since_readable salted
  have explained (command : Command) {failure : Failure} {q : Progress}
      (ran : command.action.perform c (.start s) = (.error failure, q)) :
      command.FailsFor c s.tables failure :=
    command.fails (since_reachable queueCapacity history).sound _ failure q rfl ran
  refine ⟨?_, fun command fault q served ran => ?_, readable⟩
  · cases served : r.served? with
    | none => exact Http.serve_unserved_status_ne c fresh s (Http.filePath?_eq_none path) served
    | some command =>
      have same : status = (command.action.serve c s).1.status :=
        (Http.serve_served c fresh s served).1
      rw [same]
      refine Command.serve_status_ne fun failure q ran => ?_
      have told := (explained command ran).status undisturbed (unpictured command served) readable
        fun fault same => constraints command fault q served (same ▸ ran)
      omega
  · have same := (explained command ran).duplicateKey undisturbed (unpictured command served)
      (constraints command fault q served ran)
    have replied : status = (command.action.serve c s).1.status :=
      (Http.serve_served c fresh s served).1
    subst same
    refine ⟨rfl, Kind.brokenIndex_product, ?_⟩
    rw [replied, Action.serve, ran]
    exact Failure.status_colliding

/-- Whoever asks for the twins where a clerk was created hears of no internal error, and the hash of
the clerk can be read. -/
theorem since_never_internal_twins :
    (Http.serve (.calm ⟨0, 0⟩) "twins" (since 16 clerkHistory) Http.twinsRequest).1.status ≠ 500 ∧
    ∃ user ∈ (since 16 clerkHistory).tables.live .user, ∀ password, ∃ known,
      Password.verify password user.passwordHash = .ok known := by
  rcases clerkHistory_user with ⟨user, alone, _⟩
  have alive : user ∈ (since 16 clerkHistory).tables.live .user := by
    rw [alone]
    exact List.mem_singleton.mpr rfl
  have undisturbed : (Context.calm ⟨0, 0⟩).Undisturbed := fun _ => rfl
  have unpictured (command : Command) (served : Http.twinsRequest.served? = some command) :
      command.images = [] :=
    (Http.twinsRequest_plain command served).1
  have salted : ∀ happening ∈ clerkHistory, happening.Salted := by
    intro happening member
    rw [List.mem_singleton.mp member]
    show EncodedHash.FitsSalt Context.salted.salt
    decide +kernel
  have path : (Http.Target.read Http.twinsRequest.target).path.splitOn "/" =
      "" :: "v1" :: ["product"] := by
    rw [Text.splitOn_slash]
    decide +kernel
  rcases since_never_internal salted undisturbed "twins" path unpictured
    fun command fault q served ran =>
      (command.fails (since_reachable 16 clerkHistory).sound _ _ q rfl ran).ofConstraint undisturbed
        (unpictured command served) (Http.twinsRequest_plain command served).2
    with ⟨told, _, readable⟩
  exact ⟨told, user, alive, readable user alive⟩

end Session
end Shop
