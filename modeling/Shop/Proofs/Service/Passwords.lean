import Shop.Proofs.Password.Encoded
import Shop.Proofs.Service.Explained
import Shop.Proofs.Service.Reading

/-!
# Passwords of users

A request gives a user a password if it creates the user, or if it is a successful change that
carries a new one.  The store keeps the hash of the latest password that a history has given to a
user, and the time at which it did; nothing else that happens touches either of them.  Whoever gives
a user a new password has shown a password that the kept hash could be made from.
-/

namespace Shop

/-! ## What gives passwords -/

/-- The number of the row that a reply shows. -/
def Reply.shownId? (reply : Reply) : Option Int :=
  match reply.body with
  | some (.object ((_, .int id) :: _)) => some id
  | _ => none

/-- The password that a command gives to the user of a number: that of a user it creates, or the new
one of a change that succeeds. -/
def Command.password? (c : Context) (s : Session) (id : Int) (command : Command) : Option String :=
  let reply := (command.action.serve c s).1
  match command with
  | .createUser request =>
    if reply.status = 201 ∧ reply.shownId? = some id then some request.val.password else none
  | .changeUser changed change =>
    if reply.status = 200 ∧ changed = id then change.val.newPassword else none
  | _ => none

/-- The password that something gives to the user of a number, and the context in which it does. -/
def Happening.password? (s : Session) (happening : Happening) (id : Int) :
    Option (Context × String) :=
  match happening with
  | .served c _ r => r.served?.bind fun command => (command.password? c s id).map (c, ·)
  | .delivered .. => none

/-- The latest password that a history gives to the user of a number. -/
def Session.latestPassword? (queueCapacity : Nat) (id : Int) :
    List Happening → Option (Context × String)
  | [] => none
  | latest :: earlier =>
    latest.password? (since queueCapacity earlier) id <|> latestPassword? queueCapacity id earlier

/-! ## Users that stay as they are -/

/-- Two rows of one user with the same hash, set at the same time. -/
structure User.SamePassword (before after : User) : Prop where
  id : after.id = before.id
  hash : after.passwordHash = before.passwordHash
  changedOn : after.passwordChangedOn = before.passwordChangedOn

/-- Every user of the tables after was there before, with the same password. -/
def Tables.PasswordsKept (t t' : Tables) : Prop :=
  ∀ user ∈ t'.rows .user, ∃ before ∈ t.rows .user, before.SamePassword user

namespace Tables.PasswordsKept

variable {t t' : Tables}

theorem of_rows_eq (same : t'.rows .user = t.rows .user) : t.PasswordsKept t' := by
  intro user member
  rw [same] at member
  exact ⟨user, member, rfl, rfl, rfl⟩

end Tables.PasswordsKept

/-- The tables after the live user of a number was changed. -/
def Tables.withUser (t : Tables) (id : Int) (patch : UserPatch) (now : Instant) : Tables :=
  t.put .user ((t.rows .user).map fun user =>
    if Kind.live .user user && user.id == id then patch.apply now user else user)

/-- Where users are neither inserted nor amended, their passwords are kept. -/
theorem Session.Reach.passwordsKept {allowed : Effect → Prop} {s s' : Session}
    (steps : Reach allowed s s') (inserts : ¬ allowed (.insert .user))
    (amends : ¬ allowed (.amend .user)) : s.tables.PasswordsKept s'.tables := by
  refine steps.preserves (fun x => s.tables.PasswordsKept x.tables) (fun x y step before => ?_)
    (.of_rows_eq rfl)
  have spared {k : Kind} (rows : List k.Row) (different : .user ≠ k) :
      s.tables.PasswordsKept (x.tables.put k rows) := by
    intro user member
    rw [Tables.rows_put_of_ne x.tables rows different] at member
    exact before user member
  cases step with
  | @insert k may new numbers live admitted =>
    exact spared _ fun same => inserts (same ▸ may)
  | @amend k may change keeps admitted =>
    exact spared _ fun same => amends (same ▸ may)
  | @archive k may chosen now =>
    by_cases same : .user = k
    · subst same
      intro user member
      change user ∈ (x.tables.archiveWhere .user chosen now).rows .user at member
      unfold Tables.archiveWhere at member
      rw [Tables.rows_put] at member
      rcases List.mem_map.mp member with ⟨old, inside, rfl⟩
      rcases before old inside with ⟨first, firstInside, kept⟩
      refine ⟨first, firstInside, ?_⟩
      split
      · exact ⟨kept.id, kept.hash, kept.changedOn⟩
      · exact kept
    · exact spared _ same
  | _ => exact before

/-- A change whose new password, if there is one, is long enough and comes with one that the kept
hash could be made from. -/
def UserChange.Proven (change : UserChange) (c : Context) (user : User) : Prop :=
  ∀ new, change.newPassword = some new → ∃ current, change.currentPassword = some current ∧
    Password.verify current user.passwordHash = .ok true ∧ c.settings.minPasswordLength ≤ new.length

namespace Service

open Shop.Action

variable {c : Context} {p q : Progress}

/-! ## Commands that give passwords -/

theorem createUser_ok {request : UserRequest} {reply : Reply}
    (done : (createUser request).perform c p = (.ok reply, q)) :
    let user := (request.newUser (Password.hash c.salt request.password)).row c.now
      ((p.session.sequences.last .user + 1 : Nat) : Int)
    reply = .created user.toJson ∧ q.session.tables = p.session.tables ++ .only .user [user] := by
  rcases perform_bind_ok.mp done with ⟨found, _, asked, rest⟩
  rcases perform_bind_ok.mp rest with ⟨_, _, ensured, rest⟩
  rcases perform_bind_ok.mp rest with ⟨taken, _, looked, rest⟩
  rcases perform_bind_ok.mp rest with ⟨_, _, free, rest⟩
  rcases perform_bind_ok.mp rest with ⟨user, _, inserted, returned⟩
  cases asked
  cases returned
  rcases perform_ensure_ok.mp ensured with ⟨_, rfl⟩
  rcases perform_ensureFree_ok.mp free with ⟨_, rfl⟩
  have still := (perform_lookup_ok looked).2
  rcases perform_insert_drawn (k := .user) inserted with ⟨rfl, tables⟩
  rw [still] at tables
  rw [tables, still]
  exact ⟨rfl, rfl⟩

theorem createUser_atomic (request : UserRequest) : (createUser request).Atomic := by
  refine .after .context fun _ => .after (.ensure _) fun _ => ?_
  refine .after (.statement (.passing (.select _) _)) fun _ => .after (.ensureFree _ _) fun _ => ?_
  exact .before (.insert (k := .user) (fun _ _ => rfl) fun _ _ => rfl) fun _ => .pure _

theorem storeChange_ok {id : Int} {patch : UserPatch} {reply : Reply}
    (done : (do
      let user ← require (noUser id) (← statement (Store.changeUser id patch))
      return Reply.ok user.toJson : Action Reply).perform c p = (.ok reply, q)) :
    (∃ user, (p.session.tables.live .user).find? (Kind.number .user · == id) = some user ∧
      reply = .ok (patch.apply c.now user).toJson) ∧
      q.session.tables = p.session.tables.withUser id patch c.now := by
  rcases perform_requireChanged_ok (k := .user) done with ⟨user, there, middle, tables, returned⟩
  cases returned
  exact ⟨⟨user, there, rfl⟩, tables⟩

/-- A successful change of a user with a new password was proven to know the current one, and shows the
user as changed. -/
theorem changeUser_ok {id : Int} {change : UserChange} {reply : Reply}
    (done : (changeUser id change).perform c p = (.ok reply, q)) :
    let patch := change.patch (change.newPassword.map (Password.hash c.salt))
    reply.status = 200 ∧
      (∃ existing ∈ p.session.tables.live .user, existing.id = id ∧ change.Proven c existing ∧
        reply = .ok (patch.apply c.now existing).toJson) ∧
      q.session.tables = p.session.tables.withUser id patch c.now := by
  rcases perform_bind_ok.mp done with ⟨found, first, looked, rest⟩
  rcases perform_bind_ok.mp rest with ⟨existing, second, required, ended⟩
  rcases perform_require_ok.mp required with ⟨there, rfl⟩
  rcases perform_select_ok looked with ⟨rfl, still⟩
  have alive : existing ∈ p.session.tables.live .user := List.mem_of_find?_eq_some there
  have number : existing.id = id :=
    beq_iff_eq.mp (List.find?_some (p := fun user : User => user.id == id) there)
  extract_lets afterHash afterName at ended
  have named {middle : Progress} (same : middle.session = p.session)
      (ran : (afterName ()).perform c middle = (.ok reply, q)) :
      let patch := change.patch (change.newPassword.map (Password.hash c.salt))
      change.Proven c existing ∧ reply = .ok (patch.apply c.now existing).toJson ∧
        q.session.tables = p.session.tables.withUser id patch c.now := by
    unfold afterName at ran
    split at ran
    · rename_i unwished
      rcases storeChange_ok ran with ⟨⟨user, found, shown⟩, tables⟩
      rw [same] at found tables
      cases there.symm.trans found
      refine ⟨fun _ wished => ?_, unwished ▸ shown, unwished ▸ tables⟩
      cases unwished.symm.trans wished
    · rename_i new wished
      rcases perform_bind_ok.mp ran with ⟨hash, third, proven, stored⟩
      rcases newHash_ok proven with ⟨rfl, rfl, long, current, given, verified⟩
      rcases storeChange_ok stored with ⟨⟨user, found, shown⟩, tables⟩
      rw [same] at found tables
      cases there.symm.trans found
      refine ⟨fun _ again => ?_, wished ▸ shown, wished ▸ tables⟩
      cases wished.symm.trans again
      exact ⟨current, given, verified, long⟩
  split at ended
  · rcases named still ended with ⟨proven, rfl, tables⟩
    exact ⟨rfl, ⟨existing, alive, number, proven, rfl⟩, tables⟩
  · rcases perform_bind_ok.mp ended with ⟨taken, third, lookedUp, unTaken⟩
    rcases perform_bind_ok.mp unTaken with ⟨_, fourth, free, ran⟩
    rcases perform_ensureFree_ok.mp free with ⟨_, rfl⟩
    rcases named ((perform_lookup_ok lookedUp).2.trans still) ran with ⟨proven, rfl, tables⟩
    exact ⟨rfl, ⟨existing, alive, number, proven, rfl⟩, tables⟩

theorem changeUser_atomic (id : Int) (change : UserChange) : (changeUser id change).Atomic := by
  refine .after (.statement (.select _)) fun found => .after (.require _ _) fun existing => ?_
  extract_lets afterHash afterName
  have hashed : ∀ hash, (afterHash hash).Atomic := by
    intro hash
    refine .change (k := .user) ?_ fun _ => .pure _
    exact fun _ _ => ⟨rfl, rfl, rfl⟩
  have named : ∀ x, (afterName x).Atomic := by
    intro _
    unfold afterName
    split
    · exact hashed none
    · exact .after (newHash_within _ _ _) fun hash => hashed _
  split
  · exact named ()
  · exact .after (.statement (.passing (.select _) _)) fun _ => .after (.ensureFree _ _) named

/-! ## Commands that are not refused -/

theorem never_disturbed (undisturbed : c.Undisturbed) : c.Disturbs fun _ => False := by
  intro n fault made
  rw [undisturbed] at made
  cases made

theorem never_weak {password : String} {minLength : Nat} (long : minLength ≤ password.length) :
    ∀ refusal, Rule.passwordStrength password minLength ≠ .error refusal := by
  intro refusal weak
  rw [Rule.passwordStrength, if_neg (Nat.not_lt.mpr long)] at weak
  cases weak

/-- Where nothing is made to fail, a user is created whose texts can be passed, whose password is long
enough and whose name is free. -/
theorem createUser_accepted {s : Session} (sound : s.Sound) (undisturbed : c.Undisturbed)
    {request : Accepted UserRequest.problems}
    (passable : ∀ parameter ∈ Parameter.texts [request.val.firstName, request.val.lastName,
      request.val.username, request.val.email], parameter.fault? = none)
    (long : c.settings.minPasswordLength ≤ request.val.password.length)
    (free : ∀ user ∈ s.tables.live .user, user.username ≠ request.val.username) :
    Fails c s (createUser request.val) fun _ => False :=
  createUser_fails sound (never_disturbed undisturbed) (Parameter.Stop.none_iff.mpr passable)
    (never_weak long) fun user wanted _ => free user wanted.1 wanted.2

/-- Where nothing is made to fail, a live user is changed if the texts can be passed, the new name is
free and a new password is long enough and comes with the current one. -/
theorem changeUser_accepted {s : Session} (sound : s.Sound) (undisturbed : c.Undisturbed) {user : User}
    (alive : user ∈ s.tables.live .user) {change : Accepted UserChange.problems}
    (passable : ∀ parameter ∈ Parameter.textsOf [change.val.firstName, change.val.lastName,
      change.val.username, change.val.email], parameter.fault? = none)
    (free : ∀ other ∈ s.tables.live .user, other.id ≠ user.id →
      change.val.username ≠ some other.username)
    (proven : change.val.Proven c user) :
    Fails c s (changeUser user.id change.val) fun _ => False := by
  have own {other : User} (otherAlive : other ∈ s.tables.live .user) (same : other.id = user.id) :
      other = user :=
    sound.numbered.eq_of_number (k := .user) (Tables.mem_live.mp otherAlive).1
      (Tables.mem_live.mp alive).1 same
  refine changeUser_fails sound (never_disturbed undisturbed) (Parameter.Stop.none_iff.mpr passable)
    (fun none => none user alive rfl) (fun other wanted _ => ?_) ?_ ?_
    fun new wished => never_weak (proven new wished).choose_spec.2.2
  · exact free other wanted.1 wanted.2.1 wanted.2.2.1
  · intro other otherAlive same wished unproven _
    cases own otherAlive same
    rcases Option.ne_none_iff_exists'.mp wished with ⟨new, wished⟩
    rcases proven new wished with ⟨current, given, verified, _⟩
    exact unproven current given verified
  · intro other otherAlive same wished given fault current faulty _
    cases own otherAlive same
    rcases Option.ne_none_iff_exists'.mp wished with ⟨new, wished⟩
    rcases proven new wished with ⟨known, knownGiven, verified, _⟩
    rw [current] at knownGiven
    cases knownGiven
    rw [faulty] at verified
    cases verified

end Service

/-! ## Passwords that are given -/

/-- What a user holds of a password that was given in a context: its hash, and the time. -/
structure User.Holds (user : User) (c : Context) (password : String) : Prop where
  hash : user.passwordHash = Password.hash c.salt password
  changedOn : user.passwordChangedOn = some c.now

/-- Every user of the tables after holds the password that was given to it, or was there before with
the same password if none was. -/
def Tables.PasswordsGiven (t t' : Tables) (given : Int → Option (Context × String)) : Prop :=
  ∀ user ∈ t'.rows .user, match given user.id with
    | some (c, password) => user.Holds c password
    | none => ∃ before ∈ t.rows .user, before.SamePassword user

namespace Tables.PasswordsGiven

variable {t t' : Tables} {given : Int → Option (Context × String)}

theorem of_kept (kept : t.PasswordsKept t') (none : ∀ id, given id = none) :
    t.PasswordsGiven t' given := by
  intro user member
  rw [none]
  exact kept user member

/-- A new user holds its password, and has the number of no other one. -/
theorem of_gains {c : Context} {password : String} {user : User}
    (gains : t.Gains (.only .user [user]) t') (holds : user.Holds c password) :
    t.PasswordsGiven t' fun id => (if user.id = id then some password else none).map (c, ·) := by
  intro other member
  rw [gains.eq_append, rows_append, rows_only, List.mem_append, List.mem_singleton] at member
  dsimp only
  rcases member with old | rfl
  · have apart : user.id ≠ other.id := gains.unused .user user (by simp) other old
    rw [if_neg apart]
    exact ⟨other, old, rfl, rfl, rfl⟩
  · rw [if_pos rfl]
    exact holds

/-- A live user that is changed holds the new password, if there is one, and nobody else does. -/
theorem of_withUser {drawn : Sequences} (numbered : t.Numbered drawn) {existing : User}
    (alive : existing ∈ t.live .user) (c : Context) (change : UserChange) :
    t.PasswordsGiven (t.withUser existing.id
        (change.patch (change.newPassword.map (Password.hash c.salt))) c.now) fun id =>
      (if existing.id = id then change.newPassword else none).map (c, ·) := by
  intro user member
  rw [withUser, rows_put] at member
  rcases List.mem_map.mp member with ⟨old, inside, rfl⟩
  by_cases own : old = existing
  · subst own
    have picked : (Kind.live .user old && old.id == old.id) = true :=
      Bool.and_eq_true_iff.mpr ⟨(mem_live.mp alive).2, beq_self_eq_true _⟩
    have same (patch : UserPatch) : old.id = (patch.apply c.now old).id := rfl
    dsimp only
    rw [if_pos picked, if_pos (same _)]
    cases wished : change.newPassword with
    | none => exact ⟨old, inside, rfl, rfl, rfl⟩
    | some new => exact ⟨rfl, rfl⟩
  · have other : existing.id ≠ old.id := fun same =>
      own (numbered.eq_of_number (k := .user) inside (mem_live.mp alive).1 same.symm)
    have spared : ¬ (Kind.live .user old && old.id == existing.id) = true := fun picked =>
      other (beq_iff_eq.mp (Bool.and_eq_true_iff.mp picked).2).symm
    dsimp only
    rw [if_neg spared, if_neg other]
    exact ⟨old, inside, rfl, rfl, rfl⟩

end Tables.PasswordsGiven

/-! ## Commands and the passwords that they give -/

namespace Command

variable {c : Context} {s : Session}

/-- A command that fails gives no passwords. -/
theorem password?_of_failed {command : Command}
    (failed : 400 ≤ (command.action.serve c s).1.status) (id : Int) :
    command.password? c s id = none := by
  unfold password?
  cases command with
  | createUser request => exact if_neg fun ⟨created, _⟩ => by omega
  | changeUser changed change => exact if_neg fun ⟨succeeded, _⟩ => by omega
  | _ => rfl

theorem password?_createUser {request : Accepted UserRequest.problems} {user : User}
    (replied : ((createUser request).action.serve c s).1 = .created user.toJson) (id : Int) :
    (createUser request).password? c s id =
      if user.id = id then some request.val.password else none := by
  simp only [password?, replied]
  refine if_congr ?_ rfl rfl
  exact (and_iff_right rfl).trans (Option.some_inj (a := user.id))

theorem password?_changeUser {changed : Int} {change : Accepted UserChange.problems}
    (succeeded : ((changeUser changed change).action.serve c s).1.status = 200) (id : Int) :
    (changeUser changed change).password? c s id =
      if changed = id then change.val.newPassword else none :=
  if_congr (and_iff_right succeeded) rfl rfl

/-- A command that is served gives the users the passwords that it says, and leaves all others the
ones that they had. -/
theorem serve_passwords (sound : s.Sound) (command : Command) :
    s.tables.PasswordsGiven (command.action.serve c s).2.tables fun id =>
      (command.password? c s id).map (c, ·) := by
  have steps := command.within.serve c s
  have failing {failure : Failure} {q : Progress}
      (served : command.action.serve c s = (.ofFailure failure, q.session))
      (kept : q.session.tables = s.tables) :
      s.tables.PasswordsGiven (command.action.serve c s).2.tables fun id =>
        (command.password? c s id).map (c, ·) := by
    refine .of_kept (.of_rows_eq ?_) fun id => ?_
    · rw [served]
      exact congrArg (Tables.rows · .user) kept
    · rw [password?_of_failed]
      · rfl
      · rw [served]
        exact failure.status_ge
  cases command with
  | createUser request =>
    rcases Action.serve_cases (Service.createUser request.val) c s with
      ⟨failure, q, ran, served⟩ | ⟨reply, q, ran, served⟩
    · exact failing served (Service.createUser_atomic _ _ _ _ _ ran).1
    · rcases Service.createUser_ok ran with ⟨rfl, tables⟩
      have after : ((createUser request).action.serve c s).2.tables = _ :=
        (congrArg (·.2.tables) served).trans tables
      simp only [password?_createUser (congrArg Prod.fst served)]
      rw [after]
      refine .of_gains ((after ▸ (steps.sound sound).numbered).gains_append ?_) ⟨rfl, rfl⟩
      exact Tables.forall_rows_only.mpr (List.forall_mem_singleton.mpr rfl)
  | changeUser id change =>
    rcases Action.serve_cases (Service.changeUser id change.val) c s with
      ⟨failure, q, ran, served⟩ | ⟨reply, q, ran, served⟩
    · exact failing served (Service.changeUser_atomic _ _ _ _ _ _ ran).1
    · rcases Service.changeUser_ok ran with ⟨status, ⟨existing, alive, rfl, _⟩, tables⟩
      have after : ((changeUser existing.id change).action.serve c s).2.tables = _ :=
        (congrArg (·.2.tables) served).trans tables
      have succeeded : ((changeUser existing.id change).action.serve c s).1.status = 200 :=
        (congrArg (·.1.status) served).trans status
      simp only [password?_changeUser succeeded]
      rw [after]
      exact .of_withUser sound.numbered alive c change.val
  | _ =>
    exact .of_kept (steps.passwordsKept (of_decide_eq_true rfl) (of_decide_eq_true rfl)) fun _ => rfl

/-- Whoever changed a password knew one that the kept hash could be made from, and chose one that is
long enough. -/
theorem proven_of_changed {id : Int} {change : Accepted UserChange.problems}
    (succeeded : ((changeUser id change).action.serve c s).1.status < 400) {new : String}
    (wished : change.val.newPassword = some new) :
    ∃ user ∈ s.tables.live .user, user.id = id ∧ ∃ current,
      change.val.currentPassword = some current ∧
      Password.verify current user.passwordHash = .ok true ∧
      c.settings.minPasswordLength ≤ new.length := by
  rcases Action.serve_cases (Service.changeUser id change.val) c s with
    ⟨failure, q, ran, served⟩ | ⟨reply, q, ran, served⟩
  · have failed : 400 ≤ ((changeUser id change).action.serve c s).1.status := by
      change 400 ≤ ((Service.changeUser id change.val).serve c s).1.status
      rw [served]
      exact failure.status_ge
    omega
  · rcases Service.changeUser_ok ran with ⟨_, ⟨existing, alive, number, proven, _⟩, _⟩
    exact ⟨existing, alive, number, proven new wished⟩

end Command

/-! ## What happens to passwords -/

namespace Session

/-- Whatever happens gives the users the passwords that it says, and leaves all others the ones that
they had. -/
theorem after_passwords {s : Session} (sound : s.Sound) (latest : Happening) :
    s.tables.PasswordsGiven (s.after latest).tables (latest.password? s) := by
  cases latest with
  | served c fresh r =>
    cases served : r.served? with
    | none =>
      refine .of_kept (.of_rows_eq ?_) fun id => ?_
      · exact congrArg (·.tables.rows .user) (Http.serve_unserved c fresh s served)
      · simp only [Happening.password?, served, Option.bind_none]
    | some command =>
      have session : s.after (.served c fresh r) = (command.action.serve c s).2 :=
        (Http.serve_served c fresh s served).2
      have said : (Happening.served c fresh r).password? s =
          fun id => (command.password? c s id).map (c, ·) := by
        funext id
        simp only [Happening.password?, served, Option.bind_some]
      rw [session, said]
      exact command.serve_passwords sound
  | delivered c answered d event =>
    have steps := Service.dispatch_within answered d event c (.start s)
    exact .of_kept (steps.passwordsKept (by simp) (by simp)) fun _ => rfl

variable {queueCapacity : Nat} {history : List Happening}

/-- Every user holds the latest password that the history gave to it. -/
theorem holds_latest : ∀ user ∈ (since queueCapacity history).tables.rows .user, ∃ c password,
    latestPassword? queueCapacity user.id history = some (c, password) ∧ user.Holds c password := by
  induction history with
  | nil =>
    intro user member
    cases member
  | cons latest earlier inductionHypothesis =>
    intro user member
    have sound := (since_reachable queueCapacity earlier).sound
    have given := after_passwords sound latest user member
    unfold latestPassword?
    cases said : latest.password? (since queueCapacity earlier) user.id with
    | some gift =>
      rw [said] at given
      exact ⟨gift.1, gift.2, rfl, given⟩
    | none =>
      rw [said] at given
      rcases given with ⟨before, inside, same⟩
      rcases inductionHypothesis before inside with ⟨c, password, latest, holds⟩
      rw [same.id]
      exact ⟨c, password, latest, same.hash.trans holds.hash, same.changedOn.trans holds.changedOn⟩

/-- A password that verifies against the hash of a user hashes as the latest one that the history gave
to the user, if the salt of that one can be kept. -/
theorem known_of_verified {user : User}
    (member : user ∈ (since queueCapacity history).tables.rows .user) {current : String}
    (verified : Password.verify current user.passwordHash = .ok true) :
    ∃ before password, latestPassword? queueCapacity user.id history = some (before, password) ∧
      (EncodedHash.FitsSalt before.salt →
        Argon2.hash EncodedHash.standard current.toUTF8 before.salt =
          Argon2.hash EncodedHash.standard password.toUTF8 before.salt) := by
  rcases holds_latest user member with ⟨before, password, latest, holds⟩
  refine ⟨before, password, latest, fun fits => ?_⟩
  rw [holds.hash, Password.verify_hash fits] at verified
  exact ByteArray.ext (beq_iff_eq.mp (Except.ok.inj verified))

/-- Every live user holds the hash of the latest password that the history gave to it, by its creation
or by a successful change, and the time at which it did.  A change that gives one succeeds only if the
current password verifies against the hash that is kept so far, which means that it hashes as the
latest one does, and the new one is long enough; and nothing that happens sets a hash or its time but
by giving a password. -/
theorem since_passwords (queueCapacity : Nat) (history : List Happening) :
    (∀ user ∈ (since queueCapacity history).tables.live .user, ∃ c password,
      latestPassword? queueCapacity user.id history = some (c, password) ∧
        user.Holds c password) ∧
    (∀ (c : Context) (fresh : String) (r : Http.Request) (id : Int)
      (change : Accepted UserChange.problems) (new : String),
      r.served? = some (.changeUser id change) → change.val.newPassword = some new →
      (Http.serve c fresh (since queueCapacity history) r).1.status < 400 →
      ∃ user ∈ (since queueCapacity history).tables.live .user, user.id = id ∧
        ∃ current, change.val.currentPassword = some current ∧
          Password.verify current user.passwordHash = .ok true ∧
          c.settings.minPasswordLength ≤ new.length ∧
          ∃ before password, latestPassword? queueCapacity id history = some (before, password) ∧
            (EncodedHash.FitsSalt before.salt →
              Argon2.hash EncodedHash.standard current.toUTF8 before.salt =
                Argon2.hash EncodedHash.standard password.toUTF8 before.salt)) ∧
    ∀ latest : Happening, (since queueCapacity history).tables.PasswordsGiven
      (since queueCapacity (latest :: history)).tables
      (latest.password? (since queueCapacity history)) := by
  refine ⟨fun user alive => ?_, ?_, fun latest => ?_⟩
  · exact holds_latest user (Tables.mem_live.mp alive).1
  · intro c fresh r id change new served wished succeeded
    rw [(Http.serve_served c fresh _ served).1] at succeeded
    rcases Command.proven_of_changed succeeded wished with
      ⟨user, alive, rfl, current, given, verified, long⟩
    exact ⟨user, alive, rfl, current, given, verified, long,
      known_of_verified (Tables.mem_live.mp alive).1 verified⟩
  · exact after_passwords (since_reachable queueCapacity history).sound latest

end Session

namespace Http

/-- A request to create a clerk with a password. -/
def clerkRequest : Request :=
  jsonRequest .post "/v1/user"
    ("\x7b\"username\": \"clerk\", \"email\": \"clerk@shop.test\", " ++
      "\"password\": \"the first secret\"\x7d")

/-- A request to give the first user another password. -/
def secretRequest : Request :=
  jsonRequest .patch "/v1/user/1"
    "\x7b\"current_password\": \"the first secret\", \"new_password\": \"the second secret\"\x7d"

theorem clerkRequest_served : ∃ request, clerkRequest.served? = some (.createUser request) ∧
    request.val = ⟨"", "", "clerk", "clerk@shop.test", "the first secret", false⟩ := by
  have understood : clerkRequest.served?.any (fun
      | .createUser request => decide (request.val =
          ⟨"", "", "clerk", "clerk@shop.test", "the first secret", false⟩)
      | _ => false) = true := by
    simp only [Request.served?, Request.command, servedAt_eq]
    decide +kernel
  rcases Option.any_eq_true .. |>.mp understood with ⟨command, served, understood⟩
  cases command with
  | createUser request => exact ⟨request, served, of_decide_eq_true understood⟩
  | _ => cases understood

theorem secretRequest_served : ∃ change, secretRequest.served? = some (.changeUser 1 change) ∧
    change.val =
      ⟨none, none, none, none, none, some "the first secret", some "the second secret"⟩ := by
  have understood : secretRequest.served?.any (fun
      | .changeUser id change => decide (id = 1 ∧ change.val =
          ⟨none, none, none, none, none, some "the first secret", some "the second secret"⟩)
      | _ => false) = true := by
    simp only [Request.served?, Request.command, servedAt_eq]
    decide +kernel
  rcases Option.any_eq_true .. |>.mp understood with ⟨command, served, understood⟩
  cases command with
  | changeUser id change =>
    rcases of_decide_eq_true understood with ⟨rfl, asked⟩
    exact ⟨change, served, asked⟩
  | _ => cases understood

end Http

/-- A calm context with a salt that can be kept. -/
def Context.salted : Context := { Context.calm ⟨0, 0⟩ with salt := "salt and pepper".toUTF8 }

namespace Session

/-- The history of a clerk who was just created. -/
def clerkHistory : List Happening := [.served .salted "first" Http.clerkRequest]

theorem clerkHistory_user : ∃ user, (since 16 clerkHistory).tables.live .user = [user] ∧ user.id = 1 ∧
    user.passwordHash = Password.hash Context.salted.salt "the first secret" := by
  rcases Http.clerkRequest_served with ⟨request, served, asked⟩
  have session : since 16 clerkHistory =
      ((Service.createUser request.val).serve .salted (.start 16)).2 :=
    (Http.serve_served .salted "first" (.start 16) served).2
  have accepted : Action.Fails .salted (.start 16) (Service.createUser request.val) fun _ => False :=
    Service.createUser_accepted (Reachable.start 16).sound (fun _ => rfl)
      (by rw [asked]; decide +kernel) (by rw [asked]; decide +kernel) fun _ alive => by cases alive
  rcases Action.serve_cases (Service.createUser request.val) .salted (.start 16) with
    ⟨failure, q, ran, _⟩ | ⟨reply, q, ran, replied⟩
  · exact (accepted _ failure q rfl ran).elim
  · rcases Service.createUser_ok ran with ⟨_, tables⟩
    refine ⟨(request.val.newUser (Password.hash Context.salted.salt request.val.password)).row
      Context.salted.now 1, ?_, rfl, ?_⟩
    · rw [session, replied]
      change q.session.tables.live .user = _
      rw [tables]
      rfl
    · change Password.hash _ request.val.password = _
      rw [asked]

/-- The clerk holds the first password, and may change it to the second one. -/
theorem since_passwords_clerk :
    (∃ user ∈ (since 16 clerkHistory).tables.live .user, ∃ c password,
      latestPassword? 16 user.id clerkHistory = some (c, password) ∧ user.Holds c password) ∧
    (Http.serve .salted "second" (since 16 clerkHistory) Http.secretRequest).1.status = 200 ∧
    ∃ user ∈ (since 16 clerkHistory).tables.live .user, user.id = 1 ∧
      Password.verify "the first secret" user.passwordHash = .ok true := by
  rcases clerkHistory_user with ⟨user, alone, number, hash⟩
  have alive : user ∈ (since 16 clerkHistory).tables.live .user := by
    rw [alone]
    exact List.mem_singleton.mpr rfl
  rcases Http.secretRequest_served with ⟨change, served, asked⟩
  have fits : EncodedHash.FitsSalt Context.salted.salt := by decide +kernel
  have accepted : Action.Fails .salted (since 16 clerkHistory)
      (Service.changeUser user.id change.val) fun _ => False := by
    refine Service.changeUser_accepted (since_reachable 16 _).sound (fun _ => rfl) alive ?_ ?_ ?_
    · rw [asked]
      decide +kernel
    · intro other _ _
      rw [asked]
      exact fun same => by cases same
    · intro new wished
      rw [asked] at wished ⊢
      cases wished
      refine ⟨_, rfl, ?_, by decide +kernel⟩
      rw [hash]
      exact Password.verify_hash_self fits _
  have succeeded : (Http.serve .salted "second" (since 16 clerkHistory) Http.secretRequest).1.status =
      200 := by
    rw [(Http.serve_served .salted "second" _ served).1, ← number]
    rcases Action.serve_cases (Service.changeUser user.id change.val) .salted (since 16 clerkHistory)
      with ⟨failure, q, ran, _⟩ | ⟨reply, q, ran, replied⟩
    · exact (accepted _ failure q rfl ran).elim
    · exact (congrArg (·.1.status) replied).trans (Service.changeUser_ok ran).1
  rcases since_passwords 16 clerkHistory with ⟨holds, knows, _⟩
  rcases knows .salted "second" Http.secretRequest 1 change "the second secret" served (by rw [asked])
    (succeeded ▸ by decide) with ⟨known, knownAlive, first, current, given, verified, _⟩
  rw [asked] at given
  cases given
  exact ⟨⟨user, alive, holds user alive⟩, succeeded, known, knownAlive, first, verified⟩

end Session
end Shop
