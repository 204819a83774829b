import Shop.Proofs.Service.Explained

/-!
# Keys that are looked for before they are written

Eight commands write a row under a key that no other live row may have, and look for the key before.
The store compares the row again when it is written.  Both agree: what a command finds taken the
store would have turned away, and what it finds free the store takes.  Only the SKUs of a new root's
products are written without having been looked for.
-/

namespace Shop

/-- A context in which no statement is made to fail with a key that is taken. -/
def Context.Fair (c : Context) : Prop :=
  ∀ n fault, c.faults.statement n = some fault → fault.brokenIndex? = none

namespace Command

/-- The row that a command writes after it has looked for the key, if it finds what it is about. -/
def write? (c : Context) (t : Tables) : Command → Option (Kind × Statement Unit)
  | .createRoot request =>
    let request := request.val.withDefaults c.clock
    some (.root, (Store.createRoot (request.newRoot (request.availableOn.getD c.clock))).map fun _ => ())
  | .addOption rootId input =>
    some (.option, (Store.createOption rootId input.val.name).map fun _ => ())
  | .renameOption id input => some (.option, (Store.renameOption id input.val.name).map fun _ => ())
  | .addValue optionId input =>
    some (.value, (Store.createValue optionId input.val.value).map fun _ => ())
  | .changeValue id input => some (.value, (Store.changeValue id input.val.value).map fun _ => ())
  | .changeProduct sku patch =>
    ((t.live .product).find? (·.sku == sku)).map fun existing =>
      (.product, (Store.changeProduct existing.id patch.val).map fun _ => ())
  | .createUser request =>
    some (.user, (Store.createUser (request.val.newUser
      (Password.hash c.salt request.val.password))).map fun _ => ())
  | .changeUser id change =>
    some (.user, (Store.changeUser id (change.val.patch
      (change.val.newPassword.map (Password.hash c.salt)))).map fun _ => ())
  | _ => none

end Command

/-! ## What the store turns away -/

section Violations

variable {s : Session} {now : Instant} {k : Kind} {parameters : List Parameter}

/-- A new row violates the index of its table exactly if a live row has its key. -/
theorem insert_violates_iff (sound : s.Sound)
    (stop : Parameter.Stop parameters fun _ => False) {make : Instant → Int → k.Row}
    (number : ∀ now id, k.number (make now id) = id) (live : ∀ now id, k.live (make now id) = true)
    (kept : ∀ now id, k.sound (make now id) = true) {key : k.Row → Prop}
    (keyed : ∀ now id other, k.sameKey (make now id) other = true ↔ key other) :
    ((((Statement.insert k make).passing parameters).map fun _ => ()).run now s.tables
        s.sequences).1 = .error (.duplicateKey k.index) ↔ ∃ row ∈ s.tables.live k, key row := by
  rw [Statement.map_error_iff, Statement.run_passing (Parameter.Stop.none_iff.mp stop),
    Statement.insert_duplicate_iff sound.numbered number live kept]
  exact exists_congr fun row => and_congr_right fun _ => keyed _ _ row

/-- A live row that is changed violates the index of its table exactly if another live row has the
key that it gets. -/
theorem update_violates_iff (sound : s.Sound)
    (stop : Parameter.Stop parameters fun _ => False) {id : Int}
    {change : Instant → k.Row → k.Row} (keeps : ∀ row, k.Keeps row (change now row))
    (kept : ∀ row ∈ s.tables.rows k, k.sound (change now row) = true) {key : k.Row → k.Row → Prop}
    (keyed : ∀ own other, k.sameKey (change now own) other = true ↔ key own other) :
    ((((Statement.updateLive k id change).passing parameters).map fun _ => ()).run now s.tables
        s.sequences).1 = .error (.duplicateKey k.index) ↔
      ∃ own ∈ s.tables.live k, k.number own = id ∧
        ∃ row ∈ s.tables.live k, k.number row ≠ id ∧ key own row := by
  rw [Statement.map_error_iff, Statement.run_passing (Parameter.Stop.none_iff.mp stop),
    Statement.updateLive_duplicate_iff sound.numbered keeps kept]
  refine exists_congr fun own => and_congr_right fun _ => and_congr_right fun _ => ?_
  exact exists_congr fun row => and_congr_right fun _ => and_congr_right fun _ => keyed own row

/-- Keys of an owner and a text. -/
theorem ownedKey_iff {owner other : Int} {text otherText : String} :
    (owner == other && text == otherText) = true ↔ other = owner ∧ otherText = text := by
  rw [Bool.and_eq_true, beq_iff_eq, beq_iff_eq, eq_comm, @eq_comm _ text]

/-- A live row that gets a new text violates the index of its table exactly if another live row of its
owner has the text. -/
theorem rename_violates_iff (sound : s.Sound) (stop : Parameter.Stop parameters fun _ => False)
    (owner : k.Row → Int) (text : k.Row → String) {id : Int} {new : String}
    {change : Instant → k.Row → k.Row} (keeps : ∀ row, k.Keeps row (change now row))
    (kept : ∀ row ∈ s.tables.rows k, k.sound (change now row) = true)
    (keyed : ∀ own other, k.sameKey (change now own) other =
      (owner own == owner other && new == text other)) :
    ((((Statement.updateLive k id change).passing parameters).map fun _ => ()).run now s.tables
        s.sequences).1 = .error (.duplicateKey k.index) ↔
      ∃ row ∈ s.tables.live k, k.number row ≠ id ∧ text row = new ∧
        ∃ own ∈ s.tables.live k, k.number own = id ∧ owner own = owner row := by
  rw [update_violates_iff sound stop keeps kept fun own other => (keyed own other) ▸ ownedKey_iff]
  constructor
  · rintro ⟨own, alive, number, row, rowAlive, different, ofOwner, named⟩
    exact ⟨row, rowAlive, different, named, own, alive, number, ofOwner.symm⟩
  · rintro ⟨row, rowAlive, different, named, own, alive, number, ofOwner⟩
    exact ⟨own, alive, number, row, rowAlive, different, ofOwner.symm, named⟩

end Violations

namespace Command

variable {c : Context} {s : Session}

/-- What a command writes under a key violates the index of its table exactly if a live row holds
the key. -/
theorem write_violates_iff (sound : s.Sound) {command : Command}
    (passable : ∀ parameter ∈ command.parameters c.clock, parameter.fault? = none) {k : Kind}
    {write : Statement Unit} (written : command.write? c s.tables = some (k, write)) :
    (write.run c.now s.tables s.sequences).1 = .error (.duplicateKey k.index) ↔
      ∃ row, command.Wants s.tables k row := by
  have stop : Parameter.Stop (command.parameters c.clock) fun _ => False :=
    Parameter.Stop.none_iff.mpr passable
  cases command with
  | createRoot request =>
    cases written
    exact insert_violates_iff (k := .root) sound stop.root (fun _ _ => rfl) (fun _ _ => rfl)
      (fun _ _ => decide_eq_true (Int.le_max_right _ _)) fun _ _ _ => beq_iff_eq.trans eq_comm
  | addOption rootId input =>
    cases written
    exact insert_violates_iff (k := .option) sound
      (stop.subset (List.cons_subset_cons _ (List.nil_subset _))) (fun _ _ => rfl) (fun _ _ => rfl)
      (fun _ _ => rfl) fun _ _ _ => ownedKey_iff
  | renameOption id input =>
    cases written
    exact rename_violates_iff (k := .option) sound stop (·.rootId) (·.name)
      (fun _ => ⟨rfl, rfl, rfl⟩) (fun _ _ => rfl) fun _ _ => rfl
  | addValue optionId input =>
    cases written
    exact insert_violates_iff (k := .value) sound stop (fun _ _ => rfl) (fun _ _ => rfl)
      (fun _ _ => rfl) fun _ _ _ => ownedKey_iff
  | changeValue id input =>
    cases written
    exact rename_violates_iff (k := .value) sound stop (·.optionId) (·.value)
      (fun _ => ⟨rfl, rfl, rfl⟩) (fun _ _ => rfl) fun _ _ => rfl
  | changeProduct sku patch =>
    rcases Option.map_eq_some_iff.mp written with ⟨existing, found, same⟩
    cases same
    have alive : existing ∈ s.tables.live .product := List.mem_of_find?_eq_some found
    have named : existing.sku = sku :=
      beq_iff_eq.mp (List.find?_some (p := fun product : Product => product.sku == sku) found)
    refine (update_violates_iff (k := .product) sound (stop.subset (List.subset_cons_self _ _))
      (fun _ => ⟨rfl, rfl, rfl⟩) (fun row member => ProductPatch.apply_sound patch.property
        (sound.conforms.sound .product row member) _) fun _ _ => beq_iff_eq).trans ⟨?_, ?_⟩
    · rintro ⟨own, ownAlive, number, product, productAlive, different, same⟩
      have itself : own = existing := sound.numbered.eq_of_number (k := .product)
        (Tables.mem_live.mp ownAlive).1 (Tables.mem_live.mp alive).1 number
      subst itself
      have other : product.sku ≠ sku := fun taken => different
        (sound.unclashed.number_eq (k := .product) productAlive alive
          (beq_iff_eq.mpr (taken.trans named.symm)))
      have given : patch.val.sku = some product.sku :=
        (Option.getD_eq_iff.mp same).resolve_right fun ⟨_, kept⟩ => other (kept.symm.trans named)
      exact ⟨product, productAlive, other, given, own, alive, named⟩
    · rintro ⟨product, productAlive, other, given, _⟩
      refine ⟨existing, alive, rfl, product, productAlive, fun same => other ?_, ?_⟩
      · have itself : product = existing := sound.numbered.eq_of_number (k := .product)
          (Tables.mem_live.mp productAlive).1 (Tables.mem_live.mp alive).1 same
        exact itself ▸ named
      · exact Option.getD_eq_iff.mpr (.inl given)
  | createUser request =>
    cases written
    exact insert_violates_iff (k := .user) sound (stop.append (.passable (Password.passable_hash _ _)))
      (fun _ _ => rfl) (fun _ _ => rfl) (fun _ _ => rfl) fun _ _ _ => beq_iff_eq.trans eq_comm
  | changeUser id change =>
    cases written
    refine (update_violates_iff (k := .user) sound (stop.user fun text hashed => ?_)
      (fun _ => ⟨rfl, rfl, rfl⟩) (fun _ _ => rfl) fun _ _ => beq_iff_eq).trans ⟨?_, ?_⟩
    · rcases Option.map_eq_some_iff.mp hashed with ⟨new, _, rfl⟩
      exact Password.passable_hash _ _
    · rintro ⟨own, alive, number, user, userAlive, different, same⟩
      refine ⟨user, userAlive, different, ?_, own, alive, number⟩
      refine (Option.getD_eq_iff.mp same).resolve_right fun ⟨_, kept⟩ => different ?_
      exact (sound.unclashed.number_eq (k := .user) userAlive alive
        (beq_iff_eq.mpr kept.symm)).trans number
    · rintro ⟨user, userAlive, different, given, own, alive, number⟩
      exact ⟨own, alive, number, user, userAlive, different, Option.getD_eq_iff.mpr (.inl given)⟩
  | _ => cases written

/-- The key that a command wants is held by a live row only. -/
theorem Wants.live {t : Tables} {command : Command} {k : Kind} {row : k.Row}
    (wanted : command.Wants t k row) : row ∈ t.live k := by
  cases command <;> cases k <;> first | exact wanted.1 | exact wanted.elim

/-- A command that wants a key has a row to write under it. -/
theorem Wants.write {command : Command} {k : Kind} {row : k.Row}
    (wanted : command.Wants s.tables k row) :
    ∃ write, command.write? c s.tables = some (k, write) := by
  cases command with
  | changeProduct sku patch =>
    cases k with
    | product =>
      rcases wanted with ⟨_, _, _, own, alive, named⟩
      cases found : (s.tables.live .product).find? (·.sku == sku) with
      | some existing => exact ⟨_, by rw [write?, found]; rfl⟩
      | none =>
        exact absurd (beq_iff_eq.mpr named) (List.find?_eq_none.mp found own alive)
    | _ => exact wanted.elim
  | _ => cases k <;> first | exact ⟨_, rfl⟩ | exact wanted.elim

end Command

/-! ## What commands find taken -/

namespace Action

/-- An action that in a session cannot end well. -/
def Stuck (c : Context) (s : Session) (a : Action α) : Prop :=
  ∀ p x q, p.session = s → a.perform c p ≠ (.ok x, q)

namespace Stuck

variable {c : Context} {s : Session}

theorem ensureFree_bind {taken : Bool} {message : String} {next : Unit → Action α}
    (held : taken = true) : Stuck c s (ensureFree taken message >>= next) := by
  intro p x q _ done
  rcases perform_bind_ok.mp done with ⟨_, _, free, _⟩
  cases held.symm.trans (perform_ensureFree_ok.mp free).1

theorem context_bind {next : Context → Action α} (rest : Stuck c s (next c)) :
    Stuck c s (context >>= next) :=
  fun p x q start done => rest p x q start done

theorem ensure_bind {decided : Except Refusal α} {next : α → Action β}
    (rest : ∀ a, Stuck c s (next a)) : Stuck c s (ensure decided >>= next) := by
  intro p x q start done
  rcases perform_bind_ok.mp done with ⟨a, middle, ensured, ended⟩
  rcases perform_ensure_ok.mp ensured with ⟨_, rfl⟩
  exact rest a middle x q start ended

theorem require_bind {refusal : Refusal} {found : Option α} {next : α → Action β}
    (rest : ∀ a, found = some a → Stuck c s (next a)) :
    Stuck c s (require refusal found >>= next) := by
  intro p x q start done
  rcases perform_bind_ok.mp done with ⟨a, middle, required, ended⟩
  rcases perform_require_ok.mp required with ⟨there, rfl⟩
  exact rest a there middle x q start ended

theorem select_bind {f : Tables → α} {next : α → Action β} (rest : Stuck c s (next (f s.tables))) :
    Stuck c s (statement (.select f) >>= next) := by
  rintro p x q rfl done
  rcases perform_bind_ok.mp done with ⟨a, middle, looked, ended⟩
  rcases perform_select_ok looked with ⟨rfl, same⟩
  exact rest middle x q same ended

theorem passing_bind {parameters : List Parameter} {f : Tables → α} {next : α → Action β}
    (rest : Stuck c s (next (f s.tables))) :
    Stuck c s (statement (.passing parameters (.select f)) >>= next) := by
  rintro p x q rfl done
  rcases perform_bind_ok.mp done with ⟨a, middle, looked, ended⟩
  rcases perform_lookup_ok looked with ⟨rfl, same⟩
  exact rest middle x q same ended

end Stuck
end Action

namespace Service

open Shop.Action

variable {c : Context} {s : Session}

/-- A row cannot get a text that another live row of its owner has. -/
theorem renameOne_stuck {k : Kind} (owner : k.Row → Int) (text message : k.Row → String)
    (change : Instant → k.Row → k.Row) (sound : s.Sound)
    (key : ∀ row other, k.sameKey row other = (owner row == owner other && text row == text other))
    {id : Int} {new : String} {refusal : Refusal} {next : k.Row → Action α} {row own : k.Row}
    (alive : row ∈ s.tables.live k) (different : k.number row ≠ id) (named : text row = new)
    (ownAlive : own ∈ s.tables.live k) (number : k.number own = id)
    (ofOwner : owner own = owner row) :
    Stuck c s (do
      let existing ← require refusal (← statement (.find k id))
      if new = text existing then pure ()
      else
        ensureFree (← statement (.passing [.text new] (.any k fun row =>
          owner row == owner existing && text row == new))) (message existing)
      let row ← require refusal (← statement (.passing [.text new] (.updateLive k id change)))
      next row) := by
  refine .select_bind (.require_bind fun existing found => ?_)
  have itself : existing = own := by
    have foundNumber : k.number existing = id :=
      beq_iff_eq.mp (List.find?_some (p := fun row => k.number row == id) found)
    exact sound.numbered.eq_of_number (Tables.mem_live.mp (List.mem_of_find?_eq_some found)).1
      (Tables.mem_live.mp ownAlive).1 (foundNumber.trans number.symm)
  subst itself
  extract_lets go
  split
  · rename_i unchanged
    refine absurd ((sound.unclashed.number_eq alive ownAlive ?_).trans number) different
    rw [key, ofOwner, named, unchanged, beq_self_eq_true, beq_self_eq_true]
    rfl
  · refine .passing_bind (.ensureFree_bind (List.any_eq_true.mpr ⟨row, alive, ?_⟩))
    rw [ofOwner, named, beq_self_eq_true, beq_self_eq_true]
    rfl

end Service

/-- A command that wants a key that is held cannot end well. -/
theorem Command.Wants.stuck {c : Context} {s : Session} (sound : s.Sound) {command : Command}
    {k : Kind} {row : k.Row} (wanted : command.Wants s.tables k row) :
    Action.Stuck c s command.action := by
  have taken {k : Kind} {row : k.Row} {chosen : k.Row → Bool} (alive : row ∈ s.tables.live k)
      (matching : chosen row = true) : (s.tables.live k).any chosen = true :=
    List.any_eq_true.mpr ⟨row, alive, matching⟩
  cases command with
  | createRoot request =>
    cases k with
    | root =>
      rcases wanted with ⟨alive, same⟩
      exact .ensure_bind fun _ => .ensure_bind fun _ => .context_bind
        (.passing_bind (.ensureFree_bind (taken alive (beq_iff_eq.mpr same))))
    | _ => exact wanted.elim
  | addOption rootId input =>
    cases k with
    | option =>
      rcases wanted with ⟨alive, keyed⟩
      change Action.Stuck c s (Service.requireRoot rootId >>= _)
      rw [Service.requireRoot_bind]
      exact .select_bind (.require_bind fun _ _ =>
        .passing_bind (.ensureFree_bind (taken alive (ownedKey_iff.mpr ⟨keyed.1.symm, keyed.2.symm⟩))))
    | _ => exact wanted.elim
  | renameOption id input =>
    cases k with
    | option =>
      rcases wanted with ⟨alive, different, named, own, ownAlive, number, ofRoot⟩
      exact Service.renameOne_stuck (k := .option) (·.rootId) (·.name)
        (fun _ => Service.optionExists input.val.name)
        (fun now o => { o with name := input.val.name, stamps := o.stamps.updated now }) sound
        (fun _ _ => rfl) alive different named ownAlive number ofRoot
    | _ => exact wanted.elim
  | addValue optionId input =>
    cases k with
    | value =>
      rcases wanted with ⟨alive, keyed⟩
      exact .select_bind (.require_bind fun _ _ =>
        .passing_bind (.ensureFree_bind (taken alive (ownedKey_iff.mpr ⟨keyed.1.symm, keyed.2.symm⟩))))
    | _ => exact wanted.elim
  | changeValue id input =>
    cases k with
    | value =>
      rcases wanted with ⟨alive, different, same, own, ownAlive, number, ofOption⟩
      exact Service.renameOne_stuck (k := .value) (·.optionId) (·.value)
        (fun existing => Service.valueExists input.val.value existing.optionId)
        (fun now v => { v with value := input.val.value, stamps := v.stamps.updated now }) sound
        (fun _ _ => rfl) alive different same ownAlive number ofOption
    | _ => exact wanted.elim
  | changeProduct sku patch =>
    cases k with
    | product =>
      rcases wanted with ⟨alive, other, given, _⟩
      refine .passing_bind (.require_bind fun existing found => ?_)
      have named : existing.sku = sku :=
        beq_iff_eq.mp (List.find?_some (p := fun product : Product => product.sku == sku) found)
      extract_lets go
      split
      · rename_i unnamed
        cases given.symm.trans unnamed
      · rename_i new wished
        cases given.symm.trans wished
        rw [if_neg fun same => other (same.trans named)]
        exact .passing_bind (.ensureFree_bind (taken alive (beq_self_eq_true _)))
    | _ => exact wanted.elim
  | createUser request =>
    cases k with
    | user =>
      rcases wanted with ⟨alive, same⟩
      exact .context_bind (.ensure_bind fun _ => .passing_bind (.ensureFree_bind
        (taken alive (Bool.and_eq_true_iff.mpr ⟨beq_iff_eq.mpr same, rfl⟩))))
    | _ => exact wanted.elim
  | changeUser id change =>
    cases k with
    | user =>
      rcases wanted with ⟨alive, different, given, _⟩
      refine .select_bind (.require_bind fun existing found => ?_)
      extract_lets afterHash afterName
      split
      · rename_i unnamed
        cases given.symm.trans unnamed
      · rename_i username wished
        cases given.symm.trans wished
        refine .passing_bind (.ensureFree_bind (taken alive (Bool.and_eq_true_iff.mpr
          ⟨beq_self_eq_true _, bne_iff_ne.mpr fun own => different ?_⟩)))
        exact (Option.some.inj own).symm
    | _ => exact wanted.elim
  | _ => exact wanted.elim

/-- A parameter that cannot be passed is no key that is taken. -/
theorem Parameter.unbroken {parameter : Parameter} {fault : StoreFault}
    (stopped : parameter.fault? = some fault) : fault.brokenIndex? = none := by
  cases parameter with
  | text s =>
    rw [badText_of_fault? stopped]
    decide +kernel
  | time t =>
    simp only [fault?] at stopped
    split at stopped
    · cases stopped
    · cases stopped
      decide +kernel

/-- In every reachable session, what a command writes under a key violates the index of its table
exactly if a live row holds the key; archived rows do not count.  A command that is carried out wants
no such key, and one that is refused for a conflict wants one and would have violated the index.
Where the context makes no key clash, the one index that the store ever finds violated is that of the
SKUs, by the products of a new root.  So the keys of live rows differ, and no request changes that. -/
theorem Reachable.checks_agree {s : Session} (reachable : Reachable s) {c : Context} (fair : c.Fair)
    (command : Command) :
    (∀ k write, command.write? c s.tables = some (k, write) →
      (∀ parameter ∈ command.parameters c.clock, parameter.fault? = none) →
        ((write.run c.now s.tables s.sequences).1 = .error (.duplicateKey k.index) ↔
          ∃ row ∈ s.tables.live k, command.Wants s.tables k row)) ∧
    (∀ p reply q, p.session = s → command.action.perform c p = (.ok reply, q) →
      ∀ k, ∀ row ∈ s.tables.live k, ¬ command.Wants s.tables k row) ∧
    (∀ p failure q, p.session = s → command.action.perform c p = (.error failure, q) →
      (∀ message, failure = .refused (.conflict message) →
        ∃ k write, command.write? c s.tables = some (k, write) ∧
          (∃ row ∈ s.tables.live k, command.Wants s.tables k row) ∧
          ((∀ parameter ∈ command.parameters c.clock, parameter.fault? = none) →
            (write.run c.now s.tables s.sequences).1 = .error (.duplicateKey k.index))) ∧
      ∀ fault index, failure = .store fault → fault.brokenIndex? = some index →
        index = Kind.index .product ∧
          ∃ request, command = .createRoot request ∧ ¬ request.val.Apart s.tables) ∧
    s.tables.Unclashed ∧ ∀ fresh r, (Http.serve c fresh s r).2.tables.Unclashed := by
  have sound := reachable.sound
  refine ⟨fun k write written passable => ?_, fun p reply q start done k row _ wanted => ?_,
    fun p failure q start failed => ?_, reachable.unclashed,
    fun fresh r => (reachable.serve c fresh r).unclashed⟩
  · rw [Command.write_violates_iff sound passable written]
    exact exists_congr fun row => ⟨fun wanted => ⟨wanted.live, wanted⟩, fun ⟨_, wanted⟩ => wanted⟩
  · exact wanted.stuck sound p reply q start done
  · have reason := command.fails sound p failure q start failed
    constructor
    · rintro message rfl
      cases reason with
      | missing sought => cases command <;> cases sought
      | invalid checked broken =>
        rcases Command.invalid_of_checks checked broken with ⟨text, other⟩
        cases other
      | held wanted =>
        rcases wanted.write (c := c) with ⟨write, written⟩
        exact ⟨_, write, written, ⟨_, wanted.live, wanted⟩, fun passable =>
          (Command.write_violates_iff sound passable written).mpr ⟨_, wanted⟩⟩
      | pictured _ _ of => exact of.elim
    · rintro fault index rfl broken
      cases reason with
      | disturbed made =>
        rw [fair _ _ made] at broken
        cases broken
      | unpassable _ stopped =>
        rw [Parameter.unbroken stopped] at broken
        cases broken
      | colliding creates collide =>
        have named : (StoreFault.duplicateKey (Kind.index .product)).brokenIndex? =
            some (Kind.index .product) := by decide +kernel
        exact ⟨Option.some.inj (broken.symm.trans named), _, creates, collide⟩
      | pictured _ _ of =>
        have text : fault = .badText := of
        rw [text] at broken
        cases broken

/-- Where the shirt is there, it is found taken when it is to be created again, and its prefix would
violate the index. -/
theorem Reachable.checks_agree_shirt :
    let s := (Http.serve (.calm ⟨0, 0⟩) "shirt" (.start 16) Http.shirtRequest).2
    ∃ command write, Http.shirtRequest.served? = some command ∧
      command.write? (.calm ⟨60, 0⟩) s.tables = some (.root, write) ∧
      (write.run ⟨60, 0⟩ s.tables s.sequences).1 =
        .error (.duplicateKey "uq_product_roots_sku_prefix") := by
  intro s
  have reachable : Reachable s := .serve (.start 16) _ _ _
  have fair : (Context.calm ⟨60, 0⟩).Fair := fun n fault made => by cases made
  have again : Http.shirtRequest.served?.any (fun command =>
      (match (command.action.perform (.calm ⟨60, 0⟩) (.start s)).1 with
        | .error (.refused (.conflict _)) => true
        | _ => false) &&
      (command.parameters ⟨60, 0⟩).all (fun parameter => parameter.fault?.isNone) &&
      (command.write? (.calm ⟨60, 0⟩) s.tables).all fun written => written.1 == .root) = true := by
    simp only [s, Http.serve, Http.answer, Http.Request.served?, Http.Request.command,
      Http.servedAt_eq]
    decide +kernel
  cases served : Http.shirtRequest.served? with
  | none =>
    rw [served] at again
    cases again
  | some command =>
    rw [served] at again
    rcases Bool.and_eq_true_iff.mp again with ⟨others, ofRoot⟩
    rcases Bool.and_eq_true_iff.mp others with ⟨refused, passable⟩
    rcases checks_agree reachable fair command with ⟨_, _, failing, _⟩
    rcases ran : command.action.perform (.calm ⟨60, 0⟩) (.start s) with ⟨failure | reply, q⟩
    · rw [ran] at refused
      have conflict : ∃ message, failure = .refused (.conflict message) := by
        split at refused
        · rename_i message same
          cases same
          exact ⟨message, rfl⟩
        · cases refused
      rcases conflict with ⟨message, same⟩
      rcases (failing (.start s) failure q rfl ran).1 message same with
        ⟨k, write, written, ⟨_, _, wanted⟩, violates⟩
      rw [written] at ofRoot
      cases beq_iff_eq.mp ofRoot
      refine ⟨command, write, rfl, written, violates fun parameter member => ?_⟩
      exact Option.isNone_iff_eq_none.mp (List.all_eq_true.mp passable parameter member)
    · rw [ran] at refused
      cases refused

end Shop
