import Shop.Proofs.Service.Failing
import Shop.Proofs.Text.Passing
import Shop.Proofs.Variant.Sku

/-!
# Reasons of commands

All reasons for which a command can fail, said of the command, its context and the tables it finds.
A command passes some texts and times to the store; it may look for a row that is not there; it has
checks of its own, which need no store; and it may want a key that a live row holds.  What is left
are the SKUs of a new root, which are compared by the store alone, its pictures, and the passwords
that go with a new one.
-/

namespace Shop

namespace RootRequest

/-- The texts of a request for a root. -/
def texts (r : RootRequest) : List String :=
  [r.sku, r.name, r.subtitle, r.description, r.manufacturer, r.brand, r.offer.upc] ++
    r.options.flatMap fun option => option.name :: option.values

/-- What a request for a root passes to the store, for sale from `clock` on if it does not say. -/
def parameters (r : RootRequest) (clock : Instant) : List Parameter :=
  .time (r.availableOn.getD clock) :: Parameter.texts r.texts

/-- The SKUs that the options of a request stand for. -/
def skus (r : RootRequest) : List String :=
  (Variant.choices r.fragments).map (Variant.joinSku r.sku)

/-- The SKUs of a request differ from each other and from those of all live products. -/
def Apart (r : RootRequest) (t : Tables) : Prop :=
  r.skus.Nodup ∧ ∀ product ∈ t.live .product, product.sku ∉ r.skus

end RootRequest

namespace Command

/-- The texts and times that a command passes to the store, apart from what it derives itself. -/
def parameters (clock : Instant) : Command → List Parameter
  | .createRoot request => request.val.parameters clock
  | .showProduct sku | .probeProduct sku | .archiveProduct sku => [.text sku]
  | .changeProduct sku patch => .text sku :: patch.val.parameters
  | .addOption _ input => Parameter.texts (input.val.name :: input.val.values)
  | .renameOption _ input => [.text input.val.name]
  | .addValue _ input | .changeValue _ input => [.text input.val.value]
  | .createDiscount request => request.val.parameters
  | .changeDiscount _ patch => patch.val.parameters
  | .listWebhooksFor eventType _ => [.text eventType]
  | .createWebhook request =>
    Parameter.texts [request.val.url, request.val.eventType, request.val.contentType]
  | .changeWebhook _ patch =>
    Parameter.textsOf [patch.val.url, patch.val.eventType, patch.val.contentType]
  | .createUser request =>
    Parameter.texts [request.val.firstName, request.val.lastName, request.val.username,
      request.val.email]
  | .changeUser _ change =>
    Parameter.textsOf [change.val.firstName, change.val.lastName, change.val.username,
      change.val.email]
  | _ => []

/-- What a command says if the row that it is about is not there. -/
def sought? : Command → Option Refusal
  | .showRoot id | .archiveRoot id | .listOptions id _ | .addOption id _ => some (Service.noRoot id)
  | .showProduct sku | .changeProduct sku _ | .archiveProduct sku => some (Service.noProduct sku)
  | .renameOption id _ | .archiveOption id | .addValue id _ => some (Service.noOption id)
  | .changeValue id _ | .archiveValue id => some (Service.noValue id)
  | .showDiscount id | .changeDiscount id _ | .archiveDiscount id => some (Service.noDiscount id)
  | .changeWebhook id _ | .archiveWebhook id | .listExecutions id _ => some (Service.noWebhook id)
  | .showUser id | .changeUser id _ | .archiveUser id => some (Service.noUser id)
  | _ => none

/-- What a command checks beside the rules of its body, without the store. -/
def checks (c : Context) : Command → List (Except Refusal Unit)
  | .createRoot request =>
    [Rule.uniqueNames (request.val.options.map (·.name)),
      (Variant.ensureLimit request.val.optionSizes).map fun _ => ()]
  | .createDiscount request => [request.val.checkConsistency c.clock]
  | .createUser request =>
    [Rule.passwordStrength request.val.password c.settings.minPasswordLength]
  | .changeUser _ change =>
    change.val.newPassword.toList.map fun new =>
      Rule.passwordStrength new c.settings.minPasswordLength
  | _ => []

/-- A live row holds the key that a command wants for a row of its own. -/
def Wants (t : Tables) : Command → (k : Kind) → k.Row → Prop
  | .createRoot request, .root, root => root ∈ t.live .root ∧ root.skuPrefix = request.val.sku
  | .addOption rootId input, .option, option =>
    option ∈ t.live .option ∧ option.rootId = rootId ∧ option.name = input.val.name
  | .renameOption id input, .option, option =>
    option ∈ t.live .option ∧ option.id ≠ id ∧ option.name = input.val.name ∧
      ∃ own ∈ t.live .option, own.id = id ∧ own.rootId = option.rootId
  | .addValue optionId input, .value, value =>
    value ∈ t.live .value ∧ value.optionId = optionId ∧ value.value = input.val.value
  | .changeValue id input, .value, value =>
    value ∈ t.live .value ∧ value.id ≠ id ∧ value.value = input.val.value ∧
      ∃ own ∈ t.live .value, own.id = id ∧ own.optionId = value.optionId
  | .changeProduct sku patch, .product, product =>
    product ∈ t.live .product ∧ product.sku ≠ sku ∧ patch.val.sku = some product.sku ∧
      ∃ own ∈ t.live .product, own.sku = sku
  | .createUser request, .user, user => user ∈ t.live .user ∧ user.username = request.val.username
  | .changeUser id change, .user, user =>
    user ∈ t.live .user ∧ user.id ≠ id ∧ change.val.username = some user.username ∧
      ∃ own ∈ t.live .user, own.id = id
  | _, _, _ => False

end Command

/-- Failures of the pictures of a request: they cannot be fetched, read or kept, or their addresses
cannot be passed to the store. -/
def Failure.OfPictures : Failure → Prop
  | .picture _ | .malformed _ => True
  | .store fault => fault = .badText
  | _ => False

/-- The reasons for which a command can fail where it finds some tables. -/
inductive Command.FailsFor (c : Context) (t : Tables) (command : Command) : Failure → Prop
  /-- A statement was made to fail. -/
  | disturbed {n : Nat} {fault : StoreFault} (made : c.faults.statement n = some fault) :
    FailsFor c t command (.store fault)
  | unpassable {parameter : Parameter} {fault : StoreFault}
    (passed : parameter ∈ command.parameters c.clock) (stopped : parameter.fault? = some fault) :
    FailsFor c t command (.store fault)
  | missing {refusal : Refusal} (sought : command.sought? = some refusal) :
    FailsFor c t command (.refused refusal)
  | invalid {check : Except Refusal Unit} {refusal : Refusal} (checked : check ∈ command.checks c)
    (broken : check = .error refusal) : FailsFor c t command (.refused refusal)
  | held {k : Kind} {row : k.Row} (wanted : command.Wants t k row) (message : String) :
    FailsFor c t command (.refused (.conflict message))
  /-- The SKUs of a new root are taken, or two of them are the same. -/
  | colliding {request : Accepted RootRequest.problems} (creates : command = .createRoot request)
    (collide : ¬ request.val.Apart t) :
    FailsFor c t command (.store (.duplicateKey (Kind.index .product)))
  | pictured {request : Accepted RootRequest.problems} (creates : command = .createRoot request)
    (pictures : request.val.images ≠ []) {failure : Failure} (of : failure.OfPictures) :
    FailsFor c t command failure
  /-- The current password was not given along with a new one, or is not the one given. -/
  | unproven {id : Int} {change : Accepted UserChange.problems}
    (changes : command = .changeUser id change)
    (wished : change.val.newPassword ≠ none) (message : String) :
    FailsFor c t command (.malformed message)
  | unreadable {id : Int} {change : Accepted UserChange.problems}
    (changes : command = .changeUser id change) {user : User} (alive : user ∈ t.live .user)
    {current : String} {fault : HashFault}
    (faulty : Password.verify current user.passwordHash = .error fault) (message : String) :
    FailsFor c t command (.internal message)

/-- A text has one reason only not to be passed. -/
theorem Parameter.badText_of_fault? {s : String} {fault : StoreFault}
    (stopped : Parameter.fault? (.text s) = some fault) : fault = .badText := by
  simp only [Parameter.fault?] at stopped
  split at stopped
  · exact (Option.some.inj stopped).symm
  · cases stopped

namespace Parameter.Stop

variable {reasons : Failure → Prop} {parameters others : List Parameter}

theorem subset (stop : Stop parameters reasons) (inside : others ⊆ parameters) :
    Stop others reasons :=
  fun parameter member => stop parameter (inside member)

theorem cons {parameter : Parameter} (first : Stop [parameter] reasons)
    (rest : Stop parameters reasons) : Stop (parameter :: parameters) reasons := by
  intro other member
  rcases List.mem_cons.mp member with rfl | member
  · exact first other (List.mem_singleton.mpr rfl)
  · exact rest other member

theorem append (first : Stop parameters reasons) (second : Stop others reasons) :
    Stop (parameters ++ others) reasons := by
  intro parameter member
  rcases List.mem_append.mp member with member | member
  · exact first parameter member
  · exact second parameter member

/-- Parameters that stop for no reason can be passed. -/
theorem none_iff : Stop parameters (fun _ => False) ↔
    ∀ parameter ∈ parameters, parameter.fault? = none := by
  refine forall₂_congr fun parameter _ => ?_
  rw [Option.eq_none_iff_forall_ne_some]

/-- A text that can be passed stops nothing. -/
theorem passable {s : String} (passable : Passable s) : Stop [.text s] reasons := by
  intro parameter member fault stopped
  rw [List.mem_singleton.mp member, passable] at stopped
  cases stopped

/-- A text that is made from others stops for the same reason as one of them. -/
theorem made {parts : List String} (stop : Stop (texts parts) reasons) {whole : String}
    (made : (∀ part ∈ parts, Passable part) → Passable whole) : Stop (texts [whole]) reasons := by
  intro parameter member fault stopped
  rcases List.mem_singleton.mp member with rfl
  have faulty : ∃ part ∈ parts, ¬ Passable part := by
    by_contra all
    have passable := made fun part inside => by
      by_contra not
      exact all ⟨part, inside, not⟩
    rw [passable] at stopped
    cases stopped
  rcases faulty with ⟨part, inside, notPassable⟩
  cases found : Parameter.fault? (.text part) with
  | none => exact absurd found notPassable
  | some other =>
    rw [badText_of_fault? stopped, ← badText_of_fault? found]
    exact stop (.text part) (List.mem_map_of_mem inside) other found

/-- The row of a new root passes no more than the request. -/
theorem root {request : RootRequest} {clock : Instant}
    (stop : Stop (request.parameters clock) reasons) :
    Stop (.text request.sku :: (request.listing (request.availableOn.getD clock)).parameters)
      reasons := by
  refine .cons (stop.subset ?_) (stop.subset (List.cons_subset_cons _ (List.map_subset _ ?_)))
  · refine List.cons_subset.mpr ⟨List.mem_cons_of_mem _ (List.mem_map_of_mem ?_), List.nil_subset _⟩
    exact List.mem_append_left _ List.mem_cons_self
  · intro text inside
    refine List.mem_append_left _ ?_
    simp only [RootRequest.listing, List.mem_cons, List.not_mem_nil, or_false] at inside
    rcases inside with rfl | rfl | rfl | rfl | rfl <;> simp

/-- A change of a user passes what is asked for, and a hash. -/
theorem user {change : UserChange} {hash : Option String}
    (stop : Stop (Parameter.textsOf [change.firstName, change.lastName, change.username,
      change.email]) reasons) (hashed : ∀ text, hash = some text → Passable text) :
    Stop (Parameter.textsOf [change.firstName, change.lastName, change.username, change.email, hash])
      reasons := by
  have split : Parameter.textsOf [change.firstName, change.lastName, change.username, change.email,
      hash] = Parameter.textsOf [change.firstName, change.lastName, change.username, change.email] ++
        Parameter.textsOf [hash] := by
    unfold textsOf texts
    rw [← List.map_append, ← List.filterMap_append]
    rfl
  rw [split]
  refine stop.append ?_
  cases hash with
  | none => exact fun _ member => absurd member List.not_mem_nil
  | some text => exact .passable (hashed text rfl)

end Parameter.Stop

namespace Command.FailsFor

variable {c : Context} {t : Tables} {command : Command}

theorem disturbs : c.Disturbs (command.FailsFor c t) :=
  fun _ _ made => .disturbed made

theorem stop : Parameter.Stop (command.parameters c.clock) (command.FailsFor c t) :=
  fun _ passed _ stopped => .unpassable passed stopped

end Command.FailsFor

/-- The checks of commands find requests invalid. -/
theorem Command.invalid_of_checks {c : Context} {command : Command} {check : Except Refusal Unit}
    (checked : check ∈ command.checks c) {refusal : Refusal} (broken : check = .error refusal) :
    ∃ message, refusal = .invalid message := by
  have strength (password : String) (minLength : Nat) {refusal : Refusal}
      (broken : Rule.passwordStrength password minLength = .error refusal) :
      ∃ message, refusal = .invalid message := by
    unfold Rule.passwordStrength at broken
    split at broken
    · cases broken
      exact ⟨_, rfl⟩
    · cases broken
  subst broken
  cases command with
  | createRoot request =>
    rcases List.mem_cons.mp checked with names | limit
    · unfold Rule.uniqueNames at names
      split at names
      · cases names
      · cases names
        exact ⟨_, rfl⟩
    · have limited := List.mem_singleton.mp limit
      unfold Variant.ensureLimit at limited
      split at limited
      · split at limited
        · cases limited
        · cases limited
          exact ⟨_, rfl⟩
      · cases limited
        exact ⟨_, rfl⟩
  | createDiscount request =>
    have inconsistent := List.mem_singleton.mp checked
    unfold DiscountRequest.checkConsistency at inconsistent
    split at inconsistent
    · cases inconsistent
      exact ⟨_, rfl⟩
    · split at inconsistent
      · cases inconsistent
      · split at inconsistent
        · cases inconsistent
        · cases inconsistent
          exact ⟨_, rfl⟩
  | createUser request => exact strength _ _ (List.mem_singleton.mp checked).symm
  | changeUser id change =>
    rcases List.mem_map.mp checked with ⟨new, _, same⟩
    exact strength _ _ same
  | _ => cases checked

end Shop
