import Shop.Proofs.Service.Alike
import Shop.Proofs.Service.Pictures

/-!
# Hashes are not told

No answer tells anything of the hash of a password, as long as nobody asks for a new one: whoever
compares what is answered in two sessions that differ only in hashes sees no difference, and what
follows sees none either, since the sessions differ only in hashes again.

Every command hides the hashes.  Most of them never read a user.  Those that do read whole rows, with
the hash, and show what is left of them without it; and a change that carries no new password leaves
the hash as it is without looking at it.
-/

namespace Shop

/-! ## Users without hashes -/

/-- No view of a user shows the hash. -/
theorem User.toJson_congr {u u' : User} (same : u.unhashed = u'.unhashed) : u.toJson = u'.toJson :=
  (congrArg User.toJson same : u.unhashed.toJson = u'.unhashed.toJson)

namespace Service

open Shop.Action

/-! ## Parts of several commands -/

theorem showProducts_hides (products : List Product) : (showProducts products).Hides := by
  unfold showProducts
  split
  · exact .pure _
  · exact .statement (.select fun _ => rfl)

theorem showOptions_hides (options : List ProductOption) : (showOptions options).Hides := by
  unfold showOptions
  split
  · exact .pure _
  · exact .statement (.select fun _ => rfl)

theorem findOne_hides {k : Kind} (different : k ≠ .user) (id : Int) (refusal : Refusal)
    {next : k.Row → Action α} (rest : ∀ row, (next row).Hides) :
    (do
      let row ← Action.require refusal (← Action.statement (.find k id))
      next row).Hides :=
  .bind (.statement (.whole (.find k id) different)) fun _ => .bind (.require _ _) rest

theorem archiveOne_hides {k : Kind} (different : k ≠ .user) (id : Int) (refusal : Refusal)
    (shown : k.Row → Json) :
    (do
      let row ← Action.require refusal (← Action.statement (.archive k id))
      return Reply.ok (shown row)).Hides :=
  .bind (.statement (.whole (.archive k id) different)) fun _ => .bind (.require _ _) fun _ =>
    .pure _

theorem changeOne_hides {k : Kind} (different : k ≠ .user) (id : Int) (refusal : Refusal)
    (parameters : List Parameter) {change : Instant → k.Row → k.Row} (shown : k.Row → Json) :
    (do
      let row ← Action.require refusal
        (← Action.statement (.passing parameters (.updateLive k id change)))
      return Reply.ok (shown row)).Hides :=
  .bind (.statement (.passing (.updateWhole different _ _) _)) fun _ =>
    .bind (.require _ _) fun _ => .pure _

theorem listPage_hides {k : Kind} (different : k ≠ .user) (page : Page) (chosen : k.Row → Bool)
    {next : List k.Row → Nat → Action α} (rest : ∀ rows count, (next rows count).Hides) :
    (do
      let rows ← Action.statement (.page k page chosen)
      let count ← Action.statement (.count k chosen)
      next rows count).Hides := by
  refine .bind (.statement (.select fun t => ?_)) fun rows =>
    .bind (.statement (.select fun t => ?_)) fun count => rest rows count
  all_goals rw [Tables.live_unhashed, Kind.unhashed_of_ne different, List.map_id]

/-! ## Roots -/

theorem linkValues_hides (productId : Int) (valueIds : List Int) :
    Action.Hides
      (if valueIds.isEmpty then return () else statement (Store.linkValues productId valueIds)) := by
  split
  · exact .pure _
  · exact .statement (.mapWhole (.insertAll _ _))

/-- A call is answered without a look at a user. -/
theorem answer_hides (c : Call) : Action.Hides (answer c) := by
  cases c with
  | createRoot root => exact .statement (.passing (.insert _ _) _)
  | keepImage sku position renditions => exact .keepPicture _ _ _
  | createImage image => exact .statement (.passing (.insert _ _) _)
  | createOption rootId name => exact .statement (.passing (.insert _ _) _)
  | createValue optionId value => exact .statement (.passing (.insert _ _) _)
  | createProduct product => exact .statement (.passing (.insert _ _) _)
  | linkValues productId valueIds =>
    exact linkValues_hides productId valueIds
  | setRootImage rootId imageId =>
    exact .statement (.map (.update (fun _ _ => rfl) fun _ _ => rfl) fun _ _ _ => rfl)
  | setProductImage productId imageId =>
    exact .statement (.map (.update (fun _ _ => rfl) fun _ _ => rfl) fun _ _ _ => rfl)

theorem plan_hides (plan : Plan α) : Action.Hides (plan.run answer) := by
  induction plan with
  | done a => exact .pure _
  | refused refusal => exact .throw _
  | call c next inductionHypothesis => exact .bind (answer_hides c) inductionHypothesis

/-- Making pictures ready depends on the context alone. -/
theorem resolveAll_hides (inputs : List ImageInput) :
    Action.Hides (ImageInput.resolveAll downloader inputs) := by
  intro c p q alike
  have computes : Action.Computes c (ImageInput.resolveAll downloader inputs)
      (ImageInput.resolveAll (m := Id) c.download inputs) := resolveFrom_computes 0 _
  rw [computes p, computes q]
  cases (ImageInput.resolveAll (m := Id) c.download inputs).run with
  | error failure => exact .failed failure alike
  | ok images => exact .ended rfl alike

theorem createRoot_hides (request : RootRequest) : (createRoot request).Hides := by
  refine .bind (.ensure _) fun _ => .bind (.ensure _) fun _ => .bind .context fun c => ?_
  refine .bind (.statement (.passing (.any fun _ => rfl) _)) fun taken => ?_
  refine .bind (.ensureFree _ _) fun _ => .bind (resolveAll_hides _) fun images => ?_
  exact .bind (.transaction (plan_hides _)) fun view => .bind (.publish _ _) fun _ => .pure _

theorem listRoots_hides (page : Page) : (listRoots page).Hides := by
  refine listPage_hides (by decide) page _ fun roots count => ?_
  extract_lets next
  have rest : ∀ products, (next products).Hides := fun products =>
    .bind (showProducts_hides products) fun views => .pure _
  split
  · exact .bind (.pure _) rest
  · exact .bind (.statement (.select fun _ => rfl)) rest

theorem showRoot_hides (id : Int) : (showRoot id).Hides :=
  findOne_hides (k := .root) (by decide) id _ fun _ =>
    .bind (.statement (.select fun _ => rfl)) fun _ => .bind (showOptions_hides _) fun _ =>
    .bind (.statement (.select fun _ => rfl)) fun _ =>
    .bind (.statement (.select fun _ => rfl)) fun _ =>
    .bind (showProducts_hides _) fun _ => .pure _

theorem archiveRoot_hides (id : Int) : (archiveRoot id).Hides := by
  refine .bind (.transaction ?_) fun _ => .pure _
  refine .bind (.statement (.archiveAll fun _ _ => rfl)) fun _ => ?_
  refine .bind (.statement (.archiveAll fun _ _ => rfl)) fun _ => ?_
  refine .bind (.statement (.archiveAll fun _ _ => rfl)) fun _ => ?_
  refine .bind (.statement (.archiveAll fun _ _ => rfl)) fun _ => ?_
  refine .bind (.statement (.archiveAll fun _ _ => rfl)) fun _ => ?_
  exact .bind (.statement (.whole (.archive .root id) (by decide))) fun _ => .require _ _

/-! ## Products -/

theorem showOne_hides (product : Product) : (showOne product).Hides :=
  .statement (.mapWhole (.select fun _ => rfl))

theorem loadProduct_hides (sku : String) : (loadProduct sku).Hides :=
  .bind (.statement (.passing (.select fun _ => rfl) _)) fun _ => .bind (.require _ _) fun _ =>
    showOne_hides _

theorem listProducts_hides (page : Page) : (listProducts page).Hides :=
  listPage_hides (by decide) page _ fun _ _ => .bind (showProducts_hides _) fun _ => .pure _

theorem changeProduct_hides (sku : String) (patch : ProductPatch) :
    (changeProduct sku patch).Hides := by
  refine .bind (.statement (.passing (.select fun _ => rfl) _)) fun found => ?_
  refine .bind (.require _ _) fun existing => ?_
  extract_lets next
  have rest : ∀ x, (next x).Hides := by
    intro _
    refine .bind (.statement (.passing (.updateWhole (by decide) _ _) _)) fun changed => ?_
    refine .bind (.require _ _) fun changed => .bind (showOne_hides _) fun view => ?_
    exact .bind (.publish _ _) fun _ => .pure _
  split
  · exact rest ()
  · split
    · exact rest ()
    · exact .bind (.statement (.passing (.any fun _ => rfl) _)) fun _ =>
        .bind (.ensureFree _ _) rest

theorem archiveProduct_hides (sku : String) : (archiveProduct sku).Hides := by
  refine .bind (loadProduct_hides _) fun existing => ?_
  refine .bind (.transaction ?_) fun product => .bind (.publish _ _) fun _ => .pure _
  refine .bind (.statement (.archiveAll fun _ _ => rfl)) fun _ => ?_
  exact .bind (.statement (.whole (.archive .product _) (by decide))) fun _ => .require _ _

/-! ## Options and values -/

theorem listOptions_hides (rootId : Int) (page : Page) : (listOptions rootId page).Hides :=
  .bind (findOne_hides (k := .root) (by decide) rootId _ fun _ => .pure _) fun _ =>
    listPage_hides (by decide) page _ fun _ _ => .bind (showOptions_hides _) fun _ => .pure _

theorem addValues_hides (optionId : Int) (values : List String) :
    (addValues optionId values).Hides := by
  induction values with
  | nil => exact .pure _
  | cons value values inductionHypothesis =>
    refine .bind (.statement (.passing (.insert _ _) _)) fun row => ?_
    exact .bind inductionHypothesis fun rows => .pure _

theorem addOption_hides (rootId : Int) (input : OptionInput) : (addOption rootId input).Hides := by
  refine .bind (findOne_hides (k := .root) (by decide) rootId _ fun _ => .pure _) fun _ => ?_
  refine .bind (.statement (.passing (.any fun _ => rfl) _)) fun taken => ?_
  refine .bind (.ensureFree _ _) fun _ => .bind (.transaction ?_) fun view => .pure _
  refine .bind (.statement (.passing (.insert _ _) _)) fun option => ?_
  exact .bind (addValues_hides _ _) fun values => .pure _

theorem renameOption_hides (id : Int) (name : String) : (renameOption id name).Hides := by
  refine findOne_hides (k := .option) (by decide) id _ fun existing => ?_
  extract_lets next
  have rest : ∀ x, (next x).Hides := by
    intro _
    refine .bind (.statement (.passing (.updateWhole (by decide) _ _) _)) fun changed => ?_
    refine .bind (.require _ _) fun option => ?_
    exact .bind (.statement (.mapWhole (.select fun _ => rfl))) fun view => .pure _
  split
  · exact rest ()
  · exact .bind (.statement (.passing (.any fun _ => rfl) _)) fun _ => .bind (.ensureFree _ _) rest

theorem archiveOption_hides (id : Int) : (archiveOption id).Hides := by
  refine .bind (.transaction ?_) fun option => .pure _
  refine .bind (.statement (.archiveAll fun _ _ => rfl)) fun _ => ?_
  exact .bind (.statement (.whole (.archive .option id) (by decide))) fun _ => .require _ _

theorem addValue_hides (optionId : Int) (value : String) : (addValue optionId value).Hides := by
  refine findOne_hides (k := .option) (by decide) optionId _ fun _ => ?_
  refine .bind (.statement (.passing (.any fun _ => rfl) _)) fun taken => ?_
  refine .bind (.ensureFree _ _) fun _ => ?_
  exact .bind (.statement (.passing (.insert _ _) _)) fun row => .pure _

theorem changeValue_hides (id : Int) (value : String) : (changeValue id value).Hides := by
  refine findOne_hides (k := .value) (by decide) id _ fun existing => ?_
  extract_lets next
  have rest : ∀ x, (next x).Hides := by
    intro _
    refine .bind (.statement (.passing (.updateWhole (by decide) _ _) _)) fun changed => ?_
    exact .bind (.require _ _) fun row => .pure _
  split
  · exact rest ()
  · exact .bind (.statement (.passing (.any fun _ => rfl) _)) fun _ => .bind (.ensureFree _ _) rest

/-! ## Discounts and webhooks -/

theorem createDiscount_hides (request : DiscountRequest) : (createDiscount request).Hides := by
  refine .bind .context fun c => .bind (.ensure _) fun _ => ?_
  exact .bind (.statement (.passing (.insert _ _) _)) fun discount => .pure _

theorem listWebhooksFor_hides (eventType : String) (page : Page) :
    (listWebhooksFor eventType page).Hides :=
  .bind (.statement (.passing (.select fun _ => rfl) _)) fun _ =>
    .bind (.statement (.passing (.select fun _ => rfl) _)) fun _ => .pure _

theorem listExecutions_hides (id : Int) (page : Page) : (listExecutions id page).Hides :=
  findOne_hides (k := .webhook) (by decide) id _ fun _ =>
    .bind (.statement (.select fun _ => rfl)) fun _ =>
    .bind (.statement (.select fun _ => rfl)) fun _ => .pure _

/-! ## Users -/

theorem createUser_hides (request : UserRequest) : (createUser request).Hides := by
  refine .bind .context fun c => .bind (.ensure _) fun _ => ?_
  refine .bind (.statement (.passing (.any fun _ => rfl) _)) fun taken => ?_
  refine .bind (.ensureFree _ _) fun _ => ?_
  exact .bind (.statement (.passing (.insert _ _) _)) fun user => .pure _

/-- A user who was found with the hash, and is shown without it. -/
theorem tellUser_hides {s : Statement (Option User)} (blind : s.Blind (Option.map User.unhashed))
    (refusal : Refusal) :
    (do
      let user ← Action.require refusal (← Action.statement s)
      return Reply.ok user.toJson).Hides :=
  Agree.bind (.statement blind) fun _ _ same => Agree.bind (.require _ same) fun _ _ same =>
    .pure (congrArg Reply.ok (User.toJson_congr same))

theorem changeUser_hides (userId : Int) (change : UserChange)
    (keeps : change.newPassword = none) : (changeUser userId change).Hides := by
  refine Agree.bind (.statement (.find .user userId)) fun _ _ same => ?_
  refine Agree.bind (.require _ same) fun existing existing' _ => ?_
  -- The rows that are found may differ in the hash, which only the check of a new password reads.
  extract_lets afterHash afterName afterName'
  have hashed : ∀ hash, (afterHash hash).Hides := by
    intro hash
    refine tellUser_hides (.passing (.updateLive ?_) _) _
    exact fun _ _ => rfl
  have named : ∀ x, Agree id (afterName x) (afterName' x) := by
    intro _
    unfold afterName afterName'
    rw [keeps]
    exact hashed none
  cases change.username with
  | none => exact named ()
  | some username =>
    refine Agree.bind (.statement (.passing (.any fun _ => rfl) _)) fun taken _ same => ?_
    rcases (same : taken = _) with rfl
    exact Agree.bind (Hides.ensureFree _ _) fun _ _ _ => named ()

theorem checkHealth_hides : checkHealth.Hides :=
  .tryCatch (.bind (.statement (.select fun _ => rfl)) fun _ => .pure _) fun _ => .pure _

end Service

/-! ## All commands -/

/-- The new password that a command asks for. -/
def Command.newPassword? : Command → Option String
  | .changeUser _ change => change.val.newPassword
  | _ => none

/-- Every command hides the hashes, unless it asks for a new password. -/
theorem Command.hides (command : Command) (keeps : command.newPassword? = none) :
    command.action.Hides := by
  cases command with
  | checkHealth => exact Service.checkHealth_hides
  | listRoots page => exact Service.listRoots_hides page
  | createRoot request => exact Service.createRoot_hides request.val
  | showRoot id => exact Service.showRoot_hides id
  | archiveRoot id => exact Service.archiveRoot_hides id
  | listProducts page => exact Service.listProducts_hides page
  | showProduct sku => exact .bind (Service.loadProduct_hides sku) fun _ => .pure _
  | probeProduct sku =>
    exact .bind (.statement (.passing (.any fun _ => rfl) _)) fun _ => .pure _
  | changeProduct sku patch => exact Service.changeProduct_hides sku patch.val
  | archiveProduct sku => exact Service.archiveProduct_hides sku
  | listOptions rootId page => exact Service.listOptions_hides rootId page
  | addOption rootId input => exact Service.addOption_hides rootId input.val
  | renameOption id input => exact Service.renameOption_hides id input.val.name
  | archiveOption id => exact Service.archiveOption_hides id
  | addValue optionId input => exact Service.addValue_hides optionId input.val.value
  | changeValue id input => exact Service.changeValue_hides id input.val.value
  | archiveValue id => exact Service.archiveOne_hides (k := .value) (by decide) id _ _
  | listDiscounts page =>
    exact Service.listPage_hides (k := .discount) (by decide) page _ fun _ _ => .pure _
  | createDiscount request => exact Service.createDiscount_hides request.val
  | showDiscount id => exact Service.findOne_hides (k := .discount) (by decide) id _ fun _ => .pure _
  | changeDiscount id patch =>
    exact Service.changeOne_hides (k := .discount) (by decide) id _ _ Discount.toJson
  | archiveDiscount id => exact Service.archiveOne_hides (k := .discount) (by decide) id _ _
  | listWebhooks page =>
    exact Service.listPage_hides (k := .webhook) (by decide) page _ fun _ _ => .pure _
  | listWebhooksFor eventType page => exact Service.listWebhooksFor_hides eventType page
  | createWebhook request =>
    exact .bind (.statement (.passing (.insert _ _) _)) fun _ => .pure _
  | changeWebhook id patch =>
    exact Service.changeOne_hides (k := .webhook) (by decide) id _ _ Webhook.toJson
  | archiveWebhook id => exact Service.archiveOne_hides (k := .webhook) (by decide) id _ _
  | listExecutions id page => exact Service.listExecutions_hides id page
  | createUser request => exact Service.createUser_hides request.val
  | showUser id => exact Service.tellUser_hides (.find .user id) _
  | changeUser id change => exact Service.changeUser_hides id change.val keeps
  | archiveUser id => exact Service.tellUser_hides (.archive .user id) _

/-! ## Deliveries -/

/-- A piece of work that ends in the same, however far it has come in sessions that are alike. -/
def Work.Hides (w : Work α) : Prop :=
  ∀ c p q, p.unhashed = q.unhashed →
    ((w.run c).run p).1 = ((w.run c).run q).1 ∧
      ((w.run c).run p).2.unhashed = ((w.run c).run q).2.unhashed

namespace Work.Hides

theorem pure (a : α) : Work.Hides (Pure.pure a) := fun _ _ _ alike => ⟨rfl, alike⟩

theorem bind {w : Work α} {next : α → Work β} (first : w.Hides) (rest : ∀ x, (next x).Hides) :
    Work.Hides (w >>= next) := by
  intro c p q alike
  rcases first c p q alike with ⟨same, after⟩
  change ((next ((w.run c).run p).1).run c |>.run ((w.run c).run p).2).1 =
      ((next ((w.run c).run q).1).run c |>.run ((w.run c).run q).2).1 ∧
    ((next ((w.run c).run p).1).run c |>.run ((w.run c).run p).2).2.unhashed =
      ((next ((w.run c).run q).1).run c |>.run ((w.run c).run q).2).2.unhashed
  rw [same]
  exact rest _ c _ _ after

theorem of_action {a : Action α} (hides : a.Hides) : Work.Hides a.run := by
  intro c p q alike
  have ended := hides c p q alike
  change (a.perform c p).1 = (a.perform c q).1 ∧
    (a.perform c p).2.unhashed = (a.perform c q).2.unhashed
  generalize a.perform c p = ran at ended ⊢
  generalize a.perform c q = ran' at ended ⊢
  cases ended with
  | failed failure alike => exact ⟨rfl, alike⟩
  | ended same alike => exact ⟨congrArg Except.ok same, alike⟩

end Work.Hides

namespace Service

theorem attempt_hides {s : Statement α} (blind : s.Blind id) : (attempt s).Hides := by
  refine .bind (.of_action (.statement blind)) fun answered => ?_
  split <;> exact .pure _

/-- Delivering an event looks at webhooks and adds executions. -/
theorem dispatch_hides (answered : Webhook → Json → Except DeliveryFault Nat) (d : Dispatcher)
    (event : Event) :
    Work.Hides
      (d.dispatch (courier fun webhook payload => Pure.pure (answered webhook payload)) event) := by
  have executed : ∀ webhooks, Work.Hides
      (Dispatcher.executeAll (courier fun webhook payload => Pure.pure (answered webhook payload))
        event.payload webhooks) := by
    intro webhooks
    induction webhooks with
    | nil => exact .pure _
    | cons webhook webhooks inductionHypothesis =>
      refine .bind (.bind (.pure _) fun answer => ?_) fun _ => inductionHypothesis
      exact .bind (.bind (attempt_hides (.insert _ _)) fun _ => .pure _) fun _ => .pure _
  refine .bind (attempt_hides (.passing (.select fun _ => rfl) _)) fun found => ?_
  split
  · exact .pure _
  · exact .bind (executed _) fun _ => .pure _

end Service

/-! ## Requests -/

theorem Action.Hides.serve {a : Action Reply} (hides : a.Hides) (c : Context) {s s' : Session}
    (alike : s.unhashed = s'.unhashed) :
    (a.serve c s).1 = (a.serve c s').1 ∧
      (a.serve c s).2.unhashed = (a.serve c s').2.unhashed := by
  have ended := hides c (.start s) (.start s') (congrArg Progress.start alike)
  unfold Action.serve
  generalize a.perform c (.start s) = ran at ended ⊢
  generalize a.perform c (.start s') = ran' at ended ⊢
  cases ended with
  | failed failure alike => exact ⟨rfl, Progress.session_eq alike⟩
  | ended same alike => exact ⟨same, Progress.session_eq alike⟩

namespace Http

/-- The new password that a request asks for. -/
def Request.newPassword? (r : Request) : Option String := r.served?.bind Command.newPassword?

variable {s s' : Session} {r : Request}

theorem answer_hides (c : Context) (alike : s.unhashed = s'.unhashed) (other : r.method ≠ .options)
    (keeps : r.newPassword? = none) :
    (answer c s r).1 = (answer c s' r).1 ∧
      (answer c s r).2.unhashed = (answer c s' r).2.unhashed := by
  simp only [answer]
  cases outside : filePath? (Target.read r.target).path with
  | some path =>
    have shelves : s.shelf = s'.shelf := congrArg (·.shelf) alike
    exact ⟨by simp only [shelves], alike⟩
  | none =>
    cases asked : r.command with
    | error rejection => cases rejection <;> exact ⟨rfl, alike⟩
    | ok command =>
      rw [Request.newPassword?, Request.served?_eq_some.mpr ⟨other, outside, asked⟩] at keeps
      rcases (command.hides keeps).serve c alike with ⟨same, after⟩
      exact ⟨by simp only [same], after⟩

/-- A request that asks for no new password is answered the same in sessions that are alike, and
leaves them alike. -/
theorem serve_hides (c : Context) (fresh : String) (alike : s.unhashed = s'.unhashed)
    (keeps : r.newPassword? = none) :
    (serve c fresh s r).1 = (serve c fresh s' r).1 ∧
      (serve c fresh s r).2.unhashed = (serve c fresh s' r).2.unhashed := by
  unfold serve
  split
  · exact ⟨rfl, alike⟩
  · rename_i other
    have answered := answer_hides c alike other keeps
    generalize answer c s r = first at answered ⊢
    generalize answer c s' r = second at answered ⊢
    exact ⟨by simp only [answered.1], answered.2⟩

end Http

/-! ## Runs -/

/-- The new password that something asks for. -/
def Happening.newPassword? : Happening → Option String
  | .served _ _ r => r.newPassword?
  | .delivered .. => none

namespace Session

/-- What is answered where something happens. -/
def response? (s : Session) : Happening → Option Http.Response
  | .served c fresh r => some (Http.serve c fresh s r).1
  | .delivered .. => none

/-- The responses to a run of happenings, the first of which comes first, and the session after
it. -/
def run (s : Session) : List Happening → List Http.Response × Session
  | [] => ([], s)
  | next :: rest =>
    let (responses, last) := (s.after next).run rest
    ((s.response? next).toList ++ responses, last)

variable {s s' : Session}

/-- Whatever happens to sessions that are alike is answered the same and leaves them alike, as long
as it asks for no new password. -/
theorem after_hides (alike : s.unhashed = s'.unhashed) {next : Happening}
    (keeps : next.newPassword? = none) :
    s.response? next = s'.response? next ∧ (s.after next).unhashed = (s'.after next).unhashed := by
  cases next with
  | served c fresh r =>
    rcases Http.serve_hides c fresh alike keeps with ⟨same, after⟩
    exact ⟨congrArg some same, after⟩
  | delivered c answered d event =>
    have worked := Service.dispatch_hides answered d event c (.start s) (.start s')
      (congrArg Progress.start alike)
    exact ⟨rfl, Progress.session_eq worked.2⟩

/-- Hashes are not told.  Two sessions that differ at most in the hashes of users give the same
responses to every run in which no request asks for a new password, and differ at most in these
hashes in the end. -/
theorem run_hides (alike : s.unhashed = s'.unhashed) (happenings : List Happening)
    (keeps : ∀ next ∈ happenings, next.newPassword? = none) :
    (s.run happenings).1 = (s'.run happenings).1 ∧
      (s.run happenings).2.unhashed = (s'.run happenings).2.unhashed := by
  induction happenings generalizing s s' with
  | nil => exact ⟨rfl, alike⟩
  | cons next rest inductionHypothesis =>
    rcases List.forall_mem_cons.mp keeps with ⟨keepsNext, keepsRest⟩
    rcases after_hides alike keepsNext with ⟨same, after⟩
    rcases inductionHypothesis after keepsRest with ⟨sameRest, afterRest⟩
    exact ⟨congrArg₂ (fun response responses => response.toList ++ responses) same sameRest,
      afterRest⟩

/-- A session with a clerk whose password has a hash. -/
def ofClerk (hash : String) : Session :=
  { start 16 with
    tables := { Tables.empty with
      users := [⟨1, "Ann", "Clerk", "clerk", "clerk@shop.test", hash, false, none, .new ⟨0, 0⟩⟩] }
    sequences := { Sequences.start with users := 1 } }

/-- The clerk is shown, gets another last name, is archived, and is looked for again. -/
def clerkVisits : List Happening :=
  let change := Http.jsonRequest .patch "/v1/user/1"
    "\x7b\"last_name\": \"Smith\", \"current_password\": \"guessed\"\x7d"
  [.served (.calm ⟨60, 0⟩) "show" (Http.lookRequest "/v1/user/1"),
    .served (.calm ⟨120, 0⟩) "change" change,
    .served (.calm ⟨180, 0⟩) "archive" (Http.archiveRequest "/v1/user/1"),
    .served (.calm ⟨240, 0⟩) "show again" (Http.lookRequest "/v1/user/1")]

/-- The clerk is shown, changed and archived alike, whatever the hash is. -/
theorem run_hides_clerk :
    (ofClerk "first").tables.users ≠ (ofClerk "second").tables.users ∧
      (ofClerk "first").unhashed = (ofClerk "second").unhashed ∧
      (∀ next ∈ clerkVisits, next.newPassword? = none) ∧
      ((ofClerk "first").run clerkVisits).1.map (·.status) = [200, 200, 200, 404] ∧
      ((ofClerk "first").run clerkVisits).1 = ((ofClerk "second").run clerkVisits).1 ∧
      ((ofClerk "first").run clerkVisits).2.unhashed =
        ((ofClerk "second").run clerkVisits).2.unhashed := by
  have alike : (ofClerk "first").unhashed = (ofClerk "second").unhashed := rfl
  have keeps : ∀ next ∈ clerkVisits, next.newPassword? = none := by
    simp only [clerkVisits, List.forall_mem_cons, Happening.newPassword?,
      Http.Request.newPassword?, Http.Request.served?, Http.Request.command, Http.servedAt_eq]
    decide +kernel
  have answered : ((ofClerk "first").run clerkVisits).1.map (·.status) = [200, 200, 200, 404] := by
    simp only [clerkVisits, run, response?, after, Http.serve, Http.answer, Http.Request.command,
      Http.servedAt_eq]
    decide +kernel
  exact ⟨by decide, alike, keeps, answered, run_hides alike clerkVisits keeps⟩

end Session
end Shop
