import Shop.Proofs.Service.Effects
import Shop.Service.Command

/-!
# The effects of commands

Each command is within the effects that `Command.effects` names for it.  A command that only shows
things has none, so it leaves rows, pictures and events as they are; every other command names the
kinds of rows that it may insert, amend or archive, and whether it tells the webhooks.
-/

namespace Shop

/-- What the store may do to answer a call. -/
def Call.effects : Call → List Effect
  | .createRoot _ => [.insert .root]
  | .keepImage _ _ _ => [.picture]
  | .createImage _ => [.insert .image]
  | .createOption _ _ => [.insert .option]
  | .createValue _ _ => [.insert .value]
  | .createProduct _ => [.insert .product]
  | .linkValues _ _ => [.insert .link]
  | .setRootImage _ _ => [.amend .root]
  | .setProductImage _ _ => [.amend .product]

/-- The effects of writing a root with all it owns. -/
def creationEffects : List Effect :=
  [.insert .root, .insert .image, .insert .option, .insert .value, .insert .product, .insert .link,
    .amend .root, .amend .product, .picture]

/-- What a command may do. -/
def Command.effects : Command → List Effect
  | .createRoot _ => .publish :: creationEffects
  | .archiveRoot _ =>
    [.archive .link, .archive .value, .archive .option, .archive .product, .archive .image,
      .archive .root]
  | .changeProduct _ _ => [.amend .product, .publish]
  | .archiveProduct _ => [.archive .link, .archive .product, .publish]
  | .addOption _ _ => [.insert .option, .insert .value]
  | .renameOption _ _ => [.amend .option]
  | .archiveOption _ => [.archive .value, .archive .option]
  | .addValue _ _ => [.insert .value]
  | .changeValue _ _ => [.amend .value]
  | .archiveValue _ => [.archive .value]
  | .createDiscount _ => [.insert .discount]
  | .changeDiscount _ _ => [.amend .discount]
  | .archiveDiscount _ => [.archive .discount]
  | .createWebhook _ => [.insert .webhook]
  | .changeWebhook _ _ => [.amend .webhook]
  | .archiveWebhook _ => [.archive .webhook]
  | .createUser _ => [.insert .user]
  | .changeUser _ _ => [.amend .user]
  | .archiveUser _ => [.archive .user]
  | _ => []

namespace Service

open Shop.Action

variable {allowed : Effect → Prop}

/-! ## Parts of several commands -/

theorem showProducts_within (products : List Product) : (showProducts products).Within allowed := by
  unfold showProducts
  split
  · exact .pure _
  · exact .statement (.select _)

theorem showOptions_within (options : List ProductOption) :
    (showOptions options).Within allowed := by
  unfold showOptions
  split
  · exact .pure _
  · exact .statement (.select _)

/-- Looking up the live row of a number and going on only if it is there. -/
theorem findOne_within {k : Kind} (id : Int) (refusal : Refusal) {next : k.Row → Action α}
    (rest : ∀ row, (next row).Within allowed) :
    (do
      let row ← Action.require refusal (← Action.statement (.find k id))
      next row).Within allowed :=
  .bind (.statement (.select _)) fun _ => .bind (.require _ _) rest

theorem archiveOne_within {k : Kind} (may : allowed (.archive k)) (id : Int) (refusal : Refusal)
    (shown : k.Row → Json) :
    (do
      let row ← Action.require refusal (← Action.statement (.archive k id))
      return Reply.ok (shown row)).Within allowed :=
  .bind (.statement (.archive may _)) fun _ => .bind (.require _ _) fun _ => .pure _

theorem listPage_within {k : Kind} (page : Page) (chosen : k.Row → Bool)
    {next : List k.Row → Nat → Action α} (rest : ∀ rows count, (next rows count).Within allowed) :
    (do
      let rows ← Action.statement (.page k page chosen)
      let count ← Action.statement (.count k chosen)
      next rows count).Within allowed :=
  .bind (.statement (.select _)) fun _ => .bind (.statement (.select _)) fun _ => rest _ _

/-! ## Roots -/

theorem linkValues_within (may : allowed (.insert .link)) (productId : Int) (valueIds : List Int) :
    Action.Within allowed
      (if valueIds.isEmpty then return () else statement (Store.linkValues productId valueIds)) := by
  split
  · exact .pure _
  · refine .statement (.map (.insertAll may ?_ ?_) _)
    · intro now row member id
      rcases List.mem_map.mp member with ⟨valueId, _, rfl⟩
      rfl
    · intro now row member id
      rcases List.mem_map.mp member with ⟨valueId, _, rfl⟩
      rfl

theorem setRootImage_within (may : allowed (.amend .root)) (rootId imageId : Int) :
    (Store.setRootImage rootId imageId).Within allowed := by
  refine .map (.update may ?_) _
  exact fun _ _ => ⟨rfl, rfl, rfl⟩

theorem setProductImage_within (may : allowed (.amend .product)) (productId imageId : Int) :
    (Store.setProductImage productId imageId).Within allowed := by
  refine .map (.update may ?_) _
  exact fun _ _ => ⟨rfl, rfl, rfl⟩

/-- A call is answered within its effects. -/
theorem answer_within (c : Call) : Action.Within (· ∈ c.effects) (answer c) := by
  cases c with
  | createRoot root =>
    exact .statement (.passing (.insert List.mem_cons_self (fun _ _ => rfl) fun _ _ => rfl) _)
  | keepImage sku position renditions => exact .keepPicture List.mem_cons_self _ _ _
  | createImage image =>
    exact .statement (.passing (.insert List.mem_cons_self (fun _ _ => rfl) fun _ _ => rfl) _)
  | createOption rootId name =>
    exact .statement (.passing (.insert List.mem_cons_self (fun _ _ => rfl) fun _ _ => rfl) _)
  | createValue optionId value =>
    exact .statement (.passing (.insert List.mem_cons_self (fun _ _ => rfl) fun _ _ => rfl) _)
  | createProduct product =>
    exact .statement (.passing (.insert List.mem_cons_self (fun _ _ => rfl) fun _ _ => rfl) _)
  | linkValues productId valueIds => exact linkValues_within List.mem_cons_self productId valueIds
  | setRootImage rootId imageId =>
    exact .statement (setRootImage_within List.mem_cons_self rootId imageId)
  | setProductImage productId imageId =>
    exact .statement (setProductImage_within List.mem_cons_self productId imageId)

theorem callEffects_subset (c : Call) : c.effects ⊆ creationEffects := by
  cases c <;> simp [Call.effects, creationEffects]

/-- A plan that the store answers stays within the effects of its calls. -/
theorem plan_within (plan : Plan α) : Action.Within (· ∈ creationEffects) (plan.run answer) := by
  induction plan with
  | done a => exact .pure _
  | refused refusal => exact .throw _
  | call c next inductionHypothesis =>
    exact .bind ((answer_within c).mono fun _ => (callEffects_subset c ·)) inductionHypothesis

theorem orFail_within (result : Except PictureFault α) :
    Action.Within allowed (ImageInput.orFail (m := Work) result) := by
  cases result with
  | ok a => exact .pure _
  | error fault => exact .throw _

theorem fetch_within (position : Nat) (address : String) :
    Action.Within allowed (ImageInput.fetch downloader position address) := by
  refine .bind (.lift fun c p => .refl) fun answered => ?_
  cases answered with
  | ok bytes => exact .pure _
  | error fault => exact .throw _

theorem resolve_within (position : Nat) (input : ImageInput) :
    Action.Within allowed (input.resolve downloader position) := by
  refine .bind (orFail_within _) fun kind => ?_
  cases kind with
  | base64 => exact .bind (orFail_within _) fun raster => .pure _
  | url =>
    exact .bind (fetch_within _ _) fun bytes => .bind (orFail_within _) fun raster => .pure _

/-- Making pictures ready touches nothing of the session. -/
theorem resolveFrom_within (position : Nat) (inputs : List ImageInput) :
    Action.Within allowed (ImageInput.resolveFrom downloader position inputs) := by
  induction inputs generalizing position with
  | nil => exact .pure _
  | cons input inputs inductionHypothesis =>
    exact .bind (resolve_within _ _) fun image =>
      .bind (inductionHypothesis _) fun images => .pure _

theorem createRoot_within (request : RootRequest) :
    (createRoot request).Within (· ∈ Effect.publish :: creationEffects) := by
  refine .bind (.ensure _) fun _ => .bind (.ensure _) fun _ => .bind .context fun c => ?_
  refine .bind (.statement (.passing (.select _) _)) fun taken => .bind (.ensureFree _ _) fun _ => ?_
  refine .bind (resolveFrom_within _ _) fun images => ?_
  refine .bind (.transaction ((plan_within _).mono fun _ => List.mem_cons_of_mem _)) fun view => ?_
  exact .bind (.publish List.mem_cons_self _ _) fun _ => .pure _

theorem listRoots_within (page : Page) : (listRoots page).Within allowed := by
  refine listPage_within page _ fun roots count => ?_
  extract_lets next
  have rest : ∀ products, (next products).Within allowed := fun products =>
    .bind (showProducts_within products) fun views => .pure _
  split
  · exact .bind (.pure _) rest
  · exact .bind (.statement (.select _)) rest

theorem showRoot_within (id : Int) : (showRoot id).Within allowed :=
  findOne_within (k := .root) id _ fun _ =>
    .bind (.statement (.select _)) fun _ => .bind (showOptions_within _) fun _ =>
    .bind (.statement (.select _)) fun _ => .bind (.statement (.select _)) fun _ =>
    .bind (showProducts_within _) fun _ => .pure _

/-- What is written when a root is archived. -/
abbrev rootArchiving (id : Int) : Action ProductRoot := do
  statement (Store.archiveLinksOfRoot id)
  statement (Store.archiveValuesOfRoot id)
  statement (Store.archiveOptionsOf id)
  statement (Store.archiveProductsOf id)
  statement (Store.archiveImagesOf id)
  require (noRoot id) (← statement (.archive .root id))

theorem rootArchiving_within (id : Int) :
    (rootArchiving id).Within (· ∈ Command.effects (.archiveRoot id)) := by
  refine .bind (.statement (.archiveAll (by simp [Command.effects]) _)) fun _ => ?_
  refine .bind (.statement (.archiveAll (by simp [Command.effects]) _)) fun _ => ?_
  refine .bind (.statement (.archiveAll (by simp [Command.effects]) _)) fun _ => ?_
  refine .bind (.statement (.archiveAll (by simp [Command.effects]) _)) fun _ => ?_
  refine .bind (.statement (.archiveAll (by simp [Command.effects]) _)) fun _ => ?_
  exact .bind (.statement (.archive (by simp [Command.effects]) _)) fun _ => .require _ _

theorem archiveRoot_within (id : Int) :
    (archiveRoot id).Within (· ∈ Command.effects (.archiveRoot id)) :=
  .bind (.transaction (rootArchiving_within id)) fun _ => .pure _

/-! ## Products -/

theorem showOne_within (product : Product) : (showOne product).Within allowed :=
  .statement (.map (.select _) _)

theorem loadProduct_within (sku : String) : (loadProduct sku).Within allowed :=
  .bind (.statement (.passing (.select _) _)) fun _ => .bind (.require _ _) fun _ =>
    showOne_within _

theorem listProducts_within (page : Page) : (listProducts page).Within allowed :=
  listPage_within page _ fun _ _ => .bind (showProducts_within _) fun _ => .pure _

theorem changeProduct_within (sku : String) (patch : ProductPatch) :
    (changeProduct sku patch).Within (· ∈ [Effect.amend .product, .publish]) := by
  refine .bind (.statement (.passing (.select _) _)) fun found => ?_
  refine .bind (.require _ _) fun existing => ?_
  extract_lets next
  have rest : ∀ x, Action.Within (· ∈ [Effect.amend .product, .publish]) (next x) := by
    intro _
    refine .bind (.statement (.passing (.updateLive ?_ ?_) _)) fun changed => ?_
    · decide
    · exact fun _ _ => ⟨rfl, rfl, rfl⟩
    · refine .bind (.require _ _) fun changed => .bind (showOne_within _) fun view => ?_
      exact .bind (.publish (by decide) _ _) fun _ => .pure _
  split
  · exact rest ()
  · split
    · exact rest ()
    · exact .bind (.statement (.passing (.select _) _)) fun _ => .bind (.ensureFree _ _) rest

theorem archiveProduct_within (sku : String) :
    (archiveProduct sku).Within (· ∈ [Effect.archive .link, .archive .product, .publish]) := by
  refine .bind (loadProduct_within _) fun existing => ?_
  refine .bind (.transaction ?_) fun product => .bind (.publish (by decide) _ _) fun _ => .pure _
  refine .bind (.statement (.archiveAll (by decide) _)) fun _ => ?_
  exact .bind (.statement (.archive (by decide) _)) fun _ => .require _ _

/-! ## Options and values -/

theorem listOptions_within (rootId : Int) (page : Page) :
    (listOptions rootId page).Within allowed :=
  .bind (findOne_within (k := .root) rootId _ fun _ => .pure _) fun _ =>
    listPage_within page _ fun _ _ => .bind (showOptions_within _) fun _ => .pure _

theorem addValues_within (may : allowed (.insert .value)) (optionId : Int) (values : List String) :
    (addValues optionId values).Within allowed := by
  induction values with
  | nil => exact .pure _
  | cons value values inductionHypothesis =>
    refine .bind (.statement (.passing (.insert may (fun _ _ => rfl) fun _ _ => rfl) _))
      fun row => ?_
    exact .bind inductionHypothesis fun rows => .pure _

/-- What is written of an option that is added. -/
abbrev optionCreation (rootId : Int) (input : OptionInput) : Action OptionView := do
  let option ← statement (Store.createOption rootId input.name)
  let values ← addValues option.id input.values
  return ⟨option, values⟩

theorem optionCreation_within (rootId : Int) (input : OptionInput) :
    (optionCreation rootId input).Within (· ∈ [Effect.insert .option, .insert .value]) := by
  refine .bind (.statement (.passing (.insert (by decide) (fun _ _ => rfl) fun _ _ => rfl) _))
    fun option => ?_
  exact .bind (addValues_within (by decide) _ _) fun values => .pure _

theorem addOption_within (rootId : Int) (input : OptionInput) :
    (addOption rootId input).Within (· ∈ [Effect.insert .option, .insert .value]) := by
  refine .bind (findOne_within (k := .root) rootId _ fun _ => .pure _) fun _ => ?_
  refine .bind (.statement (.passing (.select _) _)) fun taken => .bind (.ensureFree _ _) fun _ => ?_
  exact .bind (.transaction (optionCreation_within rootId input)) fun view => .pure _

theorem renameOption_within (id : Int) (name : String) :
    (renameOption id name).Within (· ∈ [Effect.amend .option]) := by
  refine findOne_within (k := .option) id _ fun existing => ?_
  extract_lets next
  have rest : ∀ x, Action.Within (· ∈ [Effect.amend .option]) (next x) := by
    intro _
    refine .bind (.statement (.passing (.updateLive ?_ ?_) _)) fun changed => ?_
    · decide
    · exact fun _ _ => ⟨rfl, rfl, rfl⟩
    · exact .bind (.require _ _) fun option =>
        .bind (.statement (.map (.select _) _)) fun view => .pure _
  split
  · exact rest ()
  · exact .bind (.statement (.passing (.select _) _)) fun _ => .bind (.ensureFree _ _) rest

theorem archiveOption_within (id : Int) :
    (archiveOption id).Within (· ∈ [Effect.archive .value, .archive .option]) := by
  refine .bind (.transaction ?_) fun option => .pure _
  refine .bind (.statement (.archiveAll (by decide) _)) fun _ => ?_
  exact .bind (.statement (.archive (by decide) _)) fun _ => .require _ _

theorem addValue_within (optionId : Int) (value : String) :
    (addValue optionId value).Within (· ∈ [Effect.insert .value]) := by
  refine findOne_within (k := .option) optionId _ fun _ => ?_
  refine .bind (.statement (.passing (.select _) _)) fun taken => .bind (.ensureFree _ _) fun _ => ?_
  refine .bind (.statement (.passing (.insert (by decide) (fun _ _ => rfl) fun _ _ => rfl) _))
    fun row => ?_
  exact .pure _

theorem changeValue_within (id : Int) (value : String) :
    (changeValue id value).Within (· ∈ [Effect.amend .value]) := by
  refine findOne_within (k := .value) id _ fun existing => ?_
  extract_lets next
  have rest : ∀ x, Action.Within (· ∈ [Effect.amend .value]) (next x) := by
    intro _
    refine .bind (.statement (.passing (.updateLive ?_ ?_) _)) fun changed => ?_
    · decide
    · exact fun _ _ => ⟨rfl, rfl, rfl⟩
    · exact .bind (.require _ _) fun row => .pure _
  split
  · exact rest ()
  · exact .bind (.statement (.passing (.select _) _)) fun _ => .bind (.ensureFree _ _) rest

/-! ## Discounts -/

theorem createDiscount_within (request : DiscountRequest) :
    (createDiscount request).Within (· ∈ [Effect.insert .discount]) := by
  refine .bind .context fun c => .bind (.ensure _) fun _ => ?_
  exact .bind (.statement (.passing (.insert (by decide) (fun _ _ => rfl) fun _ _ => rfl) _))
    fun discount => .pure _

theorem changeDiscount_within (id : Int) (patch : DiscountPatch) :
    (changeDiscount id patch).Within (· ∈ [Effect.amend .discount]) := by
  refine .bind (.statement (.passing (.updateLive ?_ ?_) _)) fun changed => ?_
  · decide
  · exact fun _ _ => ⟨rfl, rfl, rfl⟩
  · exact .bind (.require _ _) fun discount => .pure _

/-! ## Webhooks -/

theorem listWebhooksFor_within (eventType : String) (page : Page) :
    (listWebhooksFor eventType page).Within allowed :=
  .bind (.statement (.passing (.select _) _)) fun _ =>
    .bind (.statement (.passing (.select _) _)) fun _ => .pure _

theorem createWebhook_within (request : WebhookRequest) :
    (createWebhook request).Within (· ∈ [Effect.insert .webhook]) :=
  .bind (.statement (.passing (.insert (by decide) (fun _ _ => rfl) fun _ _ => rfl) _))
    fun webhook => .pure _

theorem changeWebhook_within (id : Int) (patch : WebhookPatch) :
    (changeWebhook id patch).Within (· ∈ [Effect.amend .webhook]) := by
  refine .bind (.statement (.passing (.updateLive ?_ ?_) _)) fun changed => ?_
  · decide
  · exact fun _ _ => ⟨rfl, rfl, rfl⟩
  · exact .bind (.require _ _) fun webhook => .pure _

theorem listExecutions_within (id : Int) (page : Page) :
    (listExecutions id page).Within allowed :=
  findOne_within (k := .webhook) id _ fun _ =>
    .bind (.statement (.select _)) fun _ => .bind (.statement (.select _)) fun _ => .pure _

/-! ## Users -/

theorem createUser_within (request : UserRequest) :
    (createUser request).Within (· ∈ [Effect.insert .user]) := by
  refine .bind .context fun c => .bind (.ensure _) fun _ => ?_
  refine .bind (.statement (.passing (.select _) _)) fun taken => .bind (.ensureFree _ _) fun _ => ?_
  exact .bind (.statement (.passing (.insert (by decide) (fun _ _ => rfl) fun _ _ => rfl) _))
    fun user => .pure _

theorem newHash_within (existing : User) (current : Option String) (new : String) :
    (newHash existing current new).Within allowed := by
  unfold newHash
  split
  · exact .throw _
  · split
    · exact .throw _
    · exact .throw _
    · exact .bind .context fun c => .bind (.ensure _) fun _ => .pure _

theorem changeUser_within (id : Int) (change : UserChange) :
    (changeUser id change).Within (· ∈ [Effect.amend .user]) := by
  refine findOne_within (k := .user) id _ fun existing => ?_
  extract_lets afterHash afterName
  have hashed : ∀ hash, Action.Within (· ∈ [Effect.amend .user]) (afterHash hash) := by
    intro hash
    refine .bind (.statement (.passing (.updateLive ?_ ?_) _)) fun changed => ?_
    · decide
    · exact fun _ _ => ⟨rfl, rfl, rfl⟩
    · exact .bind (.require _ _) fun user => .pure _
  have named : ∀ x, Action.Within (· ∈ [Effect.amend .user]) (afterName x) := by
    intro _
    unfold afterName
    split
    · exact hashed none
    · exact .bind (newHash_within _ _ _) fun hash => hashed _
  split
  · exact named ()
  · exact .bind (.statement (.passing (.select _) _)) fun _ => .bind (.ensureFree _ _) named

/-! ## All commands -/

theorem checkHealth_within : checkHealth.Within allowed :=
  .tryCatch (.bind (.statement (.select _)) fun _ => .pure _) fun _ => .pure _

end Service

/-- A command stays within its effects. -/
theorem Command.within (command : Command) : command.action.Within (· ∈ command.effects) := by
  cases command with
  | checkHealth => exact Service.checkHealth_within
  | listRoots page => exact Service.listRoots_within page
  | createRoot request => exact Service.createRoot_within request.val
  | showRoot id => exact Service.showRoot_within id
  | archiveRoot id => exact Service.archiveRoot_within id
  | listProducts page => exact Service.listProducts_within page
  | showProduct sku => exact .bind (Service.loadProduct_within sku) fun _ => .pure _
  | probeProduct sku => exact .bind (.statement (.passing (.select _) _)) fun _ => .pure _
  | changeProduct sku patch => exact Service.changeProduct_within sku patch.val
  | archiveProduct sku => exact Service.archiveProduct_within sku
  | listOptions rootId page => exact Service.listOptions_within rootId page
  | addOption rootId input => exact Service.addOption_within rootId input.val
  | renameOption id input => exact Service.renameOption_within id input.val.name
  | archiveOption id => exact Service.archiveOption_within id
  | addValue optionId input => exact Service.addValue_within optionId input.val.value
  | changeValue id input => exact Service.changeValue_within id input.val.value
  | archiveValue id => exact Service.archiveOne_within (k := .value) List.mem_cons_self id _ _
  | listDiscounts page => exact Service.listPage_within (k := .discount) page _ fun _ _ => .pure _
  | createDiscount request => exact Service.createDiscount_within request.val
  | showDiscount id => exact Service.findOne_within (k := .discount) id _ fun _ => .pure _
  | changeDiscount id patch => exact Service.changeDiscount_within id patch.val
  | archiveDiscount id => exact Service.archiveOne_within (k := .discount) List.mem_cons_self id _ _
  | listWebhooks page => exact Service.listPage_within (k := .webhook) page _ fun _ _ => .pure _
  | listWebhooksFor eventType page => exact Service.listWebhooksFor_within eventType page
  | createWebhook request => exact Service.createWebhook_within request.val
  | changeWebhook id patch => exact Service.changeWebhook_within id patch.val
  | archiveWebhook id => exact Service.archiveOne_within (k := .webhook) List.mem_cons_self id _ _
  | listExecutions id page => exact Service.listExecutions_within id page
  | createUser request => exact Service.createUser_within request.val
  | showUser id => exact Service.findOne_within (k := .user) id _ fun _ => .pure _
  | changeUser id change => exact Service.changeUser_within id change.val
  | archiveUser id => exact Service.archiveOne_within (k := .user) List.mem_cons_self id _ _

end Shop
