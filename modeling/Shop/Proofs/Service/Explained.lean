import Shop.Proofs.Service.RootReasons

/-!
# Failures explained

Every command that fails in a sound session does so for one of the reasons of `Command.FailsFor`.
The handlers are gone through one by one, each with the reasons that it can have; what all of them
are made of fails as `Action.Fails` says.
-/

namespace Shop

/-! ## Conditions that accepted bodies keep -/

theorem ProductPatch.accepted_quantity {patch : ProductPatch}
    (accepted : patch.problems.isEmpty = true) {n : Int} (new : patch.quantityPerPackage = some n) :
    1 ≤ n := by
  have entries := List.isEmpty_iff.mp accepted
  simp only [problems, Problems.entries, List.append_eq_nil_iff, Problems.checkSome] at entries
  have passed := Problems.check_eq_nil_iff.mp entries.2
  rw [new, Option.bind_some] at passed
  unfold Rule.atLeast at passed
  split at passed
  · cases passed
  · omega

/-- A product keeps the conditions of its table through an accepted change. -/
theorem ProductPatch.apply_sound {patch : ProductPatch} (accepted : patch.problems.isEmpty = true)
    {product : Product} (kept : Kind.sound .product product = true) (now : Instant) :
    Kind.sound .product (patch.stored.apply now product) = true := by
  refine decide_eq_true ?_
  change 1 ≤ patch.quantityPerPackage.getD product.listing.quantityPerPackage
  cases new : patch.quantityPerPackage with
  | none => exact of_decide_eq_true kept
  | some n => exact accepted_quantity accepted new

theorem Rule.listed_of_discountType {type : String} (passed : discountType type = none) :
    discountTypes.contains type = true := by
  unfold discountType at passed
  split at passed
  · assumption
  · cases passed

theorem DiscountRequest.accepted_type {request : DiscountRequest}
    (accepted : request.problems.isEmpty = true) :
    Rule.discountTypes.contains request.discountType = true := by
  have entries := List.isEmpty_iff.mp accepted
  simp only [problems, Problems.entries, List.append_eq_nil_iff] at entries
  exact Rule.listed_of_discountType (Problems.check_eq_nil_iff.mp entries.1.1.2)

theorem DiscountPatch.accepted_type {patch : DiscountPatch}
    (accepted : patch.problems.isEmpty = true) {type : String}
    (new : patch.discountType = some type) : Rule.discountTypes.contains type = true := by
  have entries := List.isEmpty_iff.mp accepted
  simp only [problems, Problems.entries, List.append_eq_nil_iff, Problems.checkSome] at entries
  have passed := Problems.check_eq_nil_iff.mp entries.1.1.2
  rw [new, Option.bind_some] at passed
  exact Rule.listed_of_discountType passed

namespace Service

open Shop.Action

variable {c : Context} {s : Session} {reasons : Failure → Prop}

/-! ## Parts of several commands -/

theorem showProducts_fails (disturbed : c.Disturbs reasons) (products : List Product) :
    Fails c s (showProducts products) reasons := by
  unfold showProducts
  split
  · exact .pure _
  · exact .select disturbed _

theorem showOptions_fails (disturbed : c.Disturbs reasons) (options : List ProductOption) :
    Fails c s (showOptions options) reasons := by
  unfold showOptions
  split
  · exact .pure _
  · exact .select disturbed _

theorem findOne_fails (disturbed : c.Disturbs reasons) {k : Kind} {id : Int} {refusal : Refusal}
    (missing : (∀ row ∈ s.tables.live k, k.number row ≠ id) → reasons (.refused refusal))
    {next : k.Row → Action α}
    (rest : ∀ row ∈ s.tables.live k, k.number row = id → Fails c s (next row) reasons) :
    Fails c s (do
      let row ← require refusal (← Action.statement (.find k id))
      next row) reasons := by
  refine .select_bind disturbed (.require_bind (fun none => ?_) fun row found => ?_)
  · refine missing fun row alive number => ?_
    exact List.find?_eq_none.mp none row alive (beq_iff_eq.mpr number)
  · exact rest row (List.mem_of_find?_eq_some found)
      (beq_iff_eq.mp (List.find?_some (p := fun row => k.number row == id) found))

theorem archiveOne_fails (sound : s.Sound) (disturbed : c.Disturbs reasons) {k : Kind}
    (archives : k ≠ .execution) {id : Int} {refusal : Refusal}
    (missing : reasons (.refused refusal)) {next : k.Row → Action α}
    (rest : ∀ s row, Fails c s (next row) reasons) :
    Fails c s (do
      let row ← require refusal (← Action.statement (.archive k id))
      next row) reasons :=
  .bind (.archive sound disturbed archives id) fun _ _ _ _ _ =>
    .require_bind (fun _ => missing) fun row _ => rest _ row

theorem listPage_fails (disturbed : c.Disturbs reasons) {k : Kind} (page : Page)
    (chosen : k.Row → Bool) {next : List k.Row → Nat → Action α}
    (rest : ∀ rows count, Fails c s (next rows count) reasons) :
    Fails c s (do
      let rows ← Action.statement (.page k page chosen)
      let count ← Action.statement (.count k chosen)
      next rows count) reasons :=
  .select_bind disturbed (.select_bind disturbed (rest _ _))

/-- A change of a live row fails because it is not there, or as its statement does. -/
theorem changeOne_fails {k : Kind} {id : Int} {parameters : List Parameter}
    {change : Instant → k.Row → k.Row} {refusal : Refusal}
    (missing : (∀ row ∈ s.tables.live k, k.number row ≠ id) → reasons (.refused refusal))
    (changed : Fails c s (statement (.passing parameters (.updateLive k id change))) reasons)
    {next : k.Row → Action α} (rest : ∀ s row, Fails c s (next row) reasons) :
    Fails c s (do
      let row ← require refusal (← statement (.passing parameters (.updateLive k id change)))
      next row) reasons := by
  refine .bind changed fun p found q start ran =>
    .require_bind (fun none => ?_) fun row _ => rest _ row
  subst none
  exact missing (start ▸ perform_updateLive_missing ran)

/-! ## Roots -/

theorem createRoot_fails (sound : s.Sound) (request : Accepted RootRequest.problems) :
    Fails c s (createRoot request.val) ((Command.createRoot request).FailsFor c s.tables) := by
  have disturbed : c.Disturbs ((Command.createRoot request).FailsFor c s.tables) :=
    Command.FailsFor.disturbs
  have stop : Parameter.Stop ((Command.createRoot request).parameters c.clock)
      ((Command.createRoot request).FailsFor c s.tables) := Command.FailsFor.stop
  refine .ensure_bind (fun refusal broken => ?_) fun _ named => ?_
  · exact .invalid List.mem_cons_self broken
  refine .ensure_bind (fun refusal broken => ?_) fun n limited => ?_
  · refine .invalid (List.mem_cons_of_mem _ List.mem_cons_self) ?_
    rw [broken]
    rfl
  refine .context_bind (.passing_bind disturbed (stop.subset ?_) (.ensureFree_bind (fun taken => ?_)
    fun free => ?_))
  · refine List.cons_subset.mpr ⟨List.mem_cons_of_mem _ (List.mem_map_of_mem ?_), List.nil_subset _⟩
    exact List.mem_append_left _ List.mem_cons_self
  · rcases List.any_eq_true.mp taken with ⟨root, alive, same⟩
    have wanted : (Command.createRoot request).Wants s.tables .root root :=
      ⟨alive, beq_iff_eq.mp same⟩
    exact .held wanted _
  have apart : ∀ root ∈ s.tables.live .root, root.skuPrefix ≠ request.val.sku := by
    intro root alive same
    exact absurd (beq_iff_eq.mpr same) (List.any_eq_false.mp free root alive)
  have pictured : request.val.images ≠ [] → ∀ failure : Failure, failure.OfPictures →
      (Command.createRoot request).FailsFor c s.tables failure :=
    fun pictures failure of => .pictured rfl pictures of
  have resolving : Fails c s (ImageInput.resolveAll downloader request.val.images)
      ((Command.createRoot request).FailsFor c s.tables) := by
    refine resolveFrom_fails (fun some => pictured fun none => some ?_) 0
    rw [none]
    rfl
  refine .bind resolving fun p images q start ran => ?_
  subst start
  have steps : Session.Reach (· ∈ ([] : List Effect)) p.session q.session :=
    (resolveFrom_within _ _).reach_ok ran
  have tables : q.session.tables = p.session.tables := steps.tables_eq
  have unpictured : images ≠ [] → request.val.images ≠ [] := by
    intro some none
    change Action.perform (ImageInput.resolveAll downloader request.val.images) c p = _ at ran
    rw [none] at ran
    cases ran
    exact some rfl
  refine .bind (.transaction disturbed ?_) fun _ view _ _ _ =>
    .of_sure (.bind (.publish _ _) fun _ => .pure _)
  refine creation_fails disturbed (request.val.withDefaults c.clock) ?_
    (Rule.uniqueNames_eq_ok_iff.mp named) (values_nodup request.property) limited ?_ ?_
    (fun some => pictured (unpictured some)) (steps.sound sound)
  · exact stop
  · rw [tables]
    exact apart
  · intro collide
    refine .colliding rfl fun apart => collide ?_
    unfold RootRequest.Apart
    rw [tables]
    exact apart

theorem listRoots_fails (disturbed : c.Disturbs reasons) (page : Page) :
    Fails c s (listRoots page) reasons := by
  refine listPage_fails disturbed page _ fun roots count => ?_
  extract_lets next
  have rest : ∀ s products, Fails c s (next products) reasons := fun _ products =>
    .bind (showProducts_fails disturbed products) fun _ _ _ _ _ => .pure _
  split
  · exact .bind (.pure _) fun _ _ _ _ _ => rest _ _
  · exact .select_bind disturbed (rest _ _)

theorem showRoot_fails (disturbed : c.Disturbs reasons) {id : Int}
    (missing : reasons (.refused (noRoot id))) : Fails c s (showRoot id) reasons :=
  findOne_fails (k := .root) disturbed (fun _ => missing) fun _ _ _ =>
    .select_bind disturbed (.bind (showOptions_fails disturbed _) fun _ _ _ _ _ =>
      .select_bind disturbed (.select_bind disturbed
        (.bind (showProducts_fails disturbed _) fun _ _ _ _ _ => .pure _)))

/-- Archiving rows of a kind leads from a sound session to a sound one, in which the live rows of
other kinds are the same. -/
theorem archiveAll_bind (sound : s.Sound) (disturbed : c.Disturbs reasons) {k : Kind}
    (archives : k ≠ .execution) {chosen : Tables → k.Row → Bool} {next : Unit → Action α}
    (rest : ∀ after : Session, after.Sound →
      (∀ j, j ≠ k → after.tables.live j = s.tables.live j) → Fails c after (next ()) reasons) :
    Fails c s (statement (.archiveAll k chosen) >>= next) reasons := by
  refine .bind (.archiveAll sound disturbed archives chosen) fun p _ q start ran => ?_
  have steps : Session.Reach (· ∈ [Effect.archive k]) p.session q.session :=
    (Within.statement (.archiveAll List.mem_cons_self _)).reach_ok ran
  refine rest q.session (steps.sound (start ▸ sound)) fun j different => ?_
  rw [perform_archiveAll_ok ran, Tables.live_archiveWhere_of_ne _ different, start]

theorem archiveRoot_fails (sound : s.Sound) (disturbed : c.Disturbs reasons) {id : Int}
    (missing : (∀ root ∈ s.tables.live .root, root.id ≠ id) → reasons (.refused (noRoot id))) :
    Fails c s (archiveRoot id) reasons := by
  refine .bind (.transaction disturbed ?_) fun _ _ _ _ _ => .pure _
  refine archiveAll_bind sound disturbed (by decide) fun s sound links => ?_
  refine archiveAll_bind sound disturbed (by decide) fun s sound values => ?_
  refine archiveAll_bind sound disturbed (by decide) fun s sound options => ?_
  refine archiveAll_bind sound disturbed (by decide) fun s sound products => ?_
  refine archiveAll_bind sound disturbed (by decide) fun s sound images => ?_
  refine .bind (.archive sound disturbed (by decide) id) fun p found q start ran => ?_
  refine .require fun none => missing ?_
  -- None of what was archived before is a root, so the root was missing from the start.
  rw [← links _ (by decide), ← values _ (by decide), ← options _ (by decide),
    ← products _ (by decide), ← images _ (by decide), ← start]
  exact perform_archive_missing (none ▸ ran)

/-! ## Products -/

theorem showOne_fails (disturbed : c.Disturbs reasons) (product : Product) :
    Fails c s (showOne product) reasons :=
  .select disturbed _

theorem loadProduct_fails (disturbed : c.Disturbs reasons) {sku : String}
    (stop : Parameter.Stop [.text sku] reasons) (missing : reasons (.refused (noProduct sku))) :
    Fails c s (loadProduct sku) reasons :=
  .passing_bind disturbed stop (.require_bind (fun _ => missing) fun _ _ =>
    showOne_fails disturbed _)

theorem listProducts_fails (disturbed : c.Disturbs reasons) (page : Page) :
    Fails c s (listProducts page) reasons :=
  listPage_fails disturbed page _ fun _ _ =>
    .bind (showProducts_fails disturbed _) fun _ _ _ _ _ => .pure _

theorem changeProduct_fails (sound : s.Sound) (disturbed : c.Disturbs reasons) {sku : String}
    {patch : Accepted ProductPatch.problems}
    (stop : Parameter.Stop (.text sku :: patch.val.parameters) reasons)
    (missing : reasons (.refused (noProduct sku)))
    (held : ∀ product, (Command.changeProduct sku patch).Wants s.tables .product product →
      ∀ message, reasons (.refused (.conflict message))) :
    Fails c s (changeProduct sku patch.val) reasons := by
  have stopPatch : Parameter.Stop patch.val.parameters reasons :=
    stop.subset (List.subset_cons_self _ _)
  refine .passing_bind disturbed (stop.subset (List.cons_subset_cons _ (List.nil_subset _)))
    (.require_bind (fun _ => missing) fun existing found => ?_)
  have named : existing.sku = sku :=
    beq_iff_eq.mp (List.find?_some (p := fun product : Product => product.sku == sku) found)
  have alive : existing ∈ s.tables.live .product := List.mem_of_find?_eq_some found
  extract_lets next
  have rest (apart : ∀ product ∈ s.tables.live .product, product.id ≠ existing.id →
      product.sku ≠ patch.val.sku.getD existing.sku) : ∀ x, Fails c s (next x) reasons := by
    intro _
    have changed : Fails c s (statement (Store.changeProduct existing.id patch.val)) reasons := by
      refine .updateLive (k := .product) sound disturbed stopPatch (fun _ _ => ⟨rfl, rfl, rfl⟩)
        (fun row member => ProductPatch.apply_sound patch.property
          (sound.conforms.sound .product row member) _)
        (fun row member => sound.conforms.anchored .product row member)
        fun row rowAlive number other otherAlive different same => ?_
      have own : row = existing := sound.numbered.eq_of_number (k := .product)
        (Tables.mem_live.mp rowAlive).1 (Tables.mem_live.mp alive).1 number
      subst own
      exact absurd (beq_iff_eq.mp same).symm (apart other otherAlive different)
    refine changeOne_fails (k := .product) (fun _ => missing) changed fun _ _ => ?_
    exact .bind (showOne_fails disturbed _) fun _ _ _ _ _ =>
      .of_sure (.bind (.publish _ _) fun _ => .pure _)
  -- A product that keeps its SKU meets no other one with it.
  have keeping : ∀ product ∈ s.tables.live .product, product.id ≠ existing.id →
      product.sku ≠ existing.sku := by
    intro product productAlive different same
    exact different (sound.unclashed.number_eq (k := .product) productAlive alive
      (beq_iff_eq.mpr same))
  split
  · rename_i unnamed
    refine rest ?_ ()
    rw [unnamed]
    exact keeping
  · rename_i newSku wished
    split
    · rename_i same
      refine rest ?_ ()
      rw [wished, Option.getD_some, same]
      exact keeping
    · rename_i other
      refine .passing_bind disturbed (stopPatch.subset ?_) (.ensureFree_bind (fun taken => ?_)
        fun free => rest ?_ ())
      · refine List.cons_subset.mpr ⟨List.mem_append_left _ (List.mem_map_of_mem ?_),
          List.nil_subset _⟩
        exact List.mem_filterMap.mpr ⟨some newSku, by simp [wished], rfl⟩
      · rcases List.any_eq_true.mp taken with ⟨product, productAlive, same⟩
        have holds : product.sku = newSku := beq_iff_eq.mp same
        exact held product ⟨productAlive, fun own => other (holds.symm.trans (own.trans named.symm)),
          holds.symm ▸ wished, existing, alive, named⟩ _
      · intro product productAlive _ same
        rw [wished] at same
        exact absurd (beq_iff_eq.mpr same) (List.any_eq_false.mp free product productAlive)

theorem archiveProduct_fails (sound : s.Sound) (disturbed : c.Disturbs reasons) {sku : String}
    (stop : Parameter.Stop [.text sku] reasons) (missing : reasons (.refused (noProduct sku))) :
    Fails c s (archiveProduct sku) reasons := by
  refine .bind (loadProduct_fails disturbed stop missing) fun p existing q start ran => ?_
  have steps : Session.Reach (· ∈ ([] : List Effect)) p.session q.session :=
    (loadProduct_within sku).reach_ok ran
  refine .bind (.transaction disturbed ?_) fun _ _ _ _ _ =>
    .of_sure (.bind (.publish _ _) fun _ => .pure _)
  refine archiveAll_bind (steps.sound (start ▸ sound)) disturbed (by decide) fun s sound _ => ?_
  exact .bind (.archive sound disturbed (by decide) _) fun _ _ _ _ _ => .require fun _ => missing

/-! ## Options and values -/

theorem listOptions_fails (disturbed : c.Disturbs reasons) {rootId : Int} (page : Page)
    (missing : reasons (.refused (noRoot rootId))) :
    Fails c s (listOptions rootId page) reasons := by
  refine .bind (findOne_fails (k := .root) disturbed (fun _ => missing) fun _ _ _ => .pure _)
    fun _ _ _ _ _ => ?_
  exact listPage_fails disturbed page _ fun _ _ =>
    .bind (showOptions_fails disturbed _) fun _ _ _ _ _ => .pure _

theorem optionCreation_fails (sound : s.Sound) (disturbed : c.Disturbs reasons) {rootId : Int}
    {input : OptionInput} (stop : Parameter.Stop (Parameter.texts (input.name :: input.values)) reasons)
    (valued : input.values.Nodup) (owner : s.tables.has .root rootId = true)
    (free : ∀ option ∈ s.tables.live .option, option.rootId = rootId → option.name ≠ input.name) :
    Fails c s (optionCreation rootId input) reasons := by
  have creating : Fails c s (answer (.createOption rootId input.name)) reasons := by
    refine .insert (k := .option) sound disturbed
      (stop.subset (List.cons_subset_cons _ (List.nil_subset _))) (fun _ _ => rfl) (fun _ _ => rfl)
      (fun _ _ => rfl) (fun _ _ => owner) fun _ other member same => ?_
    rcases Bool.and_eq_true_iff.mp same with ⟨ofRoot, sameName⟩
    exact absurd (beq_iff_eq.mp sameName).symm (free other member (beq_iff_eq.mp ofRoot).symm)
  refine .bind creating fun p option q start ran => ?_
  subst start
  have asPlan : Action.perform ((Plan.perform (.createOption rootId input.name)).run answer) c p =
      (.ok option, q) := by
    rw [run_perform]
    exact ran
  rcases plan_ok sound asPlan with ⟨later, written⟩
  rcases Plan.writes_perform.mp written with ⟨_, gains⟩
  refine .bind (addValues_fails disturbed (stop.subset (List.subset_cons_self _ _)) valued later
    (gains.has_new (k := .option) List.mem_cons_self) ?_) fun _ _ _ _ _ => .pure _
  exact fun value member ofOption =>
    absurd ofOption (unvalued_of_gains sound gains value member)

theorem addOption_fails (sound : s.Sound) (disturbed : c.Disturbs reasons) {rootId : Int}
    {input : Accepted OptionInput.problems}
    (stop : Parameter.Stop (Parameter.texts (input.val.name :: input.val.values)) reasons)
    (missing : reasons (.refused (noRoot rootId)))
    (held : ∀ option, (Command.addOption rootId input).Wants s.tables .option option →
      ∀ message, reasons (.refused (.conflict message))) :
    Fails c s (addOption rootId input.val) reasons := by
  change Fails c s (requireRoot rootId >>= _) reasons
  rw [requireRoot_bind]
  refine findOne_fails (k := .root) disturbed (fun _ => missing) fun root alive number => ?_
  refine .passing_bind disturbed (stop.subset (List.cons_subset_cons _ (List.nil_subset _)))
    (.ensureFree_bind (fun taken => ?_) fun free => .bind (.transaction disturbed ?_)
      fun _ _ _ _ _ => .pure _)
  · rcases List.any_eq_true.mp taken with ⟨option, optionAlive, same⟩
    rcases Bool.and_eq_true_iff.mp same with ⟨ofRoot, sameName⟩
    exact held option ⟨optionAlive, beq_iff_eq.mp ofRoot, beq_iff_eq.mp sameName⟩ _
  · have valued : input.val.values.Nodup := (OptionInput.accepted_values input.property).2.of_map
    have owner : s.tables.has .root rootId = true :=
      Tables.has_iff.mpr ⟨root, (Tables.mem_live.mp alive).1, number⟩
    refine optionCreation_fails sound disturbed stop valued owner fun option member ofRoot same => ?_
    refine absurd ?_ (List.any_eq_false.mp free option member)
    exact Bool.and_eq_true_iff.mpr ⟨beq_iff_eq.mpr ofRoot, beq_iff_eq.mpr same⟩

section Renaming

variable {k : Kind} (owner : k.Row → Int) (text message : k.Row → String)
  (change : Instant → k.Row → k.Row)

/-- A live row may get a new text if no other row of its owner has it.  The text that it has already
is not looked for. -/
theorem renameOne_fails (sound : s.Sound) (disturbed : c.Disturbs reasons)
    (key : ∀ row other, k.sameKey row other = (owner row == owner other && text row == text other))
    {id : Int} {new : String} (stop : Parameter.Stop [.text new] reasons) {refusal : Refusal}
    (missing : reasons (.refused refusal))
    (keeps : ∀ now row, k.Keeps row (change now row))
    (kept : ∀ now row, owner (change now row) = owner row ∧ text (change now row) = new)
    (conforms : ∀ row ∈ s.tables.rows k, k.sound (change c.now row) = true ∧
      s.tables.anchored k (change c.now row) = true)
    (held : ∀ row ∈ s.tables.live k, k.number row ≠ id → text row = new →
      (∃ own ∈ s.tables.live k, k.number own = id ∧ owner own = owner row) →
        ∀ message, reasons (.refused (.conflict message)))
    {next : k.Row → Action α} (rest : ∀ s row, Fails c s (next row) reasons) :
    Fails c s (do
      let existing ← require refusal (← statement (.find k id))
      if new = text existing then pure ()
      else
        ensureFree (← statement (.passing [.text new] (.any k fun row =>
          owner row == owner existing && text row == new))) (message existing)
      let row ← require refusal (← statement (.passing [.text new] (.updateLive k id change)))
      next row) reasons := by
  refine findOne_fails disturbed (fun _ => missing) fun existing alive number => ?_
  extract_lets go
  have changing (apart : ∀ row ∈ s.tables.live k, k.number row ≠ id →
      owner row = owner existing → text row ≠ new) : ∀ x, Fails c s (go x) reasons := by
    intro _
    refine changeOne_fails (fun _ => missing) (.updateLive sound disturbed stop keeps
      (fun row member => (conforms row member).1) (fun row member => (conforms row member).2)
      fun row rowAlive rowNumber other otherAlive different same => ?_) rest
    have own : row = existing := sound.numbered.eq_of_number (Tables.mem_live.mp rowAlive).1
      (Tables.mem_live.mp alive).1 (rowNumber.trans number.symm)
    subst own
    rw [key, (kept c.now row).1, (kept c.now row).2, Bool.and_eq_true, beq_iff_eq, beq_iff_eq] at same
    exact absurd same.2.symm (apart other otherAlive different same.1.symm)
  have keyed {row : k.Row} (ofOwner : owner row = owner existing) (named : text row = text existing) :
      k.sameKey row existing = true := by
    rw [key, ofOwner, named, beq_self_eq_true, beq_self_eq_true]
    rfl
  split
  · rename_i unchanged
    refine changing (fun row rowAlive different ofOwner named => different ?_) ()
    exact (sound.unclashed.number_eq rowAlive alive (keyed ofOwner (named.trans unchanged))).trans
      number
  · rename_i changed
    refine .passing_bind disturbed stop (.ensureFree_bind (fun taken => ?_)
      fun free => changing (fun row rowAlive _ ofOwner named => ?_) ())
    · rcases List.any_eq_true.mp taken with ⟨row, rowAlive, same⟩
      rw [Bool.and_eq_true, beq_iff_eq, beq_iff_eq] at same
      refine held row rowAlive (fun own => changed ?_) same.2 ⟨existing, alive, number, same.1.symm⟩ _
      have itself : row = existing := sound.numbered.eq_of_number (Tables.mem_live.mp rowAlive).1
        (Tables.mem_live.mp alive).1 (own.trans number.symm)
      rw [← same.2, itself]
    · refine absurd ?_ (List.any_eq_false.mp free row rowAlive)
      rw [ofOwner, named, beq_self_eq_true, beq_self_eq_true]
      rfl

end Renaming

theorem renameOption_fails (sound : s.Sound) (disturbed : c.Disturbs reasons) {id : Int}
    {input : Accepted NameInput.problems} (stop : Parameter.Stop [.text input.val.name] reasons)
    (missing : reasons (.refused (noOption id)))
    (held : ∀ option, (Command.renameOption id input).Wants s.tables .option option →
      ∀ message, reasons (.refused (.conflict message))) :
    Fails c s (renameOption id input.val.name) reasons := by
  refine renameOne_fails (k := .option) (·.rootId) (·.name) (fun _ => optionExists input.val.name)
    (fun now o => { o with name := input.val.name, stamps := o.stamps.updated now }) sound disturbed
    (fun _ _ => rfl) stop missing
    (fun _ _ => ⟨rfl, rfl, rfl⟩) (fun _ _ => ⟨rfl, rfl⟩)
    (fun row member => ⟨rfl, sound.conforms.anchored .option row member⟩)
    (fun option alive different named own => held option ⟨alive, different, named, own⟩)
    fun _ _ => .bind (.select disturbed _) fun _ _ _ _ _ => .pure _

theorem archiveOption_fails (sound : s.Sound) (disturbed : c.Disturbs reasons) {id : Int}
    (missing : reasons (.refused (noOption id))) : Fails c s (archiveOption id) reasons := by
  refine .bind (.transaction disturbed ?_) fun _ _ _ _ _ => .pure _
  refine archiveAll_bind sound disturbed (by decide) fun s sound _ => ?_
  exact .bind (.archive sound disturbed (by decide) _) fun _ _ _ _ _ => .require fun _ => missing

theorem addValue_fails (sound : s.Sound) (disturbed : c.Disturbs reasons) {optionId : Int}
    {input : Accepted ValueInput.problems} (stop : Parameter.Stop [.text input.val.value] reasons)
    (missing : reasons (.refused (noOption optionId)))
    (held : ∀ value, (Command.addValue optionId input).Wants s.tables .value value →
      ∀ message, reasons (.refused (.conflict message))) :
    Fails c s (addValue optionId input.val.value) reasons := by
  refine findOne_fails (k := .option) disturbed (fun _ => missing) fun option alive number => ?_
  refine .passing_bind disturbed stop (.ensureFree_bind (fun taken => ?_) fun free =>
    .bind (.insert (k := .value) sound disturbed stop (fun _ _ => rfl) (fun _ _ => rfl)
      (fun _ _ => rfl) (fun _ _ => ?_) fun _ other member same => ?_) fun _ _ _ _ _ => .pure _)
  · rcases List.any_eq_true.mp taken with ⟨value, valueAlive, same⟩
    rcases Bool.and_eq_true_iff.mp same with ⟨ofOption, sameText⟩
    exact held value ⟨valueAlive, beq_iff_eq.mp ofOption, beq_iff_eq.mp sameText⟩ _
  · exact Tables.has_iff.mpr ⟨option, (Tables.mem_live.mp alive).1, number⟩
  · rcases Bool.and_eq_true_iff.mp same with ⟨ofOption, sameText⟩
    refine absurd ?_ (List.any_eq_false.mp free other member)
    exact Bool.and_eq_true_iff.mpr ⟨beq_iff_eq.mpr (beq_iff_eq.mp ofOption).symm,
      beq_iff_eq.mpr (beq_iff_eq.mp sameText).symm⟩

theorem changeValue_fails (sound : s.Sound) (disturbed : c.Disturbs reasons) {id : Int}
    {input : Accepted ValueInput.problems} (stop : Parameter.Stop [.text input.val.value] reasons)
    (missing : reasons (.refused (noValue id)))
    (held : ∀ value, (Command.changeValue id input).Wants s.tables .value value →
      ∀ message, reasons (.refused (.conflict message))) :
    Fails c s (changeValue id input.val.value) reasons := by
  exact renameOne_fails (k := .value) (·.optionId) (·.value)
    (fun existing => valueExists input.val.value existing.optionId)
    (fun now v => { v with value := input.val.value, stamps := v.stamps.updated now }) sound disturbed
    (fun _ _ => rfl) stop missing
    (fun _ _ => ⟨rfl, rfl, rfl⟩) (fun _ _ => ⟨rfl, rfl⟩)
    (fun row member => ⟨rfl, sound.conforms.anchored .value row member⟩)
    (fun value alive different named own => held value ⟨alive, different, named, own⟩)
    fun _ _ => .pure _

/-! ## Discounts -/

theorem createDiscount_fails (sound : s.Sound) (disturbed : c.Disturbs reasons)
    {request : Accepted DiscountRequest.problems}
    (stop : Parameter.Stop request.val.parameters reasons)
    (inconsistent : ∀ refusal, request.val.checkConsistency c.clock = .error refusal →
      reasons (.refused refusal)) : Fails c s (createDiscount request.val) reasons := by
  refine .context_bind (.ensure_bind inconsistent fun _ _ => ?_)
  refine .bind (.insert (k := .discount) sound disturbed stop (fun _ _ => rfl) (fun _ _ => rfl)
    (fun _ _ => ?_) (fun _ _ => rfl) fun _ _ _ same => by cases same) fun _ _ _ _ _ => .pure _
  exact DiscountRequest.accepted_type request.property

theorem changeDiscount_fails (sound : s.Sound) (disturbed : c.Disturbs reasons) {id : Int}
    {patch : Accepted DiscountPatch.problems} (stop : Parameter.Stop patch.val.parameters reasons)
    (missing : reasons (.refused (noDiscount id))) :
    Fails c s (changeDiscount id patch.val) reasons := by
  have changed : Fails c s (statement (Store.changeDiscount id patch.val)) reasons := by
    refine .updateLive (k := .discount) sound disturbed stop (fun _ _ => ⟨rfl, rfl, rfl⟩)
      (fun row member => ?_) (fun _ _ => rfl) fun _ _ _ _ _ _ same => by cases same
    change Rule.discountTypes.contains (patch.val.discountType.getD row.discountType) = true
    cases new : patch.val.discountType with
    | none => exact sound.conforms.sound .discount row member
    | some type => exact DiscountPatch.accepted_type patch.property new
  exact changeOne_fails (k := .discount) (fun _ => missing) changed fun _ _ => .pure _

/-! ## Webhooks -/

theorem listWebhooksFor_fails (disturbed : c.Disturbs reasons) {eventType : String} (page : Page)
    (stop : Parameter.Stop [.text eventType] reasons) :
    Fails c s (listWebhooksFor eventType page) reasons :=
  .passing_bind disturbed stop (.passing_bind disturbed stop (.pure _))

theorem createWebhook_fails (sound : s.Sound) (disturbed : c.Disturbs reasons)
    {request : WebhookRequest}
    (stop : Parameter.Stop (Parameter.texts [request.url, request.eventType, request.contentType])
      reasons) : Fails c s (createWebhook request) reasons :=
  .bind (.insert (k := .webhook) sound disturbed stop (fun _ _ => rfl) (fun _ _ => rfl)
    (fun _ _ => rfl) (fun _ _ => rfl) fun _ _ _ same => by cases same) fun _ _ _ _ _ => .pure _

theorem changeWebhook_fails (sound : s.Sound) (disturbed : c.Disturbs reasons) {id : Int}
    {patch : WebhookPatch}
    (stop : Parameter.Stop (Parameter.textsOf [patch.url, patch.eventType, patch.contentType]) reasons)
    (missing : reasons (.refused (noWebhook id))) :
    Fails c s (changeWebhook id patch) reasons := by
  have changed : Fails c s (statement (Store.changeWebhook id patch)) reasons :=
    .updateLive (k := .webhook) sound disturbed stop (fun _ _ => ⟨rfl, rfl, rfl⟩)
      (fun _ _ => rfl) (fun _ _ => rfl) fun _ _ _ _ _ _ same => by cases same
  exact changeOne_fails (k := .webhook) (fun _ => missing) changed fun _ _ => .pure _

theorem listExecutions_fails (disturbed : c.Disturbs reasons) {id : Int} (page : Page)
    (missing : reasons (.refused (noWebhook id))) : Fails c s (listExecutions id page) reasons :=
  findOne_fails (k := .webhook) disturbed (fun _ => missing) fun _ _ _ =>
    .select_bind disturbed (.select_bind disturbed (.pure _))

/-! ## Users -/

theorem createUser_fails (sound : s.Sound) (disturbed : c.Disturbs reasons)
    {request : Accepted UserRequest.problems}
    (stop : Parameter.Stop (Parameter.texts [request.val.firstName, request.val.lastName,
      request.val.username, request.val.email]) reasons)
    (weak : ∀ refusal,
      Rule.passwordStrength request.val.password c.settings.minPasswordLength = .error refusal →
        reasons (.refused refusal))
    (held : ∀ user, (Command.createUser request).Wants s.tables .user user →
      ∀ message, reasons (.refused (.conflict message))) :
    Fails c s (createUser request.val) reasons := by
  refine .context_bind (.ensure_bind weak fun _ _ => .passing_bind disturbed (stop.subset ?_)
    (.ensureFree_bind (fun taken => ?_) fun free => ?_))
  · simp [Parameter.texts]
  · rcases List.any_eq_true.mp taken with ⟨user, alive, same⟩
    rcases Bool.and_eq_true_iff.mp same with ⟨named, _⟩
    exact held user ⟨alive, beq_iff_eq.mp named⟩ _
  · refine .bind (.insert (k := .user) sound disturbed ?_ (fun _ _ => rfl) (fun _ _ => rfl)
      (fun _ _ => rfl) (fun _ _ => rfl) fun _ other member same => ?_) fun _ _ _ _ _ => .pure _
    · exact Parameter.Stop.append stop (.passable (Password.passable_hash _ _))
    · refine absurd ?_ (List.any_eq_false.mp free other member)
      exact Bool.and_eq_true_iff.mpr ⟨beq_iff_eq.mpr (beq_iff_eq.mp same).symm, rfl⟩

theorem newHash_fails {existing : User} {current : Option String} {new : String}
    (unproven : (∀ given, current = some given →
      Password.verify given existing.passwordHash ≠ .ok true) →
        ∀ message, reasons (.malformed message))
    (unreadable : ∀ given fault, current = some given →
      Password.verify given existing.passwordHash = .error fault →
        ∀ message, reasons (.internal message))
    (weak : ∀ refusal, Rule.passwordStrength new c.settings.minPasswordLength = .error refusal →
      reasons (.refused refusal)) :
    Fails c s (newHash existing current new) reasons := by
  unfold newHash
  split
  · exact .throw (unproven (fun _ given => by cases given) _)
  · rename_i given
    split
    · rename_i fault faulty
      exact .throw (unreadable given fault rfl faulty _)
    · rename_i wrong
      refine .throw (unproven (fun other same verified => ?_) _)
      cases same
      rw [wrong] at verified
      cases verified
    · exact .context_bind (.ensure_bind weak fun _ _ => .pure _)

/-- A new password that is taken is hashed, once the current one was verified and the new one is long
enough. -/
theorem newHash_ok {p q : Progress} {existing : User} {current : Option String} {new hash : String}
    (done : (newHash existing current new).perform c p = (.ok hash, q)) :
    q = p ∧ hash = Password.hash c.salt new ∧ c.settings.minPasswordLength ≤ new.length ∧
      ∃ given, current = some given ∧ Password.verify given existing.passwordHash = .ok true := by
  unfold newHash at done
  split at done
  · cases done
  · rename_i given
    split at done
    · cases done
    · cases done
    · rename_i verified
      rcases perform_bind_ok.mp done with ⟨found, middle, asked, rest⟩
      cases asked
      rcases perform_bind_ok.mp rest with ⟨_, last, strong, returned⟩
      unfold Rule.passwordStrength at strong
      split at strong
      · cases strong
      · rename_i long
        cases strong
        cases returned
        exact ⟨rfl, rfl, Nat.not_lt.mp long, given, rfl, verified⟩

theorem changeUser_fails (sound : s.Sound) (disturbed : c.Disturbs reasons) {id : Int}
    {change : Accepted UserChange.problems}
    (stop : Parameter.Stop (Parameter.textsOf [change.val.firstName, change.val.lastName,
      change.val.username, change.val.email]) reasons)
    (missing : (∀ user ∈ s.tables.live .user, user.id ≠ id) → reasons (.refused (noUser id)))
    (held : ∀ user, (Command.changeUser id change).Wants s.tables .user user →
      ∀ message, reasons (.refused (.conflict message)))
    (unproven : ∀ user ∈ s.tables.live .user, user.id = id → change.val.newPassword ≠ none →
      (∀ given, change.val.currentPassword = some given →
        Password.verify given user.passwordHash ≠ .ok true) → ∀ message, reasons (.malformed message))
    (unreadable : ∀ user ∈ s.tables.live .user, user.id = id → change.val.newPassword ≠ none →
      ∀ given fault, change.val.currentPassword = some given →
        Password.verify given user.passwordHash = .error fault →
          ∀ message, reasons (.internal message))
    (weak : ∀ new, change.val.newPassword = some new → ∀ refusal,
      Rule.passwordStrength new c.settings.minPasswordLength = .error refusal →
        reasons (.refused refusal)) :
    Fails c s (changeUser id change.val) reasons := by
  refine findOne_fails (k := .user) disturbed missing fun existing alive number => ?_
  extract_lets afterHash afterName
  have hashed (apart : ∀ user ∈ s.tables.live .user, user.id ≠ id →
      user.username ≠ change.val.username.getD existing.username) (hash : Option String)
      (passable : ∀ text, hash = some text → Passable text) :
      Fails c s (afterHash hash) reasons := by
    have changed : Fails c s (statement (Store.changeUser id (change.val.patch hash))) reasons := by
      refine .updateLive (k := .user) sound disturbed (stop.user passable)
        (fun _ _ => ⟨rfl, rfl, rfl⟩) (fun _ _ => rfl) (fun _ _ => rfl)
        fun row rowAlive rowNumber other otherAlive different same => ?_
      have own : row = existing := sound.numbered.eq_of_number (k := .user)
        (Tables.mem_live.mp rowAlive).1 (Tables.mem_live.mp alive).1 (rowNumber.trans number.symm)
      subst own
      exact absurd (beq_iff_eq.mp same).symm (apart other otherAlive different)
    exact changeOne_fails (k := .user) missing changed fun _ _ => .pure _
  have named (apart : ∀ user ∈ s.tables.live .user, user.id ≠ id →
      user.username ≠ change.val.username.getD existing.username) :
      ∀ x, Fails c s (afterName x) reasons := by
    intro _
    unfold afterName
    split
    · exact hashed apart none fun _ none => by cases none
    · rename_i new wished
      have some : change.val.newPassword ≠ none := wished ▸ Option.some_ne_none new
      refine .bind (newHash_fails (unproven existing alive number some)
        (unreadable existing alive number some) (weak new wished)) fun p hash q start ran => ?_
      rcases newHash_ok ran with ⟨rfl, rfl, _⟩
      rw [start]
      refine hashed apart _ fun text same => ?_
      cases same
      exact Password.passable_hash _ _
  split
  · rename_i unnamed
    refine named (fun user userAlive different same => different ?_) ()
    rw [unnamed] at same
    exact (sound.unclashed.number_eq (k := .user) userAlive alive (beq_iff_eq.mpr same)).trans number
  · rename_i username wished
    refine .passing_bind disturbed (stop.subset ?_) (.ensureFree_bind (fun taken => ?_)
      fun free => named (fun user userAlive different same => ?_) ())
    · refine List.cons_subset.mpr ⟨List.mem_map_of_mem ?_, List.nil_subset _⟩
      exact List.mem_filterMap.mpr ⟨some username, by simp [wished], rfl⟩
    · rcases List.any_eq_true.mp taken with ⟨user, userAlive, same⟩
      rcases Bool.and_eq_true_iff.mp same with ⟨sameName, different⟩
      have holds : user.username = username := beq_iff_eq.mp sameName
      refine held user ⟨userAlive, fun own => ?_, holds.symm ▸ wished, existing, alive, number⟩ _
      rw [own, bne_self_eq_false] at different
      cases different
    · rw [wished] at same
      refine absurd ?_ (List.any_eq_false.mp free user userAlive)
      refine Bool.and_eq_true_iff.mpr ⟨beq_iff_eq.mpr same, bne_iff_ne.mpr fun own => ?_⟩
      exact different (Option.some.inj own).symm

/-! ## All commands -/

theorem checkHealth_sure : checkHealth.Sure := by
  intro c p failure q failed
  unfold checkHealth at failed
  rw [perform_tryCatch] at failed
  split at failed <;> cases failed

end Service

/-- A command that fails in a sound session does so for a reason that is named for it. -/
theorem Command.fails {c : Context} {s : Session} (sound : s.Sound) (command : Command) :
    Action.Fails c s command.action (command.FailsFor c s.tables) := by
  have disturbed : c.Disturbs (command.FailsFor c s.tables) := FailsFor.disturbs
  have stop : Parameter.Stop (command.parameters c.clock) (command.FailsFor c s.tables) :=
    FailsFor.stop
  have held (k : Kind) (row : k.Row) (wanted : command.Wants s.tables k row) (message : String) :
      command.FailsFor c s.tables (.refused (.conflict message)) := .held wanted message
  cases command with
  | checkHealth => exact .of_sure Service.checkHealth_sure
  | listRoots page => exact Service.listRoots_fails disturbed page
  | createRoot request => exact Service.createRoot_fails sound request
  | showRoot id => exact Service.showRoot_fails disturbed (.missing rfl)
  | archiveRoot id => exact Service.archiveRoot_fails sound disturbed fun _ => .missing rfl
  | listProducts page => exact Service.listProducts_fails disturbed page
  | showProduct sku =>
    exact .bind (Service.loadProduct_fails disturbed stop (.missing rfl)) fun _ _ _ _ _ => .pure _
  | probeProduct sku => exact .passing_bind disturbed stop (.pure _)
  | changeProduct sku patch =>
    exact Service.changeProduct_fails sound disturbed stop (.missing rfl) (held .product)
  | archiveProduct sku => exact Service.archiveProduct_fails sound disturbed stop (.missing rfl)
  | listOptions rootId page => exact Service.listOptions_fails disturbed page (.missing rfl)
  | addOption rootId input =>
    exact Service.addOption_fails sound disturbed stop (.missing rfl) (held .option)
  | renameOption id input =>
    exact Service.renameOption_fails sound disturbed stop (.missing rfl) (held .option)
  | archiveOption id => exact Service.archiveOption_fails sound disturbed (.missing rfl)
  | addValue optionId input =>
    exact Service.addValue_fails sound disturbed stop (.missing rfl) (held .value)
  | changeValue id input =>
    exact Service.changeValue_fails sound disturbed stop (.missing rfl) (held .value)
  | archiveValue id =>
    exact Service.archiveOne_fails (k := .value) sound disturbed (by decide) (.missing rfl)
      fun _ _ => .pure _
  | listDiscounts page =>
    exact Service.listPage_fails (k := .discount) disturbed page _ fun _ _ => .pure _
  | createDiscount request =>
    exact Service.createDiscount_fails sound disturbed stop fun _ broken =>
      .invalid List.mem_cons_self broken
  | showDiscount id =>
    exact Service.findOne_fails (k := .discount) disturbed (fun _ => .missing rfl) fun _ _ _ => .pure _
  | changeDiscount id patch => exact Service.changeDiscount_fails sound disturbed stop (.missing rfl)
  | archiveDiscount id =>
    exact Service.archiveOne_fails (k := .discount) sound disturbed (by decide) (.missing rfl)
      fun _ _ => .pure _
  | listWebhooks page =>
    exact Service.listPage_fails (k := .webhook) disturbed page _ fun _ _ => .pure _
  | listWebhooksFor eventType page => exact Service.listWebhooksFor_fails disturbed page stop
  | createWebhook request => exact Service.createWebhook_fails sound disturbed stop
  | changeWebhook id patch => exact Service.changeWebhook_fails sound disturbed stop (.missing rfl)
  | archiveWebhook id =>
    exact Service.archiveOne_fails (k := .webhook) sound disturbed (by decide) (.missing rfl)
      fun _ _ => .pure _
  | listExecutions id page => exact Service.listExecutions_fails disturbed page (.missing rfl)
  | createUser request =>
    exact Service.createUser_fails sound disturbed stop
      (fun _ broken => .invalid List.mem_cons_self broken) (held .user)
  | showUser id =>
    exact Service.findOne_fails (k := .user) disturbed (fun _ => .missing rfl) fun _ _ _ => .pure _
  | changeUser id change =>
    exact Service.changeUser_fails sound disturbed stop (fun _ => .missing rfl) (held .user)
      (fun _ _ _ wished _ => .unproven rfl wished)
      (fun _ alive _ _ _ _ _ faulty => .unreadable rfl alive faulty)
      fun new wished refusal broken =>
        .invalid (List.mem_map.mpr ⟨new, Option.mem_toList.mpr wished, rfl⟩) broken
  | archiveUser id =>
    exact Service.archiveOne_fails (k := .user) sound disturbed (by decide) (.missing rfl)
      fun _ _ => .pure _

end Shop
