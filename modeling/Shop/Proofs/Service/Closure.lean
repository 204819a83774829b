import Shop.Proofs.Service.RootCreation

/-!
# Closure under ownership

Whatever clients ask and whatever fails, no live row belongs to a row that is archived.  Most effects
cannot break this by themselves: they insert no row that belongs to another, and archive none to
which another may belong.  What remains are the commands that add to a root or option, for which they
have found it live, and those that archive a root, option or product, which they do in one
transaction with all that belongs to it.
-/

namespace Shop

/-- Effects that concern no ownership. -/
def Effect.spares : Effect → Bool
  | .insert k => !k.owned
  | .archive k => !k.owning
  | _ => true

namespace Session

variable {s s' : Session}

theorem Step.owned (step : Step (·.spares = true) s s') (before : s.tables.Owned) :
    s'.tables.Owned := by
  cases step with
  | @insert k may new numbers live admitted =>
    have free : k.owned = false := by simpa [Effect.spares] using may
    change (s.tables.put k (s.tables.rows k ++ new)).Owned
    rw [← Tables.append_only]
    refine before.gain (Tables.forall_rows_only.mpr fun row _ j n belongs => ?_)
    rw [Kind.owner?_of_not_owned free row] at belongs
    cases belongs
  | @amend k may change keeps admitted => exact before.amend k change keeps
  | @archive k may chosen now =>
    have free : k.owning = false := by simpa [Effect.spares] using may
    exact before.archiveWhere free chosen now
  | _ => exact before

/-- Effects that concern no ownership leave the tables closed under it. -/
theorem Reach.owned {effects : List Effect} (steps : Reach (· ∈ effects) s s')
    (spare : effects.all Effect.spares = true) (before : s.tables.Owned) : s'.tables.Owned :=
  steps.preserves (fun x => x.tables.Owned)
    (fun _ _ step => (step.mono (List.all_eq_true.mp spare)).owned) before

end Session

/-! ## What actions maintain -/

namespace Action

/-- An action after which something holds of the tables if it held before, whether it ends well or
fails. -/
def Maintains (kept : Tables → Prop) (a : Action α) : Prop :=
  ∀ c p, kept p.session.tables → kept (a.perform c p).2.session.tables

namespace Maintains

variable {kept : Tables → Prop}

theorem still {a : Action α} (within : a.Within (· ∈ ([] : List Effect))) : a.Maintains kept := by
  intro c p holds
  rw [(within c p).tables_eq]
  exact holds

/-- An action that leaves the rows of a kind as they are maintains what is said of these alone. -/
theorem spared {a : Action α} {effects : List Effect} (within : a.Within (· ∈ effects)) {k : Kind}
    (spares : effects.all (·.kind? != some k) = true)
    (said : ∀ t t' : Tables, t'.rows k = t.rows k → kept t → kept t') : a.Maintains kept := by
  intro c p holds
  refine said _ _ ((within c p).rows_eq fun e may => ?_) holds
  simpa using List.all_eq_true.mp spares e may

theorem bind {a : Action α} {next : α → Action β} (first : a.Maintains kept)
    (rest : ∀ x, (next x).Maintains kept) : (a >>= next).Maintains kept := by
  intro c p holds
  have middle := first c p holds
  rw [perform_bind]
  rcases ran : a.perform c p with ⟨failure | x, after⟩
  · rw [ran] at middle
    exact middle
  · rw [ran] at middle
    exact rest x c after middle

theorem statement {s : Statement α}
    (ended : ∀ c p x q, (Action.statement s).perform c p = (.ok x, q) → kept p.session.tables →
      kept q.session.tables) : (Action.statement s).Maintains kept := by
  intro c p holds
  rcases ran : (Action.statement s).perform c p with ⟨failure | x, after⟩
  · rw [perform_statement_error ran]
    exact holds
  · exact ended c p x after ran holds

/-- A transaction maintains what its action maintains when it ends well. -/
theorem transaction {a : Action α}
    (ended : ∀ c p x q, a.perform c p = (.ok x, q) → kept p.session.tables →
      kept q.session.tables) : (Action.transaction a).Maintains kept := by
  intro c p holds
  rcases ran : (Action.transaction a).perform c p with ⟨failure | x, after⟩
  · rw [perform_transaction_error ran]
    exact holds
  · rcases perform_transaction_ok ran with ⟨first, last, done, began, finished⟩
    rw [finished]
    exact ended c first x last done (began ▸ holds)

/-- What goes on only if it finds a live row may rely on that row. -/
theorem find {k : Kind} {id : Int} {refusal : Refusal} {next : k.Row → Action α}
    (rest : ∀ row, (next row).Maintains fun t => kept t ∧ t.Has k id) :
    (do
      let row ← Action.require refusal (← Action.statement (.find k id))
      next row).Maintains kept := by
  intro c p holds
  rw [perform_bind]
  rcases found : (Action.statement (Statement.find k id)).perform c p with ⟨failure | row, middle⟩
  · change kept middle.session.tables
    rw [perform_statement_error found]
    exact holds
  · rcases perform_select_ok found with ⟨answer, session⟩
    change kept (((Action.require refusal row) >>= next).perform c middle).2.session.tables
    rw [← session] at holds
    rw [perform_bind, perform_require]
    cases row with
    | none => exact holds
    | some row =>
      have chosen := List.find?_some (p := fun row => k.number row == id) answer.symm
      refine (rest row c middle ⟨holds, row, ?_, beq_iff_eq.mp chosen⟩).1
      rw [session]
      exact List.mem_of_find?_eq_some answer.symm

/-- What goes on only with what it has looked up may rely on that. -/
theorem lookup {parameters : List Parameter} {f : Tables → Option β} {refusal : Refusal}
    {next : β → Action α}
    (rest : ∀ t found, kept t → f t = some found → (next found).Maintains kept) :
    (do
      let found ← Action.require refusal
        (← Action.statement (.passing parameters (.select f)))
      next found).Maintains kept := by
  intro c p holds
  rw [perform_bind]
  rcases looked : (Action.statement (.passing parameters (.select f))).perform c p with
    ⟨failure | found, middle⟩
  · change kept middle.session.tables
    rw [perform_statement_error looked]
    exact holds
  · rcases perform_lookup_ok looked with ⟨answer, session⟩
    change kept (((Action.require refusal found) >>= next).perform c middle).2.session.tables
    rw [← session] at holds
    rw [perform_bind, perform_require]
    cases found with
    | none => exact holds
    | some found => exact rest p.session.tables found (session ▸ holds) answer.symm c middle holds

theorem publish (eventType : String) (shown : Json) :
    (Action.publish eventType shown).Maintains kept :=
  fun _ _ holds => holds

end Maintains

variable {c : Context} {p q : Progress}

/-- A row that was added has the number that was drawn for it. -/
theorem perform_insert_drawn {k : Kind} {parameters : List Parameter}
    {make : Instant → Int → k.Row} {row : k.Row}
    (done : (statement (.passing parameters (.insert k make))).perform c p = (.ok row, q)) :
    row = make c.now ((p.session.sequences.last k + 1 : Nat) : Int) ∧
      q.session.tables = p.session.tables ++ .only k [row] := by
  rcases perform_statement_ok done with ⟨tables, sequences, answered, session⟩
  rcases Statement.insert_ok (Statement.passing_ok answered) with ⟨made, rfl, _⟩
  rw [session, Tables.append_only]
  exact ⟨made, rfl⟩

theorem perform_insert_ok {k : Kind} {parameters : List Parameter}
    {make : Instant → Int → k.Row} {row : k.Row}
    (done : (statement (.passing parameters (.insert k make))).perform c p = (.ok row, q)) :
    (∃ id, row = make c.now id) ∧ q.session.tables = p.session.tables ++ .only k [row] :=
  (perform_insert_drawn done).imp_left fun made => ⟨_, made⟩

theorem perform_archiveAll_ok {k : Kind} {chosen : Tables → k.Row → Bool}
    (done : (statement (.archiveAll k chosen)).perform c p = (.ok (), q)) :
    q.session.tables = p.session.tables.archiveWhere k (chosen p.session.tables) c.now := by
  rcases perform_statement_ok done with ⟨tables, sequences, answered, session⟩
  rw [session]
  exact (Statement.archiveAll_ok answered).1

theorem perform_archive_ok {k : Kind} {id : Int} {found : Option k.Row}
    (done : (statement (.archive k id)).perform c p = (.ok found, q)) :
    q.session.tables = p.session.tables.archiveWhere k (k.number · == id) c.now := by
  rcases perform_statement_ok done with ⟨tables, sequences, answered, session⟩
  rw [session]
  exact (Statement.archive_ok answered).1

/-- Archiving one row answers with it as it is then, if it was live. -/
theorem perform_archive_answer {k : Kind} {id : Int} {found : Option k.Row}
    (done : (statement (.archive k id)).perform c p = (.ok found, q)) :
    found = ((p.session.tables.live k).find? (k.number · == id)).map (k.archived c.now) := by
  rcases perform_statement_ok done with ⟨tables, sequences, answered, _⟩
  exact Statement.updateLive_answer answered

/-- A row that could not be archived was not live. -/
theorem perform_archive_missing {k : Kind} {id : Int}
    (done : (statement (.archive k id)).perform c p = (.ok none, q)) :
    ∀ row ∈ p.session.tables.live k, k.number row ≠ id := by
  intro row alive same
  have missing := Option.map_eq_none_iff.mp (perform_archive_answer done).symm
  exact List.find?_eq_none.mp missing row alive (beq_iff_eq.mpr same)

end Action

/-! ## Roots that are created -/

/-- The rows of a root that was composed from a request belong to rows among them. -/
theorem RootView.ComposedFrom.belong {kept : Listing → Listing} {request : RootRequest}
    {now : Instant} {view : RootView} {links : List VariantLink} {t : Tables}
    (composed : view.ComposedFrom kept request now links)
    (live : ∀ k, ∀ row ∈ (view.tables links).rows k, k.live row = true) :
    ∀ k, ∀ row ∈ (view.tables links).rows k, ∀ j n, k.owner? row = some (j, n) →
      (t ++ view.tables links).Has j n := by
  have gained {j : Kind} {owner : j.Row} (member : owner ∈ (view.tables links).rows j) :
      (t ++ view.tables links).Has j (j.number owner) :=
    Tables.has_append member (live j owner member)
  have ofRoot : (t ++ view.tables links).Has .root view.root.id :=
    gained (j := .root) List.mem_cons_self
  have options := OptionView.owned_of_madeFrom composed.options
  intro k row member j n belongs
  cases k with
  | image =>
    cases belongs
    rw [composed.images row member]
    exact ofRoot
  | option =>
    cases belongs
    rcases List.mem_map.mp member with ⟨option, shown, rfl⟩
    rw [(options option shown).1]
    exact ofRoot
  | value =>
    cases belongs
    rcases List.mem_flatMap.mp member with ⟨option, shown, inOption⟩
    rw [(options option shown).2 row inOption]
    exact gained (j := .option) (List.mem_map_of_mem shown)
  | product =>
    cases belongs
    rcases List.mem_map.mp member with ⟨product, shown, rfl⟩
    rw [(composed.products product shown).owner]
    exact ofRoot
  | link =>
    cases belongs
    rcases composed.linksOwned row member with ⟨product, shown, same⟩
    rw [same]
    exact gained (j := .product) (List.mem_map_of_mem shown)
  | _ => cases belongs

namespace Service

open Shop.Action

variable {c : Context} {p q : Progress}

theorem createRoot_owned (request : RootRequest)
    (numbered : p.session.tables.Numbered p.session.sequences) (owned : p.session.tables.Owned) :
    ((createRoot request).perform c p).2.session.tables.Owned := by
  rcases ran : (createRoot request).perform c p with ⟨failure | reply, q⟩
  · rw [(createRoot_atomic request c p failure q ran).1]
    exact owned
  · rcases createRoot_ok numbered ran with
      ⟨_, view, links, _, committed, _, _, ⟨gains, _⟩, composed, _, ended⟩
    rw [ended]
    change committed.session.tables.Owned
    rw [gains.eq_append]
    exact owned.gain (composed.belong gains.live)

/-! ## Options and values that are added -/

theorem addValues_ok {optionId : Int} {values : List String} {rows : List OptionValue}
    (done : (addValues optionId values).perform c p = (.ok rows, q)) :
    q.session.tables = p.session.tables ++ .only .value rows ∧ rows.map (·.value) = values ∧
      ∀ row ∈ rows, row.optionId = optionId ∧ Kind.live .value row = true := by
  induction values generalizing p rows with
  | nil =>
    cases done
    rw [Tables.only_nil, Tables.append_empty]
    exact ⟨rfl, rfl, List.forall_mem_nil _⟩
  | cons value values inductionHypothesis =>
    rcases perform_bind_ok.mp done with ⟨row, middle, inserted, rest⟩
    rcases perform_bind_ok.mp rest with ⟨others, last, added, returned⟩
    cases returned
    rcases perform_insert_ok (k := .value) inserted with ⟨⟨id, rfl⟩, tables⟩
    rcases inductionHypothesis added with ⟨later, rfl, owners⟩
    rw [later, tables, Tables.append_assoc, Tables.only_append]
    exact ⟨rfl, rfl, List.forall_mem_cons.mpr ⟨⟨rfl, rfl⟩, owners⟩⟩

/-- An option is added with its values, as it would be written for a new root. -/
theorem optionCreation_ok {rootId : Int} {input : OptionInput} {view : OptionView}
    (done : (optionCreation rootId input).perform c p = (.ok view, q)) :
    q.session.tables = p.session.tables ++ OptionView.tables [view] ∧ view.MadeFrom rootId input ∧
      ∀ k, ∀ row ∈ (OptionView.tables [view]).rows k, k.live row = true := by
  rcases perform_bind_ok.mp done with ⟨option, middle, inserted, rest⟩
  rcases perform_bind_ok.mp rest with ⟨values, last, added, returned⟩
  cases returned
  rcases perform_insert_ok (k := .option) inserted with ⟨⟨id, rfl⟩, tables⟩
  rcases addValues_ok added with ⟨later, texts, owners⟩
  refine ⟨?_, ⟨rfl, rfl, texts, fun value member => (owners value member).1⟩, ?_⟩
  · rw [later, tables, Tables.append_assoc]
    refine congrArg _ (Tables.ext_rows fun k => ?_)
    cases k with
    | value => exact (List.append_nil values).symm
    | _ => rfl
  · intro k row member
    cases k with
    | option =>
      rw [List.mem_singleton.mp member]
      rfl
    | value => exact (owners row ((List.append_nil values) ▸ member)).2
    | _ => cases member

/-- What comes after a root was required may rely on it. -/
theorem requireRoot_bind (id : Int) (next : Unit → Action α) :
    requireRoot id >>= next = (do
      let _ ← require (noRoot id) (← statement (.find .root id))
      next ()) := by
  simp only [requireRoot, bind_assoc, pure_bind]

theorem addOption_maintains (rootId : Int) (input : OptionInput) :
    (addOption rootId input).Maintains Tables.Owned := by
  unfold addOption
  rw [requireRoot_bind]
  refine .find fun _ => .bind (.still (.statement (.passing (.select _) _))) fun taken => ?_
  refine .bind (.still (.ensureFree _ _)) fun _ => .bind (.transaction ?_) fun _ => .still (.pure _)
  rintro c p view q done ⟨owned, root⟩
  rcases optionCreation_ok done with ⟨tables, made, live⟩
  rw [tables]
  refine ⟨owned.gain fun k row member j n belongs => ?_, root.append _⟩
  cases k with
  | option =>
    cases belongs
    rw [List.mem_singleton.mp member, made.owner]
    exact root.append _
  | value =>
    cases belongs
    rw [made.owned row ((List.append_nil view.values) ▸ member)]
    exact Tables.has_append (k := .option) List.mem_cons_self (live .option _ List.mem_cons_self)
  | _ => cases member

theorem addValue_maintains (optionId : Int) (value : String) :
    (addValue optionId value).Maintains Tables.Owned := by
  refine .find fun _ => .bind (.still (.statement (.passing (.select _) _))) fun taken => ?_
  refine .bind (.still (.ensureFree _ _)) fun _ => ?_
  refine .bind (.statement ?_) fun row => .still (.pure _)
  rintro c p row q done ⟨owned, option⟩
  rcases perform_insert_ok (k := .value) done with ⟨⟨id, rfl⟩, tables⟩
  rw [tables]
  refine ⟨owned.gainOne fun j n belongs => ?_, option.append _⟩
  cases belongs
  exact option

end Service

/-! ## What is archived with its owner -/

/-- What goes with a row: the row itself and what belongs to it. -/
def Kind.goesWith (j : Kind) (id : Int) (k : Kind) (row : k.Row) : Bool :=
  if k = j then k.number row == id else k.owner? row == some (j, id)

/-- Where nothing belongs to what belongs to a row, all that belongs to what goes with it goes with
it too. -/
theorem Kind.goesWith_owned {j : Kind} {id : Int}
    (leaves : ∀ k row n, Kind.owner? k row = some (j, n) → k.owning = false)
    {k i : Kind} {row : k.Row} {owner : i.Row} (belongs : k.owner? row = some (i, i.number owner))
    (gone : goesWith j id i owner = true) : goesWith j id k row = true := by
  have owning : i.owning = true := owning_of_owner? belongs
  unfold goesWith at gone ⊢
  split at gone
  · subst i
    rw [beq_iff_eq.mp gone] at belongs
    have different : k ≠ j := by
      rintro rfl
      rw [leaves k row id belongs] at owning
      cases owning
    rw [if_neg different, belongs]
    exact beq_self_eq_true _
  · rw [leaves i owner id (beq_iff_eq.mp gone)] at owning
    cases owning

/-- Rows to which only rows of one kind belong, which own nothing, may be archived together with
these. -/
theorem Tables.Owned.archiveWith {t : Tables} (owned : t.Owned) {j k : Kind}
    (archives : .execution ∉ [k, j]) (free : k.owning = false)
    (leaves : ∀ i row n, Kind.owner? i row = some (j, n) → i = k) (id : Int) (now : Instant) :
    (t.archiveEach [k, j] (Kind.goesWith j id) now).Owned := by
  refine owned.cascade archives now ?_ fun _ _ _ _ _ => Kind.goesWith_owned ?_
  · intro i missing row
    rw [Kind.goesWith, if_neg fun same => missing (by simp [same])]
    refine beq_eq_false_iff_ne.mpr fun belongs => missing ?_
    rw [leaves i row id belongs]
    exact List.mem_cons_self
  · intro i row n belongs
    rw [leaves i row n belongs]
    exact free

/-- What goes with a root: its images, its options with their values, and its products with their
links. -/
def Tables.goesWithRoot (t : Tables) (id : Int) : (k : Kind) → k.Row → Bool
  | .root, r => r.id == id
  | .image, r => r.rootId == id
  | .option, r => r.rootId == id
  | .value, r => t.isOptionOf r.optionId id
  | .product, r => r.rootId == id
  | .link, r => t.isOfRoot r.productId id
  | _, _ => false

theorem Tables.goesWithRoot_owned {t : Tables} {id : Int} {k j : Kind} {row : k.Row} {owner : j.Row}
    (member : owner ∈ t.rows j) (belongs : k.owner? row = some (j, j.number owner))
    (gone : t.goesWithRoot id j owner = true) : t.goesWithRoot id k row = true := by
  cases k with
  | image | option | product =>
    rcases Prod.mk.inj (Option.some.inj belongs) with ⟨rfl, same⟩
    change (row.rootId == id) = true
    rw [same]
    exact gone
  | value | link =>
    rcases Prod.mk.inj (Option.some.inj belongs) with ⟨rfl, same⟩
    refine List.any_eq_true.mpr ⟨owner, member, ?_⟩
    rw [same]
    exact Bool.and_eq_true_iff.mpr ⟨beq_self_eq_true _, gone⟩
  | _ => cases belongs

namespace Service

open Shop.Action

variable {c : Context} {p q : Progress}

/-- Archiving a row after what belongs to it archives what goes with it. -/
theorem archiveWith_ok {j k : Kind} {id : Int} {refusal : Refusal} {row : j.Row}
    (done : (do
      statement (.archiveAll k fun _ => Kind.goesWith j id k)
      require refusal (← statement (.archive j id))).perform c p = (.ok row, q)) :
    q.session.tables = p.session.tables.archiveEach [k, j] (Kind.goesWith j id) c.now := by
  rcases perform_bind_ok.mp done with ⟨_, middle, archivedLeaves, rest⟩
  rcases perform_bind_ok.mp rest with ⟨found, last, archivedOwner, required⟩
  rcases perform_require_ok.mp required with ⟨_, rfl⟩
  have own : Kind.goesWith j id j = (j.number · == id) := by
    funext row
    exact if_pos rfl
  rw [perform_archive_ok archivedOwner, perform_archiveAll_ok archivedLeaves, ← own]
  rfl

/-- Archiving a root after all it owns archives what goes with it, and answers with the root as it is
then. -/
theorem rootArchiving_ok {id : Int} {root : ProductRoot}
    (done : (rootArchiving id).perform c p = (.ok root, q)) :
    q.session.tables = p.session.tables.archiveEach
      [.link, .value, .option, .product, .image, .root] (p.session.tables.goesWithRoot id)
      c.now ∧
    ((p.session.tables.live .root).find? (·.id == id)).map (Kind.archived c.now .root) =
      some root := by
  rcases perform_bind_ok.mp done with ⟨_, first, archivedLinks, rest⟩
  rcases perform_bind_ok.mp rest with ⟨_, second, archivedValues, rest⟩
  rcases perform_bind_ok.mp rest with ⟨_, third, archivedOptions, rest⟩
  rcases perform_bind_ok.mp rest with ⟨_, fourth, archivedProducts, rest⟩
  rcases perform_bind_ok.mp rest with ⟨_, fifth, archivedImages, rest⟩
  rcases perform_bind_ok.mp rest with ⟨found, last, archivedRoot, required⟩
  rcases perform_require_ok.mp required with ⟨present, rfl⟩
  rw [present] at archivedRoot
  have answer := (perform_archive_answer archivedRoot).symm
  -- A link is chosen by its product, a value by its option and the root by its number.  The
  -- statements before these leave the rows of that kind as they were, so they choose what the first
  -- tables say.
  rw [perform_archiveAll_ok archivedImages, perform_archiveAll_ok archivedProducts,
    perform_archiveAll_ok archivedOptions, perform_archiveAll_ok archivedValues,
    perform_archiveAll_ok archivedLinks] at answer
  rw [perform_archive_ok archivedRoot, perform_archiveAll_ok archivedImages,
    perform_archiveAll_ok archivedProducts, perform_archiveAll_ok archivedOptions,
    perform_archiveAll_ok archivedValues, perform_archiveAll_ok archivedLinks]
  exact ⟨rfl, answer⟩

/-- What belongs to a row and owns nothing may be archived in one transaction with it. -/
theorem archiveWith_maintains {j k : Kind} (archives : .execution ∉ [k, j])
    (free : k.owning = false) (leaves : ∀ i row n, Kind.owner? i row = some (j, n) → i = k)
    (id : Int) (refusal : Refusal) :
    (transaction (do
      statement (.archiveAll k fun _ => Kind.goesWith j id k)
      require refusal (← statement (.archive j id)))).Maintains Tables.Owned := by
  refine .transaction fun c p row q done owned => ?_
  rw [archiveWith_ok done]
  exact owned.archiveWith archives free leaves id c.now

theorem archiveOption_maintains (id : Int) : (archiveOption id).Maintains Tables.Owned := by
  refine .bind (archiveWith_maintains (j := .option) (k := .value) (by decide) rfl ?_ id _)
    fun _ => .still (.pure _)
  intro k row n belongs
  cases k with
  | value => rfl
  | _ => cases belongs

theorem archiveProduct_maintains (sku : String) :
    (archiveProduct sku).Maintains Tables.Owned := by
  refine .bind (.still (loadProduct_within sku)) fun existing => ?_
  refine .bind
    (archiveWith_maintains (j := .product) (k := .link) (by decide) rfl ?_ existing.product.id _)
    fun product => .bind (.publish _ _) fun _ => .still (.pure _)
  intro k row n belongs
  cases k with
  | link => rfl
  | _ => cases belongs

theorem archiveRoot_maintains (id : Int) : (archiveRoot id).Maintains Tables.Owned := by
  refine .bind (.transaction fun c p root q done owned => ?_) fun _ => .still (.pure _)
  rw [(rootArchiving_ok done).1]
  refine owned.cascade (by decide) _ ?_ fun _ _ _ _ alive =>
    Tables.goesWithRoot_owned (Tables.mem_live.mp alive).1
  intro k missing row
  cases k with
  | discount | webhook | execution | user => rfl
  | _ => exact absurd (by decide) missing

/-! ## What is left after archiving -/

/-- A root that was archived went with all it owned. -/
theorem archiveRoot_ok {id : Int} {reply : Reply}
    (done : (archiveRoot id).perform c p = (.ok reply, q)) :
    q.session.tables = p.session.tables.archiveEach
      [.link, .value, .option, .product, .image, .root] (p.session.tables.goesWithRoot id)
      c.now := by
  rcases perform_bind_ok.mp done with ⟨root, middle, archived, returned⟩
  cases returned
  rcases perform_transaction_ok archived with ⟨before, after, ran, began, ended⟩
  rw [ended, (rootArchiving_ok ran).1, began]

/-- A product that was archived went with its links. -/
theorem archiveProduct_ok {sku : String} {reply : Reply}
    (done : (archiveProduct sku).perform c p = (.ok reply, q)) :
    ∃ id, q.session.tables =
      p.session.tables.archiveEach [.link, .product] (Kind.goesWith .product id) c.now := by
  rcases perform_bind_ok.mp done with ⟨existing, first, found, rest⟩
  rcases perform_bind_ok.mp rest with ⟨product, second, archived, rest⟩
  rcases perform_bind_ok.mp rest with ⟨_, third, published, returned⟩
  cases returned
  cases published
  have reads : (loadProduct sku).Within (· ∈ ([] : List Effect)) := loadProduct_within sku
  have looked := (reads.reach_ok found).tables_eq
  rcases perform_transaction_ok archived with ⟨before, after, ran, began, ended⟩
  refine ⟨existing.product.id, ?_⟩
  change second.session.tables = _
  rw [ended, archiveWith_ok (j := .product) (k := .link) ran, began, looked]

end Service

/-! ## Every reachable session -/

theorem Command.owned (command : Command) {c : Context} {p : Progress}
    (numbered : p.session.tables.Numbered p.session.sequences) (owned : p.session.tables.Owned) :
    (command.action.perform c p).2.session.tables.Owned := by
  have spared (spare : command.effects.all Effect.spares = true) :
      (command.action.perform c p).2.session.tables.Owned :=
    (command.within c p).owned spare owned
  cases command with
  | createRoot request => exact Service.createRoot_owned request.val numbered owned
  | archiveRoot id => exact Service.archiveRoot_maintains id c p owned
  | archiveProduct sku => exact Service.archiveProduct_maintains sku c p owned
  | addOption rootId input => exact Service.addOption_maintains rootId input.val c p owned
  | archiveOption id => exact Service.archiveOption_maintains id c p owned
  | addValue optionId input => exact Service.addValue_maintains optionId input.val.value c p owned
  | _ => exact spared rfl

theorem Reachable.owned {s : Session} (reachable : Reachable s) : s.tables.Owned := by
  induction reachable with
  | start queueCapacity => exact Tables.owned_empty
  | serve before c fresh r inductionHypothesis =>
    rcases Http.serve_session c fresh _ r with same | ⟨command, _, served⟩
    · rw [same]
      exact inductionHypothesis
    · rw [served, Action.serve_snd]
      exact command.owned before.numbered inductionHypothesis
  | deliver _ c answered d event inductionHypothesis =>
    exact (Service.dispatch_within answered d event c (.start _)).owned rfl inductionHypothesis

/-- In every reachable session a live row belongs to a live row: an image, option or product to a
root, a value to an option and a link to a product.  And no request leaves something live that
belongs to an archived row. -/
theorem Reachable.closedUnderOwnership {s : Session} (reachable : Reachable s) :
    (∀ k, ∀ row ∈ s.tables.live k, ∀ j n, k.owner? row = some (j, n) → s.tables.Has j n) ∧
    ∀ c fresh r,
      let after := (Http.serve c fresh s r).2.tables
      ∀ j, ∀ owner ∈ after.rows j, j.live owner = false →
        ∀ k, ∀ row ∈ after.live k, k.owner? row ≠ some (j, j.number owner) := by
  refine ⟨reachable.owned, fun c fresh r => ?_⟩
  intro after j owner member archived k row alive belongs
  have next : Reachable (Http.serve c fresh s r).2 := .serve reachable c fresh r
  rcases next.owned k row alive j _ belongs with ⟨other, otherAlive, same⟩
  rcases Tables.mem_live.mp otherAlive with ⟨otherMember, live⟩
  -- The archived row is the live one: they have one number.
  rcases next.numbered.eq_of_number otherMember member same with rfl
  rw [archived] at live
  cases live

/-- The shirt is live in both sizes, each of which belongs to its live root. -/
theorem Reachable.closedUnderOwnership_shirt :
    let s := (Http.serve (.calm ⟨0, 0⟩) "shirt" (.start 16) Http.shirtRequest).2
    (s.tables.live .product).length = 2 ∧
      ∀ product ∈ s.tables.live .product, s.tables.Has .root product.rootId := by
  refine ⟨Http.shirtRequest_created.2, fun product alive => ?_⟩
  have reachable : Reachable (Http.serve (.calm ⟨0, 0⟩) "shirt" (.start 16) Http.shirtRequest).2 :=
    .serve (.start 16) _ _ _
  exact reachable.closedUnderOwnership.1 .product product alive _ _ rfl

end Shop
