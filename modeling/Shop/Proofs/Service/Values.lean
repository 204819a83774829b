import Shop.Proofs.Catalog.Viewing
import Shop.Proofs.Service.Keeping

/-!
# Values of options

Values become fragments of SKUs, in lower case.  So a new option is refused two values that are
equal ignoring case, be it the option of a new root or one that is added to a root.  A value that is
added to an option, and one that is changed, are compared with the other values of this option as
they are written.

So the values of every live option differ ignoring case exactly as long as each value that is added
or changed differs in this way from the others of its option.  As they are written they always
differ.
-/

namespace Shop

/-! ## Fragments -/

/-- What a value gives to SKUs, and the option for which it does. -/
def OptionValue.fragment (v : OptionValue) : Int × String := (v.optionId, Text.lowercase v.value)

/-- The values of options that were made from accepted inputs give different fragments. -/
theorem OptionView.fragments_nodup {rootId : Int} {inputs : List OptionInput}
    {views : List OptionView} (made : List.Forall₂ (MadeFrom rootId) inputs views)
    (accepted : ∀ input ∈ inputs, (input.values.map Text.lowercase).Nodup)
    (distinct : (views.map (·.option.id)).Nodup) :
    ((views.flatMap (·.values)).map OptionValue.fragment).Nodup := by
  induction made with
  | nil => exact List.nodup_nil
  | @cons input view inputs views first rest inductionHypothesis =>
    rcases List.forall_mem_cons.mp accepted with ⟨acceptedFirst, acceptedRest⟩
    rcases List.nodup_cons.mp distinct with ⟨fresh, distinct⟩
    rw [List.flatMap_cons, List.map_append, List.nodup_append]
    refine ⟨?_, inductionHypothesis acceptedRest distinct, ?_⟩
    · have lowered : (view.values.map OptionValue.fragment).map Prod.snd =
          input.values.map Text.lowercase := by
        rw [← first.values, List.map_map, List.map_map]
        rfl
      exact .of_map Prod.snd (lowered ▸ acceptedFirst)
    · -- Two options have two numbers.
      intro fragment inFirst other inRest same
      rcases List.mem_map.mp inFirst with ⟨v, vMember, rfl⟩
      rcases List.mem_map.mp inRest with ⟨w, wMember, rfl⟩
      rcases List.mem_flatMap.mp wMember with ⟨later, laterMember, wLater⟩
      refine fresh (List.mem_map.mpr ⟨later, laterMember, ?_⟩)
      calc
        later.option.id = w.optionId :=
          ((owned_of_madeFrom rest later laterMember).2 w wLater).symm
        _ = v.optionId := (congrArg Prod.fst same).symm
        _ = view.option.id := first.owned v vMember

/-- Whether the live values of every option differ ignoring case. -/
def Tables.ValuesDiffer (t : Tables) : Prop :=
  ((t.live .value).map OptionValue.fragment).Nodup

/-- A value after the live one of a number was changed. -/
def OptionValue.changedTo (v : OptionValue) (id : Int) (value : String) (now : Instant) :
    OptionValue :=
  if Kind.live .value v && v.id == id then { v with value, stamps := v.stamps.updated now } else v

/-- The tables after the live value of a number was changed. -/
def Tables.withValue (t : Tables) (id : Int) (value : String) (now : Instant) : Tables :=
  t.put .value ((t.rows .value).map (·.changedTo id value now))

namespace Tables.ValuesDiffer

variable {t t' new : Tables} {drawn : Sequences}

theorem iff_eq (numbered : t.Numbered drawn) :
    t.ValuesDiffer ↔ ∀ v ∈ t.live .value, ∀ w ∈ t.live .value, v.fragment = w.fragment → v = w :=
  List.nodup_map_iff_inj_on (numbered.live_nodup .value)

/-- In tables that are closed under ownership, the values that are live are those of live options. -/
theorem iff_ofOptions (numbered : t.Numbered drawn) (owned : t.Owned) :
    t.ValuesDiffer ↔ ∀ o ∈ t.live .option,
      ((t.optionView o).values.map fun v => Text.lowercase v.value).Nodup := by
  have live : (t.live .value).Nodup := numbered.live_nodup .value
  rw [iff_eq numbered]
  constructor
  · intro differ o _
    refine (List.nodup_map_iff_inj_on (live.filter _)).mpr fun v vMember w wMember same => ?_
    rcases List.mem_filter.mp vMember with ⟨vAlive, vOwner⟩
    rcases List.mem_filter.mp wMember with ⟨wAlive, wOwner⟩
    refine differ v vAlive w wAlive (Prod.ext ?_ same)
    exact (beq_iff_eq.mp vOwner).trans (beq_iff_eq.mp wOwner).symm
  · intro differ v vAlive w wAlive same
    rcases Prod.mk.inj same with ⟨owner, lowered⟩
    rcases owned .value v vAlive .option v.optionId rfl with ⟨o, alive, number⟩
    refine (List.nodup_map_iff_inj_on (live.filter _)).mp (differ o alive) v ?_ w ?_ lowered
    · exact List.mem_filter.mpr ⟨vAlive, beq_iff_eq.mpr number.symm⟩
    · exact List.mem_filter.mpr ⟨wAlive, beq_iff_eq.mpr (owner.symm.trans number.symm)⟩

theorem sublist (differ : t.ValuesDiffer) (fewer : (t'.live .value).Sublist (t.live .value)) :
    t'.ValuesDiffer :=
  List.Nodup.sublist (fewer.map _) differ

/-- Options that were made from accepted inputs may be gained with their values. -/
theorem gain (differ : t.ValuesDiffer) (owned : t.Owned) (gains : t.Gains new t') {rootId : Int}
    {inputs : List OptionInput} {views : List OptionView}
    (made : List.Forall₂ (OptionView.MadeFrom rootId) inputs views)
    (accepted : ∀ input ∈ inputs, input.problems.isEmpty = true)
    (options : new.rows .option = views.map (·.option))
    (values : new.rows .value = views.flatMap (·.values)) : t'.ValuesDiffer := by
  have distinct : (views.map (·.option.id)).Nodup := by
    have numbers := gains.distinct .option
    rwa [options, List.map_map] at numbers
  have apart : ((new.rows .value).map OptionValue.fragment).Nodup := by
    rw [values]
    refine OptionView.fragments_nodup made (fun input member => ?_) distinct
    exact (OptionInput.accepted_values (accepted input member)).2
  unfold ValuesDiffer
  rw [gains.live_eq, List.map_append, List.nodup_append]
  refine ⟨differ, apart, ?_⟩
  intro fragment old other added same
  rcases List.mem_map.mp old with ⟨v, alive, rfl⟩
  rcases List.mem_map.mp added with ⟨w, member, rfl⟩
  rw [values] at member
  rcases List.mem_flatMap.mp member with ⟨view, shown, inView⟩
  have gained : view.option ∈ new.rows .option := options ▸ List.mem_map_of_mem shown
  -- An older value belongs to an option that was there before.
  rcases owned .value v alive .option v.optionId rfl with ⟨before, beforeAlive, number⟩
  refine gains.unused .option view.option gained before (mem_live.mp beforeAlive).1 ?_
  calc
    view.option.id = w.optionId :=
      ((OptionView.owned_of_madeFrom made view shown).2 w inView).symm
    _ = v.optionId := (congrArg Prod.fst same).symm
    _ = before.id := number.symm

theorem append_iff (differ : t.ValuesDiffer) {row : OptionValue}
    (alive : Kind.live .value row = true) :
    (t ++ .only .value [row]).ValuesDiffer ↔
      ∀ v ∈ t.live .value, v.optionId = row.optionId →
        Text.lowercase v.value ≠ Text.lowercase row.value := by
  have lives : (t ++ .only .value [row]).live .value = t.live .value ++ [row] := by
    rw [live_append]
    exact congrArg _ (List.filter_cons_of_pos alive)
  unfold ValuesDiffer at differ ⊢
  rw [lives, List.map_append, List.map_singleton, List.nodup_append,
    and_iff_right differ, and_iff_right (List.nodup_singleton _), List.forall_mem_map]
  refine forall₂_congr fun v _ => ?_
  rw [List.forall_mem_singleton]
  unfold OptionValue.fragment
  rw [Ne, Prod.mk.injEq, not_and]

/-- A value that changes is to differ from the others of its option. -/
theorem change_iff (differ : t.ValuesDiffer) (numbered : t.Numbered drawn) (id : Int)
    (value : String) (now : Instant) :
    (t.withValue id value now).ValuesDiffer ↔
      ∀ v ∈ t.live .value, v.id = id → ∀ w ∈ t.live .value, w.id ≠ id →
        w.optionId = v.optionId → Text.lowercase w.value ≠ Text.lowercase value := by
  have keeps (v : OptionValue) :
      Kind.live .value (v.changedTo id value now) = Kind.live .value v := by
    unfold OptionValue.changedTo
    split <;> rfl
  have sameRow {v w : OptionValue} (vAlive : v ∈ t.live .value) (wAlive : w ∈ t.live .value)
      (number : v.id = w.id) : v = w :=
    numbered.eq_of_number (k := .value) (mem_live.mp vAlive).1 (mem_live.mp wAlive).1 number
  have fragment (v : OptionValue) (alive : v ∈ t.live .value) :
      (v.changedTo id value now).fragment =
        (v.optionId, Text.lowercase (if v.id = id then value else v.value)) := by
    unfold OptionValue.changedTo
    rw [(mem_live.mp alive).2, Bool.true_and]
    by_cases named : v.id = id
    · simp [OptionValue.fragment, named]
    · simp [OptionValue.fragment, named]
  unfold ValuesDiffer Tables.withValue
  rw [live_put_map t .value keeps, List.map_map,
    List.nodup_map_iff_inj_on (numbered.live_nodup .value)]
  constructor
  · intro apart v vAlive named w wAlive other owners lowered
    have equal : (v.changedTo id value now).fragment = (w.changedTo id value now).fragment := by
      rw [fragment v vAlive, fragment w wAlive, if_pos named, if_neg other, owners, lowered]
    rw [← apart v vAlive w wAlive equal] at other
    exact other named
  · intro apart v vAlive w wAlive equal
    rw [Function.comp_apply, Function.comp_apply, fragment v vAlive, fragment w wAlive] at equal
    rcases Prod.mk.inj equal with ⟨owners, lowered⟩
    by_cases vNamed : v.id = id <;> by_cases wNamed : w.id = id
    · exact sameRow vAlive wAlive (vNamed.trans wNamed.symm)
    · rw [if_pos vNamed, if_neg wNamed] at lowered
      exact absurd lowered.symm (apart v vAlive vNamed w wAlive wNamed owners.symm)
    · rw [if_neg vNamed, if_pos wNamed] at lowered
      exact absurd lowered (apart w wAlive wNamed v vAlive vNamed owners)
    · rw [if_neg vNamed, if_neg wNamed] at lowered
      exact (iff_eq numbered).mp differ v vAlive w wAlive (Prod.ext owners lowered)

end Tables.ValuesDiffer

/-! ## Commands that write values -/

namespace Service

open Shop.Action

theorem addOption_yields (rootId : Int) (input : OptionInput) :
    (addOption rootId input).Yields fun _ t reply t' => reply.status = 201 ∧
      ∃ view : OptionView, t' = t ++ OptionView.tables [view] ∧ view.MadeFrom rootId input ∧
        ∀ k, ∀ row ∈ (OptionView.tables [view]).rows k, k.live row = true := by
  refine .after (findOne_within (k := .root) rootId _ fun _ => .pure _) fun _ => ?_
  refine .after (.statement (.passing (.select _) _)) fun _ => .after (.ensureFree _ _) fun _ => ?_
  intro c p reply q done
  rcases perform_bind_ok.mp done with ⟨view, committed, ran, returned⟩
  cases returned
  rcases perform_transaction_ok ran with ⟨first, last, written, began, ended⟩
  rw [ended, ← began]
  exact ⟨rfl, view, optionCreation_ok written⟩

theorem addOption_atomic (rootId : Int) (input : OptionInput) :
    (addOption rootId input).Atomic := by
  refine .after (findOne_within (k := .root) rootId _ fun _ => .pure _) fun _ => ?_
  refine .after (.statement (.passing (.select _) _)) fun _ => .after (.ensureFree _ _) fun _ => ?_
  exact .before (.transaction (optionCreation_within rootId input) (by decide)) fun _ => .pure _

theorem addValue_atomic (optionId : Int) (value : String) : (addValue optionId value).Atomic := by
  refine .after (.statement (.select _)) fun found => .after (.require _ _) fun _ => ?_
  refine .after (.statement (.passing (.select _) _)) fun _ => .after (.ensureFree _ _) fun _ => ?_
  exact .before (.insert (k := .value) (fun _ _ => rfl) fun _ _ => rfl) fun _ => .pure _

theorem addValue_yields (optionId : Int) (value : String) :
    (addValue optionId value).Yields fun _ t reply t' => reply.status = 201 ∧
      ∃ row : OptionValue, Kind.live .value row = true ∧ row.optionId = optionId ∧
        row.value = value ∧ t' = t ++ .only .value [row] := by
  refine .after (.statement (.select _)) fun found => .after (.require _ _) fun _ => ?_
  refine .after (.statement (.passing (.select _) _)) fun _ => .after (.ensureFree _ _) fun _ => ?_
  intro c p reply q done
  rcases perform_bind_ok.mp done with ⟨row, middle, inserted, returned⟩
  cases returned
  rcases perform_insert_ok (k := .value) inserted with ⟨⟨id, made⟩, tables⟩
  refine ⟨rfl, row, ?_, ?_, ?_, tables⟩ <;> rw [made] <;> rfl

theorem changeValue_atomic (id : Int) (value : String) : (changeValue id value).Atomic := by
  refine .after (.statement (.select _)) fun found => .after (.require _ _) fun existing => ?_
  extract_lets next
  have rest : ∀ x, (next x).Atomic := by
    intro _
    refine .change (k := .value) ?_ fun _ => .pure _
    exact fun _ _ => ⟨rfl, rfl, rfl⟩
  split
  · exact rest ()
  · exact .after (.statement (.passing (.select _) _)) fun _ => .after (.ensureFree _ _) rest

theorem changeValue_yields (id : Int) (value : String) :
    (changeValue id value).Yields fun c t reply t' =>
      reply.status = 200 ∧ t' = t.withValue id value c.now := by
  refine .after (.statement (.select _)) fun found => .after (.require _ _) fun existing => ?_
  extract_lets next
  have rest : ∀ x, Action.Yields (next x) fun c t reply t' =>
      reply.status = 200 ∧ t' = t.withValue id value c.now := by
    intro _ c p reply q done
    rcases perform_bind_ok.mp done with ⟨changed, middle, updated, rest⟩
    rcases perform_bind_ok.mp rest with ⟨row, last, required, returned⟩
    cases returned
    rcases perform_require_ok.mp required with ⟨_, rfl⟩
    exact ⟨rfl, (perform_updateLive_ok (k := .value) updated).1⟩
  split
  · exact rest ()
  · exact .after (.statement (.passing (.select _) _)) fun _ => .after (.ensureFree _ _) rest

end Service

/-! ## What commands make of values that differ -/

/-- A command that, if it succeeds, leaves the values of every option different ignoring case: a
value that is added differs from those that the option has, and one that is changed from the others
of its option. -/
def Command.KeepsValues (s : Session) : Command → Prop
  | .addValue optionId input =>
    ∀ v ∈ s.tables.live .value, v.optionId = optionId →
      Text.lowercase v.value ≠ Text.lowercase input.val.value
  | .changeValue id input =>
    ∀ v ∈ s.tables.live .value, v.id = id → ∀ w ∈ s.tables.live .value, w.id ≠ id →
      w.optionId = v.optionId → Text.lowercase w.value ≠ Text.lowercase input.val.value
  | _ => True

theorem valueLaw : Law Tables.ValuesDiffer fun _ s command => command.KeepsValues s where
  starts := List.nodup_nil
  said := by
    intro t t' same differ
    unfold Tables.ValuesDiffer Tables.live
    rw [same .value (by decide)]
    exact differ
  command := by
    intro s reachable differ c command
    cases command with
    | createRoot request =>
      refine Service.createRoot_kept_iff reachable.numbered differ
        fun view links after gains composed => iff_of_true ?_ trivial
      refine differ.gain reachable.owned gains composed.options (fun input member => ?_) rfl rfl
      exact request.val.accepted_option request.property member
    | addOption rootId input =>
      refine Action.serve_kept_iff differ (Service.addOption_atomic rootId input.val)
        fun reply q ran => ?_
      rcases Service.addOption_yields rootId input.val c _ reply q ran with
        ⟨status, view, tables, made, live⟩
      have steps := (Service.addOption_within rootId input.val).reach_ok ran
      have numbered := steps.numbered reachable.numbered
      rw [tables] at numbered ⊢
      refine ⟨by rw [status]; decide, iff_of_true ?_ trivial⟩
      refine differ.gain reachable.owned (numbered.gains_append live) (.cons made .nil) ?_ rfl rfl
      exact List.forall_mem_singleton.mpr input.property
    | addValue optionId input =>
      refine Action.serve_kept_iff differ (Service.addValue_atomic optionId input.val.value)
        fun reply q ran => ?_
      rcases Service.addValue_yields optionId input.val.value c _ reply q ran with
        ⟨status, row, alive, rfl, value, tables⟩
      refine ⟨by rw [status]; decide, ?_⟩
      have exactly := differ.append_iff alive
      rw [value] at exactly
      rw [tables]
      exact exactly
    | changeValue id input =>
      refine Action.serve_kept_iff differ (Service.changeValue_atomic id input.val.value)
        fun reply q ran => ?_
      rcases Service.changeValue_yields id input.val.value c _ reply q ran with ⟨status, tables⟩
      refine ⟨by rw [status]; decide, ?_⟩
      rw [tables]
      exact differ.change_iff reachable.numbered id input.val.value c.now
    -- No other command writes values.
    | _ =>
      refine iff_of_true ?_ fun _ => trivial
      exact differ.sublist (Command.live_sublist _ c s (by decide) rfl)

/-! ## Every reachable session -/

/-- As they are written, the live values of an option differ in every reachable session. -/
theorem Reachable.values_nodup {s : Session} (reachable : Reachable s) (o : ProductOption) :
    ((s.tables.optionView o).values.map (·.value)).Nodup := by
  have live : (s.tables.live .value).Nodup := reachable.numbered.live_nodup .value
  refine (List.nodup_map_iff_inj_on (live.filter _)).mpr fun v vMember w wMember same => ?_
  rcases List.mem_filter.mp vMember with ⟨vAlive, vOwner⟩
  rcases List.mem_filter.mp wMember with ⟨wAlive, wOwner⟩
  have owners : v.optionId = w.optionId := (beq_iff_eq.mp vOwner).trans (beq_iff_eq.mp wOwner).symm
  have number : v.id = w.id := reachable.unclashed.number_eq (k := .value) vAlive wAlive
    (Bool.and_eq_true_iff.mpr ⟨beq_iff_eq.mpr owners, beq_iff_eq.mpr same⟩)
  exact reachable.numbered.eq_of_number (k := .value) (Tables.mem_live.mp vAlive).1
    (Tables.mem_live.mp wAlive).1 number

/-- In every session to which commands lead that keep values different, no live option has two live
values that are equal ignoring case.  A further request leaves it so exactly if it fails, or keeps
values different too. -/
theorem ReachableBy.liveValues_differ {s : Session}
    (reached : ReachableBy (fun _ s command => command.KeepsValues s) s) :
    let differ (t : Tables) : Prop := ∀ o ∈ t.live .option,
      ((t.optionView o).values.map fun v => Text.lowercase v.value).Nodup
    differ s.tables ∧
      ∀ c fresh r, differ (Http.serve c fresh s r).2.tables ↔
        ∀ command, r.served? = some command → (Http.serve c fresh s r).1.status < 400 →
          command.KeepsValues s := by
  intro differ
  have ofOptions {s : Session} (reachable : Reachable s) : s.tables.ValuesDiffer ↔ differ s.tables :=
    Tables.ValuesDiffer.iff_ofOptions reachable.numbered reachable.owned
  have now : s.tables.ValuesDiffer := valueLaw.holds reached
  refine ⟨(ofOptions reached.reachable).mp now, fun c fresh r => ?_⟩
  rw [← ofOptions (.serve reached.reachable c fresh r)]
  exact valueLaw.serve_iff reached.reachable now c fresh r

namespace Http

/-- A request to add a value to the first option. -/
def valueRequest (value : String) : Request :=
  jsonRequest .post "/v1/product_options/1/value" ("\x7b\"value\": \"" ++ value ++ "\"\x7d")

theorem shirtRequest_creates : shirtRequest.served?.any (fun
    | .createRoot _ => true
    | _ => false) = true := by
  simp only [Request.served?, Request.command, servedAt_eq]
  decide +kernel

/-- No size of the shirt is the one that is added. -/
theorem valueRequest_differs : (valueRequest "L").served?.any (fun
    | .addValue optionId input =>
      let s := (serve (.calm ⟨0, 0⟩) "shirt" (.start 16) shirtRequest).2
      decide (∀ v ∈ s.tables.live .value, v.optionId = optionId →
        Text.lowercase v.value ≠ Text.lowercase input.val.value)
    | _ => false) = true := by
  simp only [Request.served?, serve, answer, Request.command, servedAt_eq]
  decide +kernel

theorem valueRequest_sizes :
    let s := (serve (.calm ⟨0, 0⟩) "shirt" (.start 16) shirtRequest).2
    let after := (serve (.calm ⟨60, 0⟩) "size" s (valueRequest "L")).2
    (after.tables.live .option).map (fun o => (after.tables.optionView o).values.map (·.value)) =
      [["S", "M", "L"]] := by
  simp only [serve, answer, Request.command, servedAt_eq]
  decide +kernel

end Http

/-- The shirt comes in a third size, so that all its sizes differ ignoring case. -/
theorem ReachableBy.liveValues_differ_sizes :
    let s := (Http.serve (.calm ⟨0, 0⟩) "shirt" (.start 16) Http.shirtRequest).2
    let after := (Http.serve (.calm ⟨60, 0⟩) "size" s (Http.valueRequest "L")).2
    (after.tables.live .option).map (fun o => (after.tables.optionView o).values.map (·.value)) =
        [["S", "M", "L"]] ∧
      ∀ o ∈ after.tables.live .option,
        ((after.tables.optionView o).values.map fun v => Text.lowercase v.value).Nodup := by
  intro s after
  have shirt : ReachableBy (fun _ s command => command.KeepsValues s) s := by
    refine .serve (.start 16) (.calm ⟨0, 0⟩) "shirt" Http.shirtRequest fun command served _ => ?_
    have creates := Http.shirtRequest_creates
    rw [served] at creates
    cases command with
    | createRoot request => trivial
    | _ => cases creates
  have reached : ReachableBy (fun _ s command => command.KeepsValues s) after := by
    refine .serve shirt (.calm ⟨60, 0⟩) "size" (Http.valueRequest "L") fun command served _ => ?_
    have differs := Http.valueRequest_differs
    rw [served] at differs
    cases command with
    | addValue optionId input =>
      have different : ∀ v ∈ s.tables.live .value, v.optionId = optionId →
          Text.lowercase v.value ≠ Text.lowercase input.val.value := of_decide_eq_true differs
      exact different
    | _ => cases differs
  exact ⟨Http.valueRequest_sizes, reached.liveValues_differ.1⟩

/-- The shirt comes in one size twice, in upper and in lower case. -/
theorem Reachable.liveValues_collide :
    ¬ ∀ s, Reachable s → ∀ o ∈ s.tables.live .option,
      ((s.tables.optionView o).values.map fun v => Text.lowercase v.value).Nodup := by
  intro differ
  let s := (Http.serve (.calm ⟨60, 0⟩) "size"
    (Http.serve (.calm ⟨0, 0⟩) "shirt" (.start 16) Http.shirtRequest).2 (Http.valueRequest "s")).2
  have reachable : Reachable s := .serve (.serve (.start 16) _ _ _) _ _ _
  have sizes : (s.tables.live .option).map (fun o =>
      (s.tables.optionView o).values.map fun v => Text.lowercase v.value) = [["s", "m", "s"]] := by
    simp only [s, Http.serve, Http.answer, Http.Request.command, Http.servedAt_eq]
    decide +kernel
  rcases List.map_eq_singleton_iff.mp sizes with ⟨o, alone, lowered⟩
  have nodup := differ s reachable o (alone ▸ List.mem_singleton_self o)
  rw [lowered] at nodup
  exact absurd nodup (by decide)

end Shop
