import Shop.Catalog.Creation
import Shop.Catalog.Rehearsal
import Shop.Proofs.Catalog.Writing

/-!
# Calls that fail

Whoever answers the calls of a plan, the calls can be noted, and one of them can be made to fail.
The run then makes the same calls as a run in which nothing fails, up to the one that fails, and
ends with this failure.  What is called, in which order, follows the request.
-/

namespace Shop

/-- How a call fails: one that keeps a picture with a fault of pictures, any other with one of the
store. -/
def Call.failure (store : StoreFault) (picture : PictureFault) : Call → Failure
  | .keepImage _ _ _ => .picture picture
  | _ => .store store

/-- Which calls fail, in view of those that were made before. -/
abbrev CallFaults := List Call → Call → Option Failure

namespace CallFaults

def never : CallFaults := fun _ _ => none

/-- The call at a position fails. -/
def single (position : Nat) (store : StoreFault) (picture : PictureFault) : CallFaults := fun past c =>
  if past.length = position then some (c.failure store picture) else none

/-- The first failure among calls that come one after the other, with the calls up to it. -/
def first (faults : CallFaults) (past : List Call) : List Call → Option (Failure × List Call)
  | [] => none
  | c :: calls =>
    match faults past c with
    | some failure => some (failure, past ++ [c])
    | none => first faults (past ++ [c]) calls

theorem first_single (store : StoreFault) (picture : PictureFault) (past calls : List Call)
    (n : Nat) :
    (single (past.length + n) store picture).first past calls =
      (calls[n]?).map fun c => (c.failure store picture, past ++ calls.take (n + 1)) := by
  induction calls generalizing past n with
  | nil => rfl
  | cons c calls inductionHypothesis =>
    cases n with
    | zero => simp [first, single]
    | succ n =>
      have later : past.length + (n + 1) = (past ++ [c]).length + n := by
        rw [List.length_append, List.length_singleton, Nat.add_assoc, Nat.add_comm 1 n]
      have other : single (past.length + (n + 1)) store picture past c = none :=
        if_neg (by omega)
      rw [first, other, later]
      simp only [inductionHypothesis, List.getElem?_cons_succ, List.take_succ_cons,
        List.append_assoc, List.singleton_append]

end CallFaults

namespace Plan

variable {σ α : Type} (answer : Answerer (StateM σ)) (faults : CallFaults)

/-- Calls are noted, and those that do not fail go on to whoever answers them. -/
def noting : Answerer (StateM (σ × List Call)) := fun c (s, past) =>
  match faults past c with
  | some failure => (.error failure, s, past ++ [c])
  | none => match (answer c).run s with
    | (answered, s') => (answered, s', past ++ [c])

/-- Run a plan after certain calls; yields its result and all calls in their order. -/
def traceAfter (past : List Call) (plan : Plan α) (s : σ) : Except Failure α × List Call :=
  match (plan.run (noting answer faults)).run (s, past) with
  | (result, _, calls) => (result, calls)

/-- Run a plan; yields its result and its calls in their order. -/
def trace (plan : Plan α) (s : σ) : Except Failure α × List Call :=
  plan.traceAfter answer faults [] s

theorem traceAfter_call (past : List Call) (c : Call) (next : c.Reply → Plan α) (s : σ) :
    traceAfter answer faults past (.call c next) s =
      match faults past c with
      | some failure => (.error failure, past ++ [c])
      | none => match (answer c).run s with
        | (.ok reply, s') => traceAfter answer faults (past ++ [c]) (next reply) s'
        | (.error failure, _) => (.error failure, past ++ [c]) := by
  have noted : (noting answer faults c).run (s, past) =
      match faults past c with
      | some failure => (.error failure, s, past ++ [c])
      | none => match (answer c).run s with
        | (answered, s') => (answered, s', past ++ [c]) := rfl
  rw [traceAfter, run_call, noted]
  cases faults past c with
  | some failure => rfl
  | none => rcases (answer c).run s with ⟨_ | _, _⟩ <;> rfl

/-- A run goes on from the calls that were made before it. -/
theorem trace_prefix (past : List Call) (plan : Plan α) (s : σ) :
    past <+: (traceAfter answer faults past plan s).2 := by
  induction plan generalizing past s with
  | done a => exact List.prefix_rfl
  | refused refusal => exact List.prefix_rfl
  | call c next inductionHypothesis =>
    have noted : past <+: past ++ [c] := List.prefix_append past [c]
    rw [traceAfter_call]
    split
    · exact noted
    · split
      · exact noted.trans (inductionHypothesis _ _ _)
      · exact noted

/-- A run with failures makes the calls of the run without, up to the first that fails. -/
theorem traceAfter_faults (past : List Call) (plan : Plan α) (s : σ) (made : List Call)
    (free : (traceAfter answer .never past plan s).2 = past ++ made) :
    traceAfter answer faults past plan s =
      match faults.first past made with
      | some (failure, calls) => (.error failure, calls)
      | none => traceAfter answer .never past plan s := by
  induction plan generalizing past s made with
  | done a =>
    rw [List.self_eq_append_right.mp free]
    rfl
  | refused refusal =>
    rw [List.self_eq_append_right.mp free]
    rfl
  | call c next inductionHypothesis =>
    simp only [traceAfter_call, CallFaults.never] at free ⊢
    rcases answered : (answer c).run s with ⟨failure | reply, s'⟩
    · simp only [answered] at free
      rw [← List.append_cancel_left free, CallFaults.first]
      cases faults past c <;> rfl
    · simp only [answered] at free
      -- The free run goes on from this call, so it is the first of those that were made.
      rcases trace_prefix answer .never (past ++ [c]) (next reply) s' with ⟨rest, calls⟩
      have more : made = c :: rest := by
        rw [free, List.append_assoc] at calls
        exact (List.append_cancel_left calls).symm
      rw [more, CallFaults.first]
      cases faults past c with
      | some failure => rfl
      | none => exact inductionHypothesis reply (past ++ [c]) s' rest calls.symm

/-- Whichever call fails, the run makes the calls of the run in which none fails, up to the one that
does, and ends with its failure.  Where there is no such call, it is the same run. -/
def StopsAtFault (s : σ) (store : StoreFault) (picture : PictureFault) (plan : Plan α) : Prop :=
  let free := plan.trace answer .never s
  ∀ position, plan.trace answer (.single position store picture) s =
    match free.2[position]? with
    | some c => (.error (c.failure store picture), free.2.take (position + 1))
    | none => free

theorem stopsAtFault (s : σ) (store : StoreFault) (picture : PictureFault) (plan : Plan α) :
    plan.StopsAtFault answer s store picture := by
  unfold StopsAtFault
  intro free position
  have run := traceAfter_faults answer (.single position store picture) [] plan s free.2 rfl
  have first := CallFaults.first_single store picture [] free.2 position
  rw [List.length_nil, Nat.zero_add] at first
  rw [trace, run, first]
  cases free.2[position]? <;> rfl

/-! ## Which calls a plan makes -/

/-- A plan comes to its end with a result by making certain calls. -/
def Makes : Plan α → List Call → α → Prop
  | .done a, calls, result => result = a ∧ calls = []
  | .refused _, _, _ => False
  | .call c next, calls, result =>
    ∃ reply rest, calls = c :: rest ∧ (next reply).Makes rest result

variable {β : Type} {calls : List Call}

@[simp]
theorem makes_pure {a result : α} :
    (pure a : Plan α).Makes calls result ↔ result = a ∧ calls = [] := Iff.rfl

@[simp]
theorem makes_bind {plan : Plan α} {next : α → Plan β} {result : β} :
    (plan >>= next).Makes calls result ↔
      ∃ a first rest, calls = first ++ rest ∧ plan.Makes first a ∧ (next a).Makes rest result := by
  change (plan.bind next).Makes calls result ↔ _
  induction plan generalizing calls with
  | done a =>
    simp only [Plan.bind, Makes]
    constructor
    · intro made
      exact ⟨a, [], calls, rfl, ⟨rfl, rfl⟩, made⟩
    · rintro ⟨_, _, _, rfl, ⟨rfl, rfl⟩, made⟩
      exact made
  | refused refusal => simp [Plan.bind, Makes]
  | call c following inductionHypothesis =>
    simp only [Plan.bind, Makes, inductionHypothesis]
    constructor
    · rintro ⟨reply, _, rfl, a, first, rest, rfl, made, more⟩
      exact ⟨a, c :: first, rest, rfl, ⟨reply, first, rfl, made⟩, more⟩
    · rintro ⟨a, _, rest, rfl, ⟨reply, first, rfl, made⟩, more⟩
      exact ⟨reply, first ++ rest, rfl, a, first, rest, rfl, made, more⟩

@[simp]
theorem makes_perform {c : Call} {reply : c.Reply} :
    (perform c).Makes calls reply ↔ calls = [c] := by
  simp [perform, Makes]

@[simp]
theorem makes_ensure {decided : Except Refusal α} {a : α} :
    (ensure decided).Makes calls a ↔ decided = .ok a ∧ calls = [] := by
  cases decided with
  | ok b => simp [ensure, Makes, eq_comm]
  | error refusal => simp [ensure, Makes]

theorem makes_perform_bind {c : Call} {next : c.Reply → Plan α} {result : α} :
    (perform c >>= next).Makes calls result ↔
      ∃ reply rest, calls = c :: rest ∧ (next reply).Makes rest result := Iff.rfl

/-- A plan that is run to its end made calls that lead to its end. -/
theorem traceAfter_makes {past : List Call} {plan : Plan α} {s : σ} {result : α}
    (done : traceAfter answer faults past plan s = (.ok result, calls)) :
    ∃ made, calls = past ++ made ∧ plan.Makes made result := by
  induction plan generalizing past s with
  | done a =>
    cases done
    exact ⟨[], (List.append_nil _).symm, rfl, rfl⟩
  | refused refusal => cases done
  | call c next inductionHypothesis =>
    rw [traceAfter_call] at done
    split at done
    · cases done
    · split at done
      · rcases inductionHypothesis _ done with ⟨made, rfl, makes⟩
        exact ⟨c :: made, List.append_assoc past [c] made, _, made, rfl, makes⟩
      · cases done

theorem trace_makes {plan : Plan α} {s : σ} {result : α}
    (done : (plan.trace answer faults s).1 = .ok result) :
    plan.Makes (plan.trace answer faults s).2 result := by
  rcases traceAfter_makes answer faults (Prod.ext done rfl) with ⟨made, calls, makes⟩
  have same : (plan.trace answer faults s).2 = made := calls
  rw [same]
  exact makes

end Plan

/-! ## Which calls create a root -/

namespace Creation

open Plan

variable {calls : List Call}

theorem createImages_kinds {root : ProductRoot} {position : Nat} {images : List ResolvedImage}
    {rows : List ProductImage} (makes : (createImages root position images).Makes calls rows) :
    calls.map Call.kind = images.flatMap (fun _ => [.keepImage, .createImage]) ∧
      rows.length = images.length := by
  induction images generalizing position rows calls with
  | nil =>
    rcases makes with ⟨rfl, rfl⟩
    exact ⟨rfl, rfl⟩
  | cons image images inductionHypothesis =>
    rcases makes_bind.mp makes with ⟨row, _, _, rfl, makesFirst, makesMore⟩
    rcases makes_perform_bind.mp makesFirst with ⟨locations, _, rfl, makesRow⟩
    rcases makes_perform.mp makesRow with rfl
    rcases makes_bind.mp makesMore with ⟨more, _, _, rfl, makesRest, rfl, rfl⟩
    rcases inductionHypothesis makesRest with ⟨kinds, length⟩
    exact ⟨by simp [kinds, Call.kind], by simp [length]⟩

theorem createValues_kinds {optionId : Int} {values : List String} {rows : List OptionValue}
    (makes : (createValues optionId values).Makes calls rows) :
    calls.map Call.kind = values.map fun _ => .createValue := by
  induction values generalizing rows calls with
  | nil =>
    rcases makes with ⟨rfl, rfl⟩
    rfl
  | cons value values inductionHypothesis =>
    rcases makes_perform_bind.mp makes with ⟨row, _, rfl, makesMore⟩
    rcases makes_bind.mp makesMore with ⟨more, _, _, rfl, makesRest, rfl, rfl⟩
    simp [inductionHypothesis makesRest, Call.kind]

theorem createOptions_kinds {rootId : Int} {inputs : List OptionInput} {views : List OptionView}
    (makes : (createOptions rootId inputs).Makes calls views) :
    calls.map Call.kind = inputs.flatMap fun input =>
      .createOption :: input.values.map fun _ => .createValue := by
  induction inputs generalizing views calls with
  | nil =>
    rcases makes with ⟨rfl, rfl⟩
    rfl
  | cons input inputs inductionHypothesis =>
    rcases makes_perform_bind.mp makes with ⟨(option : ProductOption), _, rfl, makesMore⟩
    rcases makes_bind.mp makesMore with ⟨values, _, _, rfl, makesValues, makesOthers⟩
    rcases makes_bind.mp makesOthers with ⟨more, _, _, rfl, makesRest, rfl, rfl⟩
    simp [inductionHypothesis makesRest, createValues_kinds makesValues, Call.kind]

theorem persistVariants_kinds {variants : List (NewProduct × List OptionValue)}
    {views : List ProductView} (makes : (persistVariants variants).Makes calls views) :
    calls.map Call.kind = (List.replicate views.length [.createProduct, .linkValues]).flatten ∧
      views.length = variants.length := by
  induction variants generalizing views calls with
  | nil =>
    rcases makes with ⟨rfl, rfl⟩
    exact ⟨rfl, rfl⟩
  | cons variant variants inductionHypothesis =>
    rcases makes_perform_bind.mp makes with ⟨(row : Product), _, rfl, makesLinks⟩
    rcases makes_perform_bind.mp makesLinks with ⟨_, _, rfl, makesMore⟩
    rcases makes_bind.mp makesMore with ⟨more, _, _, rfl, makesRest, rfl, rfl⟩
    rcases inductionHypothesis makesRest with ⟨kinds, length⟩
    exact ⟨by simp [kinds, Call.kind, List.replicate_succ], by simp [length]⟩

theorem setPrimaryImage_kinds {view shown : RootView} {imageId : Option Int}
    (makes : (setPrimaryImage view imageId).Makes calls shown) :
    calls.map Call.kind = (if imageId = none then [] else
        .setRootImage :: if view.products.length = 0 then [] else [.setProductImage]) ∧
      shown.products.length = view.products.length := by
  cases imageId with
  | none =>
    rcases makes with ⟨rfl, rfl⟩
    exact ⟨rfl, rfl⟩
  | some imageId =>
    rcases makes_perform_bind.mp makes with ⟨_, _, rfl, makesMore⟩
    cases products : view.products with
    | nil =>
      simp only [products] at makesMore
      rcases makesMore with ⟨rfl, rfl⟩
      exact ⟨by simp [Call.kind], rfl⟩
    | cons first others =>
      simp only [products] at makesMore
      rcases makes_perform_bind.mp makesMore with ⟨_, _, rfl, rfl, rfl⟩
      exact ⟨by simp [Call.kind], rfl⟩

theorem primaryImage_eq_none_iff {images : List ResolvedImage} {rows : List ProductImage} :
    primaryImage images rows = none ↔ rows = [] := by
  cases rows with
  | nil => simp [primaryImage]
  | cons row rows => simp [primaryImage]

/-- The kinds of the calls that create a root with its pictures and a number of products. -/
def kinds (request : RootRequest) (images : List ResolvedImage) (products : Nat) : List CallKind :=
  .createRoot ::
    (images.flatMap (fun _ => [.keepImage, .createImage]) ++
      request.options.flatMap (fun input =>
        .createOption :: input.values.map fun _ => .createValue) ++
      (List.replicate products [.createProduct, .linkValues]).flatten ++
      if images = [] then [] else
        .setRootImage :: if products = 0 then [] else [.setProductImage])

theorem createRoot_kinds {request : RootRequest} {images : List ResolvedImage} {now : Instant}
    {view : RootView} (makes : (createRoot request images now).Makes calls view) :
    calls.map Call.kind = kinds request images view.products.length := by
  rcases makes_bind.mp makes with ⟨_, _, _, rfl, limited, makesRoot⟩
  rcases makes_ensure.mp limited with ⟨_, rfl⟩
  rcases makes_perform_bind.mp makesRoot with ⟨(root : ProductRoot), _, rfl, makesImages⟩
  rcases makes_bind.mp makesImages with ⟨rows, _, _, rfl, imaged, makesOptions⟩
  rcases makes_bind.mp makesOptions with ⟨options, _, _, rfl, optioned, makesVariants⟩
  rcases makes_bind.mp makesVariants with ⟨planned, _, _, rfl, ensured, makesProducts⟩
  rcases makes_ensure.mp ensured with ⟨_, rfl⟩
  rcases makes_bind.mp makesProducts with ⟨products, _, _, rfl, persisted, primary⟩
  rcases createImages_kinds imaged with ⟨imageKinds, pictures⟩
  rcases setPrimaryImage_kinds primary with ⟨primaryKinds, shown⟩
  have unpictured : primaryImage images rows = none ↔ images = [] := by
    rw [primaryImage_eq_none_iff, ← List.length_eq_zero_iff, pictures, List.length_eq_zero_iff]
  simp only [unpictured] at primaryKinds
  rw [kinds, shown]
  simp only [List.nil_append, List.map_cons, List.map_append, imageKinds,
    createOptions_kinds optioned, (persistVariants_kinds persisted).1, primaryKinds,
    List.append_assoc]
  rfl

/-- Whoever answers, and whichever call fails: creating a root makes the same calls as if none
failed, up to the one that does, and ends with the failure of the store or of pictures.  The same
holds of writing products alone.  If all goes well, the calls are those for the root, its pictures,
its options with their values, its products with their links and the primary picture. -/
theorem calls_upToFault {σ : Type} (answer : Answerer (StateM σ)) (s : σ) (store : StoreFault)
    (picture : PictureFault) :
    (∀ (request : RootRequest) (images : List ResolvedImage) (clock now : Instant),
      let plan := createRoot (request.withDefaults clock) images now
      plan.StopsAtFault answer s store picture ∧
      ∀ view, (plan.trace answer .never s).1 = .ok view →
        (plan.trace answer .never s).2.map Call.kind =
          kinds request images view.products.length) ∧
    ∀ variants : List (NewProduct × List OptionValue),
      let plan := persistVariants variants
      plan.StopsAtFault answer s store picture ∧
      ∀ views, (plan.trace answer .never s).1 = .ok views →
        (plan.trace answer .never s).2.map Call.kind =
          (List.replicate variants.length [.createProduct, .linkValues]).flatten := by
  refine ⟨fun request images clock now => ⟨stopsAtFault answer s store picture _, ?_⟩,
    fun variants => ⟨stopsAtFault answer s store picture _, ?_⟩⟩
  · intro view done
    have made := createRoot_kinds (trace_makes answer .never done)
    exact made
  · intro views done
    rcases persistVariants_kinds (trace_makes answer .never done) with ⟨kinds, length⟩
    rw [← length]
    exact kinds

end Creation
end Shop
