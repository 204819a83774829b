import Shop.Proofs.Service.Keeping

/-!
# Consistency of discounts

A discount that requires a code should have one, and a discount that expires should expire after it
starts.  Both rules are checked of a new discount, against the times of the request.  The store
keeps times by the microsecond, so a window may be lost on the way to it.  Neither rule is checked
when a discount changes, whichever of its attributes the change names.

So live discounts stay consistent exactly as long as every new window is still one as it is stored,
and every change makes a consistent discount of the one it finds.
-/

namespace Shop

/-! ## The rules and the stored row -/

/-- What is checked of a request: its code, and its window by the clock of the service. -/
theorem DiscountRequest.checkConsistency_eq_ok_iff {r : DiscountRequest} {clock : Instant} :
    r.checkConsistency clock = .ok () ↔
      (r.requiresCode = true → Text.isBlank r.code = false) ∧
      ∀ expiresOn, r.expiresOn = some expiresOn →
        (r.startsOn.getD clock).before expiresOn = true := by
  unfold checkConsistency
  cases r.requiresCode <;> cases Text.isBlank r.code <;> cases r.expiresOn <;> simp

/-- Whether the window of a request is one as it is stored at a time. -/
def DiscountRequest.StoredWindow (r : DiscountRequest) (now : Instant) : Prop :=
  ∀ expiresOn, r.expiresOn = some expiresOn →
    ((r.startsOn.map (·.stored)).getD now).before expiresOn.stored = true

instance (r : DiscountRequest) (now : Instant) : Decidable (r.StoredWindow now) :=
  inferInstanceAs (Decidable (∀ expiresOn ∈ r.expiresOn,
    ((r.startsOn.map (·.stored)).getD now).before expiresOn.stored = true))

theorem DiscountRequest.row_consistent_iff {r : DiscountRequest} {now : Instant} {id : Int} :
    (r.row now id).Consistent ↔
      (r.requiresCode = true → Text.isBlank r.code = false) ∧ r.StoredWindow now := by
  unfold Discount.Consistent StoredWindow row
  cases r.expiresOn <;> simp

/-- Whether all live discounts are consistent. -/
def Tables.DiscountsConsistent (t : Tables) : Prop := ∀ d ∈ t.live .discount, d.Consistent

/-! ## Commands that write discounts -/

namespace Service

open Shop.Action

variable {c : Context} {p q : Progress}

theorem createDiscount_ok {request : DiscountRequest} {reply : Reply}
    (done : (createDiscount request).perform c p = (.ok reply, q)) :
    reply.status = 201 ∧ request.checkConsistency c.clock = .ok () ∧
      ∃ id, q.session.tables = p.session.tables ++ .only .discount [request.row c.now id] := by
  rcases perform_bind_ok.mp done with ⟨found, first, asked, rest⟩
  cases asked
  rcases perform_bind_ok.mp rest with ⟨_, second, ensured, rest⟩
  rcases perform_bind_ok.mp rest with ⟨discount, third, inserted, returned⟩
  cases returned
  cases checked : request.checkConsistency c.clock with
  | error refusal =>
    rw [checked] at ensured
    cases ensured
  | ok passed =>
    rw [checked] at ensured
    cases ensured
    rcases perform_insert_ok (k := .discount) inserted with ⟨⟨id, rfl⟩, tables⟩
    exact ⟨rfl, rfl, id, tables⟩

theorem createDiscount_atomic (request : DiscountRequest) : (createDiscount request).Atomic := by
  refine .after .context fun _ => .after (.ensure _) fun _ => .before ?_ fun _ => .pure _
  exact .insert (k := .discount) (fun _ _ => rfl) fun _ _ => rfl

theorem changeDiscount_ok {id : Int} {patch : DiscountPatch} {reply : Reply}
    (done : (changeDiscount id patch).perform c p = (.ok reply, q)) :
    reply.status = 200 ∧ q.session.tables = p.session.tables.put .discount
      ((p.session.tables.rows .discount).map fun d =>
        if Kind.live .discount d && d.id == id then patch.stored.apply c.now d else d) := by
  rcases perform_requireChanged_ok (k := .discount) done with ⟨discount, _, middle, tables, returned⟩
  cases returned
  exact ⟨rfl, tables⟩

theorem changeDiscount_atomic (id : Int) (patch : DiscountPatch) :
    (changeDiscount id patch).Atomic := by
  refine .change (k := .discount) ?_ fun _ => .pure _
  exact fun _ _ => ⟨rfl, rfl, rfl⟩

end Service

/-! ## What commands make of consistent discounts -/

/-- A command that, if it succeeds, leaves the discount consistent that it writes: the window of a
new one is one as it is stored, and the one that is changed is consistent as a whole. -/
def Command.KeepsDiscounts (c : Context) (s : Session) : Command → Prop
  | .createDiscount request => request.val.StoredWindow c.now
  | .changeDiscount id patch =>
    ∀ d ∈ s.tables.live .discount, d.id = id → (patch.val.stored.apply c.now d).Consistent
  | _ => True

namespace Tables.DiscountsConsistent

variable {t : Tables}

theorem append_iff (consistent : t.DiscountsConsistent) {d : Discount}
    (alive : Kind.live .discount d = true) :
    (t ++ .only .discount [d]).DiscountsConsistent ↔ d.Consistent := by
  have lives : (t ++ .only .discount [d]).live .discount = t.live .discount ++ [d] := by
    rw [live_append]
    exact congrArg _ (List.filter_cons_of_pos alive)
  unfold DiscountsConsistent
  rw [lives]
  constructor
  · intro all
    exact all d (List.mem_append_right _ (List.mem_singleton_self d))
  · intro new other member
    rcases List.mem_append.mp member with old | added
    · exact consistent other old
    · rw [List.mem_singleton.mp added]
      exact new

theorem change_iff (consistent : t.DiscountsConsistent) (id : Int) (patch : DiscountPatch)
    (now : Instant) :
    (t.put .discount ((t.rows .discount).map fun d =>
        if Kind.live .discount d && d.id == id then patch.apply now d else d)).DiscountsConsistent ↔
      ∀ d ∈ t.live .discount, d.id = id → (patch.apply now d).Consistent := by
  have keeps (d : Discount) : Kind.live .discount
      (if Kind.live .discount d && d.id == id then patch.apply now d else d) =
        Kind.live .discount d := by
    split <;> rfl
  unfold DiscountsConsistent
  rw [live_put_map t .discount keeps, List.forall_mem_map]
  refine forall₂_congr fun d member => ?_
  rw [(mem_live.mp member).2, Bool.true_and]
  by_cases named : d.id = id
  · simp [named]
  · simp [named, consistent d member]

end Tables.DiscountsConsistent

/-- Where the live discounts are consistent, a command leaves them so exactly if it fails or leaves
the discount consistent that it writes. -/
theorem Command.discountsConsistent_iff (command : Command) (c : Context) {s : Session}
    (consistent : s.tables.DiscountsConsistent) :
    (command.action.serve c s).2.tables.DiscountsConsistent ↔
      ((command.action.serve c s).1.status < 400 → command.KeepsDiscounts c s) := by
  cases command with
  | createDiscount request =>
    refine Action.serve_kept_iff consistent (Service.createDiscount_atomic request.val)
      fun reply q ran => ?_
    rcases Service.createDiscount_ok ran with ⟨status, checked, id, tables⟩
    have coded := (DiscountRequest.checkConsistency_eq_ok_iff.mp checked).1
    refine ⟨by rw [status]; decide, ?_⟩
    rw [tables]
    refine (consistent.append_iff rfl).trans (DiscountRequest.row_consistent_iff.trans ?_)
    exact and_iff_right coded
  | changeDiscount id patch =>
    refine Action.serve_kept_iff consistent (Service.changeDiscount_atomic id patch.val)
      fun reply q ran => ?_
    rcases Service.changeDiscount_ok ran with ⟨status, tables⟩
    refine ⟨by rw [status]; decide, ?_⟩
    rw [tables]
    exact consistent.change_iff id patch.val.stored c.now
  -- No other command writes discounts.
  | _ =>
    refine iff_of_true (fun d alive => consistent d ?_) fun _ => trivial
    exact (Command.live_sublist _ c s (by decide) rfl).subset alive

/-! ## Every reachable session -/

/-- Where the live discounts are consistent, a request leaves them so exactly if no command that
answers it with success leaves inconsistent what it writes. -/
theorem Http.serve_discountsConsistent_iff (c : Context) (fresh : String) {s : Session}
    (r : Http.Request) (consistent : s.tables.DiscountsConsistent) :
    (Http.serve c fresh s r).2.tables.DiscountsConsistent ↔
      ∀ command, r.served? = some command → (Http.serve c fresh s r).1.status < 400 →
        command.KeepsDiscounts c s :=
  Http.serve_kept_iff c fresh r consistent fun command => command.discountsConsistent_iff c consistent

theorem discountLaw :
    Law Tables.DiscountsConsistent fun c s command => command.KeepsDiscounts c s where
  starts := List.forall_mem_nil _
  said := by
    intro t t' same consistent
    unfold Tables.DiscountsConsistent Tables.live
    rw [same .discount (by decide)]
    exact consistent
  command _ consistent c command := command.discountsConsistent_iff c consistent

theorem ReachableBy.discountsConsistent {s : Session}
    (reached : ReachableBy (fun c s command => command.KeepsDiscounts c s) s) :
    s.tables.DiscountsConsistent :=
  discountLaw.holds reached

/-- In every session to which commands lead that keep discounts, every live discount that requires a
code has one, and every one that expires does so after it starts.  A further request leaves it so
exactly if it fails, or keeps discounts too. -/
theorem ReachableBy.liveDiscounts_consistent {s : Session}
    (reached : ReachableBy (fun c s command => command.KeepsDiscounts c s) s) :
    (∀ d ∈ s.tables.live .discount, d.Consistent) ∧
    ∀ c fresh r, (∀ d ∈ (Http.serve c fresh s r).2.tables.live .discount, d.Consistent) ↔
      ∀ command, r.served? = some command → (Http.serve c fresh s r).1.status < 400 →
        command.KeepsDiscounts c s :=
  ⟨reached.discountsConsistent, fun c fresh r =>
    Http.serve_discountsConsistent_iff c fresh r reached.discountsConsistent⟩

namespace Http

/-- A request for a discount with a code, from the start of a day to its end. -/
def dayRequest : Request :=
  jsonRequest .post "/v1/discount"
    ("\x7b\"name\": \"Day\", \"discount_type\": \"percentage\", \"amount\": 5, " ++
      "\"requires_code\": true, \"code\": \"DAY\", " ++
      "\"starts_on\": \"2024-05-01T00:00:00Z\", \"expires_on\": \"2024-05-02T00:00:00Z\"\x7d")

/-- The request for a discount of a day is understood, and its window is one as it is stored. -/
theorem dayRequest_served : dayRequest.served?.any (fun
    | .createDiscount request => decide (request.val.StoredWindow ⟨0, 0⟩)
    | _ => false) = true := by
  simp only [Request.served?, Request.command, servedAt_eq]
  decide +kernel

theorem dayRequest_live :
    ((serve (.calm ⟨0, 0⟩) "day" (.start 16) dayRequest).2.tables.live .discount).map
        (fun d => (d.id, d.requiresCode, d.expiresOn.isSome)) = [(1, true, true)] := by
  simp only [serve, answer, Request.command, servedAt_eq]
  decide +kernel

end Http

/-- A discount of a day with a code is live in the end, and all live discounts are consistent. -/
theorem ReachableBy.liveDiscounts_consistent_day :
    let s := (Http.serve (.calm ⟨0, 0⟩) "day" (.start 16) Http.dayRequest).2
    ((s.tables.live .discount).map fun d => (d.id, d.requiresCode, d.expiresOn.isSome)) =
        [(1, true, true)] ∧
      ∀ d ∈ s.tables.live .discount, d.Consistent := by
  intro s
  have reached : ReachableBy (fun c s command => command.KeepsDiscounts c s) s := by
    refine .serve (.start 16) (.calm ⟨0, 0⟩) "day" Http.dayRequest fun command served _ => ?_
    have windowed := Http.dayRequest_served
    rw [served] at windowed
    cases command with
    | createDiscount request =>
      have window : request.val.StoredWindow ⟨0, 0⟩ := of_decide_eq_true windowed
      exact window
    | _ => cases windowed
  exact ⟨Http.dayRequest_live, reached.liveDiscounts_consistent.1⟩

namespace Http

/-- A request for a discount without a code. -/
def springRequest : Request :=
  jsonRequest .post "/v1/discount"
    "\x7b\"name\": \"Spring\", \"discount_type\": \"percentage\", \"amount\": 5\x7d"

/-- A request that the first discount require a code from now on. -/
def codeRequest : Request :=
  jsonRequest .patch "/v1/discount/1" "\x7b\"requires_code\": true\x7d"

end Http

/-- The first discount comes to require a code that it does not have. -/
theorem Reachable.liveDiscounts_inconsistent :
    ¬ ∀ s, Reachable s → ∀ d ∈ s.tables.live .discount, d.Consistent := by
  intro consistent
  let s := (Http.serve (.calm ⟨60, 0⟩) "code"
    (Http.serve (.calm ⟨0, 0⟩) "spring" (.start 16) Http.springRequest).2 Http.codeRequest).2
  have reachable : Reachable s := .serve (.serve (.start 16) _ _ _) _ _ _
  have lacking : (s.tables.live .discount).any
      (fun d => d.requiresCode && Text.isBlank d.code) = true := by
    simp only [s, Http.serve, Http.answer, Http.Request.command, Http.servedAt_eq]
    decide +kernel
  rcases List.any_eq_true.mp lacking with ⟨d, alive, blank⟩
  rcases Bool.and_eq_true_iff.mp blank with ⟨requires, blank⟩
  rw [(consistent s reachable d alive).1 requires] at blank
  cases blank

end Shop
