import Shop.Proofs.Event.Bus
import Shop.Proofs.Http.Routing
import Shop.Proofs.Service.History
import Shop.Proofs.Service.ReadBack

/-!
# What is told, and what is published

A root that was created and a product that was changed or archived are told twice: to the client in
the answer, and to the webhooks in an event.  The event is published last, after everything that can
fail, and with the same value as the answer.  So over any history the events that were published are
those that the answers call for, one for one and in the order of the requests.
-/

namespace Shop

/-! ## Actions that publish one event -/

namespace Action

/-- An action that publishes one event if it ends well, of a type and with what it replies, and none
if it fails. -/
structure Tells (a : Action Reply) (eventType : String) (success : Nat) : Prop where
  told : ∀ {c p reply q}, a.perform c p = (.ok reply, q) →
    reply.status = success ∧ ∃ body event, reply.body = some body ∧
      event.eventType = eventType ∧ event.payload.Same body ∧
      q.session.bus = p.session.bus.publish event
  silent : ∀ {c p failure q}, a.perform c p = (.error failure, q) → q.session.bus = p.session.bus

namespace Tells

variable {eventType : String} {success : Nat}

/-- The event may come after anything that publishes none. -/
theorem after {a : Action α} {next : α → Action Reply} (first : a.Within (· ≠ .publish))
    (rest : ∀ x, (next x).Tells eventType success) : (a >>= next).Tells eventType success := by
  have unheard (c : Context) (p : Progress) : (a.perform c p).2.session.bus = p.session.bus :=
    (first c p).bus_eq fun loud => loud rfl
  constructor
  · intro c p reply q done
    rcases perform_bind_ok.mp done with ⟨x, middle, ran, done⟩
    have same := unheard c p
    rw [ran] at same
    rw [← same]
    exact (rest x).told done
  · intro c p failure q failed
    have same := unheard c p
    rcases perform_bind_error.mp failed with failed | ⟨x, middle, ran, failed⟩
    · rwa [failed] at same
    · rw [ran] at same
      exact ((rest x).silent failed).trans same

/-- What is replied is published just before. -/
theorem publish {body : Json} (keyed : body.Keyed) :
    Tells (do Action.publish eventType body; return ⟨success, some body⟩) eventType success := by
  constructor
  · rintro c p reply q ⟨⟩
    exact ⟨rfl, body, .of eventType body c.clock, rfl, rfl, keyed.sorted_same, rfl⟩
  · rintro c p failure q ⟨⟩

end Tells
end Action

namespace Service

open Shop.Action

theorem createRoot_tells (request : RootRequest) :
    (createRoot request).Tells Rule.productCreated 201 := by
  refine .after (.ensure _) fun _ => .after (.ensure _) fun _ => .after .context fun c => ?_
  refine .after (.statement (.passing (.select _) _)) fun taken =>
    .after (.ensureFree _ _) fun _ => ?_
  refine .after (resolveFrom_within _ _) fun images => ?_
  refine .after (.transaction ((plan_within _).mono ?_)) fun view => .publish view.toJson_keyed
  rintro e may rfl
  revert may
  decide

theorem changeProduct_tells (sku : String) (patch : ProductPatch) :
    (changeProduct sku patch).Tells Rule.productUpdated 200 := by
  refine .after (.statement (.passing (.select _) _)) fun found => ?_
  refine .after (.require _ _) fun existing => ?_
  extract_lets next
  have rest : ∀ x, Action.Tells (next x) Rule.productUpdated 200 := by
    intro _
    refine .after (.statement (.passing (.updateLive ?_ ?_) _)) fun changed => ?_
    · simp
    · exact fun _ _ => ⟨rfl, rfl, rfl⟩
    · exact .after (.require _ _) fun changed => .after (showOne_within _) fun view =>
        .publish view.toJson_keyed
  split
  · exact rest ()
  · split
    · exact rest ()
    · exact .after (.statement (.passing (.select _) _)) fun _ => .after (.ensureFree _ _) rest

/-- The values of an archived product are read before it is archived, and told with it. -/
theorem archiveProduct_tells (sku : String) :
    (archiveProduct sku).Tells Rule.productArchived 200 := by
  refine .after (loadProduct_within sku) fun existing => ?_
  refine .after (.transaction ?_) fun product => .publish (ProductView.toJson_keyed _)
  refine .bind (.statement (.archiveAll (by simp) _)) fun _ => ?_
  exact .bind (.statement (.archive (by simp) _)) fun _ => .require _ _

end Service

/-- A command of which an event tells publishes it if it succeeds. -/
theorem Command.tells {command : Command} {eventType : String} {success : Nat}
    (told : command.told? = some (eventType, success)) :
    command.action.Tells eventType success := by
  cases command with
  | createRoot request =>
    cases told
    exact Service.createRoot_tells request.val
  | changeProduct sku patch =>
    cases told
    exact Service.changeProduct_tells sku patch.val
  | archiveProduct sku =>
    cases told
    exact Service.archiveProduct_tells sku
  | _ => cases told

/-- Every other command publishes nothing, whether it succeeds or fails. -/
theorem Command.bus_eq_of_untold {command : Command} (untold : command.told? = none) (c : Context)
    (s : Session) : (command.action.serve c s).2.bus = s.bus := by
  refine (command.within.serve c s).bus_eq ?_
  cases command with
  | createRoot | changeProduct | archiveProduct => cases untold
  | _ => simp [effects]

/-! ## Exchanges -/

/-- A request and its answer. -/
structure Http.Exchange where
  request : Request
  response : Response

namespace Http

/-- The type of the event that an exchange calls for: a root was created, or a product changed or
archived.  Exchanges that ended otherwise, and all others, call for none. -/
def Exchange.event? (x : Exchange) : Option String :=
  match x.request.told? with
  | some (eventType, success) => if x.response.status = success then some eventType else none
  | none => none

/-- An event is the one that an exchange calls for, and its payload is what was answered. -/
structure Exchange.CallsFor (x : Exchange) (event : Event) : Prop where
  type : x.event? = some event.eventType
  payload : ∃ body, x.response.body = .json body ∧ event.payload.Same body

/-- Serving a request publishes what the exchange calls for, and nothing if it calls for none. -/
theorem serve_publishes (c : Context) (fresh : String) (s : Session) (r : Request) :
    let x : Exchange := ⟨r, (serve c fresh s r).1⟩
    let after := (serve c fresh s r).2
    (x.event? = none ∧ after.bus = s.bus) ∨
      ∃ event, x.CallsFor event ∧ after.bus = s.bus.publish event := by
  intro x after
  cases told : r.told? with
  | none =>
    refine .inl ⟨by simp only [Exchange.event?, x, told], ?_⟩
    rcases served : r.served? with _ | command
    · exact congrArg Session.bus (serve_unserved c fresh s served)
    · have untold := (Request.told?_of_served served).symm.trans told
      rw [← Command.bus_eq_of_untold untold c s, ← (serve_served c fresh s served).2]
  | some call =>
    rcases call with ⟨eventType, success⟩
    have called : x.event? = if x.response.status = success then some eventType else none := by
      simp only [Exchange.event?, x, told]
    rcases served : r.served? with _ | command
    · refine .inl ⟨called.trans (if_neg ?_), congrArg Session.bus (serve_unserved c fresh s served)⟩
      exact Request.status_of_unserved served told
    have tells := Command.tells ((Request.told?_of_served served).symm.trans told)
    rcases r.of_told? told with ⟨succeeds, other, bodied⟩
    rcases Request.served?_eq_some.mp served with ⟨_, outside, stands⟩
    rcases serve_command (c := c) (s := s) fresh other bodied outside stands with
      ⟨status, shows, session⟩
    rcases Action.serve_cases command.action c s with
      ⟨failure, q, failed, replied⟩ | ⟨reply, q, ran, replied⟩
    · rw [replied] at status session
      refine .inl ⟨called.trans (if_neg ?_), ?_⟩
      · have failing : 400 ≤ x.response.status := status ▸ failure.status_ge
        omega
      · exact (congrArg Session.bus session).trans (tells.silent failed)
    · rw [replied] at status shows session
      rcases tells.told ran with ⟨succeeded, body, event, shown, type, same, published⟩
      refine .inr ⟨event, ⟨?_, body, shows body shown, same⟩, ?_⟩
      · rw [called, type]
        exact if_pos (status.trans succeeded)
      · exact (congrArg Session.bus session).trans published

end Http

/-! ## What can still be received -/

/-- The events that a reader at a cursor can still receive. -/
def Bus.unread (b : Bus α) (cursor : Nat) : List α := b.kept.drop (cursor - b.oldest)

namespace Bus

variable {b : Bus α} {events : List α}

theorem unread_published (b : Bus α) : b.unread b.published = [] := by
  have kept := b.kept_le_published
  refine List.drop_of_length_le ?_
  rw [oldest]
  omega

/-- A bus that keeps any events keeps the last, so a reader that had read all before receives it. -/
theorem Holds.unread_publish (holds : b.Holds events) (isOpen : b.closed = false)
    (fits : 0 < b.capacity) (a : α) : (b.publish a).unread b.published = [a] := by
  have next := holds.publish isOpen a
  have last : events.length + 1 - b.capacity + (events.length - (events.length + 1 - b.capacity)) =
      events.length := by omega
  rw [unread, next.oldest, next.kept, List.drop_drop, holds.published, capacity_publish,
    List.length_append, List.length_singleton, last, List.drop_left]

end Bus

theorem Reachable.capacity_pos {s : Session} (reachable : Reachable s) : 0 < s.bus.capacity := by
  refine reachable.preserves (fun x => 0 < x.bus.capacity) (fun queueCapacity => ?_)
    fun x y step before => ?_
  · exact Nat.pos_of_isPowerOfTwo (Nat.isPowerOfTwo_nextPowerOfTwo _)
  · cases step with
    | publish may event => exact (x.bus.capacity_publish event).symm ▸ before
    | _ => exact before

/-! ## Histories -/

namespace Session

/-- What was asked and answered in a history, the first exchange first. -/
def exchanges (queueCapacity : Nat) : List Happening → List Http.Exchange
  | [] => []
  | .served c fresh r :: earlier =>
    exchanges queueCapacity earlier ++ [⟨r, (Http.serve c fresh (since queueCapacity earlier) r).1⟩]
  | .delivered _ _ _ _ :: earlier => exchanges queueCapacity earlier

/-- What a reader receives that reads after everything that happens, the first event first. -/
def events (queueCapacity : Nat) : List Happening → List Event
  | [] => []
  | latest :: earlier =>
    events queueCapacity earlier ++
      (since queueCapacity (latest :: earlier)).bus.unread (since queueCapacity earlier).bus.published

variable {queueCapacity : Nat} {earlier : List Happening}

theorem events_of_bus_eq (latest : Happening)
    (same : ((since queueCapacity earlier).after latest).bus = (since queueCapacity earlier).bus) :
    events queueCapacity (latest :: earlier) = events queueCapacity earlier := by
  change _ ++ ((since queueCapacity earlier).after latest).bus.unread _ = _
  rw [same, Bus.unread_published, List.append_nil]

theorem events_of_publish (latest : Happening) {event : Event}
    (holds : (since queueCapacity earlier).bus.Holds (events queueCapacity earlier))
    (published : ((since queueCapacity earlier).after latest).bus =
      (since queueCapacity earlier).bus.publish event) :
    events queueCapacity (latest :: earlier) = events queueCapacity earlier ++ [event] := by
  have reachable := since_reachable queueCapacity earlier
  change _ ++ ((since queueCapacity earlier).after latest).bus.unread _ = _
  rw [published, holds.unread_publish reachable.open reachable.capacity_pos]

/-- What happens publishes at most one event, which is received at once. -/
theorem holds_events (queueCapacity : Nat) (history : List Happening) :
    (since queueCapacity history).bus.Holds (events queueCapacity history) := by
  induction history with
  | nil => exact .new queueCapacity
  | cons latest earlier inductionHypothesis =>
    have kept (same : ((since queueCapacity earlier).after latest).bus =
        (since queueCapacity earlier).bus) :
        (since queueCapacity (latest :: earlier)).bus.Holds
          (events queueCapacity (latest :: earlier)) := by
      rw [events_of_bus_eq latest same]
      change ((since queueCapacity earlier).after latest).bus.Holds _
      exact same ▸ inductionHypothesis
    cases latest with
    | served c fresh r =>
      rcases Http.serve_publishes c fresh (since queueCapacity earlier) r with
        ⟨_, same⟩ | ⟨event, _, published⟩
      · exact kept same
      · rw [events_of_publish (.served c fresh r) inductionHypothesis published]
        change (Http.serve c fresh (since queueCapacity earlier) r).2.bus.Holds _
        rw [published]
        exact inductionHypothesis.publish (since_reachable queueCapacity earlier).open event
    | delivered c answered d event =>
      refine kept ((Service.dispatch_within answered d event c (.start _)).bus_eq ?_)
      simp

/-- The events that are published in a history are, in the order of the requests, exactly those that
the exchanges call for: one for each root that a request created and for each product that one
changed or archived, with a payload equal to what was answered.  The bus keeps the last of them. -/
theorem events_of_exchanges (queueCapacity : Nat) (history : List Happening) :
    (since queueCapacity history).bus.Holds (events queueCapacity history) ∧
      List.Forall₂ Http.Exchange.CallsFor
        ((exchanges queueCapacity history).filter (·.event?.isSome))
        (events queueCapacity history) := by
  refine ⟨holds_events queueCapacity history, ?_⟩
  induction history with
  | nil => exact .nil
  | cons latest earlier inductionHypothesis =>
    cases latest with
    | served c fresh r =>
      rw [exchanges, List.filter_append]
      rcases Http.serve_publishes c fresh (since queueCapacity earlier) r with
        ⟨uncalled, same⟩ | ⟨event, calls, published⟩
      · rw [events_of_bus_eq (.served c fresh r) same,
          List.filter_singleton, uncalled]
        exact (List.append_nil _).symm ▸ inductionHypothesis
      · rw [events_of_publish (.served c fresh r) (holds_events queueCapacity earlier)
          published, List.filter_singleton, calls.type]
        exact List.rel_append inductionHypothesis (.cons calls .nil)
    | delivered c answered d event =>
      rw [events_of_bus_eq]
      · exact inductionHypothesis
      · exact (Service.dispatch_within answered d event c (.start _)).bus_eq (by simp)

/-- The shirt is created and its small size archived; that there is no coat to archive is told to
nobody but the client. -/
example : (events 16 [
    .served (.calm ⟨120, 0⟩) "gone" (Http.archiveRequest "/v1/product/shirt_s"),
    .served (.calm ⟨60, 0⟩) "coat" (Http.archiveRequest "/v1/product/coat"),
    .served (.calm ⟨0, 0⟩) "shirt" Http.shirtRequest]).map (·.eventType) =
      ["product_created", "product_archived"] := by
  simp only [events, since, after, Http.serve, Http.answer, Http.Request.command,
    Http.servedAt_eq]
  decide +kernel

end Session
end Shop
