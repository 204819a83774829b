import Shop.Event.Dispatch

/-!
# Deliveries

Everything that the dispatcher asks of the world stands in a log, with the answer.  The world may
answer as it likes, in view of all that it was asked before.  Whatever it answers, an event has its
webhooks looked up, each of them gets one delivery and one record of it, and nothing else is done.
-/

namespace Shop

/-- What the dispatcher asks of the world, with the answer. -/
inductive Exchange where
  | lookup (eventType : String) (answer : Except StoreFault (List Webhook))
  | delivery (webhook : Webhook) (payload : Json) (answer : Except DeliveryFault Nat)
  | record (webhookId : Int) (status : Nat) (succeeded : Bool) (answer : Except StoreFault Unit)

def Exchange.isDelivery : Exchange → Bool
  | .delivery _ _ _ => true
  | _ => false

/-- A world that answers in view of all that it was asked before. -/
structure Respondent where
  lookup : List Exchange → String → Except StoreFault (List Webhook)
  deliver : List Exchange → Webhook → Json → Except DeliveryFault Nat
  record : List Exchange → Int → Nat → Bool → Except StoreFault Unit

namespace Respondent

/-- The answers of a world, each noted in the log with what was asked. -/
def courier (r : Respondent) : Courier (StateM (List Exchange)) where
  webhooksFor eventType log :=
    let answer := r.lookup log eventType
    (answer, log ++ [.lookup eventType answer])
  deliver webhook payload log :=
    let answer := r.deliver log webhook payload
    (answer, log ++ [.delivery webhook payload answer])
  record webhookId status succeeded log :=
    let answer := r.record log webhookId status succeeded
    (answer, log ++ [.record webhookId status succeeded answer])

end Respondent

/-! ## What becomes of an event -/

/-- A delivery to a webhook: the answer to it, and the answer to its record. -/
structure Attempt where
  webhook : Webhook
  answer : Except DeliveryFault Nat
  recorded : Except StoreFault Unit

/-- A delivery carries the payload.  It is recorded with the status that it was answered with, as a
success from 200 to 300, or as a failure without a status. -/
def Attempt.exchanges (payload : Json) (a : Attempt) : List Exchange :=
  [.delivery a.webhook payload a.answer,
    match a.answer with
    | .ok status => .record a.webhook.id status (decide (200 ≤ status ∧ status ≤ 300)) a.recorded
    | .error _ => .record a.webhook.id 0 false a.recorded]

/-- An event is passed over if its webhooks cannot be looked up, or delivered to each of them. -/
inductive Treatment where
  | passedOver (fault : StoreFault)
  | delivered (attempts : List Attempt)

def Treatment.exchanges (e : Event) : Treatment → List Exchange
  | .passedOver fault => [.lookup e.eventType (.error fault)]
  | .delivered attempts =>
    .lookup e.eventType (.ok (attempts.map (·.webhook))) ::
      attempts.flatMap (·.exchanges e.payload)

/-- What is asked and answered about events, one after the other. -/
def Treatment.log (treated : List (Event × Treatment)) : List Exchange :=
  treated.flatMap fun (e, treatment) => treatment.exchanges e

/-! ## What a world makes of an event -/

namespace Respondent

variable (r : Respondent)

/-- What the answers of a world make of a delivery, from a point of the log on. -/
def attempt (payload : Json) (log : List Exchange) (webhook : Webhook) : Attempt :=
  let answer := r.deliver log webhook payload
  ⟨webhook, answer, r.record (log ++ [.delivery webhook payload answer]) webhook.id
    (Dispatcher.outcome answer).1 (Dispatcher.outcome answer).2⟩

def attempts (payload : Json) (log : List Exchange) : List Webhook → List Attempt
  | [] => []
  | webhook :: webhooks =>
    let first := r.attempt payload log webhook
    first :: attempts payload (log ++ first.exchanges payload) webhooks

def treatment (log : List Exchange) (e : Event) : Treatment :=
  match r.lookup log e.eventType with
  | .error fault => .passedOver fault
  | .ok webhooks =>
    .delivered (r.attempts e.payload (log ++ [.lookup e.eventType (.ok webhooks)]) webhooks)

def treatments (log : List Exchange) : List Event → List (Event × Treatment)
  | [] => []
  | e :: events =>
    let first := r.treatment log e
    (e, first) :: treatments (log ++ first.exchanges e) events

theorem attempts_webhooks (payload : Json) (log : List Exchange) (webhooks : List Webhook) :
    (r.attempts payload log webhooks).map (·.webhook) = webhooks := by
  induction webhooks generalizing log with
  | nil => rfl
  | cons webhook webhooks inductionHypothesis =>
    exact congrArg (webhook :: ·) (inductionHypothesis _)

theorem treatments_events (log : List Exchange) (events : List Event) :
    (r.treatments log events).map Prod.fst = events := by
  induction events generalizing log with
  | nil => rfl
  | cons e events inductionHypothesis => exact congrArg (e :: ·) (inductionHypothesis _)

end Respondent

namespace Dispatcher

variable (r : Respondent)

/-- A delivery that was answered is a success from 200 to 300. -/
theorem exchanges_eq (payload : Json) (a : Attempt) :
    a.exchanges payload = [.delivery a.webhook payload a.answer,
      .record a.webhook.id (outcome a.answer).1 (outcome a.answer).2 a.recorded] := by
  rw [Attempt.exchanges]
  cases a.answer with
  | error fault => rfl
  | ok status => simp [outcome, isDelivered]

theorem execute_run (payload : Json) (webhook : Webhook) (log : List Exchange) :
    (execute r.courier payload webhook).run log =
      ((), log ++ (r.attempt payload log webhook).exchanges payload) := by
  rw [exchanges_eq, List.append_cons]
  rfl

theorem executeAll_run (payload : Json) (webhooks : List Webhook) (log : List Exchange) :
    (executeAll r.courier payload webhooks).run log =
      ((), log ++ (r.attempts payload log webhooks).flatMap (·.exchanges payload)) := by
  induction webhooks generalizing log with
  | nil => exact congrArg (Prod.mk ()) (List.append_nil log).symm
  | cons webhook webhooks inductionHypothesis =>
    rw [executeAll, StateT.run_bind, execute_run]
    refine (inductionHypothesis _).trans ?_
    rw [Respondent.attempts, List.flatMap_cons, List.append_assoc]

/-- Each attempt is one delivery. -/
theorem countP_exchanges (e : Event) (attempts : List Attempt) :
    ((Treatment.delivered attempts).exchanges e).countP Exchange.isDelivery = attempts.length := by
  rw [Treatment.exchanges, List.countP_cons_of_neg Bool.false_ne_true]
  induction attempts with
  | nil => rfl
  | cons a attempts inductionHypothesis =>
    rw [List.flatMap_cons, List.countP_append, inductionHypothesis, exchanges_eq]
    exact Nat.add_comm 1 _

/-- A dispatcher that tried more deliveries. -/
def tried (d : Dispatcher) (exchanges : List Exchange) : Dispatcher :=
  { d with attempts := d.attempts + exchanges.countP Exchange.isDelivery }

theorem dispatch_run (d : Dispatcher) (e : Event) (log : List Exchange) :
    (dispatch r.courier d e).run log =
      (d.tried ((r.treatment log e).exchanges e), log ++ (r.treatment log e).exchanges e) := by
  have asked : (r.courier.webhooksFor e.eventType).run log =
      (r.lookup log e.eventType, log ++ [.lookup e.eventType (r.lookup log e.eventType)]) := rfl
  rw [dispatch, StateT.run_bind, asked, Respondent.treatment]
  cases r.lookup log e.eventType with
  | error fault => rfl
  | ok webhooks =>
    have found := r.attempts_webhooks e.payload
      (log ++ [.lookup e.eventType (.ok webhooks)]) webhooks
    have count := congrArg List.length found
    rw [List.length_map] at count
    change (executeAll r.courier e.payload webhooks >>= _).run _ = _
    rw [StateT.run_bind, executeAll_run, List.append_assoc, tried, countP_exchanges, count,
      Treatment.exchanges, found]
    rfl

theorem dispatchAll_run (d : Dispatcher) (events : List Event) (log : List Exchange) :
    let exchanges := Treatment.log (r.treatments log events)
    (dispatchAll r.courier d events).run log = (d.tried exchanges, log ++ exchanges) := by
  induction events generalizing d log with
  | nil => exact congrArg (Prod.mk d) (List.append_nil log).symm
  | cons e events inductionHypothesis =>
    rw [dispatchAll, StateT.run_bind, dispatch_run]
    refine (inductionHypothesis _ _).trans ?_
    simp [Respondent.treatments, Treatment.log, tried, Nat.add_assoc]

end Dispatcher

/-! ## Worlds that answer as they are told -/

namespace Respondent

/-- A world that gives the answers of a script, whatever it is asked. -/
def replay (script : List Exchange) : Respondent where
  lookup log _ := match script[log.length]? with
    | some (.lookup _ answer) => answer
    | _ => .ok []
  deliver log _ _ := match script[log.length]? with
    | some (.delivery _ _ answer) => answer
    | _ => .error .request
  record log _ _ _ := match script[log.length]? with
    | some (.record _ _ _ answer) => answer
    | _ => .ok ()

variable {script log rest : List Exchange}

/-- After what was asked so far, the script goes on with the next exchange. -/
theorem scripted_next {next : Exchange} (scripted : script = log ++ next :: rest) :
    script[log.length]? = some next := by
  rw [scripted, List.getElem?_append_right (Nat.le_refl _), Nat.sub_self]
  rfl

theorem replay_attempt (payload : Json) (a : Attempt)
    (scripted : script = log ++ (a.exchanges payload ++ rest)) :
    (replay script).attempt payload log a.webhook = a := by
  rw [Dispatcher.exchanges_eq] at scripted
  have answer : (replay script).deliver log a.webhook payload = a.answer := by
    simp only [replay, scripted_next scripted]
  have recorded (status : Nat) (succeeded : Bool) :
      (replay script).record (log ++ [.delivery a.webhook payload a.answer]) a.webhook.id
        status succeeded = a.recorded := by
    rw [List.cons_append, ← List.singleton_append, ← List.append_assoc] at scripted
    simp only [replay, scripted_next scripted]
  rw [attempt, answer, recorded]

theorem replay_attempts (payload : Json) (attempts : List Attempt)
    (scripted : script = log ++ (attempts.flatMap (·.exchanges payload) ++ rest)) :
    (replay script).attempts payload log (attempts.map (·.webhook)) = attempts := by
  induction attempts generalizing log with
  | nil => rfl
  | cons a attempts inductionHypothesis =>
    rw [List.flatMap_cons, List.append_assoc] at scripted
    have first := replay_attempt payload a scripted
    rw [← List.append_assoc] at scripted
    rw [List.map_cons, Respondent.attempts, first, inductionHypothesis scripted]

theorem replay_treatment (e : Event) (treatment : Treatment)
    (scripted : script = log ++ (treatment.exchanges e ++ rest)) :
    (replay script).treatment log e = treatment := by
  cases treatment with
  | passedOver fault =>
    have answer : (replay script).lookup log e.eventType = .error fault := by
      simp only [replay, scripted_next scripted]
    rw [Respondent.treatment, answer]
  | delivered attempts =>
    have answer : (replay script).lookup log e.eventType = .ok (attempts.map (·.webhook)) := by
      simp only [replay, scripted_next scripted]
    rw [Treatment.exchanges, List.cons_append, List.append_cons] at scripted
    rw [Respondent.treatment, answer]
    exact congrArg _ (replay_attempts e.payload attempts scripted)

theorem replay_treatments (treated : List (Event × Treatment))
    (scripted : script = log ++ (Treatment.log treated ++ rest)) :
    (replay script).treatments log (treated.map Prod.fst) = treated := by
  induction treated generalizing log with
  | nil => rfl
  | cons first treated inductionHypothesis =>
    rcases first with ⟨e, treatment⟩
    rw [Treatment.log, List.flatMap_cons, List.append_assoc] at scripted
    have next := replay_treatment e treatment scripted
    rw [← List.append_assoc] at scripted
    rw [List.map_cons, Respondent.treatments, next, inductionHypothesis scripted]

end Respondent

/-! ## Every run -/

/-- Whatever the world answers, what a dispatcher does about events is made up of what becomes of
each: its webhooks are looked up, and if that fails it is passed over, else there is for each
webhook, in their order, a delivery with the payload and right after it a record of the answer.  The
deliveries are counted.  And any failures may come together: whatever becomes of the one event or
webhook leaves open what becomes of the others. -/
theorem Dispatcher.dispatchAll_exchanges (d : Dispatcher) :
    (∀ (r : Respondent) (log : List Exchange) (events : List Event), ∃ treated,
      treated.map Prod.fst = events ∧
      (dispatchAll r.courier d events).run log =
        ({ d with attempts := d.attempts + (Treatment.log treated).countP Exchange.isDelivery },
          log ++ Treatment.log treated)) ∧
    ∀ treated, ∃ r : Respondent,
      (dispatchAll r.courier d (treated.map Prod.fst)).run [] =
        ({ d with attempts := d.attempts + (Treatment.log treated).countP Exchange.isDelivery },
          Treatment.log treated) := by
  refine ⟨fun r log events => ?_, fun treated => ?_⟩
  · exact ⟨r.treatments log events, r.treatments_events log events,
      dispatchAll_run r d events log⟩
  · have scripted : Treatment.log treated = [] ++ (Treatment.log treated ++ []) :=
      (List.append_nil _).symm
    have run := dispatchAll_run (.replay (Treatment.log treated)) d (treated.map Prod.fst) []
    rw [Respondent.replay_treatments treated scripted] at run
    exact ⟨.replay (Treatment.log treated), run⟩

end Shop
