import Shop.Event.Dispatch
import Shop.Proofs.Event.Loop

/-!
# Draining the bus

A dispatcher that is cancelled, or whose bus is closed, does not wait for more.  The events that its
loop takes until it stops are those that draining the bus delivers, one after the other.
-/

namespace Shop

namespace Dispatcher

variable {m : Type → Type} [Monad m] (courier : Courier m)

/-- Draining from where a loop stands. -/
def drainAt (l : Loop Event) (d : Dispatcher) : m Dispatcher :=
  drainFrom courier l.bus l.cursor { d with dropped := l.dropped }

/-- A dispatcher brought to where a loop stands. -/
def standing (l : Loop Event) (d : Dispatcher) : Dispatcher :=
  { d with cursor := l.cursor, dropped := l.dropped }

/-- What a dispatcher counted as dropped makes no difference to what it delivers. -/
theorem dispatch_dropped [LawfulMonad m] (d : Dispatcher) (count : Nat) (e : Event) :
    dispatch courier { d with dropped := count } e =
      (fun d => { d with dropped := count }) <$> dispatch courier d e := by
  unfold dispatch
  rw [map_bind]
  congr 1
  funext found
  cases found with
  | error fault => simp
  | ok webhooks => simp

variable {l : Loop Event} {next : Nat}

theorem drainAt_event [LawfulMonad m] (d : Dispatcher) {e : Event}
    (received : l.bus.receive l.cursor = (.event e, next)) :
    drainAt courier l d = dispatch courier d e >>= drainAt courier l.read := by
  have unfolded (d : Dispatcher) : drainFrom courier l.bus l.cursor d =
      dispatch courier d e >>= drainFrom courier l.bus next := by
    rw [drainFrom]
    split <;> simp_all
  rw [drainAt, unfolded, dispatch_dropped, bind_map_left, Loop.read, received]
  rfl

theorem drainAt_missed (d : Dispatcher) {count : Nat}
    (received : l.bus.receive l.cursor = (.missed count, next)) :
    drainAt courier l d = drainAt courier l.read d := by
  have unfolded (d : Dispatcher) : drainFrom courier l.bus l.cursor d =
      drainFrom courier l.bus next { d with dropped := d.dropped + count } := by
    rw [drainFrom]
    split <;> simp_all
  rw [drainAt, unfolded, Loop.read, received]
  rfl

theorem drainAt_exhausted (d : Dispatcher) (exhausted : l.Exhausted) :
    drainAt courier l d = pure (standing l d) := by
  rcases exhausted with ⟨next, received⟩
  have unfolded (d : Dispatcher) : drainFrom courier l.bus l.cursor d =
      pure { d with cursor := next } := by
    rw [drainFrom]
    split <;> simp_all
  have still : next = l.cursor := by
    have receipt := l.bus.receipt l.cursor
    rcases received with received | received <;> rw [received] at receipt <;> cases receipt <;> rfl
  rw [drainAt, unfolded, still]
  rfl

end Dispatcher

namespace Loop

variable {m : Type → Type} [Monad m] (courier : Courier m)
variable {l : Loop Event} {next : Nat}

/-- Whether the loop stops after some turns, and draining from where it stands delivers, one after
the other, what it takes until then. -/
def Drains (l : Loop Event) : Prop :=
  ∃ turns taken,
    let stopped := l.run (List.replicate turns .turn)
    stopped.stage = .stopped ∧ stopped.taken = l.taken ++ taken ∧
    ∀ d, Dispatcher.drainAt courier l d =
      Dispatcher.standing stopped <$> Dispatcher.dispatchAll courier d (taken.map Prod.snd)

theorem Ending.drains_of_missed {count : Nat} (ending : l.Ending)
    (received : l.bus.receive l.cursor = (.missed count, next)) (later : l.read.Drains courier) :
    l.Drains courier := by
  rcases later with ⟨turns, taken, stopped, took, drained⟩
  refine ⟨turns + 1, taken, ?_⟩
  rw [List.replicate_succ, ending.run_turn]
  have read : l.read.taken = l.taken := by rw [Loop.read, received]
  refine ⟨stopped, took.trans (by rw [read]), fun d => ?_⟩
  rw [Dispatcher.drainAt_missed courier d received]
  exact drained d

variable [LawfulMonad m]

theorem Ending.drains_of_event {e : Event} (ending : l.Ending)
    (received : l.bus.receive l.cursor = (.event e, next)) (later : l.read.Drains courier) :
    l.Drains courier := by
  rcases later with ⟨turns, taken, stopped, took, drained⟩
  refine ⟨turns + 1, (l.cursor, e) :: taken, ?_⟩
  rw [List.replicate_succ, ending.run_turn]
  refine ⟨stopped, ?_, fun d => ?_⟩
  · have read : l.read.taken = l.taken ++ [(l.cursor, e)] := by rw [Loop.read, received]
    rw [took, read, List.append_assoc]
    rfl
  · rw [Dispatcher.drainAt_event courier d received, funext drained, ← map_bind]
    rfl

theorem Ending.drains_of_exhausted (ending : l.Ending) (exhausted : l.Exhausted) :
    l.Drains courier := by
  refine ⟨1, [], ?_⟩
  rw [List.replicate_one, ending.run_turn, ending.read_of_exhausted exhausted]
  refine ⟨rfl, (List.append_nil _).symm, fun d => ?_⟩
  rw [Dispatcher.drainAt_exhausted courier d exhausted]
  exact (map_pure _ _).symm

theorem Ending.drains (ending : l.Ending) : l.Drains courier :=
  ending.induction (fun _ ending exhausted => ending.drains_of_exhausted courier exhausted)
    (fun _ _ _ ending received later => ending.drains_of_event courier received later)
    fun _ _ _ ending received later => ending.drains_of_missed courier received later

theorem drains_of_begins (begins : l.turn = { l with stage := .draining }) : l.Drains courier := by
  have draining : Ending { l with stage := .draining } := .inl rfl
  rcases draining.drains courier with ⟨turns, taken, stopped, took, drained⟩
  have later : l.run (List.replicate (turns + 1) .turn) =
      run { l with stage := .draining } (List.replicate turns .turn) := by
    rw [← begins]
    rfl
  refine ⟨turns + 1, taken, ?_⟩
  rw [later]
  exact ⟨stopped, took, drained⟩

/-- Where the dispatcher is cancelled or the bus is closed, the loop stops if it is left to itself.
Draining the bus delivers, one after the other, what the loop takes until then, and leaves the
dispatcher where that stops. -/
theorem drain_eq_dispatchAll (going : l.stage ≠ .stopped)
    (ending : l.cancelled = true ∨ l.bus.closed = true) :
    ∃ turns taken,
      let stopped := l.run (List.replicate turns .turn)
      stopped.stage = .stopped ∧ stopped.taken = l.taken ++ taken ∧
      ∀ d, Dispatcher.drain courier l.bus (Dispatcher.standing l d) =
        Dispatcher.standing stopped <$>
          Dispatcher.dispatchAll courier (Dispatcher.standing l d) (taken.map Prod.snd) := by
  have drains : l.Drains courier := by
    rcases ending_or_begins going ending with ending | begins
    · exact ending.drains courier
    · exact drains_of_begins courier begins
  rcases drains with ⟨turns, taken, stopped, took, drained⟩
  exact ⟨turns, taken, stopped, took, fun d => drained (Dispatcher.standing l d)⟩

end Loop
end Shop
