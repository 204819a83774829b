import Shop.Event.Loop
import Shop.Proofs.Event.Bus

/-!
# Every event is accounted for

Whatever others do while the dispatcher reads, it takes each event once, counts it as dropped, or
has it still to read.  It takes events in the order in which they were published.  It drops one only
when the bus has since kept as many later ones as it can hold.  It stops only when nothing is left,
and it does stop, if it is left to itself, once the bus is closed or the dispatcher is cancelled.
-/

namespace Shop

variable {α : Type}

/-! ## What is published -/

namespace Move

def event? : Move α → Option α
  | .publish a => some a
  | _ => none

def closes : Move α → Bool
  | .close => true
  | _ => false

/-- The events that moves publish: all of them until the bus is closed. -/
def published (moves : List (Move α)) : List α :=
  (moves.takeWhile (!·.closes)).filterMap event?

theorem published_cons (move : Move α) (moves : List (Move α)) :
    published (move :: moves) =
      if move.closes then [] else move.event?.toList ++ published moves := by
  cases move <;> rfl

end Move

/-! ## What one turn does -/

namespace Loop

/-- What a turn can come to, where certain events were published: the next event is taken, or events
are missed up to the oldest that the bus has kept, or the loop goes on to another stage.  It comes
to its end only where nothing is left. -/
inductive Turned (events : List α) (l : Loop α) : Loop α → Prop
  | take (a : α) (found : events[l.cursor]? = some a) :
    Turned events l { l with cursor := l.cursor + 1, taken := l.taken ++ [(l.cursor, a)] }
  | miss (next : Nat) (further : l.cursor ≤ next)
    (behind : next + l.bus.capacity = events.length) :
    Turned events l { l with cursor := next, dropped := l.dropped + (next - l.cursor) }
  | pass (stage : Stage)
    (ends : l.stage ≠ .stopped → stage = .stopped → events.length ≤ l.cursor) :
    Turned events l { l with stage }

variable {l l' : Loop α} {first : Nat} {events : List α}

theorem turned_read (holds : l.bus.Holds events) : Turned events l l.read := by
  have receipt := l.bus.receipt l.cursor
  unfold read
  generalize l.bus.receive l.cursor = received at receipt
  cases receipt with
  | event a kept found => exact .take a (holds.found kept found)
  | missed behind => exact .miss _ (Nat.le_of_lt behind) (holds.behind behind)
  | empty isOpen kept nothing => exact .pass _ fun _ _ => holds.ended kept nothing
  | closed closed kept nothing => exact .pass _ fun _ _ => holds.ended kept nothing

theorem turned_turn (holds : l.bus.Holds events) : Turned events l l.turn := by
  unfold turn
  split
  · split
    · exact .pass .draining fun _ stopped => nomatch stopped
    · exact turned_read holds
  · exact turned_read holds
  · rename_i stopped
    exact .pass l.stage fun going _ => absurd stopped going

/-! ## What every run keeps -/

/-- The positions, from a first one on, that the loop has come past without taking an event. -/
def lost (first : Nat) (l : Loop α) : List Nat :=
  (List.range' first (l.cursor - first)).filter (· ∉ l.taken.map Prod.fst)

/-- The account of a loop that began at a first position, where certain events were published. -/
structure Accounts (first : Nat) (events : List α) (l : Loop α) : Prop where
  holds : l.bus.Holds events
  counted : first + l.taken.length + l.dropped = l.cursor
  within : l.cursor ≤ events.length
  ordered : l.taken.Pairwise (·.1 < ·.1)
  found : ∀ p ∈ l.taken, first ≤ p.1 ∧ p.1 < l.cursor ∧ events[p.1]? = some p.2
  missing : (l.lost first).length = l.dropped

namespace Accounts

theorem start {b : Bus α} (holds : b.Holds events) :
    (Loop.start b).Accounts events.length events where
  holds := holds
  counted := holds.published.symm
  within := Nat.le_of_eq holds.published
  ordered := .nil
  found := List.forall_mem_nil _
  missing := by simp [lost, Loop.start, holds.published]

theorem first_le (accounts : l.Accounts first events) : first ≤ l.cursor := by
  have := accounts.counted
  omega

theorem lost_take (accounts : l.Accounts first events) (a : α) :
    ({ l with cursor := l.cursor + 1, taken := l.taken ++ [(l.cursor, a)] } : Loop α).lost first =
      l.lost first := by
  have more : l.cursor + 1 - first = (l.cursor - first) + 1 := Nat.succ_sub accounts.first_le
  have last : first + (l.cursor - first) = l.cursor := Nat.add_sub_cancel' accounts.first_le
  simp only [lost]
  rw [more, List.range'_1_concat, List.filter_append, last]
  have taken : List.filter (· ∉ (l.taken ++ [(l.cursor, a)]).map Prod.fst) [l.cursor] = [] := by
    simp
  rw [taken, List.append_nil]
  refine List.filter_congr fun i member => ?_
  have before : i < l.cursor := by
    have := List.mem_range'_1.mp member
    omega
  simp [Nat.ne_of_lt before]

theorem lost_miss (accounts : l.Accounts first events) {next : Nat} (further : l.cursor ≤ next) :
    ({ l with cursor := next, dropped := l.dropped + (next - l.cursor) } : Loop α).lost first =
      l.lost first ++ List.range' l.cursor (next - l.cursor) := by
  have more : next - first = (l.cursor - first) + (next - l.cursor) := by
    have := accounts.first_le
    omega
  have last : first + (l.cursor - first) = l.cursor := Nat.add_sub_cancel' accounts.first_le
  simp only [lost]
  rw [more, ← List.range'_append_1, List.filter_append, last]
  congr 1
  refine List.filter_eq_self.mpr fun i member => ?_
  have beyond : l.cursor ≤ i := (List.mem_range'_1.mp member).1
  refine decide_eq_true fun taken => ?_
  rcases List.mem_map.mp taken with ⟨p, known, rfl⟩
  exact Nat.not_lt.mpr beyond (accounts.found p known).2.1

theorem turned (accounts : l.Accounts first events) (turned : Turned events l l') :
    l'.Accounts first events := by
  cases turned with
  | take a found =>
    have bound : l.cursor < events.length := (List.getElem?_eq_some_iff.mp found).1
    have counted := accounts.counted
    refine ⟨accounts.holds, ?_, bound, ?_, ?_, ?_⟩
    · simp only [List.length_append, List.length_singleton]
      omega
    · refine List.pairwise_append.mpr ⟨accounts.ordered, List.pairwise_singleton _ _, ?_⟩
      intro p member q last
      rw [List.mem_singleton.mp last]
      exact (accounts.found p member).2.1
    · intro p member
      rcases List.mem_append.mp member with old | new
      · rcases accounts.found p old with ⟨since, before, found⟩
        exact ⟨since, Nat.lt_succ_of_lt before, found⟩
      · rw [List.mem_singleton.mp new]
        exact ⟨accounts.first_le, Nat.lt_succ_self _, found⟩
    · rw [accounts.lost_take a]
      exact accounts.missing
  | miss next further behind =>
    have counted := accounts.counted
    refine ⟨accounts.holds, ?_, ?_, accounts.ordered, ?_, ?_⟩
    · change first + l.taken.length + (l.dropped + (next - l.cursor)) = next
      omega
    · change next ≤ events.length
      omega
    · intro p member
      rcases accounts.found p member with ⟨since, before, found⟩
      exact ⟨since, Nat.lt_of_lt_of_le before further, found⟩
    · rw [accounts.lost_miss further, List.length_append, accounts.missing, List.length_range']
  | pass stage ends => exact { accounts with }

theorem publish (accounts : l.Accounts first events) (isOpen : l.bus.closed = false) (a : α) :
    ({ l with bus := l.bus.publish a } : Loop α).Accounts first (events ++ [a]) where
  holds := accounts.holds.publish isOpen a
  counted := accounts.counted
  within := Nat.le_trans accounts.within (by simp)
  ordered := accounts.ordered
  found p member := by
    rcases accounts.found p member with ⟨since, before, found⟩
    have bound := (List.getElem?_eq_some_iff.mp found).1
    exact ⟨since, before, (List.getElem?_append_left bound).trans found⟩
  missing := accounts.missing

/-- A move that publishes nothing leaves the events as they are. -/
theorem step (accounts : l.Accounts first events) (move : Move α) :
    (l.step move).Accounts first (events ++ if l.bus.closed then [] else move.event?.toList) := by
  have quiet : (events ++ if l.bus.closed then [] else (none : Option α).toList) = events := by
    simp
  cases move with
  | publish a =>
    cases isOpen : l.bus.closed with
    | false => exact accounts.publish isOpen a
    | true =>
      have same : l.bus.publish a = l.bus := if_pos isOpen
      rw [if_pos rfl, List.append_nil, Loop.step, same]
      exact accounts
  | close => exact quiet.symm ▸ { accounts with holds := accounts.holds.close }
  | cancel => exact quiet.symm ▸ { accounts with }
  | turn => exact quiet.symm ▸ accounts.turned (turned_turn accounts.holds)

end Accounts

theorem read_bus (l : Loop α) : l.read.bus = l.bus := by
  unfold read
  split <;> rfl

theorem turn_bus (l : Loop α) : l.turn.bus = l.bus := by
  unfold turn
  split
  · split
    · rfl
    · exact read_bus l
  · exact read_bus l
  · rfl

theorem closed_step (l : Loop α) (move : Move α) :
    (l.step move).bus.closed = (l.bus.closed || move.closes) := by
  cases move with
  | publish a => simp [step, Move.closes]
  | close => simp [step, Bus.close, Move.closes]
  | cancel => simp [step, Move.closes]
  | turn => simp [step, turn_bus, Move.closes]

theorem capacity_step (l : Loop α) (move : Move α) :
    (l.step move).bus.capacity = l.bus.capacity := by
  cases move with
  | publish a => exact l.bus.capacity_publish a
  | turn => exact congrArg Bus.capacity (turn_bus l)
  | _ => rfl

theorem Accounts.run (accounts : l.Accounts first events) (moves : List (Move α)) :
    (l.run moves).Accounts first
      (events ++ if l.bus.closed then [] else Move.published moves) := by
  induction moves generalizing l events with
  | nil => simpa [Loop.run, Move.published] using accounts
  | cons move moves inductionHypothesis =>
    have next := inductionHypothesis (accounts.step move)
    -- What is published after the close reaches nobody, so it is no event of the account.
    have events : (events ++ (if l.bus.closed then [] else move.event?.toList) ++
        if (l.step move).bus.closed then [] else Move.published moves) =
        events ++ if l.bus.closed then [] else Move.published (move :: moves) := by
      rw [closed_step, Move.published_cons]
      cases l.bus.closed <;> cases move <;> simp [Move.closes, Move.event?]
    rw [← events]
    exact next

/-- A loop that comes past an event without taking it finds as many later ones on the bus as it can
hold. -/
theorem Accounts.lost_turned (accounts : l.Accounts first events) (turned : Turned events l l')
    {i : Nat} (member : i ∈ l'.lost first) :
    i ∈ l.lost first ∨ l.cursor ≤ i ∧ i + l.bus.capacity < l.bus.published := by
  cases turned with
  | take a found =>
    rw [accounts.lost_take a] at member
    exact .inl member
  | miss next further behind =>
    rw [accounts.lost_miss further] at member
    rcases List.mem_append.mp member with old | new
    · exact .inl old
    · have within := List.mem_range'_1.mp new
      rw [accounts.holds.published]
      exact .inr ⟨within.1, by omega⟩
  | pass stage ends => exact .inl member

theorem Accounts.lost_step (accounts : l.Accounts first events) (move : Move α) {i : Nat}
    (member : i ∈ (l.step move).lost first) :
    i ∈ l.lost first ∨ l.cursor ≤ i ∧ i + l.bus.capacity < l.bus.published := by
  cases move with
  | turn => exact accounts.lost_turned (turned_turn accounts.holds) member
  | _ => exact .inl member

theorem Accounts.lost_run (accounts : l.Accounts first events) (moves : List (Move α)) {i : Nat}
    (member : i ∈ (l.run moves).lost first) :
    i ∈ l.lost first ∨ ∃ before, before <+: moves ∧ (l.run before).cursor ≤ i ∧
      i + (l.run before).bus.capacity < (l.run before).bus.published := by
  induction moves generalizing l events with
  | nil => exact .inl member
  | cons move moves inductionHypothesis =>
    rcases inductionHypothesis (accounts.step move) member with next | ⟨before, start, lost⟩
    · rcases accounts.lost_step move next with old | new
      · exact .inl old
      · exact .inr ⟨[], List.nil_prefix, new⟩
    · exact .inr ⟨move :: before, (List.prefix_cons_inj move).mpr start, lost⟩

theorem capacity_run (l : Loop α) (moves : List (Move α)) :
    (l.run moves).bus.capacity = l.bus.capacity := by
  induction moves generalizing l with
  | nil => rfl
  | cons move moves inductionHypothesis =>
    exact (inductionHypothesis (l.step move)).trans (capacity_step l move)

theorem Accounts.sum (accounts : l.Accounts first events) :
    first + (l.taken.length + l.dropped + l.unread) = events.length := by
  have counted := accounts.counted
  have within := accounts.within
  rw [unread, accounts.holds.published]
  omega

/-- A turn that ends the loop leaves nothing to read. -/
theorem Accounts.unread_of_stopped (accounts : l.Accounts first events)
    (turned : Turned events l l') (going : l.stage ≠ .stopped) (stopped : l'.stage = .stopped) :
    l'.unread = 0 := by
  cases turned with
  | take a found => exact absurd stopped going
  | miss next further behind => exact absurd stopped going
  | pass stage ends =>
    refine Nat.sub_eq_zero_of_le ?_
    rw [accounts.holds.published]
    exact ends going stopped

/-! ## Coming to the end -/

/-- A loop that reads in its next turn and does not wait: it drains the bus, or the bus is closed.
-/
def Ending (l : Loop α) : Prop :=
  l.stage = .draining ∨ l.stage = .listening ∧ l.cancelled = false ∧ l.bus.closed = true

/-- Whether the loop stops after some turns, with nothing left to read. -/
def Stops (l : Loop α) : Prop :=
  ∃ turns, (l.run (List.replicate turns .turn)).stage = .stopped ∧
    (l.run (List.replicate turns .turn)).unread = 0

/-- Whether nothing is left on the bus for the loop. -/
def Exhausted (l : Loop α) : Prop :=
  ∃ next, l.bus.receive l.cursor = (.empty, next) ∨ l.bus.receive l.cursor = (.closed, next)

theorem Exhausted.unread_eq_zero (exhausted : l.Exhausted) : l.unread = 0 := by
  have receipt := l.bus.receipt l.cursor
  rcases exhausted with ⟨next, received | received⟩
  · rw [received] at receipt
    cases receipt with
    | empty _ kept nothing => exact Nat.sub_eq_zero_of_le (Bus.published_le kept nothing)
  · rw [received] at receipt
    cases receipt with
    | closed _ kept nothing => exact Nat.sub_eq_zero_of_le (Bus.published_le kept nothing)

namespace Ending

theorem turn_eq_read (ending : l.Ending) : l.turn = l.read := by
  unfold turn
  rcases ending with draining | ⟨listening, going, _⟩
  · rw [draining]
  · rw [listening]
    simp only [going, Bool.false_eq_true, if_false]

theorem run_turn (ending : l.Ending) (moves : List (Move α)) :
    l.run (.turn :: moves) = l.read.run moves :=
  congrArg (run · moves) ending.turn_eq_read

theorem read_of_exhausted (ending : l.Ending) (exhausted : l.Exhausted) :
    l.read = { l with stage := .stopped } := by
  have receipt := l.bus.receipt l.cursor
  unfold read
  rcases exhausted with ⟨next, received | received⟩
  · rw [received] at receipt ⊢
    rcases ending with draining | ⟨_, _, closed⟩
    · simp only [draining, Stage.idle]
    · cases receipt with
      | empty isOpen _ _ =>
        rw [isOpen] at closed
        cases closed
  · rw [received]

/-- Along the turns of a loop that does not wait: an event or a gap moves its cursor on, which leaves
less unread, until the bus is exhausted. -/
theorem induction {motive : Loop α → Prop}
    (exhausted : ∀ l : Loop α, l.Ending → l.Exhausted → motive l)
    (event : ∀ (l : Loop α) (a : α) (next : Nat), l.Ending →
      l.bus.receive l.cursor = (.event a, next) → motive l.read → motive l)
    (missed : ∀ (l : Loop α) (count next : Nat), l.Ending →
      l.bus.receive l.cursor = (.missed count, next) → motive l.read → motive l)
    (ending : l.Ending) : motive l := by
  induction left : l.unread using Nat.strongRecOn generalizing l with
  | ind unread inductionHypothesis =>
  rcases received : l.bus.receive l.cursor with ⟨a | count | _ | _, next⟩
  · have read : l.read = { l with cursor := next, taken := l.taken ++ [(l.cursor, a)] } := by
      rw [Loop.read, received]
    refine event l a next ending received (inductionHypothesis l.read.unread ?_ (read ▸ ending) rfl)
    have further := Bus.receive_event received
    rw [← left, read]
    change l.bus.published - next < l.bus.published - l.cursor
    omega
  · have read : l.read = { l with cursor := next, dropped := l.dropped + count } := by
      rw [Loop.read, received]
    refine missed l count next ending received
      (inductionHypothesis l.read.unread ?_ (read ▸ ending) rfl)
    have further := Bus.receive_missed received
    rw [← left, read]
    change l.bus.published - next < l.bus.published - l.cursor
    omega
  · exact exhausted l ending ⟨next, .inl received⟩
  · exact exhausted l ending ⟨next, .inr received⟩

theorem stops_of_read (ending : l.Ending) (later : l.read.Stops) : l.Stops := by
  rcases later with ⟨turns, stopped⟩
  refine ⟨turns + 1, ?_⟩
  rwa [List.replicate_succ, ending.run_turn]

theorem stops_of_exhausted (ending : l.Ending) (exhausted : l.Exhausted) : l.Stops := by
  refine ⟨1, ?_⟩
  rw [List.replicate_one, ending.run_turn, ending.read_of_exhausted exhausted]
  exact ⟨rfl, exhausted.unread_eq_zero⟩

theorem stops (ending : l.Ending) : l.Stops :=
  ending.induction (fun _ ending exhausted => ending.stops_of_exhausted exhausted)
    (fun _ _ _ ending _ later => ending.stops_of_read later)
    fun _ _ _ ending _ later => ending.stops_of_read later

end Ending

/-- Once the bus is closed or the dispatcher is cancelled, the loop does not wait any more.  The first
turn of a dispatcher that is cancelled while it listens only begins to drain. -/
theorem ending_or_begins (going : l.stage ≠ .stopped)
    (asked : l.cancelled = true ∨ l.bus.closed = true) :
    l.Ending ∨ l.turn = { l with stage := .draining } := by
  cases stage : l.stage with
  | stopped => exact absurd stage going
  | draining => exact .inl (.inl stage)
  | listening =>
    cases cancelled : l.cancelled with
    | true => exact .inr (by simp only [turn, stage, cancelled, if_true])
    | false =>
      have closed : l.bus.closed = true := asked.resolve_left (Bool.eq_false_iff.mp cancelled)
      exact .inl (.inr ⟨stage, cancelled, closed⟩)

theorem stops (going : l.stage ≠ .stopped) (asked : l.cancelled = true ∨ l.bus.closed = true) :
    l.Stops := by
  rcases ending_or_begins going asked with ending | begins
  · exact ending.stops
  · have draining : Ending { l with stage := .draining } := .inl rfl
    rcases draining.stops with ⟨turns, stopped⟩
    rw [← begins] at stopped
    exact ⟨turns + 1, stopped⟩

/-! ## Every run -/

/-- A loop that hears of what is published after certain events. -/
def after (capacity : Nat) (earlier : List α) : Loop α :=
  start (earlier.foldl Bus.publish (.new capacity))

theorem capacity_after (capacity : Nat) (earlier : List α) (moves : List (Move α)) :
    ((after capacity earlier).run moves).bus.capacity = (max capacity 1).nextPowerOfTwo :=
  (capacity_run _ moves).trans ((Bus.Holds.new capacity).publishAll rfl earlier).2.2

theorem accounts_after (capacity : Nat) (earlier : List α) (moves : List (Move α)) :
    ((after capacity earlier).run moves).Accounts earlier.length
      (earlier ++ Move.published moves) := by
  rcases (Bus.Holds.new capacity).publishAll rfl earlier with ⟨holds, isOpen, _⟩
  have accounts := (Accounts.start holds).run moves
  rw [start, isOpen] at accounts
  exact accounts

/-- Whatever others do between the turns of a dispatcher, the events that it took, those that it
counted as dropped and those that it has still to read are together as many as were published since
it listens.  It took them in the order in which they were published, each at most once.  What it
came past it counted, and each of these events had at the time as many later ones on the bus as that
can hold.  When it stops, nothing is left to read; and once the bus is closed or the dispatcher is
cancelled, it stops after some turns. -/
theorem run_accounted (capacity : Nat) (earlier : List α) (moves : List (Move α)) :
    let l := (after capacity earlier).run moves
    let first := earlier.length
    l.taken.length + l.dropped + l.unread = (Move.published moves).length ∧
    l.taken.Pairwise (fun p q => p.1 < q.1) ∧
    (∀ p ∈ l.taken, first ≤ p.1 ∧ (earlier ++ Move.published moves)[p.1]? = some p.2) ∧
    (l.lost first).length = l.dropped ∧
    (∀ i ∈ l.lost first, ∃ before, before <+: moves ∧
      ((after capacity earlier).run before).cursor ≤ i ∧
      i + (max capacity 1).nextPowerOfTwo < first + (Move.published before).length) ∧
    (l.stage ≠ .stopped → l.turn.stage = .stopped → l.turn.unread = 0) ∧
    (l.stage ≠ .stopped → l.cancelled = true ∨ l.bus.closed = true → l.Stops) := by
  intro l first
  have accounts : l.Accounts first (earlier ++ Move.published moves) :=
    accounts_after capacity earlier moves
  refine ⟨?_, accounts.ordered, fun p member => ?_, accounts.missing, fun i member => ?_,
    accounts.unread_of_stopped (turned_turn accounts.holds), stops⟩
  · have sum := accounts.sum
    rw [List.length_append] at sum
    exact Nat.add_left_cancel sum
  · rcases accounts.found p member with ⟨since, _, found⟩
    exact ⟨since, found⟩
  · have begins : (after capacity earlier).Accounts first (earlier ++ Move.published []) :=
      accounts_after capacity earlier []
    rcases begins.lost_run moves member with already | ⟨before, start, reached, kept⟩
    · have none : (after capacity earlier).lost first = [] :=
        List.eq_nil_of_length_eq_zero begins.missing
      exact absurd (none ▸ already) List.not_mem_nil
    · rw [capacity_after, (accounts_after capacity earlier before).holds.published,
        List.length_append] at kept
      exact ⟨before, start, reached, kept⟩

/-- The dispatcher reads the last two of five events that are published before the bus is closed. -/
example :
    let l := (after 2 []).run
      (List.replicate 5 (.publish ()) ++ .close :: List.replicate 4 .turn)
    (l.stage, l.dropped, l.taken.map Prod.fst, l.unread) = (.stopped, 3, [3, 4], 0) := by
  decide +kernel

end Loop
end Shop
