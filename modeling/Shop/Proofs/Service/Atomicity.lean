import Shop.Proofs.Service.Effects

/-!
# Failures that leave no trace

What the store and the bus tell of an action that failed.  An action is atomic if its failures leave
all rows as they were and publish nothing.  Transactions are atomic, and so is a sequence in which
nothing but one atomic part can both change something and fail.
-/

namespace Shop
namespace Session

variable {allowed : Effect → Prop} {s s' : Session}

theorem Reach.bus_eq (steps : Reach allowed s s') (silent : ¬ allowed .publish) :
    s'.bus = s.bus := by
  refine steps.preserves (fun x => x.bus = s.bus) (fun x y step before => ?_) rfl
  cases step with
  | publish may event => exact absurd may silent
  | _ => exact before

theorem Reach.shelf_eq (steps : Reach allowed s s') (none : ¬ allowed .picture) :
    s'.shelf = s.shelf := by
  refine steps.preserves (fun x => x.shelf = s.shelf) (fun x y step before => ?_) rfl
  cases step with
  | picture may shelf => exact absurd may none
  | _ => exact before

theorem Reach.tables_eq (steps : Reach (· ∈ ([] : List Effect)) s s') : s'.tables = s.tables :=
  Tables.ext_rows fun k => steps.rows_eq (k := k) fun _ may => absurd may List.not_mem_nil

end Session

namespace Action

/-- An action whose failures in a context leave rows and bus as they were. -/
def AtomicIn (c : Context) (a : Action α) : Prop :=
  ∀ p failure q, a.perform c p = (.error failure, q) →
    q.session.tables = p.session.tables ∧ q.session.bus = p.session.bus

/-- An action that does not fail in a context. -/
def SureIn (c : Context) (a : Action α) : Prop :=
  ∀ p failure q, a.perform c p ≠ (.error failure, q)

/-- An action whose failures leave rows and bus as they were. -/
def Atomic (a : Action α) : Prop :=
  ∀ c p failure q, a.perform c p = (.error failure, q) →
    q.session.tables = p.session.tables ∧ q.session.bus = p.session.bus

def Sure (a : Action α) : Prop :=
  ∀ c p failure q, a.perform c p ≠ (.error failure, q)

theorem SureIn.bind {c : Context} {a : Action α} {next : α → Action β} (first : a.SureIn c)
    (rest : ∀ x, (next x).SureIn c) : (a >>= next).SureIn c := by
  intro p failure q failed
  rcases perform_bind_error.mp failed with failed | ⟨x, middle, _, failed⟩
  · exact first p failure q failed
  · exact rest x middle failure q failed

namespace Sure

theorem lift (w : Work α) : Sure (ExceptT.lift w) := by
  intro c p failure q failed
  cases congrArg Prod.fst failed

theorem pure (a : α) : Sure (Pure.pure a) := by
  intro c p failure q failed
  rw [perform_pure] at failed
  cases failed

theorem publish (eventType : String) (shown : Json) :
    (Action.publish eventType shown).Sure := by
  intro c p failure q failed
  rw [perform_publish] at failed
  cases failed

theorem bind {a : Action α} {next : α → Action β} (first : a.Sure)
    (rest : ∀ x, (next x).Sure) : (a >>= next).Sure :=
  fun c => SureIn.bind (first c) fun x => rest x c

end Sure

namespace AtomicIn

variable {c : Context}

/-- What comes before an atomic action may fail too, as long as it has no effects. -/
theorem after {a : Action α} {next : α → Action β} (still : a.Within (· ∈ ([] : List Effect)))
    (rest : ∀ x, (next x).AtomicIn c) : (a >>= next).AtomicIn c := by
  intro p failure q failed
  rcases perform_bind_error.mp failed with failed | ⟨x, middle, ran, failed⟩
  · have steps := still c p
    rw [failed] at steps
    exact ⟨steps.tables_eq, steps.bus_eq List.not_mem_nil⟩
  · have steps := still.reach_ok ran
    rcases rest x middle failure q failed with ⟨tables, bus⟩
    exact ⟨tables.trans steps.tables_eq, bus.trans (steps.bus_eq List.not_mem_nil)⟩

/-- What comes after an atomic action may do anything that cannot fail. -/
theorem before {a : Action α} {next : α → Action β} (first : a.AtomicIn c)
    (rest : ∀ x, (next x).SureIn c) : (a >>= next).AtomicIn c := by
  intro p failure q failed
  rcases perform_bind_error.mp failed with failed | ⟨x, middle, _, failed⟩
  · exact first p failure q failed
  · exact absurd failed (rest x middle failure q)

end AtomicIn

namespace Atomic

theorem of_within {a : Action α} (within : a.Within (· ∈ ([] : List Effect))) : a.Atomic := by
  intro c p failure q failed
  have steps := within c p
  rw [failed] at steps
  exact ⟨steps.tables_eq, steps.bus_eq List.not_mem_nil⟩

theorem after {a : Action α} {next : α → Action β} (still : a.Within (· ∈ ([] : List Effect)))
    (rest : ∀ x, (next x).Atomic) : (a >>= next).Atomic :=
  fun c => AtomicIn.after still fun x => rest x c

theorem before {a : Action α} {next : α → Action β} (first : a.Atomic)
    (rest : ∀ x, (next x).Sure) : (a >>= next).Atomic :=
  fun c => AtomicIn.before (first c) fun x => rest x c

theorem statement {allowed : Effect → Prop} {s : Statement α} (within : s.Within allowed)
    (silent : ¬ allowed .publish) : (Action.statement s).Atomic := by
  intro c p failure q failed
  have steps := Within.statement within c p
  rw [failed] at steps
  exact ⟨perform_statement_error failed, steps.bus_eq silent⟩

theorem insert {k : Kind} {parameters : List Parameter} {make : Instant → Int → k.Row}
    (number : ∀ now id, k.number (make now id) = id)
    (live : ∀ now id, k.live (make now id) = true) :
    (Action.statement (.passing parameters (.insert k make))).Atomic := by
  have inserts : (Statement.passing parameters (.insert k make)).Within
      (· ∈ [Effect.insert k]) := .passing (.insert List.mem_cons_self number live) _
  exact .statement inserts (by simp)

theorem transaction {allowed : Effect → Prop} {a : Action α} (within : a.Within allowed)
    (silent : ¬ allowed .publish) : (Action.transaction a).Atomic := by
  intro c p failure q failed
  have steps := within.transaction c p
  rw [failed] at steps
  exact ⟨perform_transaction_error failed, steps.bus_eq silent⟩

end Atomic
end Action
end Shop
