import Mathlib.Data.List.Basic
import Shop.Event.Bus

/-!
# What the bus keeps

A bus holds the last of the events that were published on it, so what a reader receives can be told
from these: the event at its cursor, or how many it missed, or that it has come to their end.
-/

namespace Shop

variable {α : Type}

namespace Bus

/-- What a reader can receive, and where it reads on. -/
inductive Receipt (b : Bus α) (cursor : Nat) : Received α × Nat → Prop
  | event (a : α) (kept : b.oldest ≤ cursor) (found : b.kept[cursor - b.oldest]? = some a) :
    Receipt b cursor (.event a, cursor + 1)
  | missed (behind : cursor < b.oldest) : Receipt b cursor (.missed (b.oldest - cursor), b.oldest)
  | empty (isOpen : b.closed = false) (kept : b.oldest ≤ cursor)
    (nothing : b.kept[cursor - b.oldest]? = none) : Receipt b cursor (.empty, cursor)
  | closed (closed : b.closed = true) (kept : b.oldest ≤ cursor)
    (nothing : b.kept[cursor - b.oldest]? = none) : Receipt b cursor (.closed, cursor)

theorem receipt (b : Bus α) (cursor : Nat) : Receipt b cursor (b.receive cursor) := by
  unfold receive
  split
  · rename_i behind
    exact .missed behind
  · rename_i kept
    cases found : b.kept[cursor - b.oldest]? with
    | some a => exact .event a (Nat.not_lt.mp kept) found
    | none =>
      cases closed : b.closed with
      | true => exact .closed closed (Nat.not_lt.mp kept) found
      | false => exact .empty closed (Nat.not_lt.mp kept) found

/-- A reader that finds nothing has come past everything published. -/
theorem published_le {b : Bus α} {cursor : Nat} (kept : b.oldest ≤ cursor)
    (nothing : b.kept[cursor - b.oldest]? = none) : b.published ≤ cursor := by
  have past := List.getElem?_eq_none_iff.mp nothing
  have held := b.kept_le_published
  rw [oldest] at kept past
  omega

/-! ## Publishing -/

theorem published_publish {b : Bus α} (isOpen : b.closed = false) (a : α) :
    (b.publish a).published = b.published + 1 := by
  simp only [publish, isOpen, Bool.false_eq_true, if_false]

@[simp]
theorem closed_publish (b : Bus α) (a : α) : (b.publish a).closed = b.closed := by
  unfold publish
  split <;> rfl

@[simp]
theorem capacity_publish (b : Bus α) (a : α) : (b.publish a).capacity = b.capacity := by
  unfold publish
  split <;> rfl

/-! ## The last events -/

/-- Of the events published on it, a bus keeps the last. -/
structure Holds (b : Bus α) (events : List α) : Prop where
  published : b.published = events.length
  kept : b.kept = events.drop (events.length - b.capacity)

variable {b : Bus α} {events : List α} {cursor : Nat}

namespace Holds

theorem new (capacity : Nat) : (Bus.new capacity : Bus α).Holds [] := ⟨rfl, List.drop_nil.symm⟩

theorem close (holds : b.Holds events) : b.close.Holds events := ⟨holds.published, holds.kept⟩

theorem publish (holds : b.Holds events) (isOpen : b.closed = false) (a : α) :
    (b.publish a).Holds (events ++ [a]) := by
  have kept : (b.publish a).kept = keepLast b.capacity b.kept a := by simp [Bus.publish, isOpen]
  constructor
  · rw [published_publish isOpen, holds.published, List.length_append, List.length_singleton]
  · have dropped : b.kept ++ [a] = (events ++ [a]).drop (events.length - b.capacity) := by
      rw [holds.kept, List.drop_append_of_le_length (Nat.sub_le _ _)]
    have length : b.kept.length = events.length - (events.length - b.capacity) := by
      rw [holds.kept, List.length_drop]
    rw [kept, capacity_publish, keepLast, dropped, List.drop_drop, List.length_append,
      List.length_singleton]
    congr 1
    omega

theorem publishAll (holds : b.Holds events) (isOpen : b.closed = false) (more : List α) :
    (more.foldl Bus.publish b).Holds (events ++ more) ∧
      (more.foldl Bus.publish b).closed = false ∧
      (more.foldl Bus.publish b).capacity = b.capacity := by
  induction more generalizing b events with
  | nil => exact ⟨(List.append_nil events).symm ▸ holds, isOpen, rfl⟩
  | cons a more inductionHypothesis =>
    rcases inductionHypothesis (holds.publish isOpen a) ((closed_publish b a).trans isOpen) with
      ⟨holds, isOpen, capacity⟩
    rw [List.append_assoc] at holds
    exact ⟨holds, isOpen, capacity.trans (capacity_publish b a)⟩

theorem oldest (holds : b.Holds events) : b.oldest = events.length - b.capacity := by
  rw [Bus.oldest, holds.published, holds.kept, List.length_drop]
  omega

theorem found {a : α} (holds : b.Holds events) (kept : b.oldest ≤ cursor)
    (found : b.kept[cursor - b.oldest]? = some a) : events[cursor]? = some a := by
  rw [holds.oldest] at kept found
  rw [holds.kept, List.getElem?_drop, Nat.add_sub_cancel' kept] at found
  exact found

/-- A reader that missed events goes on with the oldest of as many as the bus can hold. -/
theorem behind (holds : b.Holds events) (behind : cursor < b.oldest) :
    b.oldest + b.capacity = events.length := by
  rw [holds.oldest] at behind ⊢
  omega

/-- A reader that finds nothing has come to the end of what was published. -/
theorem ended (holds : b.Holds events) (kept : b.oldest ≤ cursor)
    (nothing : b.kept[cursor - b.oldest]? = none) : events.length ≤ cursor := by
  rw [holds.oldest] at kept nothing
  rw [holds.kept, List.getElem?_drop, Nat.add_sub_cancel' kept] at nothing
  exact List.getElem?_eq_none_iff.mp nothing

end Holds
end Bus

end Shop
