/-!
# The bus

Events are published on a bus that keeps the last of them, as many as its capacity.  A reader holds
a cursor, the number of events published before the one it reads next.  A reader that falls behind
the events kept is told how many it missed and goes on with the oldest one kept.  What is kept can
still be read after the bus is closed.
-/

namespace Shop

/-- A bus: how many events it keeps, how many were ever published, and the last of them, the oldest
first. -/
structure Bus (α : Type) where
  capacity : Nat
  published : Nat
  kept : List α
  closed : Bool
  kept_le_published : kept.length ≤ published

inductive Received (α : Type) where
  | event (a : α)
  | missed (count : Nat)
  | empty
  | closed

namespace Bus

/-- An open bus without events; its capacity is rounded up to a power of two. -/
def new (capacity : Nat) : Bus α :=
  ⟨(max capacity 1).nextPowerOfTwo, 0, [], false, Nat.le_refl 0⟩

/-- The last of the events kept so far and a new one, no more than the capacity. -/
def keepLast (capacity : Nat) (kept : List α) (a : α) : List α :=
  (kept ++ [a]).drop (kept.length + 1 - capacity)

def publish (b : Bus α) (a : α) : Bus α :=
  if b.closed then b
  else
    { b with
      published := b.published + 1
      kept := keepLast b.capacity b.kept a
      kept_le_published := by
        have := b.kept_le_published
        simp only [keepLast, List.length_drop, List.length_append, List.length_singleton]
        omega }

def close (b : Bus α) : Bus α := { b with closed := true }

def oldest (b : Bus α) : Nat := b.published - b.kept.length

/-- Read at a cursor; yields the cursor behind what was read. -/
def receive (b : Bus α) (cursor : Nat) : Received α × Nat :=
  if cursor < b.oldest then (.missed (b.oldest - cursor), b.oldest)
  else match b.kept[cursor - b.oldest]? with
    | some a => (.event a, cursor + 1)
    | none => (if b.closed then .closed else .empty, cursor)

/-- A reader that gets an event moves on by one and stays within what was published. -/
theorem receive_event {b : Bus α} {cursor next : Nat} {a : α}
    (h : b.receive cursor = (.event a, next)) :
    next = cursor + 1 ∧ next ≤ b.published := by
  unfold receive at h
  split at h
  · simp at h
  · rename_i behind
    split at h
    · rename_i found
      obtain ⟨bound, _⟩ := List.getElem?_eq_some_iff.1 found
      have kept := b.kept_le_published
      have first : b.oldest = b.published - b.kept.length := rfl
      simp only [Prod.mk.injEq] at h
      omega
    · split at h <;> simp at h

/-- A reader that missed events moves on to the oldest one kept. -/
theorem receive_missed {b : Bus α} {cursor next count : Nat}
    (h : b.receive cursor = (.missed count, next)) :
    next = cursor + count ∧ 0 < count ∧ next ≤ b.published := by
  unfold receive at h
  split at h
  · rename_i behind
    have first : b.oldest = b.published - b.kept.length := rfl
    simp only [Prod.mk.injEq, Received.missed.injEq] at h
    omega
  · split at h
    · simp at h
    · split at h <;> simp at h

end Bus
end Shop
