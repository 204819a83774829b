import Shop.Proofs.Store.Statements

/-!
# Tables without hashes

Tables are seen without hashes when the password hash of every user is blotted out.  Two tables are
alike if they are the same when so seen: they have the same rows in the same places, and only the
hashes of users may differ.

No condition of the store depends on a hash.  So a statement is blind to hashes, if it reads nothing
else of users than what is left of them: on tables that are alike it is answered alike, fails alike,
draws the same numbers and leaves tables that are alike.  How much of an answer is the same is told
by a view of it, since a statement that finds a user answers with the hash too.
-/

namespace Shop

def User.unhashed (u : User) : User := { u with passwordHash := "" }

namespace Kind

/-- A row without its hash, if it has one. -/
def unhashed : (k : Kind) → k.Row → k.Row
  | .user, u => u.unhashed
  | .root, r | .image, r | .option, r | .value, r | .product, r | .link, r | .discount, r
  | .webhook, r | .execution, r => r

variable (k : Kind) (row other : k.Row)

@[simp]
theorem unhashed_unhashed : k.unhashed (k.unhashed row) = k.unhashed row := by
  cases k <;> rfl

theorem unhashed_of_ne {k : Kind} (different : k ≠ .user) : k.unhashed = id := by
  cases k with
  | user => exact absurd rfl different
  | _ => rfl

@[simp]
theorem number_unhashed : k.number (k.unhashed row) = k.number row := by
  cases k <;> rfl

@[simp]
theorem live_unhashed : k.live (k.unhashed row) = k.live row := by
  cases k <;> rfl

@[simp]
theorem sound_unhashed : k.sound (k.unhashed row) = k.sound row := by
  cases k <;> rfl

@[simp]
theorem clash_unhashed : k.clash (k.unhashed row) (k.unhashed other) = k.clash row other := by
  cases k <;> rfl

theorem unhashed_archived (now : Instant) :
    k.unhashed (k.archived now (k.unhashed row)) = k.unhashed (k.archived now row) := by
  cases k <;> rfl

end Kind

namespace Tables

/-- The tables with all hashes blotted out. -/
def unhashed (t : Tables) : Tables := { t with users := t.users.map User.unhashed }

variable {t t' : Tables} {k : Kind} {rows rows' new new' : List k.Row}

@[simp]
theorem rows_unhashed (t : Tables) (k : Kind) :
    t.unhashed.rows k = (t.rows k).map k.unhashed := by
  cases k with
  | user => rfl
  | _ => exact (List.map_id _).symm

@[simp]
theorem unhashed_unhashed (t : Tables) : t.unhashed.unhashed = t.unhashed :=
  ext_rows fun k => by simp

@[simp]
theorem unhashed_put (t : Tables) (k : Kind) (rows : List k.Row) :
    (t.put k rows).unhashed = t.unhashed.put k (rows.map k.unhashed) := by
  cases k with
  | user => rfl
  | _ => exact congrArg (t.unhashed.put _) (List.map_id rows).symm

@[simp]
theorem live_unhashed (t : Tables) (k : Kind) :
    t.unhashed.live k = (t.live k).map k.unhashed := by
  simp [live, List.filter_map, Function.comp_def]

@[simp]
theorem has_unhashed (t : Tables) (k : Kind) : t.unhashed.has k = t.has k := by
  funext id
  simp [has, Function.comp_def]

@[simp]
theorem anchored_unhashed (t : Tables) (k : Kind) (row : k.Row) :
    t.unhashed.anchored k (k.unhashed row) = t.anchored k row := by
  cases k <;> simp only [anchored, Kind.unhashed, has_unhashed]

/-- Whether the store takes rows, and what it says if it does not, depends on no hash. -/
theorem fault?_unhashed (t : Tables) (k : Kind) (rows new : List k.Row) :
    t.unhashed.fault? k (rows.map k.unhashed) (new.map k.unhashed) = t.fault? k rows new := by
  simp [fault?, List.filter_map, Function.comp_def]

theorem rows_congr (alike : t.unhashed = t'.unhashed) (k : Kind) :
    (t.rows k).map k.unhashed = (t'.rows k).map k.unhashed := by
  rw [← rows_unhashed, alike, rows_unhashed]

theorem append_congr (alike : t.unhashed = t'.unhashed) (new : List k.Row) :
    (t.rows k ++ new).map k.unhashed = (t'.rows k ++ new).map k.unhashed := by
  rw [List.map_append, rows_congr alike, List.map_append]

theorem fault?_congr (alike : t.unhashed = t'.unhashed)
    (same : rows.map k.unhashed = rows'.map k.unhashed)
    (sameNew : new.map k.unhashed = new'.map k.unhashed) :
    t.fault? k rows new = t'.fault? k rows' new' := by
  rw [← fault?_unhashed, alike, same, sameNew, fault?_unhashed]

theorem put_congr (alike : t.unhashed = t'.unhashed)
    (same : rows.map k.unhashed = rows'.map k.unhashed) :
    (t.put k rows).unhashed = (t'.put k rows').unhashed := by
  rw [unhashed_put, alike, same, unhashed_put]

end Tables

namespace Statement

/-- Two runs of a statement of which the same shows: both failed alike, or were answered alike as far
as a view of the answers tells, and left tables that are alike. -/
inductive Alike (view : α → β) :
    Except StoreFault (α × Tables) × Sequences → Except StoreFault (α × Tables) × Sequences → Prop
  | failed (fault : StoreFault) (drawn : Sequences) :
    Alike view (.error fault, drawn) (.error fault, drawn)
  | answered {a a' : α} {t t' : Tables} (same : view a = view a') (alike : t.unhashed = t'.unhashed)
    (drawn : Sequences) : Alike view (.ok (a, t), drawn) (.ok (a', t'), drawn)

/-- A statement of whose runs the same shows on tables that are alike. -/
def Blind (s : Statement α) (view : α → β) : Prop :=
  ∀ now (t t' : Tables) drawn, t.unhashed = t'.unhashed →
    Alike view (s.run now t drawn) (s.run now t' drawn)

namespace Blind

variable {view : α → β} {s : Statement α} {k : Kind}

/-- What is read is blind to hashes if it is the same on tables that have none. -/
theorem select {f : Tables → α} (reads : ∀ t, view (f t.unhashed) = view (f t)) :
    (Statement.select f).Blind view := by
  intro now t t' drawn alike
  refine .answered ?_ alike drawn
  rw [← reads t, alike, reads t']

/-- An answer may be used in a form that is told by what shows of it. -/
theorem map {f : α → γ} {form : γ → δ} (blind : s.Blind view)
    (told : ∀ a a', view a = view a' → form (f a) = form (f a')) : (s.map f).Blind form := by
  have matched {ran ran' : Except StoreFault (α × Tables) × Sequences}
      (alike : Alike view ran ran') :
      Alike form (ran.1.map fun answer => (f answer.1, answer.2), ran.2)
        (ran'.1.map fun answer => (f answer.1, answer.2), ran'.2) := by
    cases alike with
    | failed fault drawn => exact .failed fault drawn
    | answered same alike drawn => exact .answered (told _ _ same) alike drawn
  exact fun now t t' drawn alike => matched (blind now t t' drawn alike)

/-- An answer that is the same may be used in any form. -/
theorem mapWhole {f : α → γ} (blind : s.Blind id) : (s.map f).Blind id :=
  blind.map fun _ _ same => congrArg f same

theorem passing (blind : s.Blind view) (parameters : List Parameter) :
    (Statement.passing parameters s).Blind view := by
  intro now t t' drawn alike
  simp only [Statement.passing]
  cases parameters.findSome? Parameter.fault? with
  | some fault => exact .failed fault drawn
  | none => exact blind now t t' drawn alike

/-- New rows are made from the time and their numbers, so they are the same, their hashes too. -/
theorem insertAll (k : Kind) (make : Instant → List (Int → k.Row)) :
    (Statement.insertAll k make).Blind id := by
  intro now t t' drawn alike
  simp only [Statement.insertAll]
  rw [Tables.fault?_congr alike (Tables.append_congr alike _) rfl]
  split
  · exact .failed _ _
  · exact .answered rfl (Tables.put_congr alike (Tables.append_congr alike _)) _

theorem insert (k : Kind) (make : Instant → Int → k.Row) : (Statement.insert k make).Blind id := by
  intro now t t' drawn alike
  simp only [Statement.insert]
  rw [Tables.fault?_congr alike (Tables.append_congr alike _) rfl]
  split
  · exact .failed _ _
  · exact .answered rfl (Tables.put_congr alike (Tables.append_congr alike _)) _

/-- A change is blind to hashes if they neither decide which rows are changed nor get into what is
left of the changed rows. -/
theorem update {chosen : Tables → k.Row → Bool} {change : Instant → k.Row → k.Row}
    (sees : ∀ t row, chosen t.unhashed (k.unhashed row) = chosen t row)
    (carries : ∀ now row, k.unhashed (change now (k.unhashed row)) = k.unhashed (change now row)) :
    (Statement.update k chosen change).Blind (List.map k.unhashed) := by
  intro now t t' drawn alike
  have changed (t : Tables) :
      ((t.rows k).map fun row => if chosen t row then change now row else row).map k.unhashed =
        ((t.unhashed.rows k).map fun row =>
          if chosen t.unhashed row then change now row else row).map k.unhashed := by
    simp only [Tables.rows_unhashed, List.map_map]
    refine List.map_congr_left fun row _ => ?_
    simp only [Function.comp_apply, sees]
    split
    · exact (carries now row).symm
    · exact (k.unhashed_unhashed row).symm
  have answered (t : Tables) :
      (((t.rows k).filter (chosen t)).map (change now)).map k.unhashed =
        (((t.unhashed.rows k).filter (chosen t.unhashed)).map (change now)).map k.unhashed := by
    simp only [Tables.rows_unhashed, List.filter_map, List.map_map, Function.comp_def, sees, carries]
  have same := (changed t).trans (alike ▸ (changed t').symm)
  have sameNew := (answered t).trans (alike ▸ (answered t').symm)
  simp only [Statement.update]
  rw [Tables.fault?_congr alike same sameNew]
  split
  · exact .failed _ _
  · exact .answered sameNew (Tables.put_congr alike same) _

theorem updateLive {id : Int} {change : Instant → k.Row → k.Row}
    (carries : ∀ now row, k.unhashed (change now (k.unhashed row)) = k.unhashed (change now row)) :
    (Statement.updateLive k id change).Blind (Option.map k.unhashed) := by
  refine (update (fun _ _ => ?_) carries).map fun rows rows' same => ?_
  · rw [Kind.live_unhashed, Kind.number_unhashed]
  · rw [← List.head?_map, same, List.head?_map]

theorem archiveAll {chosen : Tables → k.Row → Bool}
    (sees : ∀ t row, chosen t.unhashed (k.unhashed row) = chosen t row) :
    (Statement.archiveAll k chosen).Blind id := by
  refine (update (fun t row => ?_) fun now row => k.unhashed_archived row now).map fun _ _ _ => rfl
  rw [Kind.live_unhashed, sees]

theorem archive (k : Kind) (id : Int) :
    (Statement.archive k id).Blind (Option.map k.unhashed) :=
  updateLive fun now row => k.unhashed_archived row now

/-! ## Looking up live rows -/

theorem find (k : Kind) (id : Int) : (Statement.find k id).Blind (Option.map k.unhashed) := by
  refine select fun t => ?_
  simp only [Tables.live_unhashed, List.find?_map, Function.comp_def, Kind.number_unhashed,
    Option.map_map, Kind.unhashed_unhashed]

theorem any {chosen : k.Row → Bool} (sees : ∀ row, chosen (k.unhashed row) = chosen row) :
    (Statement.any k chosen).Blind id := by
  refine select fun t => ?_
  simp only [Tables.live_unhashed, List.any_map, Function.comp_def, sees]

/-! ## Rows without hashes -/

/-- Rows of other kinds than users are shown as they are. -/
theorem whole {found : Statement (Option k.Row)} (blind : found.Blind (Option.map k.unhashed))
    (different : k ≠ .user) : found.Blind id := by
  rw [Kind.unhashed_of_ne different, Option.map_id] at blind
  exact blind

theorem updateWhole (different : k ≠ .user) (number : Int) (change : Instant → k.Row → k.Row) :
    (Statement.updateLive k number change).Blind id := by
  refine (updateLive fun now row => ?_).whole different
  rw [Kind.unhashed_of_ne different]
  rfl

end Blind
end Statement
end Shop
