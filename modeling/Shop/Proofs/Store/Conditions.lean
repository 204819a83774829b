import Shop.Proofs.Store.Statements

/-!
# Conditions of the store

Every row of the store keeps the conditions of its table and refers to rows that exist: the store has
taken it only so, and no number is ever lost.  Where a new or changed row does the same, the store
can turn it away for one reason only, that a live row has its key.
-/

namespace Shop
namespace Tables

variable {s t : Tables} {drawn : Sequences}

theorem has_iff {k : Kind} {n : Int} : t.has k n = true ↔ ∃ row ∈ t.rows k, k.number row = n := by
  simp [has]

/-- What a row refers to stays where no number is lost. -/
theorem anchored_of_has (kept : ∀ j n, s.has j n = true → t.has j n = true) {k : Kind} {row : k.Row}
    (anchored : s.anchored k row = true) : t.anchored k row = true := by
  have pictured {imageId : Option Int} (found : imageId.all (s.has .image) = true) :
      imageId.all (t.has .image) = true := by
    cases imageId with
    | none => rfl
    | some n => exact kept .image n found
  cases k with
  | root => exact pictured anchored
  | image => exact kept _ _ anchored
  | option => exact kept _ _ anchored
  | value => exact kept _ _ anchored
  | product =>
    rcases Bool.and_eq_true_iff.mp anchored with ⟨owner, image⟩
    exact Bool.and_eq_true_iff.mpr ⟨kept _ _ owner, pictured image⟩
  | link =>
    rcases Bool.and_eq_true_iff.mp anchored with ⟨product, value⟩
    exact Bool.and_eq_true_iff.mpr ⟨kept _ _ product, kept _ _ value⟩
  | execution => exact kept _ _ anchored
  | discount | webhook | user => rfl

theorem has_gained {k : Kind} {n : Int} (found : s.has k n = true) : (s ++ t).has k n = true := by
  rcases has_iff.mp found with ⟨row, member, number⟩
  refine has_iff.mpr ⟨row, ?_, number⟩
  rw [rows_append]
  exact List.mem_append_left _ member

namespace Gains

variable {new t' : Tables} {k : Kind} {row : k.Row}

/-- Numbers that were there before stay. -/
theorem has_of_has (gains : t.Gains new t') {j : Kind} {n : Int} (found : t.has j n = true) :
    t'.has j n = true := by
  rw [gains.eq_append]
  exact has_gained found

/-- A row that was gained is there. -/
theorem has_new (gains : t.Gains new t') (member : row ∈ new.rows k) :
    t'.has k (k.number row) = true := by
  refine has_iff.mpr ⟨row, ?_, rfl⟩
  rw [gains.eq_append, rows_append]
  exact List.mem_append_right _ member

/-- It was not there before. -/
theorem not_has_new (gains : t.Gains new t') (member : row ∈ new.rows k) :
    t.has k (k.number row) ≠ true := by
  intro found
  rcases has_iff.mp found with ⟨other, inside, same⟩
  exact gains.unused k row member other inside same.symm

end Gains

/-- Tables whose rows keep the conditions of their table and refer to rows that exist. -/
structure Conforms (t : Tables) : Prop where
  sound : ∀ k, ∀ row ∈ t.rows k, k.sound row = true
  anchored : ∀ k, ∀ row ∈ t.rows k, t.anchored k row = true

namespace Conforms

theorem empty : Tables.empty.Conforms where
  sound k row member := by
    rw [rows_empty] at member
    cases member
  anchored k row member := by
    rw [rows_empty] at member
    cases member

/-- Rows may be put in place of others if each was there or was taken by the store, and no number is
lost. -/
theorem put (conforms : t.Conforms) {k : Kind} {rows : List k.Row} (admitted : t.Admits k rows)
    (numbers : ∀ row ∈ t.rows k, ∃ other ∈ rows, k.number other = k.number row) :
    (t.put k rows).Conforms := by
  rcases admitted with ⟨new, origin, taken⟩
  rcases fault?_eq_none_iff.mp taken with ⟨sound, _, anchored⟩
  have kept : ∀ j n, t.has j n = true → (t.put k rows).has j n = true := by
    intro j n found
    rcases has_iff.mp found with ⟨row, member, number⟩
    by_cases same : j = k
    · subst same
      rcases numbers row member with ⟨other, inside, sameNumber⟩
      exact has_iff.mpr ⟨other, by rwa [rows_put], sameNumber.trans number⟩
    · exact has_iff.mpr ⟨row, by rwa [rows_put_of_ne t _ same], number⟩
  -- Each row conforms in the tables as they were.
  have before : ∀ j, ∀ row ∈ (t.put k rows).rows j, j.sound row = true ∧ t.anchored j row = true := by
    intro j row member
    by_cases same : j = k
    · subst same
      rw [rows_put] at member
      rcases origin row member with old | added
      · exact ⟨conforms.sound j row old, conforms.anchored j row old⟩
      · exact ⟨sound row added, anchored row added⟩
    · rw [rows_put_of_ne t _ same] at member
      exact ⟨conforms.sound j row member, conforms.anchored j row member⟩
  exact ⟨fun j row member => (before j row member).1,
    fun j row member => anchored_of_has kept (before j row member).2⟩

/-- The conditions say nothing of whether a row is archived. -/
theorem sound_archived (now : Instant) (k : Kind) (row : k.Row) :
    k.sound (k.archived now row) = k.sound row := by
  cases k <;> rfl

theorem anchored_archived (t : Tables) (now : Instant) (k : Kind) (row : k.Row) :
    t.anchored k (k.archived now row) = t.anchored k row := by
  cases k <;> rfl

/-- A row that is archived is taken by the store. -/
theorem fault?_archived (conforms : t.Conforms) {k : Kind} (archives : k ≠ .execution)
    (now : Instant) (rows : List k.Row) {chosen : List k.Row} (old : ∀ row ∈ chosen, row ∈ t.rows k) :
    t.fault? k rows (chosen.map (k.archived now)) = none := by
  refine fault?_eq_none_iff.mpr ⟨?_, ?_, ?_⟩
  · intro row member
    rcases List.mem_map.mp member with ⟨before, inside, rfl⟩
    rw [sound_archived]
    exact conforms.sound k before (old before inside)
  · intro row member other _
    rcases List.mem_map.mp member with ⟨before, inside, rfl⟩
    exact Kind.clash_of_not_live (Kind.live_archived archives now before) other
  · intro row member
    rcases List.mem_map.mp member with ⟨before, inside, rfl⟩
    rw [anchored_archived]
    exact conforms.anchored k before (old before inside)

theorem archiveWhere (conforms : t.Conforms) (k : Kind) (chosen : k.Row → Bool) (now : Instant) :
    (t.archiveWhere k chosen now).Conforms := by
  by_cases archives : k = .execution
  · -- Executions stay as they are.
    have same : t.archiveWhere k chosen now = t := by
      subst archives
      unfold Tables.archiveWhere
      have unchanged : ((t.rows .execution).map fun row =>
          if Kind.live .execution row && chosen row then Kind.archived now .execution row else row) =
            t.rows .execution :=
        (List.map_congr_left fun row _ => ite_self _).trans (List.map_id _)
      rw [unchanged, put_rows]
    rw [same]
    exact conforms
  · refine conforms.put ⟨((t.rows k).filter fun row => k.live row && chosen row).map
      (k.archived now), ?_, ?_⟩ ?_
    · intro row member
      rcases List.mem_map.mp member with ⟨old, inside, rfl⟩
      split
      · rename_i picked
        exact .inr (List.mem_map_of_mem (List.mem_filter.mpr ⟨inside, picked⟩))
      · exact .inl inside
    · exact conforms.fault?_archived archives now _ fun row member => (List.mem_filter.mp member).1
    · intro row member
      refine ⟨_, List.mem_map_of_mem member, ?_⟩
      split
      · exact Kind.number_archived now k row
      · rfl

end Conforms

/-! ## Why rows are turned away -/

/-- Rows that keep the conditions are turned away for a key exactly if they clash. -/
theorem fault?_eq_duplicateKey_iff {k : Kind} {rows new : List k.Row}
    (sound : ∀ row ∈ new, k.sound row = true) :
    t.fault? k rows new = some (.duplicateKey k.index) ↔
      ∃ row ∈ new, ∃ other ∈ rows, k.clash row other = true := by
  have kept : (!new.all k.sound) = false := by simpa using sound
  have dangling : StoreFault.danglingRow ≠ .duplicateKey k.index := by
    cases k <;> decide
  have compared : ((new.filter k.live).any fun row => rows.any (k.clash row)) = true ↔
      ∃ row ∈ new, ∃ other ∈ rows, k.clash row other = true := by
    constructor
    · intro clashes
      simp only [List.any_eq_true, List.mem_filter] at clashes
      rcases clashes with ⟨row, ⟨member, _⟩, other, inside, clash⟩
      exact ⟨row, member, other, inside, clash⟩
    · rintro ⟨row, member, other, inside, clash⟩
      have alive : k.live row = true := by
        by_contra gone
        rw [Kind.clash_of_not_live (Bool.not_eq_true _ ▸ gone)] at clash
        cases clash
      simp only [List.any_eq_true, List.mem_filter]
      exact ⟨row, ⟨member, alive⟩, other, inside, clash⟩
  rw [← compared, fault?, kept]
  cases (new.filter k.live).any fun row => rows.any (k.clash row) with
  | true => simp
  | false => cases !new.all (t.anchored k) <;> simp [dangling]

/-- Rows that keep the conditions and refer to rows that exist can only be turned away for a key. -/
theorem duplicateKey_of_fault? {k : Kind} {rows new : List k.Row} {fault : StoreFault}
    (sound : ∀ row ∈ new, k.sound row = true) (anchored : ∀ row ∈ new, t.anchored k row = true)
    (stopped : t.fault? k rows new = some fault) :
    fault = .duplicateKey k.index ∧ ∃ row ∈ new, ∃ other ∈ rows, k.clash row other = true := by
  have same : fault = .duplicateKey k.index := by
    have kept : (!new.all k.sound) = false := by simpa using sound
    have held : (!new.all (t.anchored k)) = false := by simpa using anchored
    rw [fault?, kept, held] at stopped
    cases clashes : (new.filter k.live).any fun row => rows.any (k.clash row) with
    | true =>
      rw [clashes] at stopped
      exact (Option.some.inj stopped).symm
    | false =>
      rw [clashes] at stopped
      cases stopped
  subst same
  exact ⟨rfl, (fault?_eq_duplicateKey_iff sound).mp stopped⟩

end Tables

/-! ## Why statements fail -/

namespace Statement

variable {now : Instant} {t : Tables} {drawn drawn' : Sequences} {fault : StoreFault}

theorem map_error {f : α → β} {s : Statement α}
    (failed : (s.map f).run now t drawn = (.error fault, drawn')) :
    s.run now t drawn = (.error fault, drawn') := by
  rcases ran : s.run now t drawn with ⟨other | ⟨a, after⟩, numbers⟩
  · simp only [map, ran] at failed
    cases failed
    rfl
  · simp only [map, ran] at failed
    cases failed

theorem map_error_iff {f : α → β} {s : Statement α} :
    ((s.map f).run now t drawn).1 = .error fault ↔ (s.run now t drawn).1 = .error fault := by
  rcases ran : s.run now t drawn with ⟨other | ⟨a, after⟩, numbers⟩ <;> simp [map, ran, Except.map]

/-- Parameters that can be passed do not matter. -/
theorem run_passing {parameters : List Parameter} {s : Statement α}
    (passable : ∀ parameter ∈ parameters, parameter.fault? = none) :
    (passing parameters s).run now t drawn = s.run now t drawn := by
  simp only [passing, List.findSome?_eq_none_iff.mpr passable]

/-- A statement with parameters fails because one of them cannot be passed, or as it does without. -/
theorem passing_error {parameters : List Parameter} {s : Statement α}
    (failed : (passing parameters s).run now t drawn = (.error fault, drawn')) :
    (∃ parameter ∈ parameters, parameter.fault? = some fault) ∨
      s.run now t drawn = (.error fault, drawn') := by
  simp only [passing] at failed
  split at failed
  · rename_i stopped
    cases failed
    exact .inl (List.exists_of_findSome?_eq_some stopped)
  · exact .inr failed

theorem insert_error_iff {k : Kind} {make : Instant → Int → k.Row} :
    ((insert k make).run now t drawn).1 = .error fault ↔
      t.fault? k (t.rows k ++ [make now ((drawn.last k + 1 : Nat) : Int)])
        [make now ((drawn.last k + 1 : Nat) : Int)] = some fault := by
  simp only [insert, Sequences.last_draw]
  cases t.fault? k (t.rows k ++ [make now ((drawn.last k + 1 : Nat) : Int)])
    [make now ((drawn.last k + 1 : Nat) : Int)] <;> simp

theorem insertAll_error_iff {k : Kind} {make : Instant → List (Int → k.Row)} :
    ((insertAll k make).run now t drawn).1 = .error fault ↔
      t.fault? k (t.rows k ++ numbered (drawn.last k) (make now)) (numbered (drawn.last k) (make now)) =
        some fault := by
  simp only [insertAll]
  cases t.fault? k (t.rows k ++ numbered (drawn.last k) (make now))
    (numbered (drawn.last k) (make now)) <;> simp

theorem update_error_iff {k : Kind} {chosen : Tables → k.Row → Bool}
    {change : Instant → k.Row → k.Row} :
    ((update k chosen change).run now t drawn).1 = .error fault ↔
      t.fault? k ((t.rows k).map fun row => if chosen t row then change now row else row)
        (((t.rows k).filter (chosen t)).map (change now)) = some fault := by
  simp only [update]
  cases t.fault? k ((t.rows k).map fun row => if chosen t row then change now row else row)
    (((t.rows k).filter (chosen t)).map (change now)) <;> simp

/-- A new live row clashes with the live rows that have its key. -/
theorem clash_new {k : Kind} {row : k.Row} (above : ∀ other ∈ t.rows k, k.number other ≠ k.number row)
    (alive : k.live row = true) :
    (∃ other ∈ t.rows k ++ [row], k.clash row other = true) ↔
      ∃ other ∈ t.live k, k.sameKey row other = true := by
  constructor
  · rintro ⟨other, member, clash⟩
    simp only [Kind.clash, Bool.and_eq_true, bne_iff_ne] at clash
    rcases clash with ⟨⟨⟨different, _⟩, otherAlive⟩, same⟩
    rcases List.mem_append.mp member with old | added
    · exact ⟨other, Tables.mem_live.mpr ⟨old, otherAlive⟩, same⟩
    · exact absurd (congrArg k.number (List.mem_singleton.mp added)).symm different
  · rintro ⟨other, member, same⟩
    rcases Tables.mem_live.mp member with ⟨inside, otherAlive⟩
    refine ⟨other, List.mem_append_left _ inside, ?_⟩
    simp [Kind.clash, alive, otherAlive, same, (above other inside).symm]

/-- An insertion violates the index of its table exactly if a live row has the key of the new one. -/
theorem insert_duplicate_iff (numbered : t.Numbered drawn) {k : Kind} {make : Instant → Int → k.Row}
    (number : ∀ now id, k.number (make now id) = id)
    (live : ∀ now id, k.live (make now id) = true)
    (sound : ∀ now id, k.sound (make now id) = true) :
    ((insert k make).run now t drawn).1 = .error (.duplicateKey k.index) ↔
      ∃ other ∈ t.live k, k.sameKey (make now ((drawn.last k + 1 : Nat) : Int)) other = true := by
  have above : ∀ other ∈ t.rows k,
      k.number other ≠ k.number (make now ((drawn.last k + 1 : Nat) : Int)) := by
    intro other member
    have bounded := numbered.bounded k other member
    rw [number]
    omega
  rw [insert_error_iff, Tables.fault?_eq_duplicateKey_iff (List.forall_mem_singleton.mpr (sound _ _)),
    ← clash_new above (live _ _)]
  simp only [List.mem_singleton, exists_eq_left]

/-- An insertion of a row that keeps the conditions and refers to rows that exist fails only because
a live row has its key. -/
theorem insert_fault (numbered : t.Numbered drawn) {k : Kind} {make : Instant → Int → k.Row}
    (number : ∀ now id, k.number (make now id) = id)
    (live : ∀ now id, k.live (make now id) = true)
    (sound : ∀ now id, k.sound (make now id) = true)
    (anchored : ∀ now id, t.anchored k (make now id) = true)
    (failed : (insert k make).run now t drawn = (.error fault, drawn')) :
    fault = .duplicateKey k.index ∧ ∃ id, ∃ other ∈ t.live k, k.sameKey (make now id) other = true := by
  have stopped := insert_error_iff.mp (congrArg Prod.fst failed)
  rcases Tables.duplicateKey_of_fault? (List.forall_mem_singleton.mpr (sound _ _))
    (List.forall_mem_singleton.mpr (anchored _ _)) stopped with ⟨rfl, _⟩
  exact ⟨rfl, _, (insert_duplicate_iff numbered number live sound).mp (congrArg Prod.fst failed)⟩

/-- Rows of one number that are changed clash with what other rows stand beside them. -/
theorem clash_changed (numbered : t.Numbered drawn) {k : Kind} {id : Int}
    {chosen : k.Row → Bool} {change : k.Row → k.Row}
    (picks : ∀ row, chosen row = true → k.number row = id)
    (number : ∀ row, k.number (change row) = k.number row) :
    (∃ row ∈ ((t.rows k).filter chosen).map change,
      ∃ other ∈ (t.rows k).map fun row => if chosen row then change row else row,
        k.clash row other = true) ↔
      ∃ row ∈ t.rows k, chosen row = true ∧
        ∃ other ∈ t.rows k, k.clash (change row) other = true := by
  constructor
  · rintro ⟨_, changed, _, beside, clash⟩
    rcases List.mem_map.mp changed with ⟨row, member, rfl⟩
    rcases List.mem_map.mp beside with ⟨other, inside, rfl⟩
    rcases List.mem_filter.mp member with ⟨member, picked⟩
    refine ⟨row, member, picked, other, inside, ?_⟩
    split at clash
    · rename_i otherPicked
      -- Both are the row of the number, which does not clash with itself.
      have same : k.number (change row) = k.number (change other) := by
        rw [number, number, picks row picked, picks other otherPicked]
      simp [Kind.clash, same] at clash
    · exact clash
  · rintro ⟨row, member, picked, other, inside, clash⟩
    refine ⟨change row, List.mem_map_of_mem (List.mem_filter.mpr ⟨member, picked⟩), other, ?_, clash⟩
    refine List.mem_map.mpr ⟨other, inside, ?_⟩
    split
    · rename_i otherPicked
      have same : row = other := numbered.eq_of_number member inside
        ((picks row picked).trans (picks other otherPicked).symm)
      have sameNumber : k.number (change row) = k.number other := by
        rw [number, same]
      simp [Kind.clash, sameNumber] at clash
    · rfl

/-- A change of the row of one number violates the index of its table exactly if another live row has
the key that the row gets. -/
theorem update_duplicate_iff (numbered : t.Numbered drawn) {k : Kind} {id : Int}
    (chosen : Tables → k.Row → Bool) {change : Instant → k.Row → k.Row}
    (picks : ∀ row, chosen t row = true → k.number row = id)
    (number : ∀ row, k.number (change now row) = k.number row)
    (sound : ∀ row ∈ t.rows k, chosen t row = true → k.sound (change now row) = true) :
    ((update k chosen change).run now t drawn).1 = .error (.duplicateKey k.index) ↔
      ∃ row ∈ t.rows k, chosen t row = true ∧
        ∃ other ∈ t.rows k, k.clash (change now row) other = true := by
  have allSound : ∀ row ∈ ((t.rows k).filter (chosen t)).map (change now), k.sound row = true := by
    intro row member
    rcases List.mem_map.mp member with ⟨old, inside, rfl⟩
    rcases List.mem_filter.mp inside with ⟨inside, picked⟩
    exact sound old inside picked
  rw [update_error_iff, Tables.fault?_eq_duplicateKey_iff allSound,
    clash_changed numbered picks number]

/-- A change of the live row of a number violates the index of its table exactly if another live row
has the key that the row gets. -/
theorem updateLive_duplicate_iff (numbered : t.Numbered drawn) {k : Kind} {id : Int}
    {change : Instant → k.Row → k.Row} (keeps : ∀ row, k.Keeps row (change now row))
    (sound : ∀ row ∈ t.rows k, k.sound (change now row) = true) :
    ((updateLive k id change).run now t drawn).1 = .error (.duplicateKey k.index) ↔
      ∃ own ∈ t.live k, k.number own = id ∧
        ∃ other ∈ t.live k, k.number other ≠ id ∧ k.sameKey (change now own) other = true := by
  have picks : ∀ row : k.Row, (k.live row && k.number row == id) = true → k.number row = id :=
    fun row picked => beq_iff_eq.mp (Bool.and_eq_true_iff.mp picked).2
  unfold updateLive
  rw [map_error_iff, update_duplicate_iff numbered
    (fun _ row => k.live row && k.number row == id) picks (fun row => (keeps row).number)
    fun row member _ => sound row member]
  constructor
  · rintro ⟨own, member, picked, other, inside, clash⟩
    simp only [Kind.clash, Bool.and_eq_true, bne_iff_ne, (keeps own).number] at clash
    rcases clash with ⟨⟨⟨different, _⟩, otherAlive⟩, same⟩
    rcases Bool.and_eq_true_iff.mp picked with ⟨alive, _⟩
    have number := picks own picked
    exact ⟨own, Tables.mem_live.mpr ⟨member, alive⟩, number, other,
      Tables.mem_live.mpr ⟨inside, otherAlive⟩,
      fun otherNumber => different (number.trans otherNumber.symm), same⟩
  · rintro ⟨own, alive, number, other, otherAlive, different, same⟩
    rcases Tables.mem_live.mp alive with ⟨member, live⟩
    rcases Tables.mem_live.mp otherAlive with ⟨inside, otherLive⟩
    refine ⟨own, member, Bool.and_eq_true_iff.mpr ⟨live, beq_iff_eq.mpr number⟩, other, inside, ?_⟩
    simp only [Kind.clash, Bool.and_eq_true, bne_iff_ne, (keeps own).number, (keeps own).live]
    exact ⟨⟨⟨fun sameNumber => different (sameNumber.symm.trans number), live⟩, otherLive⟩, same⟩

/-- A change of the row of one number that keeps the conditions and refers to rows that exist fails
only because another live row has the key that the row gets. -/
theorem update_fault (numbered : t.Numbered drawn) {k : Kind} {id : Int}
    (chosen : Tables → k.Row → Bool) {change : Instant → k.Row → k.Row}
    (picks : ∀ row, chosen t row = true → k.number row = id)
    (number : ∀ row, k.number (change now row) = k.number row)
    (sound : ∀ row ∈ t.rows k, chosen t row = true → k.sound (change now row) = true)
    (anchored : ∀ row ∈ t.rows k, chosen t row = true → t.anchored k (change now row) = true)
    (failed : (update k chosen change).run now t drawn = (.error fault, drawn')) :
    fault = .duplicateKey k.index ∧ ∃ row ∈ t.rows k, chosen t row = true ∧
      ∃ other ∈ t.rows k, k.clash (change now row) other = true := by
  have stopped := update_error_iff.mp (congrArg Prod.fst failed)
  have changed {P : k.Row → Prop}
      (each : ∀ row ∈ t.rows k, chosen t row = true → P (change now row)) :
      ∀ row ∈ ((t.rows k).filter (chosen t)).map (change now), P row := by
    intro row member
    rcases List.mem_map.mp member with ⟨old, inside, rfl⟩
    rcases List.mem_filter.mp inside with ⟨inside, picked⟩
    exact each old inside picked
  rcases Tables.duplicateKey_of_fault? (changed sound) (changed anchored) stopped with ⟨rfl, _⟩
  exact ⟨rfl, (update_duplicate_iff numbered chosen picks number sound).mp (congrArg Prod.fst failed)⟩

/-- Archiving rows never fails. -/
theorem update_archived_ne_error (conforms : t.Conforms) {k : Kind} (archives : k ≠ .execution)
    (chosen : Tables → k.Row → Bool) :
    (update k chosen fun now => k.archived now).run now t drawn ≠ (.error fault, drawn') := by
  intro failed
  have stopped := update_error_iff.mp (congrArg Prod.fst failed)
  rw [conforms.fault?_archived archives now _ fun row member => (List.mem_filter.mp member).1]
    at stopped
  cases stopped

end Statement
end Shop
