import Shop.Proofs.Service.Commands

/-!
# Replies

What a command that ends well tells its client: a command that creates something that it was
created, with a view of it, and any other command that all is well.  Only a probe for a product may
end well and have found nothing, and only a probe shows nothing.
-/

namespace Shop

namespace Action

/-- An action that ends well only with results of which something holds. -/
def Ends (a : Action α) (P : α → Prop) : Prop :=
  ∀ c p x q, a.perform c p = (.ok x, q) → P x

namespace Ends

variable {P : α → Prop}

theorem pure {a : α} (holds : P a) : (Pure.pure a : Action α).Ends P := by
  rintro c p x q ⟨⟩
  exact holds

/-- Only the end of a sequence decides on its result. -/
theorem bind {a : Action β} {next : β → Action α} (rest : ∀ x, (next x).Ends P) :
    (a >>= next).Ends P := by
  intro c p y q done
  rcases perform_bind_ok.mp done with ⟨x, middle, _, done⟩
  exact rest x c middle y q done

theorem tryCatch {a : Action α} {handle : Failure → Action α} (first : a.Ends P)
    (rest : ∀ failure, (handle failure).Ends P) : (MonadExcept.tryCatch a handle).Ends P := by
  intro c p x q done
  rw [perform_tryCatch] at done
  rcases ran : a.perform c p with ⟨failure | y, middle⟩
  · rw [ran] at done
    exact rest failure c middle x q done
  · rw [ran] at done
    cases done
    exact first c p x q ran

end Ends
end Action

/-- The status of a command that ends well. -/
def Command.success : Command → Nat
  | .createRoot _ | .addOption _ _ | .addValue _ _ | .createDiscount _ | .createWebhook _
  | .createUser _ => 201
  | _ => 200

theorem Command.success_eq (command : Command) : command.success = 200 ∨ command.success = 201 := by
  cases command <;> first | exact .inl rfl | exact .inr rfl

/-- What a command may reply when it ends well. -/
def Command.MayReply (command : Command) (reply : Reply) : Prop :=
  match command with
  | .probeProduct _ => (reply.status = 200 ∨ reply.status = 404) ∧ reply.body = none
  | command => reply.status = command.success ∧ reply.body.isSome = true

theorem Command.MayReply.of_other {command : Command} {reply : Reply} (may : command.MayReply reply)
    (other : ∀ sku, command ≠ .probeProduct sku) :
    reply.status = command.success ∧ reply.body.isSome = true := by
  cases command with
  | probeProduct sku => exact absurd rfl (other sku)
  | _ => exact may

namespace Service

open Shop.Action

variable {P : Reply → Prop}

theorem listRoots_ends (page : Page) (shown : ∀ body, P (.ok body)) : (listRoots page).Ends P := by
  refine .bind fun roots => .bind fun count => ?_
  extract_lets next
  have rest : ∀ x, Action.Ends (next x) P := fun _ => .bind fun _ => .pure (shown _)
  split <;> exact .bind rest

theorem changeProduct_ends (sku : String) (patch : ProductPatch) (shown : ∀ body, P (.ok body)) :
    (changeProduct sku patch).Ends P := by
  refine .bind fun found => .bind fun existing => ?_
  extract_lets next
  have rest : ∀ x, Action.Ends (next x) P := fun _ =>
    .bind fun _ => .bind fun _ => .bind fun _ => .bind fun _ => .pure (shown _)
  split
  · exact rest ()
  · split
    · exact rest ()
    · exact .bind fun _ => .bind rest

theorem renameOption_ends (id : Int) (name : String) (shown : ∀ body, P (.ok body)) :
    (renameOption id name).Ends P := by
  refine .bind fun found => .bind fun existing => ?_
  extract_lets next
  have rest : ∀ x, Action.Ends (next x) P := fun _ =>
    .bind fun _ => .bind fun _ => .bind fun _ => .pure (shown _)
  split
  · exact rest ()
  · exact .bind fun _ => .bind rest

theorem changeValue_ends (id : Int) (value : String) (shown : ∀ body, P (.ok body)) :
    (changeValue id value).Ends P := by
  refine .bind fun found => .bind fun existing => ?_
  extract_lets next
  have rest : ∀ x, Action.Ends (next x) P := fun _ =>
    .bind fun _ => .bind fun _ => .pure (shown _)
  split
  · exact rest ()
  · exact .bind fun _ => .bind rest

theorem changeUser_ends (id : Int) (change : UserChange) (shown : ∀ body, P (.ok body)) :
    (changeUser id change).Ends P := by
  refine .bind fun found => .bind fun existing => ?_
  extract_lets afterHash afterName
  have hashed : ∀ hash, Action.Ends (afterHash hash) P := fun _ =>
    .bind fun _ => .bind fun _ => .pure (shown _)
  have named : ∀ x, Action.Ends (afterName x) P := by
    intro _
    unfold afterName
    split
    · exact hashed none
    · exact .bind fun hash => hashed _
  split
  · exact named ()
  · exact .bind fun _ => .bind named

end Service

/-- A command that ends well replies as it may. -/
theorem Command.ends (command : Command) : command.action.Ends command.MayReply := by
  cases command with
  | checkHealth =>
    exact .tryCatch (.bind fun _ => .pure ⟨rfl, rfl⟩) fun _ => .pure ⟨rfl, rfl⟩
  | probeProduct sku =>
    refine .bind fun found => .pure ⟨?_, rfl⟩
    cases found with
    | true => exact .inl rfl
    | false => exact .inr rfl
  | listRoots page => exact Service.listRoots_ends _ fun _ => ⟨rfl, rfl⟩
  | changeProduct sku patch => exact Service.changeProduct_ends _ _ fun _ => ⟨rfl, rfl⟩
  | renameOption id input => exact Service.renameOption_ends _ _ fun _ => ⟨rfl, rfl⟩
  | changeValue id input => exact Service.changeValue_ends _ _ fun _ => ⟨rfl, rfl⟩
  | changeUser id change => exact Service.changeUser_ends _ _ fun _ => ⟨rfl, rfl⟩
  -- The others go straight on to their reply.
  | showProduct | archiveRoot | archiveOption | createWebhook =>
    exact .bind fun _ => .pure ⟨rfl, rfl⟩
  | listDiscounts | showDiscount | changeDiscount | archiveDiscount | listWebhooks | listWebhooksFor
  | changeWebhook | archiveWebhook | showUser | archiveUser | archiveValue =>
    exact .bind fun _ => .bind fun _ => .pure ⟨rfl, rfl⟩
  | listProducts | archiveProduct | createDiscount =>
    exact .bind fun _ => .bind fun _ => .bind fun _ => .pure ⟨rfl, rfl⟩
  | listOptions | listExecutions | addOption =>
    exact .bind fun _ => .bind fun _ => .bind fun _ => .bind fun _ => .pure ⟨rfl, rfl⟩
  | addValue | createUser =>
    refine .bind fun _ => .bind fun _ => .bind fun _ => ?_
    exact .bind fun _ => .bind fun _ => .pure ⟨rfl, rfl⟩
  | showRoot id =>
    refine .bind fun found => .bind fun root => .bind fun stored => .bind fun options => ?_
    exact .bind fun images => .bind fun listed => .bind fun products => .pure ⟨rfl, rfl⟩
  | createRoot request =>
    refine .bind fun _ => .bind fun _ => .bind fun found => .bind fun taken => .bind fun _ => ?_
    exact .bind fun images => .bind fun view => .bind fun _ => .pure ⟨rfl, rfl⟩

/-- A command that is not answered with success has failed, or was a probe. -/
theorem Command.unsuccessful {command : Command} {c : Context} {s : Session}
    (refused : ¬ (200 ≤ (command.action.serve c s).1.status ∧
      (command.action.serve c s).1.status < 300)) :
    (∃ failure q, command.action.perform c (.start s) = (.error failure, q) ∧
      command.action.serve c s = (.ofFailure failure, q.session)) ∨
    ∃ sku, command = .probeProduct sku := by
  by_cases probe : ∃ sku, command = .probeProduct sku
  · exact .inr probe
  rcases Action.serve_cases command.action c s with failed | ⟨reply, q, ran, replied⟩
  · exact .inl failed
  · have ended := ((command.ends c _ reply q ran).of_other (not_exists.mp probe)).1
    rw [replied, ended] at refused
    rcases command.success_eq with success | success
    all_goals
      rw [success] at refused
      exact absurd ⟨by decide, by decide⟩ refused

end Shop
