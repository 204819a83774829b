import Shop.Proofs.Http.Understanding

/-!
# Which requests write roots and products

A root is created, and a product is changed or archived, by requests with one method to one path
each.  So what a request writes of these is told by its method and its path, whatever else it says,
and what the command works with is read off the path and the body.
-/

namespace Shop
namespace Http

/-! ## What was read -/

section Results

variable {P : β → Prop}

theorem of_map_ok {f : α → β} {result : Except Rejection α}
    (given : ∀ a, result = .ok a → P (f a)) : ∀ b, f <$> result = .ok b → P b := by
  intro b read
  cases result with
  | error rejection => cases read
  | ok a =>
    cases read
    exact given a rfl

theorem of_seq_ok {f : α → γ → β} {first : Except Rejection α} {second : Except Rejection γ}
    (given : ∀ a c, first = .ok a → second = .ok c → P (f a c)) :
    ∀ b, f <$> first <*> second = .ok b → P b := by
  intro b read
  cases first with
  | error rejection => cases read
  | ok a => exact of_map_ok (given a · rfl) b read

end Results

/-- What was accepted was read off the body. -/
theorem Request.readBody_of_accept {r : Request} {reader : Json.Reader α} {problems : α → Problems}
    {accepted : Accepted problems} (done : r.accept reader problems = .ok accepted) :
    r.readBody reader = .ok accepted.val := by
  unfold Request.accept at done
  split at done
  · cases done
  · rename_i read
    split at done
    · cases done
      exact read
    · cases done

/-! ## Methods and paths -/

/-- The event that tells of what a method does at a path below the version, if one does, and the
status with which it succeeds. -/
def toldAt : Method → List String → Option (String × Nat)
  | .post, ["product"] => some (Rule.productCreated, 201)
  | .patch, ["product", _] => some (Rule.productUpdated, 200)
  | .delete, ["product", _] => some (Rule.productArchived, 200)
  | _, _ => none

/-- What a request with a method to a path says if it stands for a command that writes a root or a
product.  No event tells of any other command. -/
def Request.StandsFor (r : Request) (asked : Method) (segments : List String) : Command → Prop
  | .createRoot request =>
    asked = .post ∧ segments = ["product"] ∧ r.readBody RootRequest.reader = .ok request.val
  | .changeProduct sku patch =>
    asked = .patch ∧ (∃ part, segments = ["product", part] ∧ readText "sku" part = .ok sku) ∧
      r.readBody ProductPatch.reader = .ok patch.val
  | .archiveProduct sku =>
    asked = .delete ∧ ∃ part, segments = ["product", part] ∧ readText "sku" part = .ok sku
  | _ => toldAt asked segments = none

theorem served_standsFor (r : Request) (segments : List String) :
    ∀ entry ∈ served segments, ∀ command, entry.2 r = .ok command →
      r.StandsFor entry.1 segments command := by
  unfold served
  split
  all_goals simp only [List.forall_mem_cons, List.not_mem_nil, IsEmpty.forall_iff, implies_true,
    and_true]
  case h_1 | h_4 | h_10 | h_13 => exact of_map_ok fun _ _ => rfl
  case h_2 => exact ⟨of_map_ok fun _ _ => rfl, of_map_ok fun _ _ => rfl⟩
  case h_3 => exact ⟨of_seq_ok fun _ _ _ _ => rfl, of_seq_ok fun _ _ _ _ => rfl⟩
  case h_5 =>
    exact of_map_ok fun request accepted => ⟨rfl, rfl, r.readBody_of_accept accepted⟩
  case h_6 part =>
    refine ⟨of_map_ok fun _ _ => rfl, of_map_ok fun _ _ => rfl, of_seq_ok ?_, of_map_ok ?_⟩
    · exact fun sku patch named accepted =>
        ⟨rfl, ⟨part, rfl, named⟩, r.readBody_of_accept accepted⟩
    · exact fun sku named => ⟨rfl, part, rfl, named⟩
  case h_7 | h_9 | h_16 => exact ⟨of_seq_ok fun _ _ _ _ => rfl, of_map_ok fun _ _ => rfl⟩
  case h_8 | h_14 | h_17 => exact of_seq_ok fun _ _ _ _ => rfl
  case h_11 | h_15 | h_18 => exact of_map_ok fun _ _ => rfl
  case h_12 | h_19 =>
    exact ⟨of_map_ok fun _ _ => rfl, of_seq_ok fun _ _ _ _ => rfl, of_map_ok fun _ _ => rfl⟩

/-- What is told of succeeds as such, and its answer has a body. -/
theorem of_toldAt {asked : Method} {segments : List String} {eventType : String} {success : Nat}
    (told : toldAt asked segments = some (eventType, success)) :
    (success = 200 ∨ success = 201) ∧ asked ≠ .options ∧ asked ≠ .head := by
  unfold toldAt at told
  split at told <;> cases told <;> simp

namespace Request

variable {r : Request} {command : Command}

/-- The event that tells of what a request asks for, if one does, and the status with which that
succeeds. -/
def told? (r : Request) : Option (String × Nat) :=
  match (Target.read r.target).path.splitOn "/" with
  | "" :: "v1" :: segments => toldAt r.method segments
  | _ => none

theorem told?_of_path {segments : List String}
    (path : (Target.read r.target).path.splitOn "/" = "" :: "v1" :: segments) :
    r.told? = toldAt r.method segments := by
  simp only [told?, path]

theorem of_told? {eventType : String} {success : Nat} (told : r.told? = some (eventType, success)) :
    (success = 200 ∨ success = 201) ∧ r.method ≠ .options ∧ r.method ≠ .head := by
  unfold told? at told
  split at told
  · exact of_toldAt told
  · cases told

/-- A request stands for the check of the service, or for a command served at its path for its method
or, if it asks for the headers alone, for the thing itself. -/
theorem served?_standsFor (served : r.served? = some command) :
    (command = .checkHealth ∧ r.told? = none) ∨ ∃ asked segments,
      r.Asks r.method segments ∧ r.StandsFor asked segments command ∧
        (asked = r.method ∨ r.method = .head ∧ asked = .get) := by
  have stands := (served?_eq_some.mp served).2.2
  unfold Request.command at stands
  extract_lets readings at stands
  split at stands
  · cases stands
  split at stands
  · rename_i reading chosen
    rcases mem_of_readingOf chosen with ⟨asked, inside, method⟩
    unfold readings servedAt at inside
    split at inside
    · rename_i path
      cases List.mem_singleton.mp inside
      cases stands
      exact .inl ⟨rfl, by simp [told?, path]⟩
    · rename_i segments path
      split at inside
      · cases inside
      · rename_i filled
        refine .inr ⟨asked, segments, ⟨rfl, path, by simpa using filled⟩, ?_, method⟩
        exact served_standsFor r segments _ inside command stands
    · cases inside
  · cases stands

theorem asks_of_createRoot {request : Accepted RootRequest.problems}
    (served : r.served? = some (.createRoot request)) :
    r.Asks .post ["product"] ∧ r.readBody RootRequest.reader = .ok request.val := by
  rcases served?_standsFor served with ⟨other, _⟩ | ⟨asked, _, asks, ⟨rfl, rfl, body⟩, method⟩
  · cases other
  · rcases method with method | ⟨_, other⟩
    · exact ⟨method ▸ asks, body⟩
    · cases other

theorem asks_of_changeProduct {sku : String} {patch : Accepted ProductPatch.problems}
    (served : r.served? = some (.changeProduct sku patch)) :
    (∃ part, r.Asks .patch ["product", part] ∧ readText "sku" part = .ok sku) ∧
      r.readBody ProductPatch.reader = .ok patch.val := by
  rcases served?_standsFor served with
    ⟨other, _⟩ | ⟨asked, _, asks, ⟨rfl, ⟨part, rfl, named⟩, body⟩, method⟩
  · cases other
  · rcases method with method | ⟨_, other⟩
    · exact ⟨⟨part, method ▸ asks, named⟩, body⟩
    · cases other

end Request

end Http

/-- The event that tells of a command, if one does, and the status with which the command succeeds.
-/
def Command.told? : Command → Option (String × Nat)
  | .createRoot _ => some (Rule.productCreated, 201)
  | .changeProduct _ _ => some (Rule.productUpdated, 200)
  | .archiveProduct _ => some (Rule.productArchived, 200)
  | _ => none

namespace Http

variable {r : Request}

/-- The same event tells of a request and of the command for which it stands. -/
theorem Request.told?_of_served {command : Command} (served : r.served? = some command) :
    r.told? = command.told? := by
  rcases served?_standsFor served with ⟨rfl, untold⟩ | ⟨asked, segments, asks, stands, method⟩
  · exact untold
  rw [told?_of_path asks.path]
  rcases method with rfl | ⟨headers, rfl⟩
  · cases command with
    | createRoot request =>
      rcases stands with ⟨post, rfl, _⟩
      rw [post]
      rfl
    | changeProduct sku patch =>
      rcases stands with ⟨patches, ⟨part, rfl, _⟩, _⟩
      rw [patches]
      rfl
    | archiveProduct sku =>
      rcases stands with ⟨deletes, part, rfl, _⟩
      rw [deletes]
      rfl
    | _ => exact stands
  · have untold : toldAt r.method segments = none := by simp [toldAt, headers]
    rw [untold]
    cases command with
    | createRoot => cases stands.1
    | changeProduct => cases stands.1
    | archiveProduct => cases stands.1
    | _ => rfl

/-- A request of which an event could tell, but for which no command answers, does not succeed. -/
theorem Request.status_of_unserved {c : Context} {fresh : String} {s : Session}
    (unserved : r.served? = none) {eventType : String} {success : Nat}
    (told : r.told? = some (eventType, success)) : (serve c fresh s r).1.status ≠ success := by
  unfold told? at told
  split at told
  · rename_i segments path
    rcases of_toldAt told with ⟨succeeds, other, _⟩
    have outside := filePath?_eq_none path
    cases stands : r.command with
    | ok command =>
      rw [served?_eq_some.mpr ⟨other, outside, stands⟩] at unserved
      cases unserved
    | error rejection =>
      rw [(serve_rejected (c := c) (s := s) fresh other outside stands).1]
      rcases status_of_rejected stands with status | status | status <;> omega
  · cases told

end Http
end Shop
