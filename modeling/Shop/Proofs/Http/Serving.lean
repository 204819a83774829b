import Shop.Http.Serve
import Shop.Proofs.Text.Splitting

/-!
# What serving a request comes to

Headers aside, a request that stands for a command is answered as the command is, and one that stands
for none leaves the session as it is.
-/

namespace Shop
namespace Http

namespace Response

@[simp]
theorem withDefault_status (response : Response) (name value : String) :
    (response.withDefault name value).status = response.status := by
  unfold withDefault
  split <;> rfl

@[simp]
theorem withDefault_body (response : Response) (name value : String) :
    (response.withDefault name value).body = response.body := by
  unfold withDefault
  split <;> rfl

end Response

@[simp]
theorem share_status (origins : List String) (r : Request) (response : Response) :
    (share origins r response).status = response.status := by
  simp only [share]
  split
  · split <;> rfl
  · rfl

@[simp]
theorem share_body (origins : List String) (r : Request) (response : Response) :
    (share origins r response).body = response.body := by
  simp only [share]
  split
  · split <;> rfl
  · rfl

variable {c : Context} {s : Session} {r : Request}

/-! ## Which command answers -/

/-- The command that answers a request, if one does.  None answers a browser that asks what it may
do, and none a request for a picture. -/
def Request.served? (r : Request) : Option Command :=
  if r.method = .options ∨ (filePath? (Target.read r.target).path).isSome then none
  else r.command.toOption

theorem Request.served?_eq_some {command : Command} :
    r.served? = some command ↔ r.method ≠ .options ∧
      filePath? (Target.read r.target).path = none ∧ r.command = .ok command := by
  unfold served?
  split
  · rename_i aside
    rcases aside with preflight | file
    · simp [preflight]
    · simp [Option.isSome_iff_ne_none.mp file]
  · rename_i commands
    rcases not_or.mp commands with ⟨other, outside⟩
    rw [Option.not_isSome_iff_eq_none] at outside
    cases r.command <;> simp [other, outside, Except.toOption]

/-- What stands at a path is read off the list of its characters, which can be evaluated. -/
theorem servedAt_eq (path : String) :
    servedAt path = match (path.toList.splitOnP (· == '/')).map String.ofList with
      | ["", "health"] => [(.get, fun _ => .ok .checkHealth)]
      | "" :: "v1" :: segments => if segments.contains "" then [] else served segments
      | _ => [] := by
  rw [← Text.splitOn_slash]
  rfl

/-! ## What the answer leaves -/

/-- A request that a command answers has its status and leaves what it leaves. -/
theorem serve_served (c : Context) (fresh : String) (s : Session) {command : Command}
    (served : r.served? = some command) :
    (serve c fresh s r).1.status = (command.action.serve c s).1.status ∧
      (serve c fresh s r).2 = (command.action.serve c s).2 := by
  rcases Request.served?_eq_some.mp served with ⟨other, outside, asked⟩
  have answered : answer c s r =
      (if r.method = .head then ((ofReply (command.action.serve c s).1).sized).withoutBody
        else (ofReply (command.action.serve c s).1).sized, (command.action.serve c s).2) := by
    simp only [answer, outside, asked]
  constructor
  · simp only [serve, other, if_false, answered, share_status]
    split <;> exact Response.withDefault_status _ _ _
  · simp only [serve, other, if_false, answered]

theorem serve_unserved (c : Context) (fresh : String) (s : Session) (unserved : r.served? = none) :
    (serve c fresh s r).2 = s := by
  unfold serve
  split
  · rfl
  · rename_i other
    simp only [answer]
    cases outside : filePath? (Target.read r.target).path with
    | some path => rfl
    | none =>
      cases asked : r.command with
      | error rejection => cases rejection <;> rfl
      | ok command =>
        rw [Request.served?_eq_some.mpr ⟨other, outside, asked⟩] at unserved
        cases unserved

/-- A request leaves the session as it is, or as the command leaves it for which it stands. -/
theorem serve_session (c : Context) (fresh : String) (s : Session) (r : Request) :
    (serve c fresh s r).2 = s ∨
      ∃ command, r.command = .ok command ∧
        (serve c fresh s r).2 = (command.action.serve c s).2 := by
  cases served : r.served? with
  | none => exact .inl (serve_unserved c fresh s served)
  | some command =>
    exact .inr ⟨command, (Request.served?_eq_some.mp served).2.2, (serve_served c fresh s served).2⟩

/-- A request that stands for a command is answered by it. -/
theorem serve_command (fresh : String) {command : Command}
    (other : r.method ≠ .options) (bodied : r.method ≠ .head)
    (outside : filePath? (Target.read r.target).path = none) (asked : r.command = .ok command) :
    (serve c fresh s r).1.status = (command.action.serve c s).1.status ∧
      (∀ body, (command.action.serve c s).1.body = some body →
        (serve c fresh s r).1.body = .json body) ∧
      (serve c fresh s r).2 = (command.action.serve c s).2 := by
  have answered : answer c s r = ((ofReply (command.action.serve c s).1).sized,
      (command.action.serve c s).2) := by
    simp only [answer, outside, asked, bodied, if_false]
  refine ⟨?_, fun body shown => ?_, ?_⟩
  · simp only [serve, other, if_false, answered, share_status]
    exact Response.withDefault_status _ _ _
  · simp only [serve, other, if_false, answered, share_body]
    change (Response.sized _).body = _
    rw [Response.sized, Response.withDefault_body, ofReply, shown]
    rfl
  · simp only [serve, other, if_false, answered]

/-- A request that stands for no command is rejected. -/
theorem serve_rejected (fresh : String) {rejection : Rejection}
    (other : r.method ≠ .options)
    (outside : filePath? (Target.read r.target).path = none)
    (asked : r.command = .error rejection) :
    (serve c fresh s r).1.status = rejection.response.status ∧ (serve c fresh s r).2 = s := by
  have headless (response : Response) :
      (if r.method = .head then response.withoutBody else response).status = response.status := by
    split <;> rfl
  simp only [serve, other, if_false, share_status]
  cases rejection <;>
    simp [answer, outside, asked, headless, named, Response.sized, Response.withHeader,
      Rejection.response]

/-! ## Requests -/

/-- A request for what lies at a target. -/
def lookRequest (target : String) : Request where
  method := .get
  target
  headers := []
  body := .empty

/-- A request to archive what lies at a target. -/
def archiveRequest (target : String) : Request := ⟨.delete, target, [], .empty⟩

/-- A request that tells something as JSON. -/
def jsonRequest (method : Method) (target text : String) : Request where
  method
  target
  headers := [("content-type", "application/json")]
  body := text.toUTF8

end Http
end Shop
