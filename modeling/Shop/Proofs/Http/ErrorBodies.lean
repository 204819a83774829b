import Shop.Proofs.Http.Understanding
import Shop.Proofs.Service.Replies

/-!
# What is told of errors

A request for a command that is not answered with success is told why, in a body with the status and
a message.  That is so once its address is understood: a part of the path or a query that cannot be
read is answered with a plain text.
-/

namespace Shop
namespace Http

/-- A response whose body is an object with its status and a message. -/
def Response.Explains (response : Response) : Prop :=
  ∃ message, response.body =
    .json (.object [("status", .int response.status), ("message", .text message)])

/-! ## Answers to requests -/

variable {c : Context} {s : Session} {r : Request} {asked : Method} {segments : List String}
  {reading : Reading}

theorem Request.Asks.decides (asks : r.Asks asked segments)
    (chosen : readingOf (Http.served segments) asked = some reading) (bodied : asked ≠ .head) :
    asked ≠ .options ∧ Decides true (r.Understood asked segments)
      (fun command => ∀ sku, command ≠ .probeProduct sku) r.command := by
  rcases mem_of_readingOf chosen with ⟨method, inside, rfl | ⟨headers, _⟩⟩
  swap
  · exact absurd headers bodied
  refine ⟨served_ne_options segments _ inside, ?_⟩
  rw [asks.command chosen]
  exact (served_decides r segments _ inside).mono fun command probes sku same =>
    bodied (probes sku same)

/-- A rejected request hears why, unless it asked for the headers alone. -/
theorem serve_rejected_body (fresh : String) {rejection : Rejection} (other : r.method ≠ .options)
    (bodied : r.method ≠ .head) (outside : filePath? (Target.read r.target).path = none)
    (asked : r.command = .error rejection) :
    (serve c fresh s r).1.body = rejection.response.body := by
  simp only [serve, other, if_false, share_body]
  cases rejection <;>
    simp [answer, outside, asked, bodied, named, Response.sized, Response.withHeader,
      Rejection.response]

theorem Response.Explains.of_failure {response : Response} {failure : Failure}
    (status : response.status = failure.status) (body : response.body = .json failure.body) :
    response.Explains :=
  ⟨failure.answer.2, by rw [body, status]; rfl⟩

/-- What is told of errors, whatever is sent where a method with a body is served.  If the address
is understood, an answer that is not one of success has a body with its status and a message.  If it
is not, the answer is a plain text with the status of a bad request. -/
theorem Request.Asks.errorBody (asks : r.Asks asked segments)
    (chosen : (readingOf (Http.served segments) asked).isSome = true) (bodied : asked ≠ .head)
    (c : Context) (fresh : String) (s : Session) :
    let answered := (serve c fresh s r).1
    (r.Understood asked segments → ¬ (200 ≤ answered.status ∧ answered.status < 300) →
      answered.Explains) ∧
    (¬ r.Understood asked segments →
      answered.status = 400 ∧ ∃ message, answered.body = .text message) := by
  intro answered
  rcases Option.isSome_iff_exists.mp chosen with ⟨reading, chosen⟩
  rcases asks.decides chosen bodied with ⟨other, decides⟩
  have method := asks.method
  subst method
  cases stands : r.command with
  | ok command =>
    rw [stands] at decides
    rcases serve_command (c := c) (s := s) fresh other bodied asks.outside stands with
      ⟨status, shown, _⟩
    refine ⟨fun _ refused => ?_, fun misunderstood => absurd decides.1 misunderstood⟩
    have refused : ¬ (200 ≤ (command.action.serve c s).1.status ∧
        (command.action.serve c s).1.status < 300) := by
      rwa [← status]
    rcases Command.unsuccessful refused with ⟨failure, q, _, replied⟩ | ⟨sku, probe⟩
    · rw [replied] at status shown
      exact .of_failure status (shown _ rfl)
    · exact absurd probe (decides.2 sku)
  | error rejection =>
    rw [stands] at decides
    have status := (serve_rejected (c := c) (s := s) fresh other asks.outside stands).1
    have body := serve_rejected_body (c := c) (s := s) fresh other bodied asks.outside stands
    cases rejection with
    | badAddress message =>
      exact ⟨fun understood => absurd understood decides, fun _ => ⟨status, message, body⟩⟩
    | badBody failure =>
      exact ⟨fun _ _ => .of_failure status body, fun misunderstood =>
        absurd decides.2.1 misunderstood⟩
    | unknown => exact decides.elim
    | notAllowed methods => exact decides.elim

/-- A root that is not there is told of in a body with the status and a message. -/
theorem Request.Asks.errorBody_missing :
    let answered :=
      (serve (.calm ⟨0, 0⟩) "look" (.start 16) (lookRequest "/v1/product_root/7")).1
    answered.status = 404 ∧ answered.Explains := by
  intro answered
  have missing : answered.status = 404 := by
    simp only [answered, serve, answer, Request.command, servedAt_eq]
    decide +kernel
  have asks : (lookRequest "/v1/product_root/7").Asks .get ["product_root", "7"] := by
    refine ⟨rfl, ?_, by decide⟩
    rw [Text.splitOn_slash]
    decide +kernel
  have understood :
      (lookRequest "/v1/product_root/7").Understood .get ["product_root", "7"] := by
    refine ⟨⟨"7", 7, by decide +kernel, by decide +kernel⟩, fun _ list => ?_⟩
    exact absurd (show "product_root" = "webhooks" from list) (by decide)
  refine ⟨missing, (asks.errorBody rfl (by decide) _ _ _).1 understood ?_⟩
  change ¬ (200 ≤ answered.status ∧ answered.status < 300)
  rw [missing]
  decide

/-- Not every error is told of in such a body: a request for a root whose number cannot be read is
answered with a plain text. -/
theorem errorBody_plain :
    ¬ ∀ (c : Context) (fresh : String) (s : Session) (r : Request) (asked : Method)
        (segments : List String),
      r.Asks asked segments → (readingOf (served segments) asked).isSome = true → asked ≠ .head →
        let answered := (serve c fresh s r).1
        ¬ (200 ≤ answered.status ∧ answered.status < 300) → answered.Explains := by
  intro always
  have asks : (lookRequest "/v1/product_root/abc").Asks .get ["product_root", "abc"] := by
    refine ⟨rfl, ?_, by decide⟩
    rw [Text.splitOn_slash]
    decide +kernel
  have plain :
      let answered :=
        (serve (.calm ⟨0, 0⟩) "look" (.start 16) (lookRequest "/v1/product_root/abc")).1
      answered.status = 400 ∧ (answered.body matches .text _) = true := by
    simp only [serve, answer, Request.command, servedAt_eq]
    decide +kernel
  rcases always (.calm ⟨0, 0⟩) "look" (.start 16) _ _ _ asks rfl (by decide)
    (by rw [plain.1]; decide) with ⟨message, body⟩
  have text := plain.2
  rw [body] at text
  cases text

end Http
end Shop
