import Shop.Proofs.Http.Serving
import Shop.Proofs.Service.Reading

/-!
# Asking for what is served

A request asks for what lies below the version, by the segments of its path.  The segments and the
method select the command that answers, and if that command only reads, the answer is what it reads.
-/

namespace Shop
namespace Http

/-- A request of a method for what the segments of a path below the version name. -/
structure Request.Asks (r : Request) (asked : Method) (segments : List String) : Prop where
  method : r.method = asked
  path : (Target.read r.target).path.splitOn "/" = "" :: "v1" :: segments
  filled : "" ∉ segments

/-- No picture lies below the version. -/
theorem filePath?_eq_none {path : String} {segments : List String}
    (parts : path.splitOn "/" = "" :: "v1" :: segments) : filePath? path = none := by
  rw [Text.splitOn_slash] at parts
  -- Below the path of the pictures, the first segment is another one.
  have apart (rest : List String) : "" :: "product_images" :: rest ≠ "" :: "v1" :: segments := by
    intro same
    have second := (List.cons.inj (List.cons.inj same).2).1
    exact absurd second (by decide)
  have named : ∀ x ∈ "product_images".toList, (x == '/') = false := by simp
  simp only [filePath?]
  split
  · rename_i leads
    rcases List.isPrefixOf_iff_prefix.mp leads with ⟨rest, whole⟩
    rw [← whole, List.drop_left]
    have start : Action.pictureAddresses.toList = '/' :: "product_images".toList := by decide +kernel
    rw [← whole, start, List.cons_append, List.splitOnP_cons_eq_if_modifyHead,
      if_pos (beq_self_eq_true _)] at parts
    split
    · rw [List.append_nil, List.splitOnP_eq_singleton named] at parts
      exact absurd parts (apart [])
    · rw [List.splitOnP_append_cons_of_forall_mem named _ rfl] at parts
      exact absurd parts (apart _)
    · rfl
  · rfl

namespace Request.Asks

variable {r : Request} {asked : Method} {segments : List String}

theorem outside (asks : r.Asks asked segments) : filePath? (Target.read r.target).path = none :=
  filePath?_eq_none asks.path

theorem servedAt (asks : r.Asks asked segments) :
    Http.servedAt (Target.read r.target).path = served segments := by
  unfold Http.servedAt
  rw [asks.path]
  have filled : segments.contains "" = false := by simpa using asks.filled
  simp only [filled, Bool.false_eq_true, if_false]

/-- The request stands for what is read for its segments and method. -/
theorem command (asks : r.Asks asked segments) {reading : Reading}
    (chosen : readingOf (served segments) asked = some reading) : r.command = reading r := by
  have present : (served segments).isEmpty = false := by
    cases readings : served segments with
    | nil =>
      rw [readings] at chosen
      cases asked <;> cases chosen
    | cons => rfl
  unfold Request.command
  simp only [asks.servedAt, present, asks.method, chosen, Bool.false_eq_true, if_false]

variable {c : Context} {s : Session} {command : Command} {result : Except Failure Reply}

theorem served (asks : r.Asks asked segments) (other : asked ≠ .options)
    (stands : r.command = .ok command) : r.served? = some command :=
  Request.served?_eq_some.mpr ⟨asks.method ▸ other, asks.outside, stands⟩

/-- Where the command only reads, the answer has the status of what it reads, and the session stays
as it is. -/
theorem reads (asks : r.Asks asked segments) (other : asked ≠ .options)
    (stands : r.command = .ok command) (reads : command.action.Reads c s.tables result)
    (fresh : String) :
    (serve c fresh s r).1.status = (Reply.ofResult result).status ∧ (serve c fresh s r).2 = s := by
  rcases serve_served c fresh s (asks.served other stands) with ⟨status, session⟩
  rw [reads.serve] at status session
  exact ⟨status, session⟩

/-- What was read is shown. -/
theorem shows (asks : r.Asks .get segments) (stands : r.command = .ok command) {body : Json}
    (reads : command.action.Reads c s.tables (.ok (.ok body))) (fresh : String) :
    (serve c fresh s r).1.status = 200 ∧ (serve c fresh s r).1.body = .json body := by
  have other : r.method ≠ .options := by simp [asks.method]
  have bodied : r.method ≠ .head := by simp [asks.method]
  rcases serve_command (c := c) (s := s) fresh other bodied asks.outside stands with
    ⟨status, shown, _⟩
  rw [reads.serve] at status shown
  exact ⟨status, shown body rfl⟩

end Request.Asks

end Http
end Shop
