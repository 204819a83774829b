import Shop.Http.Address
import Shop.Http.ContentType
import Shop.Http.Message
import Shop.Json.Record
import Shop.Service.Command

/-!
# Routes

Which command a request stands for.  The path selects what the request is about, and the method one
of the commands served there.  What cannot be understood is rejected before anything is done: first
a number in the path, then the page in the query, then the body.
-/

namespace Shop
namespace Http

/-- Why a request stands for no command. -/
inductive Rejection where
  | unknown
  /-- The method is not served there; names those that are. -/
  | notAllowed (methods : List Method)
  | badAddress (message : String)
  | badBody (failure : Failure)

def Rejection.response : Rejection → Response
  | .unknown => .notFound
  | .notAllowed methods => .notAllowed methods
  | .badAddress message => .of 400 (.text message)
  | .badBody failure => .of failure.status (.json failure.body)

/-! ## Parts of requests -/

def readText (name part : String) : Except Rejection String :=
  match unescape? part with
  | some s => .ok s
  | none => .error (.badAddress ("Invalid URL: Invalid UTF-8 in `" ++ name ++ "`"))

def readNumber (part : String) : Except Rejection Int := do
  let s ← readText "id" part
  match Number.int64.read s with
  | .ok n => return n
  | .error _ => throw (.badAddress ("Invalid URL: Cannot parse `" ++ s ++ "` to a `i64`"))

def Request.page (r : Request) : Except Rejection Page :=
  match pageOf ((Target.read r.target).query.getD "") with
  | .ok page => .ok page
  | .error fault =>
    .error (.badAddress ("Failed to deserialize query string: " ++ fault.text))

def maxBodyBytes : Nat := 2097152

/-- What a client hears of a body that is no JSON of the right shape. -/
def bodyMessage (e : Json.ReadError) : String :=
  match e.cause.category with
  | .mismatch => "Failed to deserialize the JSON body into the target type: " ++ e.located
  | _ => "Failed to parse the request body as JSON: " ++ e.located

/-- The body as a value, whether or not it keeps its rules. -/
def Request.readBody (r : Request) (reader : Json.Reader α) : Except Failure α :=
  if !((r.headers.value? "content-type").any isJsonType) then
    .error (.malformed "Expected request with `Content-Type: application/json`")
  else if maxBodyBytes < r.body.size then
    .error (.malformed "Failed to buffer the request body: length limit exceeded")
  else (Json.readBytes reader r.body).mapError fun e => .malformed (bodyMessage e)

/-- The body as a value that keeps its rules. -/
def Request.accept (r : Request) (reader : Json.Reader α) (problems : α → Problems) :
    Except Rejection (Accepted problems) :=
  match r.readBody reader with
  | .error failure => .error (.badBody failure)
  | .ok a =>
    if h : (problems a).isEmpty = true then .ok ⟨a, h⟩
    else .error (.badBody (.refused (.ofProblems (problems a))))

/-! ## What is served -/

abbrev Reading := Request → Except Rejection Command

/-- The commands served at the path below the version, by their methods. -/
def served : List String → List (Method × Reading)
  | ["product_roots"] => [(.get, fun r => Command.listRoots <$> r.page)]
  | ["product_root", id] =>
    [(.get, fun _ => Command.showRoot <$> readNumber id),
      (.delete, fun _ => Command.archiveRoot <$> readNumber id)]
  | ["product_root", id, "options"] =>
    [(.get, fun r => Command.listOptions <$> readNumber id <*> r.page),
      (.post, fun r => Command.addOption <$> readNumber id
        <*> r.accept OptionInput.reader OptionInput.problems)]
  | ["products"] => [(.get, fun r => Command.listProducts <$> r.page)]
  | ["product"] =>
    [(.post, fun r => Command.createRoot <$> r.accept RootRequest.reader RootRequest.problems)]
  | ["product", sku] =>
    [(.get, fun _ => Command.showProduct <$> readText "sku" sku),
      (.head, fun _ => Command.probeProduct <$> readText "sku" sku),
      (.patch, fun r => Command.changeProduct <$> readText "sku" sku
        <*> r.accept ProductPatch.reader ProductPatch.problems),
      (.delete, fun _ => Command.archiveProduct <$> readText "sku" sku)]
  | ["product_options", id] =>
    [(.patch, fun r => Command.renameOption <$> readNumber id
        <*> r.accept NameInput.reader NameInput.problems),
      (.delete, fun _ => Command.archiveOption <$> readNumber id)]
  | ["product_options", id, "value"] =>
    [(.post, fun r => Command.addValue <$> readNumber id
        <*> r.accept ValueInput.reader ValueInput.problems)]
  | ["product_option_values", id] =>
    [(.patch, fun r => Command.changeValue <$> readNumber id
        <*> r.accept ValueInput.reader ValueInput.problems),
      (.delete, fun _ => Command.archiveValue <$> readNumber id)]
  | ["discounts"] => [(.get, fun r => Command.listDiscounts <$> r.page)]
  | ["discount"] =>
    [(.post, fun r => Command.createDiscount
        <$> r.accept DiscountRequest.reader DiscountRequest.problems)]
  | ["discount", id] =>
    [(.get, fun _ => Command.showDiscount <$> readNumber id),
      (.patch, fun r => Command.changeDiscount <$> readNumber id
        <*> r.accept DiscountPatch.reader DiscountPatch.problems),
      (.delete, fun _ => Command.archiveDiscount <$> readNumber id)]
  | ["webhooks"] => [(.get, fun r => Command.listWebhooks <$> r.page)]
  | ["webhooks", eventType] =>
    [(.get, fun r => Command.listWebhooksFor <$> readText "event_type" eventType <*> r.page)]
  | ["webhook"] =>
    [(.post, fun r => Command.createWebhook
        <$> r.accept WebhookRequest.reader WebhookRequest.problems)]
  | ["webhook", id] =>
    [(.patch, fun r => Command.changeWebhook <$> readNumber id
        <*> r.accept WebhookPatch.reader WebhookPatch.problems),
      (.delete, fun _ => Command.archiveWebhook <$> readNumber id)]
  | ["webhook", id, "executions"] =>
    [(.get, fun r => Command.listExecutions <$> readNumber id <*> r.page)]
  | ["user"] =>
    [(.post, fun r => Command.createUser <$> r.accept UserRequest.reader UserRequest.problems)]
  | ["user", id] =>
    [(.get, fun _ => Command.showUser <$> readNumber id),
      (.patch, fun r => Command.changeUser <$> readNumber id
        <*> r.accept UserChange.reader UserChange.problems),
      (.delete, fun _ => Command.archiveUser <$> readNumber id)]
  | _ => []

def servedAt (path : String) : List (Method × Reading) :=
  match path.splitOn "/" with
  | ["", "health"] => [(.get, fun _ => .ok .checkHealth)]
  | "" :: "v1" :: segments => if segments.contains "" then [] else served segments
  | _ => []

/-- The command of a method; the headers alone are served wherever the thing itself is. -/
def readingOf (readings : List (Method × Reading)) (method : Method) : Option Reading :=
  readings.lookup method <|> if method = .head then readings.lookup .get else none

def Request.command (r : Request) : Except Rejection Command :=
  let readings := servedAt (Target.read r.target).path
  if readings.isEmpty then .error .unknown
  else match readingOf readings r.method with
    | some reading => reading r
    | none => .error (.notAllowed (readings.map (·.1)))

end Http
end Shop
