import ShaderShrink.Dispatch.Address
import ShaderShrink.Dispatch.Host
import ShaderShrink.Dispatch.Outcome
import ShaderShrink.Json.Inline
import ShaderShrink.Shader.Storage
import ShaderShrink.Text.Base64

/-!
# Tools behind a server

A job is a JSON object with the shader, its metadata and what to do.  Every attempt at a job has a
number of its own, and a response counts only if it repeats that number.  Failures of the connection
and unusable responses are tried again, up to a limit; after that there is no verdict.
-/

namespace ShaderShrink

/-- The tools behind a server. -/
structure Server where
  address : String
  token : String
  retryLimit : Int
  timeout : Double

/-- The fields of a server's response. -/
abbrev Response := List (String × Json)

namespace Server

/-- What the address of jobs ends with. -/
def jobEndpoint : String := "/manageAPI"

/-- The address of jobs on a server. -/
def jobAddress (server : String) : String :=
  String.ofList ((server.toList.reverse.dropWhile (· == '/')).reverse) ++ jobEndpoint

/-- Whether a value is the given job number: words and doubles count as numbers. -/
def isJob (number : Int) : Json → Bool
  | .int n => n = number
  | .double value => value.toInt? = some number
  | .bool value => (if value then 1 else 0) = number
  | _ => false

/-- The response in a body: an object that repeats the job's number. -/
def readResponse (number : Int) (body : ByteArray) : Except Fault Response :=
  match Json.ofBytes? body with
  | none => .error .malformedJson
  | some (.obj fields) =>
    let answered := (Json.field? "jobId" fields).getD .null
    if isJob number answered then .ok fields
    else
      .error (.value ("response for job " ++ String.ofList answered.shown ++ " does not match job " ++
        toString number))
  | some _ => .error (.value "server response is not a JSON object")

variable {σ : Type}

/-- The next job number. -/
def takeNumber : Action σ Int :=
  modifyGet fun world => (world.nextJob, { world with nextJob := world.nextJob + 1 })

/-- Sends a job once. -/
def post (server : Server) (host : Host σ) (job : List (String × Json)) (number : Int) :
    Action σ Response := do
  let document := Json.obj (job ++ [("jobId", .int number), ("token", .str server.token)])
  match document.compact? with
  | none => throw .unwritableJson
  | some text =>
    let address ← Action.ofExcept (Address.read server.address)
    let body ← host.send ⟨address, "POST", "application/json", server.timeout, Text.utf8 text⟩
    Action.ofExcept (readResponse number body)

/-- Whether a job is tried again after a fault. -/
def isRetried (fault : Fault) : Bool := fault.isSystem || fault.isValue

/-- How many attempts a job has. -/
def attempts (server : Server) : Int := server.retryLimit + 1

/-- Sends a job once, and gives the fault if the job may be tried again. -/
def tryPost (server : Server) (host : Host σ) (job : List (String × Json)) (number : Int) :
    Action σ (Except Fault Response) := do
  try return .ok (← server.post host job number)
  catch fault => if isRetried fault then return .error fault else throw fault

/-- Sends a job up to `left` more times, after `done` attempts. -/
def submitFrom (server : Server) (host : Host σ) (job : List (String × Json)) (done : Nat) :
    (left : Nat) → Action σ Response
  | 0 =>
    throw (.oracle ("server at " ++ server.address ++ " gave no usable result after " ++
      toString server.attempts ++ " attempts"))
  | left + 1 => do
    let number ← takeNumber
    match ← server.tryPost host job number with
    | .ok response => pure response
    | .error fault =>
      Action.log .warning ("job " ++ toString number ++ " failed (attempt " ++ toString (done + 1) ++
        " of " ++ toString server.attempts ++ "): " ++ fault.text)
      submitFrom server host job (done + 1) left

/-- Sends a job until there is a usable response. -/
def submit (server : Server) (host : Host σ) (job : List (String × Json)) : Action σ Response :=
  submitFrom server host job 0 server.attempts.toNat

/-- The job for the shader at a path; a shader without metadata file has no metadata. -/
def job (shader : Path) (task : String × Json) : Action σ (List (String × Json)) := do
  let sidecar ← Action.ofExcept (Shader.metadataPath shader)
  let text ← Action.readText shader
  let metadata ←
    if ← Action.isFile sidecar then Action.readJson sidecar else pure (.obj [])
  return [("fragmentSource", .str (String.ofList text)), ("metadata", metadata), task]

/-- The status that a response tells. -/
def status (response : Response) : RenderStatus :=
  match Json.field? "status" response with
  | some (.str name) => (RenderStatus.ofName? name).getD .unexpectedError
  | _ => .unexpectedError

/-- The log of a response. -/
def logText (response : Response) : Text := ((Json.field? "log" response).getD (.str "")).shown

/-- The bytes of an image in a response. -/
def readImage (server : Server) (image : String) : Except Fault ByteArray :=
  if image.toList.any fun c => 127 < c.toNat then
    .error (.value "string argument should contain only ASCII characters")
  else
    match Base64.read image.toList with
    | .ok bytes => .ok bytes
    | .error problem =>
      .error (.oracle ("server at " ++ server.address ++ " returned an undecodable image: " ++
        problem.message))

/-- Renders a shader. -/
def render (server : Server) (host : Host σ) (shader image : Path) (skip : Bool) :
    Action σ RenderOutcome := do
  let response ← server.submit host (← job shader ("skipRender", .bool skip))
  let status := status response
  let log := logText response
  match status, Json.field? "png" response with
  | .success, some (.str png) => do
    let bytes ← Action.ofExcept (server.readImage png)
    Action.writeBytes image bytes
    return ⟨status, some image, log⟩
  | _, _ => return ⟨status, none, log⟩

/-- Validates a shader. -/
def validate (server : Server) (host : Host σ) (shader : Path) : Action σ ValidationOutcome := do
  let response ← server.submit host (← job shader ("validateOnly", .bool true))
  let passed := Json.field? "status" response == some (.str RenderStatus.success.name)
  return ⟨if passed then 0 else 1, logText response⟩

/-- The tools behind a server as a dispatcher. -/
def dispatcher (server : Server) (host : Host σ) : Dispatcher σ where
  render := server.render host
  validate := server.validate host

end Server

end ShaderShrink
