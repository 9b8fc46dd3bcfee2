import Mathlib.Data.List.Chain
import Mathlib.Data.List.Forall2
import ShaderShrink.Proofs.Dispatch.Serving

/-!
# Attempts at jobs

Every attempt at a job takes the next job number, and sends one request if it can be made.  A call of the tools behind a
server goes on to the next attempt until a response comes back that repeats the number of the attempt just made.  Over any
sequence of calls the numbers follow each other, and what was sent is what the attempts exchanged, in their order.
-/

namespace ShaderShrink

open Effect

variable {σ α β : Type}

/-! ## What is exchanged -/

/-- A request that was sent, and the body of the response if one came back. -/
structure Exchange where
  request : Request
  reply : Option ByteArray

/-- How sending ends: with the body of a response, or with a failure of the system. -/
inductive Replied (left : World σ) : Option ByteArray → EStateM.Result Fault (World σ) ByteArray → Prop
  | answered (body : ByteArray) : Replied left (some body) (.ok body left)
  | failed (failure : SystemFailure) (text : String) : Replied left none (.error (.system failure text) left)

/-- Whether what is outside of the program tells what a host sent: sending adds an exchange and changes nothing else. -/
def Host.Notes (host : Host σ) (sent : σ → List Exchange) : Prop :=
  ∀ request world, ∃ reply outside, sent outside = sent world.outside ++ [⟨request, reply⟩] ∧
    Replied { world with outside := outside } reply (host.send request world)

theorem Host.Notes.sends {host : Host σ} {sent : σ → List Exchange} (notes : host.Notes sent) : host.Sends where
  fails request world fault left failed := by
    obtain ⟨reply, outside, -, replied⟩ := notes request world
    rw [failed] at replied
    cases replied
    rfl
  takes request world := by
    obtain ⟨reply, outside, -, replied⟩ := notes request world
    rw [after]
    generalize host.send request world = result at replied
    cases replied <;> exact ⟨rfl, rfl, Int.le_refl _, by simp [leaves]⟩

/-- One attempt at a job: its number, and what was exchanged if its request could be made. -/
structure Attempt where
  number : Int
  exchange : Option Exchange

/-- Whether a response came back for an attempt: an object that repeats its number. -/
def Attempt.Answered (attempt : Attempt) (response : Response) : Prop :=
  ∃ exchange body, attempt.exchange = some exchange ∧ exchange.reply = some body ∧
    Json.ofBytes? body = some (.obj response) ∧
    Server.isJob attempt.number ((Json.field? "jobId" response).getD .null) = true

/-- The numbers from one on. -/
def numbersFrom (first : Int) (count : Nat) : List Int := (List.range count).map fun step : Nat => first + step

@[simp] theorem length_numbersFrom (first : Int) (count : Nat) : (numbersFrom first count).length = count := by
  simp [numbersFrom]

theorem numbersFrom_add (first : Int) (count further : Nat) :
    numbersFrom first (count + further) = numbersFrom first count ++ numbersFrom (first + count) further := by
  simp only [numbersFrom, List.range_add, List.map_append, List.map_map]
  congr 1
  refine List.map_congr_left fun step _ => ?_
  simp only [Function.comp]
  omega

/-- Whether some attempts lead from a world to another one: they took the numbers from the next one on, and what they
exchanged was sent. -/
structure World.Attempted (sent : σ → List Exchange) (attempts : List Attempt) (a b : World σ) : Prop where
  numbers : attempts.map (fun attempt => attempt.number) = numbersFrom a.nextJob attempts.length
  next : b.nextJob = a.nextJob + attempts.length
  sent : sent b.outside = sent a.outside ++ attempts.filterMap fun attempt => attempt.exchange

namespace World.Attempted

variable {sent : σ → List Exchange} {attempts further : List Attempt} {a b c : World σ}

theorem none (same : b.nextJob = a.nextJob) (outside : b.outside = a.outside) : Attempted sent [] a b :=
  ⟨rfl, by simp [same], by simp [outside]⟩

theorem append (first : Attempted sent attempts a b) (rest : Attempted sent further b c) :
    Attempted sent (attempts ++ further) a c where
  numbers := by
    rw [List.map_append, first.numbers, rest.numbers, first.next, List.length_append, numbersFrom_add]
  next := by
    rw [rest.next, first.next, List.length_append]
    push_cast
    omega
  sent := by rw [rest.sent, first.sent, List.filterMap_append, List.append_assoc]

theorem length_eq {other : List Attempt} (attempted : Attempted sent attempts a b) (second : Attempted sent other a b) :
    other.length = attempts.length := by
  have := attempted.next.symm.trans second.next
  omega

/-- If all attempts exchanged something, there are no others that lead from the one world to the other. -/
theorem unique {other : List Attempt} (attempted : Attempted sent attempts a b) (second : Attempted sent other a b)
    (exchanged : ∀ attempt ∈ attempts, attempt.exchange.isSome = true) : other = attempts := by
  have length := attempted.length_eq second
  have exchanges := List.append_cancel_left (second.sent.symm.trans attempted.sent)
  have others : ∀ attempt ∈ other, attempt.exchange.isSome = true := by
    rw [← List.filterMap_length_eq_length] at exchanged ⊢
    rw [exchanges, exchanged, length]
  have numbers := second.numbers.trans (length ▸ attempted.numbers.symm)
  clear attempted second length
  induction attempts generalizing other with
  | nil => simpa using numbers
  | cons attempt rest ih =>
    cases other with
    | nil => simp at numbers
    | cons next rest' =>
      obtain ⟨isSome, exchanged⟩ := List.forall_mem_cons.mp exchanged
      obtain ⟨isSome', others⟩ := List.forall_mem_cons.mp others
      obtain ⟨exchange, found⟩ := Option.isSome_iff_exists.mp isSome
      obtain ⟨exchange', found'⟩ := Option.isSome_iff_exists.mp isSome'
      rw [List.filterMap_cons_some found, List.filterMap_cons_some found'] at exchanges
      obtain ⟨sameExchange, exchanges⟩ := List.cons.inj exchanges
      obtain ⟨sameNumber, numbers⟩ := List.cons.inj numbers
      have same : next = attempt := by
        cases next
        cases attempt
        cases found.trans ((congrArg some sameExchange.symm).trans found'.symm)
        cases sameNumber
        rfl
      rw [ih exchanged exchanges others numbers, same]

/-- What takes no numbers and changes nothing outside may come before and after. -/
theorem congr {a' b' : World σ} (attempted : Attempted sent attempts a b) (before : a'.nextJob = a.nextJob)
    (before' : a'.outside = a.outside) (behind : b'.nextJob = b.nextJob) (behind' : b'.outside = b.outside) :
    Attempted sent attempts a' b' :=
  ⟨before ▸ attempted.numbers, by rw [behind, before, attempted.next], by rw [behind', before', attempted.sent]⟩

end World.Attempted

/-! ## One attempt -/

namespace Server

variable {server : Server} {host : Host σ} {sent : σ → List Exchange} {job : List (String × Json)} {number : Int}
  {world : World σ}

/-- The request for a job with a number, if the job can be written and the address of the server can be read. -/
def requestFor? (server : Server) (job : List (String × Json)) (number : Int) : Option Request := do
  let text ← (server.document job number).compact?
  let address ← (Address.read server.address).toOption
  return ⟨address, "POST", "application/json", server.timeout, Text.utf8 text⟩

/-- Whether an attempt sends the request for a job with its number, if this can be made. -/
def Sends (server : Server) (job : List (String × Json)) (attempt : Attempt) : Prop :=
  attempt.exchange.map (fun exchange => exchange.request) = server.requestFor? job attempt.number

/-- Whether an attempt at a job was in vain: the job could be written, but no response came back for it. -/
structure Misses (server : Server) (job : List (String × Json)) (attempt : Attempt) : Prop where
  written : (server.document job attempt.number).compact? ≠ none
  unanswered : ∀ response, ¬ attempt.Answered response

/-- How the attempts at a job end: with the response to the last one, with the fault of a job that cannot be written with
the last number, or with that of an oracle after as many attempts in vain as there may be. -/
inductive Ends (server : Server) (job : List (String × Json)) (left : Nat) : List Attempt → Except Fault Response → Prop
  | answered {before : List Attempt} {last : Attempt} {response : Response} :
      (∀ attempt ∈ before, server.Misses job attempt) → last.Answered response →
      Ends server job left (before ++ [last]) (.ok response)
  | unwritten {before : List Attempt} {last : Attempt} : (∀ attempt ∈ before, server.Misses job attempt) →
      (server.document job last.number).compact? = none → Ends server job left (before ++ [last]) (.error .unwritableJson)
  | exhausted {attempts : List Attempt} (message : String) : (∀ attempt ∈ attempts, server.Misses job attempt) →
      attempts.length = left → Ends server job left attempts (.error (.oracle message))

theorem Ends.cons {left : Nat} {attempt : Attempt} {attempts : List Attempt} {outcome : Except Fault Response}
    (misses : server.Misses job attempt) (ends : server.Ends job left attempts outcome) :
    server.Ends job (left + 1) (attempt :: attempts) outcome := by
  have all : ∀ {attempts : List Attempt}, (∀ other ∈ attempts, server.Misses job other) →
      ∀ other ∈ attempt :: attempts, server.Misses job other := fun rest => List.forall_mem_cons.mpr ⟨misses, rest⟩
  cases ends with
  | answered before answered => exact .answered (all before) answered
  | unwritten before unwritten => exact .unwritten (all before) unwritten
  | exhausted message rest length => exact .exhausted message (all rest) (congrArg (· + 1) length)

/-- The attempts at a job: at least one and no more than there may be, each with its request, and the outcome that they end
with. -/
structure Attempts (server : Server) (job : List (String × Json)) (left : Nat) (attempts : List Attempt)
    (outcome : Except Fault Response) : Prop where
  least : left ≠ 0 → attempts ≠ []
  most : attempts.length ≤ left
  sends : ∀ attempt ∈ attempts, server.Sends job attempt
  ends : server.Ends job left attempts outcome

end Server

/-! ## Actions that stay inside -/

/-- Whether an action changes nothing outside of the program, and takes no job numbers. -/
def Action.StaysInside (action : Action σ α) : Prop :=
  ∀ world, (after action world).nextJob = world.nextJob ∧ (after action world).outside = world.outside

namespace Action.StaysInside

variable {action : Action σ α} {next : α → Action σ β}

theorem of_after (still : ∀ world, after action world = world) : action.StaysInside := fun world => by simp [still world]

theorem bind (first : action.StaysInside) (rest : ∀ value, (next value).StaysInside) : (action >>= next).StaysInside := by
  intro world
  refine @after_bind _ _ _ _ (fun a b => b.nextJob = a.nextJob ∧ b.outside = a.outside) ?_ _ _ _ (first world)
    fun value middle _ _ => rest value middle
  exact fun one two => ⟨two.1.trans one.1, two.2.trans one.2⟩

theorem log (level : Level) (message : String) : (Action.log level message : Action σ Unit).StaysInside := fun _ => ⟨rfl, rfl⟩

theorem changeFiles (path : Path) (edit : FileTree → Except SystemFailure FileTree) :
    (Action.changeFiles path edit : Action σ Unit).StaysInside := by
  intro world
  rw [after, Action.changeFiles_apply]
  cases edit world.files <;> exact ⟨rfl, rfl⟩

theorem copy (source target : Path) : (Action.copy source target : Action σ Unit).StaysInside :=
  .bind (.of_after (Action.after_readBytes source)) fun _ => changeFiles target _

theorem writeJson (path : Path) (value : Json) : (Action.writeJson path value : Action σ Unit).StaysInside :=
  .bind (changeFiles _ _) fun _ => by
    split
    · exact changeFiles path _
    · exact .of_after fun _ => rfl

end Action.StaysInside

/-! ## Calls -/

namespace Server

/-- What is made of the response about a rendering. -/
def rendered (server : Server) (image : Path) (response : Response) : Action σ RenderOutcome :=
  let status := status response
  let log := logText response
  match status, Json.field? "png" response with
  | .success, some (.str png) => do
    let bytes ← Action.ofExcept (server.readImage png)
    Action.writeBytes image bytes
    return ⟨status, some image, log⟩
  | _, _ => return ⟨status, none, log⟩

/-- What is made of the response about a validation. -/
def validated (response : Response) : ValidationOutcome :=
  ⟨if Json.field? "status" response == some (.str RenderStatus.success.name) then 0 else 1, logText response⟩

theorem rendered_staysInside (server : Server) (image : Path) (response : Response) :
    (server.rendered image response : Action σ RenderOutcome).StaysInside := by
  unfold rendered
  dsimp only
  split
  · refine .bind (.of_after (Action.after_ofExcept _)) fun bytes => .bind (.changeFiles image _) fun _ => ?_
    exact .of_after fun _ => rfl
  · exact .of_after fun _ => rfl

end Server

/-- A call of the tools behind a server. -/
inductive Query where
  | render (shader image : Path) (skip : Bool)
  | validate (shader : Path)

/-- What a call reports. -/
abbrev Report := RenderOutcome ⊕ ValidationOutcome

namespace Query

/-- Makes a call. -/
def run (server : Server) (host : Host σ) : Query → Action σ Report
  | .render shader image skip => return .inl (← server.render host shader image skip)
  | .validate shader => return .inr (← server.validate host shader)

/-- The job of a call. -/
def job : Query → Action σ (List (String × Json))
  | .render shader _ skip => Server.job shader ("skipRender", .bool skip)
  | .validate shader => Server.job shader ("validateOnly", .bool true)

/-- What a call reports about the response to its job. -/
def report (server : Server) (response : Response) : Query → Action σ Report
  | .render _ image _ => return .inl (← server.rendered image response)
  | .validate _ => return .inr (Server.validated response)

/-- A call submits its job and reports about the response. -/
theorem run_eq (server : Server) (host : Host σ) (query : Query) :
    query.run server host = query.job >>= fun job => server.submit host job >>= fun response => query.report server response := by
  cases query with
  | render shader image skip =>
    rw [run, show server.render host shader image skip = Server.job shader ("skipRender", .bool skip) >>= fun job =>
      server.submit host job >>= server.rendered image from rfl]
    simp only [bind_assoc]
    rfl
  | validate shader =>
    rw [run, show server.validate host shader = Server.job shader ("validateOnly", .bool true) >>= fun job =>
      server.submit host job >>= fun response => pure (Server.validated response) from rfl]
    simp only [bind_assoc, pure_bind]
    rfl

theorem report_staysInside (server : Server) (response : Response) (query : Query) :
    (query.report server response : Action σ Report).StaysInside := by
  cases query with
  | validate shader => exact .of_after fun _ => rfl
  | render shader image skip => exact .bind (server.rendered_staysInside image response) fun _ => .of_after fun _ => rfl

end Query

/-! ## Sequences of calls -/

/-- A call, and the world in which it is made. -/
structure Turn (σ : Type) where
  query : Query
  world : World σ

namespace Turn

/-- The world that a call leaves. -/
def left (server : Server) (host : Host σ) (turn : Turn σ) : World σ := after (turn.query.run server host) turn.world

/-- What a call does: if its job cannot be made, it ends with the fault at once and makes no attempt.  Otherwise it makes
the attempts at its job, and reports about the response if they end with one. -/
inductive Makes (server : Server) (host : Host σ) (sent : σ → List Exchange) (turn : Turn σ) : List Attempt → Prop
  | unmade {fault : Fault} : turn.query.job turn.world = .error fault turn.world →
      turn.query.run server host turn.world = .error fault turn.world → Makes server host sent turn []
  | made {job : List (String × Json)} {attempts : List Attempt} {outcome : Except Fault Response} {submitted : World σ} :
      turn.query.job turn.world = .ok job turn.world → server.Attempts job server.attempts.toNat attempts outcome →
      World.Attempted sent attempts turn.world submitted → submitted.files = turn.world.files →
      turn.query.run server host turn.world =
        (Action.ofExcept outcome >>= fun response => turn.query.report server response) submitted →
      Makes server host sent turn attempts

variable {server : Server} {host : Host σ} {sent : σ → List Exchange} {turn : Turn σ}

/-- The attempts of a call lead to the world that it leaves. -/
theorem Makes.attempted {attempts : List Attempt} (makes : turn.Makes server host sent attempts) :
    World.Attempted sent attempts turn.world (turn.left server host) := by
  cases makes with
  | unmade _ failed =>
    rw [left, after_error failed]
    exact .none rfl rfl
  | @made _ _ outcome submitted _ _ attempted _ ended =>
    have inside : (Action.ofExcept outcome >>= fun response => turn.query.report server response : Action σ Report).StaysInside :=
      .bind (.of_after (Action.after_ofExcept outcome)) fun response => turn.query.report_staysInside server response
    rw [left, after, ended]
    exact attempted.congr rfl rfl (inside submitted).1 (inside submitted).2

/-- Whether calls follow each other: between one and the next no job number is taken and nothing is sent. -/
def Consecutive (server : Server) (host : Host σ) : List (Turn σ) → Prop :=
  List.IsChain fun one next => next.world.nextJob = (one.left server host).nextJob ∧
    next.world.outside = (one.left server host).outside

/-- A call in the world that another one left follows it. -/
theorem consecutive_pair (server : Server) (host : Host σ) (first : Turn σ) (query : Query) :
    Consecutive server host [first, ⟨query, first.left server host⟩] := List.isChain_pair.mpr ⟨rfl, rfl⟩

end Turn

end ShaderShrink
