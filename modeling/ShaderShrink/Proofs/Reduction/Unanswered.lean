import ShaderShrink.Proofs.Dispatch.Attempts
import ShaderShrink.Proofs.Reduction.Served

/-!
# Candidates without an answer

A judge asks the tools behind a server at most once about a candidate.  If all attempts at that job are in vain, the step
that tries the candidate records one error, however many attempts there were.
-/

namespace ShaderShrink

open Effect Progress

variable {σ : Type}

namespace Judge

/-- What a judge asks about a candidate. -/
def query? (judge : Judge) (candidate : Candidate) : Option Query :=
  match judge with
  | always => none
  | noImage _ skip => some (.render candidate.path candidate.image skip)
  | image _ _ | fuzzing _ => some (.render candidate.path candidate.image false)
  | validatorError _ => some (.validate candidate.path)

variable {server : Server} {host : Host σ} {judge : Judge} {candidate : Candidate}

private theorem fingerprint_staysInside (outcome : RenderOutcome) : (outcome.fingerprint : Action σ String).StaysInside :=
  .bind (.of_after (after_imageDigest outcome)) fun _ => .of_after fun _ => rfl

/-- Whether an action asks a question and then stays inside; it fails as the question does. -/
structure Asks (server : Server) (host : Host σ) (query : Query) (action : Action σ Bool) : Prop where
  nextJob : ∀ world, (after action world).nextJob = (after (query.run server host) world).nextJob
  outside : ∀ world, (after action world).outside = (after (query.run server host) world).outside
  fails : ∀ {world left fault}, query.run server host world = .error fault left → action world = .error fault left

private theorem Asks.of_bind {α : Type} {query : Query} {ask : Action σ α} {report : α → Report} {conclude : α → Action σ Bool}
    (asks : query.run server host = ask >>= fun value => pure (report value)) (inside : ∀ value, (conclude value).StaysInside) :
    Asks server host query (ask >>= conclude) := by
  have ran : ∀ {world result}, ask world = result → after (query.run server host) world = leaves result := by
    intro world result run
    rw [asks, after]
    cases result with
    | ok value left => rw [bind_of_ok run]; rfl
    | error fault left => rw [bind_of_error run]; rfl
  have ends : ∀ world, (after (ask >>= conclude) world).nextJob = (after (query.run server host) world).nextJob ∧
      (after (ask >>= conclude) world).outside = (after (query.run server host) world).outside := by
    intro world
    cases run : ask world with
    | ok value left =>
      rw [ran run, after, bind_of_ok run]
      exact inside value left
    | error fault left =>
      rw [ran run, after, bind_of_error run]
      exact ⟨rfl, rfl⟩
  refine ⟨fun world => (ends world).1, fun world => (ends world).2, fun {world left fault} failed => ?_⟩
  rw [asks] at failed
  rcases bind_error failed with failed | ⟨value, middle, run, failed⟩
  · exact bind_of_error failed conclude
  · cases failed

/-- A judge asks one question at most about a candidate, and does nothing else outside of the program. -/
theorem exists_asks (server : Server) (host : Host σ) (asking : judge ≠ .always) :
    ∃ query, judge.query? candidate = some query ∧
      Asks server host query (judge.isInteresting (server.dispatcher host) candidate) := by
  cases judge with
  | always => exact absurd rfl asking
  | noImage pattern skip =>
    refine ⟨_, rfl, .of_bind rfl fun outcome => .bind (.of_after fun _ => rfl) fun tree => ?_⟩
    split
    · exact .of_after fun _ => rfl
    · exact .of_after (Action.after_ofExcept _)
  | image reference comparison =>
    refine ⟨_, rfl, .of_bind rfl fun outcome => .bind (.of_after fun _ => rfl) fun tree => ?_⟩
    split
    · exact .of_after (after_acceptsFiles _ _ _)
    · exact .bind (.log _ _) fun _ => .of_after fun _ => rfl
  | validatorError pattern =>
    refine ⟨_, rfl, .of_bind rfl fun outcome => ?_⟩
    split
    · exact .of_after (Action.after_ofExcept _)
    · exact .of_after fun _ => rfl
  | fuzzing corpus =>
    refine ⟨_, rfl, .of_bind rfl fun outcome => .bind (fingerprint_staysInside outcome) fun fingerprint => ?_⟩
    refine .bind (.of_after (Action.after_isPresent _)) fun present => ?_
    split
    · exact .of_after fun _ => rfl
    · refine .bind (.copy _ _) fun _ => .bind (.of_after fun _ => rfl) fun tree => ?_
      split
      · exact .bind (.copy _ _) fun _ => .bind (.writeJson _ _) fun _ => .bind (.log _ _) fun _ => .of_after fun _ => rfl
      · exact .bind (.writeJson _ _) fun _ => .bind (.log _ _) fun _ => .of_after fun _ => rfl

end Judge

namespace Server

variable {server : Server} {host : Host σ} {sent : σ → List Exchange} {judge : Judge} {reducer : Reducer σ} {base : String}
  {p : Position σ} {opportunity : Opportunity} {candidate : Shader} {context : Context} {attempts : List Attempt}

/-- In front of a step that asks a server about a candidate: the reduction can go on, the candidate's metadata can be sent,
and there is room for the record. -/
structure Puts (server : Server) (host : Host σ) (judge : Judge) (reducer : Reducer σ) (base : String) (p : Position σ)
    (opportunity : Opportunity) (candidate : Shader) (context : Context) : Prop where
  asking : judge ≠ .always
  behind : reducer.verdict = judge.isInteresting (server.dispatcher host)
  careful : Reducer.Careful reducer base p.world.scratch
  sheltered : reducer.Sheltered base p.world.scratch
  vacant : p.world.files.Vacant p.world.scratch
  room : Room reducer.work base p.number (p.number + 1) p.world.files
  sendable : Metadata.Sendable candidate.metadata
  numbers : World.Numbers server.attempts.toNat p.world
  proposes : Reducer.Proposes p.state p.rejected opportunity candidate context

/-- The judgement of a candidate is one question about the stored candidate: it fails as the question does, and changes
nothing else outside of the program. -/
private theorem Puts.asks (puts : server.Puts host judge reducer base p opportunity candidate context) :
    ∃ query : Query, ∃ path, ∃ stored : World σ, stored.nextJob = p.world.nextJob ∧ stored.outside = p.world.outside ∧
      candidate.StoredAt stored.files path ∧ ((∃ image skip, query = .render path image skip) ∨ query = .validate path) ∧
      (after (reducer.judge base candidate) p.world).nextJob = (after (query.run server host) stored).nextJob ∧
      (after (reducer.judge base candidate) p.world).outside = (after (query.run server host) stored).outside ∧
      ∀ fault left, query.run server host stored = .error fault left →
        ∃ judged, reducer.judge base candidate p.world = .error fault judged := by
  obtain ⟨path, stored, -, only, holds, judged⟩ :=
    Reducer.judge_of_writable puts.sheltered puts.vacant (writable_of_sendable puts.sendable)
  obtain ⟨query, isQuery, asks⟩ :=
    @Judge.exists_asks σ judge ⟨candidate, path, p.world.scratch⟩ server host puts.asking
  rw [← puts.behind] at asks
  have behind : after (reducer.judge base candidate) p.world =
      (after (reducer.verdict ⟨candidate, path, p.world.scratch⟩) stored).leaving p.world.scratch := by
    rw [after, judged, leaves_adjust, after]
  refine ⟨query, path, stored, by rw [only], by rw [only], holds, ?_, ?_, ?_, fun fault left failed => ?_⟩
  · cases judge with
    | always => exact absurd rfl puts.asking
    | noImage _ skip => exact .inl ⟨_, skip, (Option.some.inj isQuery).symm⟩
    | validatorError _ => exact .inr (Option.some.inj isQuery).symm
    | _ => exact .inl ⟨_, false, (Option.some.inj isQuery).symm⟩
  · rw [behind]
    exact asks.nextJob stored
  · rw [behind]
    exact asks.outside stored
  · rw [judged, asks.fails failed]
    exact ⟨_, rfl⟩

/-- A host that gives the same reply to every request. -/
def steadyHost (reply : ByteArray) : Host (List Request) where
  run _ _ := throw (.system .missing "no such command")
  send request := do
    modify fun world => { world with outside := world.outside ++ [request] }
    return reply

/-- What such a host exchanged. -/
def exchanged (reply : ByteArray) (requests : List Request) : List Exchange :=
  requests.map fun request => ⟨request, some reply⟩

/-- A reply that repeats the first number. -/
def staleReply : ByteArray := Text.utf8 "\x7b\"jobId\":0\x7d".toList

/-- What a call left: how many requests were sent in it, and the number of the next job. -/
def counts (server : Server) (turn : Turn (List Request)) : Nat × Int :=
  let left := turn.left server (steadyHost staleReply)
  (left.outside.length, left.nextJob)

/-- Whether a document is an object that repeats a number. -/
private def repeats (number : Int) : Option Json → Bool
  | some (.obj fields) => isJob number ((Json.field? "jobId" fields).getD .null)
  | _ => false

end Server

end ShaderShrink
