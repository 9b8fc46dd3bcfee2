import ShaderShrink.Proofs.Judge.Settling
import ShaderShrink.Proofs.Reduction.Tolerance

/-!
# Reductions with a server

A reduction whose judge has its tools behind a server survives whatever the server does, if it tolerates oracle faults
and its judge copes with the images in the responses.
-/

namespace ShaderShrink

open Effect Progress

variable {σ : Type}

/-- Where nothing elsewhere changes, a judge whose paths visit nothing but places there has all that it needs. -/
theorem Judge.Equipped.elsewhere {judge : Judge} {work scratch : Path} {a b : FileTree} (equipped : judge.Equipped a)
    (apart : ∀ path, judge.Uses path → ∀ place ∈ path.visited, Elsewhere work scratch place)
    (agree : FileTree.AgreeOn (Elsewhere work scratch) a b) : judge.Equipped b :=
  equipped.of_agreeOn fun path uses => agree.mono (apart path uses)

namespace Server

/-- The means of a judge behind a server for some judgements: its own files, and the job numbers for all attempts. -/
structure Means (server : Server) (judge : Judge) (count : Nat) (world : World σ) : Prop where
  equipped : judge.Equipped world.files
  numbers : World.Numbers (count * server.attempts.toNat) world

/-- What lets a judge behind a server do its work: requests are sent, it can decide, it copes with the images in responses,
and its paths and that of the image are as they should be. -/
structure Serves (server : Server) (host : Host σ) (judge : Judge) (work scratch : Path) : Prop where
  sends : host.Sends
  decides : judge.Decides
  copes : server.Counts host judge.CopesWith
  imageFits : (scratch.entry "image.png").Fits
  apart : ∀ path, judge.Uses path → ∀ place ∈ path.visited, Elsewhere work scratch place

variable {server : Server} {host : Host σ} {judge : Judge} {reducer : Reducer σ} {base : String} {scratch : Path}

private theorem image_notMem_fileNames {stem : String} : "image.png" ∉ Shader.fileNames stem := by
  intro member
  rcases Shader.mem_fileNames.mp member with same | same <;>
    have reversed := congrArg (fun name : String => name.toList.reverse.take 2) same <;>
    simp [Shader.fileSuffix, Shader.metadataSuffix] at reversed

section Stored

variable {world : World σ} {candidate : Shader} (sheltered : reducer.Sheltered base world.scratch)
  (vacant : world.files.Vacant world.scratch)
include sheltered vacant

/-- A candidate is stored for its judgement without changing anything elsewhere, and there is room for its image. -/
private theorem exists_stored (writable : candidate.Writable) (fits : (world.scratch.entry "image.png").Fits) :
    ∃ path stored, FileTree.AgreeOn (Elsewhere reducer.work world.scratch) world.files stored.files ∧
      stored.files.Admits (world.scratch.entry "image.png") ∧ stored = { world with files := stored.files } ∧
      candidate.StoredAt stored.files path ∧ reducer.judge base candidate world =
        adjust (World.leaving world.scratch) (reducer.verdict ⟨candidate, path, world.scratch⟩ stored) := by
  obtain ⟨path, stored, storing, only, holds, judged⟩ := Reducer.judge_of_writable sheltered vacant writable
  have standing := FileTree.standing_of_isDirectory (Reducer.stands_entering sheltered vacant)
  have stores : ∀ {places : Place → Prop},
      (∀ name ∈ Shader.fileNames base, world.entering.files.Clear places (world.scratch.entry name)) →
      FileTree.AgreeOn places world.entering.files stored.files := by
    intro places clear
    refine (after_ok storing ▸ Shader.store_agrees candidate ?_ ?_ : World.Agrees places world.entering stored).files <;>
      rw [Path.entry_parent, Path.entry_name]
    · exact clear _ (by simp [Shader.fileNames])
    · exact clear _ (by simp [Shader.fileNames])
  refine ⟨path, stored, ?_, ?_, only, holds, judged⟩
  · refine FileTree.AgreeOn.trans (fun place elsewhere => ?_) (stores fun name member =>
      clear_elsewhere_scratch sheltered.fits standing (Shader.ne_of_mem_fileNames member))
    refine (FileTree.lookup?_set_of_ne world.files ?_ _).symm
    rintro rfl
    exact elsewhere.1 (sheltered.fits.place ▸ List.prefix_refl _)
  · refine (Reducer.admits_entering sheltered vacant (by decide) fits).of_agreeOn (stores fun name member => ?_)
    intro place image visited
    rcases (Path.mem_entry_visited _ (Shader.ne_of_mem_fileNames member)).mp visited with way | rfl
    · exact standing place way
    · rcases (Path.mem_entry_visited _ (by decide)).mp image with way | same
      · exact standing _ way
      · obtain rfl := List.singleton_inj.mp (List.append_cancel_left same)
        exact absurd member image_notMem_fileNames

end Stored

theorem writable_of_sendable {shader : Shader} (sendable : Metadata.Sendable shader.metadata) : shader.Writable := by
  obtain ⟨document, -, writable, -⟩ := sendable
  rw [Shader.Writable, writable]
  rfl

/-- The means that a judgement leaves when the scratch directory is gone. -/
private theorem means_leaving {work : Path} {world stored left : World σ} {count : Nat}
    (apart : ∀ path, judge.Uses path → ∀ place ∈ path.visited, Elsewhere work world.scratch place)
    (same : stored.nextJob = world.nextJob) (numbers : World.Numbers (server.attempts.toNat + count) world)
    (leaves : judge.Leaves server.attempts.toNat stored left) :
    World.Numbers count (left.leaving world.scratch) ∧ judge.Equipped (left.leaving world.scratch).files := by
  refine ⟨numbers.advance (same ▸ leaves.takes.least) (same ▸ leaves.takes.most),
    leaves.equipped.elsewhere apart fun place elsewhere => ?_⟩
  exact (FileTree.lookup?_eraseBelow_of_not_prefix left.files elsewhere.1).symm

/-- The means of a judge behind a server last, if the metadata can be sent. -/
theorem Serves.tolerates {metadata : Metadata} (serves : server.Serves host judge reducer.work scratch)
    (behind : reducer.verdict = judge.isInteresting (server.dispatcher host))
    (sheltered : reducer.Sheltered base scratch) (sendable : metadata.Sendable) :
    reducer.Tolerates base scratch metadata (server.Means judge) where
  lasts means := ⟨means.equipped, means.numbers.least, by
    have := means.numbers.most
    rw [Nat.succ_mul] at this
    push_cast at this ⊢
    omega⟩
  keeps means agree same := ⟨means.equipped.elsewhere serves.apart agree.files, same ▸ means.numbers.least,
    same ▸ means.numbers.most⟩
  writable same := writable_of_sendable (same ▸ sendable)
  judges := by
    rintro count candidate world rfl vacant rfl means
    obtain ⟨path, stored, agree, admits, only, holds, judged⟩ :=
      exists_stored sheltered vacant (writable_of_sendable sendable) serves.imageFits
    have image : world.scratch.child "image.png" = world.scratch.entry "image.png" := Path.child_of_isName _ (by decide)
    have same : stored.nextJob = world.nextJob := by rw [only]
    have numbers : World.Numbers (server.attempts.toNat + count * server.attempts.toNat) world := by
      rw [Nat.add_comm, ← Nat.succ_mul]
      exact means.numbers
    have enough : World.Numbers server.attempts.toNat stored := ⟨same ▸ numbers.least, by
      have := numbers.most
      rw [same]
      omega⟩
    rw [← image] at admits
    have settles := Judge.isInteresting_settles serves.sends holds sendable enough admits serves.decides serves.copes
      (means.equipped.elsewhere serves.apart agree) fun used uses member => (serves.apart used uses _ member).1 (by
        rw [image, Path.entry_place _ (by decide), sheltered.fits.place]
        exact List.prefix_append _ _)
    rw [← behind] at settles
    rcases settles with ⟨answer, left, run, leaves⟩ | ⟨fault, left, run, isOracle, leaves⟩
    · obtain ⟨numbers, equipped⟩ := means_leaving serves.apart same numbers leaves
      rw [run] at judged
      exact ⟨.ok answer, _, judged, equipped, numbers⟩
    · obtain ⟨numbers, equipped⟩ := means_leaving serves.apart same numbers leaves
      rw [run] at judged
      exact ⟨.error fault, _, ⟨judged, isOracle⟩, equipped, numbers⟩

/-- A reducer whose judge wants no image from some server. -/
def imageless (server : Server) (host : Host σ) : Reducer σ where
  verdict := (Judge.noImage none false).isInteresting (server.dispatcher host)
  work := ⟨"", ["work"]⟩
  keepRejected := true
  stopOnError := false

section Imageless

variable (server : Server) {host : Host σ} (sends : host.Sends)
include sends

end Imageless

end Server

end ShaderShrink
