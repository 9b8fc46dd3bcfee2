import ShaderShrink.Proofs.Reduction.Beginning

/-!
# Going on after an abort

A call that goes on behind an aborted one begins with the very shader that the aborted one had, if the version of
that can be read.
-/

namespace ShaderShrink

open Effect
open Shader (Contents Legible)
open Progress (Found Secures)

variable {σ : Type} {shader work placed : Path} {base : String} {settings : Settings} {verdict : Verdict σ}
  {driver : Driver σ} {world left : World σ}

namespace Reduction

end Reduction

/-- Whether a judgement ends the reduction of a driver with a fault, and which shader it has by then. -/
def Driver.Aborts (driver : Driver σ) (entered : World σ) (current : Shader) : Prop :=
  driver.reducer.Aborts driver.base driver.first driver.limit driver.state entered current (driver.reduce entered)

namespace Call

variable {call aborted next : Call σ} {entered armed : World σ} {current : Shader}

/-- What a call does up to its driver. -/
inductive Prepares (call : Call σ) (shader work : Path) (world : World σ) (placed : Path) (verdict : Verdict σ)
    (armed : World σ) : Prop
  | intro {reference : Option Path} {taken : World σ} :
      Reduction.intake shader work call.settings world = .ok (placed, reference) taken →
      Reduction.makeVerdict call.tools work call.settings reference taken = .ok verdict armed →
      Prepares call shader work world placed verdict armed

/-- Behind an aborted call, what makes the next one ready leaves the reduction resumable. -/
theorem Prepares.resumable {begun : Shader → Prop} {metadata : Metadata}
    (prepares : Prepares call shader work world placed verdict armed) (isShader : shader.IsShader base)
    (spare : Reduction.ToolsSpare call.tools work world.scratch)
    (resumable : Resumable work base begun metadata world.scratch current world) :
    Resumable work base begun metadata world.scratch current armed ∧
      ∃ reference taken, Reduction.intake shader work call.settings world = .ok (placed, reference) taken ∧
        World.Agrees (Progress.Own work) taken armed := by
  obtain ⟨intake, making⟩ := prepares
  rename_i reference taken
  have standing := FileTree.standing_of_isDirectory resumable.directory
  have agree : World.Agrees (Progress.Beside work (Preparation.inputNames base)) world taken :=
    after_ok intake ▸ Reduction.intake_agrees isShader (fun place _ visited => standing place visited)
      (Preparation.clear_inputNames standing)
  have notMarker : Progress.markerName ∉ Preparation.inputNames base := by
    intro member
    rcases List.mem_append.mp member with file | reference
    · exact Progress.ne_markerName (Shader.dot_of_mem_fileNames file) rfl
    · exact absurd (List.mem_singleton.mp reference) (by decide)
  have taking := resumable.beside isShader.plain agree (Step.unrelated_inputNames base) notMarker
  have making := after_ok making ▸ spare.makeVerdict call.settings reference taken taking.sameScratch
    (FileTree.standing_of_isDirectory taking.directory)
  exact ⟨taking.own isShader.plain making, reference, taken, intake, making⟩

end Call

end ShaderShrink
