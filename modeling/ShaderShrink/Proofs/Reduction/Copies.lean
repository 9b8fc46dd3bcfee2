import ShaderShrink.Proofs.Reduction.Opening
import ShaderShrink.Proofs.Shader.Restored

/-!
# Copies of the input

A call works on its shader itself if that lies right in the working directory, and else on a copy there.  In
both cases the two files hold what the shader's own files held when the call began.
-/

namespace ShaderShrink

open Effect
open Shader (Contents)

variable {σ : Type} {shader work placed : Path} {base : String} {settings : Settings} {reference : Option Path}
  {world left : World σ}

namespace Action

end Action

namespace Preparation

end Preparation

namespace Reduction

end Reduction

end ShaderShrink
