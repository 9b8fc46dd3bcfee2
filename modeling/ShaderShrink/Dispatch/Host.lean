import ShaderShrink.Files.World
import ShaderShrink.Number.Double

/-!
# The host

The host runs commands and sends requests.  It fails with faults of the system.
-/

namespace ShaderShrink

/-- What a command left when it finished. -/
structure Finished where
  code : Int
  stdout : Text
  stderr : Text
  deriving DecidableEq, Repr

/-- A request to a server. -/
structure Request where
  address : String
  method : String
  contentType : String
  timeout : Double
  body : ByteArray

/-- What runs commands and sends requests. -/
structure Host (σ : Type) where
  /-- Runs a command; there is no answer if it takes too long. -/
  run : (command : List String) → (timeout : Double) → Action σ (Option Finished)
  /-- Sends a request, and gives the body of the response. -/
  send : Request → Action σ ByteArray

end ShaderShrink
