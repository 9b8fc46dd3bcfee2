import ShaderShrink.Dispatch.Machine
import ShaderShrink.Dispatch.Server
import ShaderShrink.Settings.Basic

/-!
# Choosing the tools

The settings say whether the tools of this machine are used or those behind a server.
-/

namespace ShaderShrink

/-- The tools that a reduction uses. -/
inductive Tools where
  | machine (machine : Machine)
  | server (server : Server)

namespace Tools

/-- The time limit of the settings as a double. -/
def timeout (settings : Settings) : Except Fault Double :=
  match Double.ofInt settings.timeout with
  | .infinite _ => .error .tooLarge
  | limit => .ok limit

/-- The server of the settings with its token, if both are given. -/
def serverAndToken? (settings : Settings) : Option (String × String) :=
  match settings.server, settings.token with
  | some address, some token => if token.isEmpty then none else some (address, token)
  | _, _ => none

/-- The tools that the settings ask for. -/
def ofSettings (settings : Settings) : Except Fault Tools := do
  if settings.usesServer then
    match serverAndToken? settings with
    | none => throw (.usage "If --server is used then --token is required")
    | some (address, token) =>
      return .server ⟨Server.jobAddress address, token, settings.retryLimit, ← timeout settings⟩
  else
    return .machine ⟨settings.renderCommand, settings.validatorCommand, settings.softwareRenderer,
      ← timeout settings⟩

/-- The tools as a dispatcher. -/
def dispatcher {σ : Type} (host : Host σ) : Tools → Dispatcher σ
  | machine tools => tools.dispatcher host
  | server tools => tools.dispatcher host

end Tools

end ShaderShrink
