import TwoPhase.Configuration

/-!
# Loading errors

Why plugins cannot be discovered, or one of them cannot be attached.
-/

namespace TwoPhase

/-- Why loading fails. -/
inductive LoadError where
  /-- A line of a manifest names no implementation. Lines count from 1. -/
  | malformedManifest (service : String) (line : Nat) (text : String)
  /-- A manifest names an implementation that nobody supplies. -/
  | unknownEntryPoint (service name : String)
  /-- No option processor has the wanted id. -/
  | pluginNotFound (id : String)
  /-- No registrar has the wanted id. -/
  | identityMismatch (requested advertised : String)
  /-- A registrar installed providers of one kind only. -/
  | incompleteRegistration (plugin : String) (declarations bodies : Nat)
  /-- The options were refused. -/
  | config (reason : ConfigError)
deriving DecidableEq, Repr

/-- The error in words. -/
def LoadError.message : LoadError → String
  | malformedManifest service line text =>
      s!"Malformed service manifest '{service}' at line {line}: '{text}'"
  | unknownEntryPoint service name =>
      s!"Service '{service}' names unknown implementation '{name}'"
  | pluginNotFound id => s!"Plugin '{id}' was requested but no discovered plugin advertises it"
  | identityMismatch requested advertised =>
      s!"Plugin identity mismatch: requested '{requested}', registrar advertises '{advertised}'"
  | incompleteRegistration plugin declarations bodies =>
      s!"Plugin '{plugin}' registered {declarations} declaration generator(s) but " ++
        s!"{bodies} body generator(s)"
  | config reason => reason.message

end TwoPhase
