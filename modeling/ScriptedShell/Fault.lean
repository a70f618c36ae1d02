import ScriptedShell.Status

/-!
What can go wrong between the shell and its scripts. Each fault has one message; all but
`unexpectedResult` make the bridge command fail.
-/

namespace ScriptedShell

inductive Fault where
  | notInitialized
  | unsupportedVersion (version : String)
  | engineNotCreated (reason : String)
  | chunkNotLoaded (path reason : String)
  | scriptFailed (description : String)
  | notAFunction (name : String)
  /-- A script function answered with a value that is no status. -/
  | unexpectedResult (typeName : String)
  | malformedRequest (problem : String)
  | hostGone
  | engineBusy
deriving DecidableEq, Repr

namespace Fault

def message : Fault → String
  | .notInitialized => "not initialized yet!"
  | .unsupportedVersion version => "unknown/unsupported bash version: " ++ version
  | .engineNotCreated reason => "failed to initialize script engine: " ++ reason
  | .chunkNotLoaded path reason => "cannot load chunk " ++ path ++ ": " ++ reason
  | .scriptFailed description => description
  | .notAFunction name => "'" ++ name ++ "' is not a function"
  | .unexpectedResult typeName => "unexpected type '" ++ typeName ++ "' returned"
  | .malformedRequest problem => "malformed invocation: " ++ problem
  | .hostGone => "host shell is no longer available"
  | .engineBusy => "script engine is busy; re-entrant calls are not supported"

def status : Fault → Status
  | .unexpectedResult _ => .success
  | _ => .failure

def wantsUsage : Fault → Bool
  | .malformedRequest _ => true
  | _ => false

end Fault

end ScriptedShell
