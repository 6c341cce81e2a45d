import Depository.Settings.Basic

/-!
# Start of the service

The service is created, told to shut down in order, and told to listen on its port.  A failure of
any of these is reported and ends the process.

* `Startup.run` — what is done at the start in an environment.
-/

namespace Depository

namespace Startup

/-- What is done at the start. -/
inductive Step where
  /-- The service is created; its log is JSON or plain. -/
  | create (jsonLog : Bool)
  /-- The service is told to finish what it does when the process is to end. -/
  | shutDownInOrder
  /-- The service is told to listen. -/
  | listen (port : Nat)
  /-- A failure is reported. -/
  | report (message : String)
  /-- The process ends. -/
  | exit (code : Nat)
  deriving DecidableEq, Repr

/-- The environment asks for a log as JSON. -/
def wantsJsonLog (env : Json) : Bool :=
  match env.get? "LOG_FORMAT" with
  | some (.string "json") => true
  | _ => false

/-- How a failure ends the start. -/
def failed (message : String) : List Step := [.report message, .exit 1]

/-- What is done at the start.  The creation or the listening may fail with a message. -/
def run (env : Json) (createFault listenFault : Option String) : List Step :=
  .create (wantsJsonLog env) ::
    match createFault with
    | some message => failed message
    | none =>
      .shutDownInOrder ::
        match Settings.load (some env) with
        | .error fault => failed fault.message
        | .ok settings =>
          .listen settings.port ::
            match listenFault with
            | some message => failed message
            | none => []

end Startup

end Depository
