import Depository.Probe.Run

/-!
# Scripted circumstances

A script says once for each kind of calls how they behave, and at which of them the caller gives up.
It stands in for backends that cannot be reached.

* `Script` — the scripts;
* `Script.circumstances` — the circumstances that follow a script.
-/

namespace Depository

/-- How the calls of a kind behave. -/
inductive Behaviour where
  | resolves (value : Json)
  | fails (trouble : Trouble)
  /-- They are never answered. -/
  | hangs
  /-- They fail when the program is told to stop while they are waited for. -/
  | failsWhenStopped (trouble : Trouble)

/-- The behaviour of all calls. -/
structure Script where
  behaviour : Method → Behaviour
  /-- The caller gives up during the calls of this kind, if they are waited for. -/
  cancelsDuring : Option Method
  /-- The caller gives up when the program waits for the first time. -/
  cancelsAtFirstWait : Bool
  /-- The id of a number. -/
  freshId : Nat → String

namespace Script

/-- A call of this kind notices that the program is told to stop. -/
def noticesStop : Method → Bool
  | .s3Head | .azureExists | .ftpAccess | .ftpEnter | .smbList | .sftpConnect | .sftpExists
  | .runProgram => true
  | _ => false

/-- A call of this kind can fail although it is answered at once. -/
def failsAtOnce : Method → Bool
  | .azureClient | .azureConnection => true
  | _ => false

/-- What comes of a call that is answered at once. -/
def answer (s : Script) (call : Call) : Answer where
  outcome :=
    match s.behaviour call.method with
    | .fails t => if failsAtOnce call.method then .error t else .ok ()
    | _ => .ok ()
  cancels := false

/-- The caller gives up while a call is waited for. -/
def cancels (s : Script) (r : Run) (call : Call) : Bool :=
  s.cancelsDuring == some call.method || (s.cancelsAtFirstWait && !r.deadline.hasStarted)

/-- What comes of a call that is waited for. -/
def waiting (s : Script) (r : Run) (call : Call) : Waiting :=
  let happenings : List Happening := if s.cancels r call then [.cancels] else []
  match s.behaviour call.method with
  | .resolves value => ⟨happenings, some (.ok value)⟩
  | .fails t => ⟨happenings, some (.error t)⟩
  | .hangs => ⟨happenings, none⟩
  | .failsWhenStopped t =>
    if r.deadline.aborted || !noticesStop call.method then ⟨happenings, none⟩
    else if s.cancels r call then ⟨happenings, some (.error t)⟩
    else ⟨[.passes (Deadline.due r.deadline.limit - r.deadline.clock)], some (.error t)⟩

/-- Why a call fails that is made because the program was told to stop. -/
def releaseTrouble (s : Script) (call : Call) : Option Trouble :=
  match s.behaviour call.method with
  | .fails t => some t
  | _ => none

/-- The circumstances that follow a script. -/
def circumstances (s : Script) : Circumstances where
  answer _ call := s.answer call
  waiting := s.waiting
  releaseTrouble _ call := s.releaseTrouble call
  freshId := s.freshId

/-- What calls of a kind come to where nothing else is said: the backend is there and content. -/
def success : Method → Json
  | .azureExists => .bool true
  | .smbList => .array []
  | .sftpExists => .string "d"
  | .sftpEnd => .bool true
  | .googleAccessToken => .object [("token", .string "access")]
  | .makeWorkDirectory => .string "/tmp/rclone-test-XXXXXX"
  | .runProgram => .string ""
  | _ => .object []

/-- The script in which everything goes well. -/
def allWell (freshId : Nat → String) : Script where
  behaviour m := .resolves (success m)
  cancelsDuring := none
  cancelsAtFirstWait := false
  freshId := freshId

end Script

end Depository
