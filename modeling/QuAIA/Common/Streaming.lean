import Mathlib.Data.List.Basic

/-!
Contract: the payloads of the dashboard's server-sent events (`common/streaming.py`).

Owns: live events, the gap sentinel and the running tasks of a snapshot.

Does not own: the version and type constants that each payload repeats, and the
agents of a snapshot.
-/

set_option autoImplicit false

namespace QuAIA.Common

structure AgentActivityEvent where
  taskId : String
  agentId : String
  text : String
deriving DecidableEq, Repr

structure LogBatchEvent where
  taskId : String
  lines : List String
deriving DecidableEq, Repr

structure TaskDoneEvent where
  taskId : String
  agentId : String
  status : String
  errorMessage : Option String
deriving DecidableEq, Repr

structure GapEvent where
  reason : String
  since : Nat
  untilSeq : Nat
deriving DecidableEq, Repr

/-- What is published; `other` is a dictionary of a type without a payload model. -/
inductive HubEvent where
  | agentActivity (event : AgentActivityEvent)
  | logBatch (event : LogBatchEvent)
  | taskDone (event : TaskDoneEvent)
  | other (type : String)
deriving DecidableEq, Repr

/-- What a stream carries: published events, and sentinels for lost ones. -/
inductive Payload where
  | published (event : HubEvent)
  | gap (gap : GapEvent)
deriving DecidableEq, Repr

/-- The task of an activity event with a task id that is not empty. -/
def HubEvent.activityTask : HubEvent → Option String
  | .agentActivity event => if event.taskId = "" then none else some event.taskId
  | _ => none

def Payload.event? : Payload → Option HubEvent
  | .published event => some event
  | .gap _ => none

def Payload.activityTask : Payload → Option String
  | .published event => event.activityTask
  | .gap _ => none

/-! ## Snapshot -/

structure RunningTaskSnapshot where
  taskId : String
  agentId : String
  description : String
  currentActivity : Option String
deriving DecidableEq, Repr

end QuAIA.Common
