import TableQuery.ClientError

/-!
# Execution modes

How the result of a query comes back from the server.
-/

namespace TableQuery

/-- How a result comes back. -/
inductive ExecutionMode where
  | cursor
  /-- Through shared memory. -/
  | ipc
  /-- Through the memory of a graphics card. -/
  | gpuIpc (device : Nat)
  deriving DecidableEq, Repr

namespace ExecutionMode

/-- The mode for what the user has set. A graphics card needs shared memory, so refusing that while
asking for a card is an error. -/
def resolve : Option Bool → Option Nat → Except ClientError ExecutionMode
  | some false, some _ => .error .invalidExecutionType
  | _, some device => .ok (.gpuIpc device)
  | some true, none => .ok .ipc
  | _, none => .ok .cursor

/-- Whether a graphics card is used. -/
def isGpu : ExecutionMode → Bool
  | .gpuIpc _ => true
  | _ => false

end ExecutionMode

end TableQuery
