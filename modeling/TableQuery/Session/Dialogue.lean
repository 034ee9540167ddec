import TableQuery.ColumnDetails
import TableQuery.Connection
import TableQuery.ExecutionMode
import TableQuery.LoadMethod
import TableQuery.Udf

/-!
# Dialogues with a server

What a client asks of a server, as data: a dialogue is either done, or makes a request and goes on
with the answer. Running a dialogue against a server gives its value; the requests that are made,
and their order, can be read off the dialogue. Connections are numbered in the order in which they
are opened.
-/

namespace TableQuery

/-- The rows that a statement has given, in batches. -/
structure QueryResult where
  batches : List Nat
  deriving DecidableEq, Repr

def QueryResult.rows (r : QueryResult) : Nat :=
  r.batches.foldl (· + ·) 0

/-- What a client asks for. -/
inductive Request where
  /-- Opens the connection of a number. -/
  | connect (connection : Nat) (params : ConnectParams)
  | execute (connection : Nat) (sql : String) (mode : ExecutionMode)
  /-- Asks for the columns of a query without running it. -/
  | validate (connection : Nat) (sql : String)
  | tableDetails (connection : Nat) (table : String)
  | tables (connection : Nat)
  | databases (connection : Nat)
  | currentDatabase (connection : Nat)
  | version (connection : Nat)
  | load (connection : Nat) (table : String) (rows : Nat) (method : LoadMethod)
  | close (connection : Nat)
  /-- Compiles the source of a function for a signature. -/
  | compile (source : UdfSource) (signature : String)
  /-- Makes all functions that have been compiled available. -/
  | register
  /-- Asks for a random number below a thousand. -/
  | jitter
  /-- Waits for some milliseconds. -/
  | pause (milliseconds : Nat)
  deriving DecidableEq

namespace Request

/-- What a request is answered with; where it can fail, the reason is a text. -/
def Answer : Request → Type
  | .connect .. | .load .. | .close .. | .compile .. | .register => Except String Unit
  | .execute .. => Except String QueryResult
  | .validate .. | .tableDetails .. => Except String (List ColumnDetails)
  | .tables .. | .databases .. => Except String (List String)
  | .currentDatabase .. | .version .. => Except String String
  | .jitter => Fin 1000
  | .pause .. => Unit

end Request

/-- A dialogue with a value in the end. -/
inductive Dialogue (α : Type) where
  | done (value : α)
  | ask (request : Request) (next : request.Answer → Dialogue α)

namespace Dialogue

/-- Goes on with another dialogue once this one is done. -/
def bind {α β : Type} (d : Dialogue α) (f : α → Dialogue β) : Dialogue β :=
  match d with
  | .done value => f value
  | .ask request next => .ask request fun answer => (next answer).bind f

instance : Monad Dialogue where
  pure := .done
  bind := bind

/-- A single request. -/
def request (r : Request) : Dialogue r.Answer :=
  .ask r .done

/-- Runs a dialogue against a world that has a state and answers requests. -/
def run {σ α : Type} (world : (r : Request) → σ → r.Answer × σ) : Dialogue α → σ → α × σ
  | .done value, s => (value, s)
  | .ask r next, s =>
    let (answer, s) := world r s
    run world (next answer) s

end Dialogue

/-- A dialogue that can fail. -/
abbrev Attempt (α : Type) : Type := ExceptT ClientError Dialogue α

namespace Attempt

/-- A dialogue that may fail for a reason, of which an error is made. -/
def ofReasons {α : Type} (error : String → ClientError) (d : Dialogue (Except String α)) :
    Attempt α :=
  ExceptT.mk (d.bind fun answer => .done (answer.mapError error))

/-- What is known without asking. -/
def ofResult {α : Type} (result : Except ClientError α) : Attempt α :=
  ExceptT.mk (.done result)

end Attempt

end TableQuery
