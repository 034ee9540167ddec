import TableQuery.ClientError
import TableQuery.Settings.Basic

/-!
# Connections

Whom to connect as and where, drawn from the settings: an open session is taken up before an address
is used, and an address before a name with a password.
-/

namespace TableQuery

/-- What tells the server who is asking. -/
inductive ConnectTarget where
  | session (id : String)
  | uri (uri : String)
  | credentials (user password database : String)
  deriving DecidableEq, Repr

namespace ConnectTarget

/-- The word for a kind of target. -/
def word : ConnectTarget → String
  | .session _ => "session"
  | .uri _ => "uri"
  | .credentials .. => "credentials"

def withDatabase (t : ConnectTarget) (name : String) : ConnectTarget :=
  match t with
  | .credentials user password _ => .credentials user password name
  | t => t

end ConnectTarget

/-- What is needed to open a connection. -/
structure ConnectParams where
  target : ConnectTarget
  host : String
  port : Nat
  protocol : Protocol
  database : Option String
  deriving DecidableEq, Repr

namespace ConnectParams

/-- The target that the settings give. -/
def targetOf (s : ConnectionSettings) : Except ClientError ConnectTarget :=
  match s.sessionId, s.uri, s.user, s.password, s.database with
  | some id, _, _, _, _ => .ok (.session id)
  | none, some uri, _, _, _ => .ok (.uri uri)
  | none, none, some user, some password, some database =>
    .ok (.credentials user password database)
  | _, _, _, _, _ => .error .missingCredentials

/-- The parameters that the settings give. -/
def ofSettings (s : ConnectionSettings) : Except ClientError ConnectParams :=
  (targetOf s).map fun target => ⟨target, s.host, s.port, s.protocol, s.database⟩

def withDatabase (p : ConnectParams) (name : String) : ConnectParams :=
  { p with target := p.target.withDatabase name, database := some name }

end ConnectParams

end TableQuery
