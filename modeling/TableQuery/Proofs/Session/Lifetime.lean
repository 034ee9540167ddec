import Mathlib.Data.List.Nodup
import TableQuery.Proofs.Session.Exchange
import TableQuery.Session.Define
import TableQuery.Session.Function

/-!
# Lifetimes — one open connection at a time

A session that moves to another database opens a connection, closes the one it had, and goes on with
the new one; each of the first two can fail, and the first is tried more than once. After any number
of calls, however they were answered, the connection of the session is the one that was opened last,
it has not been closed, and each earlier one has been closed once (`Session.one_open_connection`).
A move for which no connection can be opened changes nothing.
-/

namespace TableQuery

/-! ## Opening and closing -/

namespace Exchange

/-- The connection that was opened in an exchange, and how. -/
def opened? : Exchange → Option (Nat × ConnectParams)
  | ⟨.connect n params, .ok _⟩ => some (n, params)
  | _ => none

/-- The connection that was asked to close in an exchange, whether it did or not. -/
def closed? : Exchange → Option Nat
  | ⟨.close n, _⟩ => some n
  | _ => none

end Exchange

/-- The connections that were opened, in order. -/
def opened (es : List Exchange) : List (Nat × ConnectParams) :=
  es.filterMap Exchange.opened?

/-- The connections that were asked to close, in order. -/
def closed (es : List Exchange) : List Nat :=
  es.filterMap Exchange.closed?

variable {es es' : List Exchange}

@[simp] theorem opened_append : opened (es ++ es') = opened es ++ opened es' :=
  List.filterMap_append

@[simp] theorem closed_append : closed (es ++ es') = closed es ++ closed es' :=
  List.filterMap_append

/-- Whether a request neither opens nor closes a connection, and is made over the connection of a
number if it is made over one at all. -/
def Request.IsOver (n : Nat) : Request → Prop
  | .connect .. | .close _ => False
  | .execute m .. | .validate m _ | .tableDetails m _ | .tables m | .databases m
  | .currentDatabase m | .version m | .load m .. => m = n
  | .compile .. | .register | .jitter | .pause _ => True

theorem opened_eq_nil {n : Nat} (h : ∀ e ∈ es, e.request.IsOver n) : opened es = [] := by
  refine List.filterMap_eq_nil_iff.2 fun e he => ?_
  have hOver := h e he
  rcases e with ⟨request, answer⟩
  cases request <;> first | rfl | cases hOver

theorem closed_eq_nil {n : Nat} (h : ∀ e ∈ es, e.request.IsOver n) : closed es = [] := by
  refine List.filterMap_eq_nil_iff.2 fun e he => ?_
  have hOver := h e he
  rcases e with ⟨request, answer⟩
  cases request <;> first | rfl | cases hOver

/-- What parameters have in common before and after a move to a database: everything but the
database, in the target too if that names one. -/
structure ConnectParams.MovesTo (name : String) (p q : ConnectParams) : Prop where
  host : q.host = p.host
  port : q.port = p.port
  protocol : q.protocol = p.protocol
  database : q.database = some name
  credentials : ∀ user password database,
    p.target = .credentials user password database → q.target = .credentials user password name
  target : (∀ user password database, p.target ≠ .credentials user password database) →
    q.target = p.target

theorem ConnectParams.movesTo_withDatabase (p : ConnectParams) (name : String) :
    p.MovesTo name (p.withDatabase name) where
  host := rfl
  port := rfl
  protocol := rfl
  database := rfl
  credentials user password database h := by
    simp [withDatabase, h, ConnectTarget.withDatabase]
  target h := by
    unfold withDatabase ConnectTarget.withDatabase
    split
    · next hCredentials => exact absurd hCredentials (h _ _ _)
    · rfl

namespace Session

variable {s s' : Session}

/-- Opening a connection closes none, and opens this one once or, if it fails, none. -/
theorem opened_of_openConnection {n : Nat} {params : ConnectParams} {retry : RetrySettings}
    {result : Except ClientError Unit} (h : (openConnection n params retry).run.Ends es result) :
    closed es = [] ∧ opened es = if result.isOk then [(n, params)] else [] := by
  rcases Attempt.ends_ofReasons_iff.1 h with ⟨answer, hAttempts, rfl⟩
  clear h
  -- by the number of attempts that are left, whatever the number of the attempt is
  unfold Retry.always Retry.whenRetryable at hAttempts
  generalize retry.maxAttempts - 1 = left at hAttempts
  generalize 1 = attempt at hAttempts
  induction left generalizing es attempt with
  | zero =>
      rw [Dialogue.ends_request_iff.1 hAttempts]
      cases answer <;> exact ⟨rfl, rfl⟩
  | succ left ih =>
      rcases Dialogue.ends_bind_iff.1 hAttempts with ⟨es₁, first, es₂, hFirst, hRest, rfl⟩
      rw [Dialogue.ends_request_iff.1 hFirst]
      cases first with
      | ok u =>
          rcases Dialogue.ends_done_iff.1 hRest with ⟨rfl, rfl⟩
          exact ⟨rfl, rfl⟩
      | error e =>
          -- a failed attempt and the pause behind it open and close nothing
          rcases Dialogue.ends_bind_iff.1 hRest with ⟨es₃, _, es₄, hPause, hLeft, rfl⟩
          have hQuiet : (pauseAfter retry attempt).Only (Request.IsOver n) :=
            (Dialogue.only_request trivial).bind fun _ => Dialogue.only_request trivial
          have hOpened := opened_eq_nil (hQuiet.of_ends hPause)
          have hClosed := closed_eq_nil (hQuiet.of_ends hPause)
          rcases ih (attempt + 1) hLeft with ⟨hClosedLeft, hOpenedLeft⟩
          refine ⟨?_, ?_⟩
          · rw [closed_append, closed_append, hClosed, hClosedLeft]
            rfl
          · rw [opened_append, opened_append, hOpened, hOpenedLeft]
            rfl

/-! ## Moving to another database -/

/-- The session after a move: where the move has failed, it is as it was. -/
def after (s : Session) : Except ClientError Session → Session
  | .ok s' => s'
  | .error _ => s

/-- The session with the next connection, to another database. -/
def moved (s : Session) (name : String) : Session :=
  { s with connection := s.connection + 1, params := s.params.withDatabase name }

/-- A move ends in one of three ways: there was nothing to do; no connection could be opened; or the
next connection was opened and the one before it was asked to close. -/
theorem setDatabase_cases {name : String} {result : Except ClientError Session}
    (h : (s.setDatabase name).run.Ends es result) :
    (s.params.database = some name ∧ es = [] ∧ result = .ok s) ∨
    (s.params.database ≠ some name ∧ opened es = [] ∧ closed es = [] ∧
      ∃ error, result = .error error) ∨
    (s.params.database ≠ some name ∧
      opened es = [(s.connection + 1, s.params.withDatabase name)] ∧
      closed es = [s.connection] ∧ result = .ok (s.moved name)) := by
  unfold setDatabase at h
  split at h
  · next hSame =>
    rcases Attempt.ends_pure_iff.1 h with ⟨rfl, rfl⟩
    exact .inl ⟨hSame, rfl, rfl⟩
  · next hOther =>
    refine .inr ?_
    rcases Attempt.ends_bind_iff.1 h with ⟨error, hOpen, rfl⟩ | ⟨es₁, _, es₂, hOpen, hRest, rfl⟩
    · rcases opened_of_openConnection hOpen with ⟨hClosed, hOpened⟩
      exact .inl ⟨hOther, hOpened, hClosed, error, rfl⟩
    · rcases opened_of_openConnection hOpen with ⟨hClosed, hOpened⟩
      -- the answer of the old connection is not looked at
      have hClose : (Dialogue.request (.close s.connection)).bind
          (fun _ => .done (.ok (s.moved name))) |>.Ends es₂ result := hRest
      rcases Dialogue.ends_bind_iff.1 hClose with ⟨es₃, answer, es₄, hRequest, hDone, rfl⟩
      rcases Dialogue.ends_done_iff.1 hDone with ⟨rfl, rfl⟩
      rw [Dialogue.ends_request_iff.1 hRequest]
      refine .inr ⟨hOther, ?_, ?_, rfl⟩
      · rw [opened_append, hOpened]
        rfl
      · rw [closed_append, hClosed]
        rfl

/-! ## Other calls -/

/-- A call other than one that closes the session. -/
inductive Call where
  | setDatabase (name : String)
  | compile (r : Relation)
  | execute (r : Relation)
  | runText (sql : String)
  | runTextWith (sql : String) (ipc : Option Bool) (gpuDevice : Option Nat)
  | query (text : String) (id : Nat)
  | describe (name : String)
  | schema (name : String)
  | table (name : String) (id : Nat)
  | tables (like : Option String)
  | databases (like : Option String)
  | hasTable (name : String)
  | hasDatabase (name : String)
  | currentDatabase
  | version
  | createTable (name : String) (columns : Schema) (options : TableOptions)
  | createTableFrom (name : String) (r : Relation)
  | createView (name : String) (r : Relation)
  | dropTable (name : String) (force : Bool)
  | dropView (name : String) (force : Bool)
  | dropTableOrView (name : String) (force : Bool)
  | renameTable (name newName : String)
  | addColumns (name : String) (columns : List ColumnSpec)
  | dropColumns (name : String) (columns : List String)
  | truncateTable (name : String)
  | load (name : String) (rows : Nat) (method : Option LoadMethod)
  | compileFunction (signature : UdfSignature) (source : UdfSource)

/-- An attempt after which the session is as it was, whatever comes of it. -/
def keeping {α : Type} (s : Session) (a : Attempt α) : Dialogue Session :=
  a.run.bind fun _ => .done s

/-- A call, and the session after it. -/
def Call.dialogue (s : Session) : Call → Dialogue Session
  | .setDatabase name => (s.setDatabase name).run.bind fun result => .done (s.after result)
  | .compile r => s.keeping (Attempt.ofResult (s.compile r))
  | .execute r => s.keeping (s.execute r)
  | .runText sql => s.keeping (s.runText sql)
  | .runTextWith sql ipc gpuDevice => s.keeping (s.runTextWith sql ipc gpuDevice)
  | .query text id => s.keeping (s.query text id)
  | .describe name => s.keeping (s.describe name)
  | .schema name => s.keeping (s.schema name)
  | .table name id => s.keeping (s.table name id)
  | .tables like => s.keeping (s.tables like)
  | .databases like => s.keeping (s.databases like)
  | .hasTable name => s.keeping (s.hasTable name)
  | .hasDatabase name => s.keeping (s.hasDatabase name)
  | .currentDatabase => s.keeping s.currentDatabase
  | .version => s.keeping s.version
  | .createTable name columns options => s.keeping (s.createTable name columns options)
  | .createTableFrom name r => s.keeping (s.createTableFrom name r)
  | .createView name r => s.keeping (s.createView name r)
  | .dropTable name force => s.keeping (s.dropTable name force)
  | .dropView name force => s.keeping (s.dropView name force)
  | .dropTableOrView name force => s.keeping (s.dropTableOrView name force)
  | .renameTable name newName => s.keeping (s.renameTable name newName)
  | .addColumns name columns => s.keeping (s.addColumns name columns)
  | .dropColumns name columns => s.keeping (s.dropColumns name columns)
  | .truncateTable name => s.keeping (s.truncateTable name)
  | .load name rows method => s.keeping (s.load name rows method)
  | .compileFunction signature source => s.keeping (s.compileFunction signature source)

/-- An attempt that is made over the current connection only, and neither opens nor closes one. -/
structure Within {α : Type} (s : Session) (a : Attempt α) : Prop where
  only : a.run.Only (Request.IsOver s.connection)

section Within

open Attempt

variable {α β : Type}

theorem within_ofResult (result : Except ClientError α) : s.Within (ofResult result) :=
  ⟨only_ofResult result⟩

theorem within_pure (value : α) : s.Within (pure value) :=
  within_ofResult (.ok value)

theorem within_ofReasons {error : String → ClientError} {d : Dialogue (Except String α)}
    (h : d.Only (Request.IsOver s.connection)) : s.Within (ofReasons error d) :=
  ⟨only_ofReasons h⟩

theorem Within.bind {a : Attempt α} {f : α → Attempt β} (h : s.Within a)
    (hf : ∀ value, s.Within (f value)) : s.Within (a >>= f) :=
  ⟨only_bind h.only fun value => (hf value).only⟩

theorem within_run (s : Session) (sql : String) (mode : ExecutionMode) :
    s.Within (s.run sql mode) :=
  within_ofReasons (Dialogue.only_request (r := .execute s.connection sql mode) rfl)

theorem within_define (s : Session) (statement : Except ClientError String) :
    s.Within (s.define statement) :=
  (within_ofResult _).bind fun sql => (s.within_run sql .cursor).bind fun _ => within_pure ()

theorem within_describe (s : Session) (table : String) : s.Within (s.describe table) :=
  within_ofReasons (Dialogue.only_request (r := .tableDetails s.connection table) rfl)

theorem within_schema (s : Session) (table : String) : s.Within (s.schema table) :=
  (s.within_describe table).bind fun _ => within_ofResult _

theorem within_tables (s : Session) (like : Option String) : s.Within (s.tables like) :=
  (within_ofReasons (Dialogue.only_request (r := .tables s.connection) rfl)).bind fun _ =>
    within_ofResult _

theorem within_databases (s : Session) (like : Option String) : s.Within (s.databases like) :=
  (within_ofReasons (Dialogue.only_request (r := .databases s.connection) rfl)).bind fun _ =>
    within_ofResult _

theorem within_query (s : Session) (text : String) (id : Nat) : s.Within (s.query text id) := by
  unfold query
  generalize QueryText.strip text = text
  refine Within.bind (within_ofResult _) fun _ => ?_
  refine Within.bind ?_ fun _ => Within.bind (within_ofResult _) fun _ => within_pure _
  exact within_ofReasons (Dialogue.only_request (r := .validate s.connection _) rfl)

/-- Both statements are sent over the same connection. -/
theorem within_dropTableOrView (s : Session) (name : String) (force : Bool) :
    s.Within (s.dropTableOrView name force) := by
  refine ⟨(s.within_define (Ddl.dropTable name false)).only.bind fun result => ?_⟩
  cases result with
  | ok u => trivial
  | error first =>
      refine (s.within_define (Ddl.dropView name force)).only.bind fun result => ?_
      cases result <;> trivial

theorem within_compileFunction (s : Session) (signature : UdfSignature) (source : UdfSource) :
    s.Within (s.compileFunction signature source) := by
  unfold compileFunction
  split
  · refine (within_ofResult _).bind fun text => ?_
    refine (within_ofReasons (Dialogue.only_request (r := .compile source text) trivial)).bind ?_
    intro _
    refine (within_ofReasons (Dialogue.only_request (r := .register) trivial)).bind ?_
    exact fun _ => within_pure _
  · exact within_ofResult _

end Within

/-- After an attempt within the current connection, the session is as it was, and no connection was
opened or closed. -/
theorem ends_keeping {α : Type} {a : Attempt α} (hWithin : s.Within a)
    (h : (s.keeping a).Ends es s') : s' = s ∧ opened es = [] ∧ closed es = [] := by
  rcases Dialogue.ends_bind_iff.1 h with ⟨es₁, _, es₂, hAttempt, hDone, rfl⟩
  rcases Dialogue.ends_done_iff.1 hDone with ⟨rfl, rfl⟩
  rw [List.append_nil]
  have hOver := hWithin.only.of_ends hAttempt
  exact ⟨rfl, opened_eq_nil hOver, closed_eq_nil hOver⟩

/-- What a call other than a move does to the session and its connections. -/
theorem Call.ends_dialogue {call : Call} (hCall : ∀ name, call ≠ .setDatabase name)
    (h : (call.dialogue s).Ends es s') : s' = s ∧ opened es = [] ∧ closed es = [] := by
  cases call with
  | setDatabase name => exact absurd rfl (hCall name)
  | compile r => exact ends_keeping (within_ofResult _) h
  | execute r =>
      exact ends_keeping ((within_ofResult _).bind fun sql => s.within_run sql s.mode) h
  | runText sql => exact ends_keeping (s.within_run sql s.mode) h
  | runTextWith sql ipc gpuDevice =>
      exact ends_keeping ((within_ofResult _).bind fun mode => s.within_run sql mode) h
  | query text id => exact ends_keeping (s.within_query text id) h
  | describe name => exact ends_keeping (s.within_describe name) h
  | schema name => exact ends_keeping (s.within_schema name) h
  | table name id => exact ends_keeping ((s.within_schema name).bind fun _ => within_pure _) h
  | tables like => exact ends_keeping (s.within_tables like) h
  | databases like => exact ends_keeping (s.within_databases like) h
  | hasTable name => exact ends_keeping ((s.within_tables none).bind fun _ => within_pure _) h
  | hasDatabase name =>
      exact ends_keeping ((s.within_databases none).bind fun _ => within_pure _) h
  | currentDatabase =>
      exact ends_keeping (within_ofReasons
        (Dialogue.only_request (r := .currentDatabase s.connection) rfl)) h
  | version =>
      exact ends_keeping (within_ofReasons
        (Dialogue.only_request (r := .version s.connection) rfl)) h
  | load name rows method =>
      exact ends_keeping (within_ofReasons
        (Dialogue.only_request (r := .load s.connection name rows (method.getD .default)) rfl)) h
  | dropTableOrView name force => exact ends_keeping (s.within_dropTableOrView name force) h
  | compileFunction signature source =>
      exact ends_keeping (s.within_compileFunction signature source) h
  | createTable | createTableFrom | createView | dropTable | dropView | renameTable | addColumns
  | dropColumns | truncateTable => exact ends_keeping (s.within_define _) h

/-! ## Histories -/

/-- What has been said since a session was opened with some settings, and the session at the end:
the session is opened, then calls are made, each of which may be answered in any way. -/
inductive Reached (settings : Settings) (hasCompiler : Bool) : List Exchange → Session → Prop where
  | connected {es : List Exchange} {s : Session} :
      (connect settings hasCompiler).run.Ends es (.ok s) → Reached settings hasCompiler es s
  | called {es es' : List Exchange} {s s' : Session} (call : Call) :
      Reached settings hasCompiler es s → (call.dialogue s).Ends es' s' →
      Reached settings hasCompiler (es ++ es') s'

/-- The connections of a session have the numbers up to its own, were opened in that order, and
closed in that order but for its own. -/
structure Accounts (es : List Exchange) (s : Session) : Prop where
  numbers : (opened es).map Prod.fst = List.range (s.connection + 1)
  current : (opened es).getLast? = some (s.connection, s.params)
  closed : closed es = List.range s.connection

/-- A session that is opened has the first connection, with the parameters that the settings give. -/
theorem ends_connect_ok {settings : Settings} {hasCompiler : Bool}
    (h : (connect settings hasCompiler).run.Ends es (.ok s)) :
    s.connection = 0 ∧ ConnectParams.ofSettings settings.connection = .ok s.params ∧
      (openConnection 0 s.params settings.retry).run.Ends es (.ok ()) := by
  unfold connect at h
  -- of the steps only the last one asks for anything
  rcases Attempt.of_ends_bind h with ⟨_, params, _, hParams, hAfterParams, rfl⟩
  rcases Attempt.of_ends_bind hAfterParams with ⟨_, mode, _, hMode, hAfterMode, rfl⟩
  rcases Attempt.of_ends_bind hAfterMode with ⟨_, dialect, _, hDialect, hAfterDialect, rfl⟩
  rcases Attempt.of_ends_bind hAfterDialect with ⟨es, _, _, hOpen, hDone, rfl⟩
  rcases Attempt.ends_ofResult_iff.1 hParams with ⟨rfl, hGiven⟩
  rcases Attempt.ends_ofResult_iff.1 hMode with ⟨rfl, -⟩
  rcases Attempt.ends_ofResult_iff.1 hDialect with ⟨rfl, -⟩
  rcases Attempt.ends_pure_iff.1 hDone with ⟨rfl, hSession⟩
  cases hSession
  exact ⟨rfl, hGiven.symm, by simpa using hOpen⟩

theorem accounts_of_connect {settings : Settings} {hasCompiler : Bool}
    (h : (connect settings hasCompiler).run.Ends es (.ok s)) : Accounts es s := by
  rcases ends_connect_ok h with ⟨hFirst, -, hOpen⟩
  rcases opened_of_openConnection hOpen with ⟨hClosed, hOpened⟩
  have hOne : opened es = [(0, s.params)] := hOpened
  refine ⟨?_, ?_, ?_⟩
  · rw [hOne, hFirst]
    rfl
  · rw [hOne, hFirst]
    rfl
  · rw [hClosed, hFirst]
    rfl

/-- Exchanges in which no connection is opened or closed change nothing. -/
theorem Accounts.append (h : Accounts es s) (hOpened : opened es' = [])
    (hClosed : TableQuery.closed es' = []) : Accounts (es ++ es') s := by
  refine ⟨?_, ?_, ?_⟩
  · rw [opened_append, hOpened, List.append_nil]
    exact h.numbers
  · rw [opened_append, hOpened, List.append_nil]
    exact h.current
  · rw [closed_append, hClosed, List.append_nil]
    exact h.closed

/-- A move adds the next connection, or leaves everything as it is. -/
theorem Accounts.setDatabase (h : Accounts es s) {name : String}
    {result : Except ClientError Session} (hMove : (s.setDatabase name).run.Ends es' result) :
    Accounts (es ++ es') (s.after result) := by
  rcases setDatabase_cases hMove with ⟨-, rfl, rfl⟩ | ⟨-, hOpened, hClosed, error, rfl⟩ |
    ⟨-, hOpened, hClosed, rfl⟩
  · rwa [List.append_nil]
  · exact h.append hOpened hClosed
  · refine ⟨?_, ?_, ?_⟩
    · rw [opened_append, List.map_append, h.numbers, hOpened]
      exact List.range_succ.symm
    · rw [opened_append, hOpened]
      exact List.getLast?_concat
    · rw [closed_append, h.closed, hClosed]
      exact List.range_succ.symm

theorem Reached.accounts {settings : Settings} {hasCompiler : Bool}
    (h : Reached settings hasCompiler es s) : Accounts es s := by
  -- along the history; only a move takes part in the accounts
  induction h with
  | connected hConnect => exact accounts_of_connect hConnect
  | @called es es' s s' call _ hCall ih =>
      by_cases hMove : ∃ name, call = .setDatabase name
      · rcases hMove with ⟨name, rfl⟩
        rcases Dialogue.ends_bind_iff.1 hCall with ⟨es₁, result, es₂, hMove, hDone, rfl⟩
        rcases Dialogue.ends_done_iff.1 hDone with ⟨rfl, rfl⟩
        rw [List.append_nil]
        exact ih.setDatabase hMove
      · have hOther := not_exists.1 hMove
        rcases Call.ends_dialogue hOther hCall with ⟨rfl, hOpened, hClosed⟩
        exact ih.append hOpened hClosed

/-- After any calls on a session, however they were answered, its connection is the one that was
opened last and has not been asked to close, and each of the connections opened before, all of them
different, was asked to close once. A move for which no connection could be opened leaves the
session as it was, closes nothing, and fails unless there was nothing to do. After a move that has
opened a connection the parameters differ in the database only, and nothing else about the session
has changed. -/
theorem one_open_connection {settings : Settings} {hasCompiler : Bool}
    (h : Reached settings hasCompiler es s) :
    (opened es).getLast? = some (s.connection, s.params) ∧
    ((opened es).map Prod.fst).Nodup ∧
    s.connection ∉ closed es ∧
    (∀ c ∈ (opened es).dropLast, (closed es).count c.1 = 1) ∧
    ∀ name es' result, (s.setDatabase name).run.Ends es' result →
      (opened es' = [] →
        s.after result = s ∧ closed es' = [] ∧
        (s.params.database = some name ∨ ∃ error, result = .error error)) ∧
      (opened es' ≠ [] →
        result = .ok (s.after result) ∧ s.params.MovesTo name (s.after result).params ∧
        s.after result = { s with
          connection := (s.after result).connection, params := (s.after result).params }) := by
  have hAccounts := h.accounts
  refine ⟨hAccounts.current, ?_, ?_, fun c hc => ?_, fun name es' result hMove => ?_⟩
  · rw [hAccounts.numbers]
    exact List.nodup_range
  · rw [hAccounts.closed, List.mem_range]
    exact Nat.lt_irrefl _
  · -- the numbers of the connections but the last are those below the last
    have hBelow : ((opened es).dropLast).map Prod.fst = List.range s.connection := by
      rw [List.map_dropLast, hAccounts.numbers, List.range_succ, List.dropLast_concat]
    have hLt : c.1 < s.connection := by
      rw [← List.mem_range, ← hBelow]
      exact List.mem_map_of_mem hc
    rw [hAccounts.closed]
    exact List.count_eq_one_of_mem List.nodup_range (List.mem_range.2 hLt)
  · rcases setDatabase_cases hMove with ⟨hSame, rfl, rfl⟩ | ⟨-, hOpened, hClosed, error, rfl⟩ |
      ⟨-, hOpened, -, rfl⟩
    · exact ⟨fun _ => ⟨rfl, rfl, .inl hSame⟩, fun hSome => absurd rfl hSome⟩
    · exact ⟨fun _ => ⟨rfl, hClosed, .inr ⟨error, rfl⟩⟩, fun hSome => absurd hOpened hSome⟩
    · refine ⟨fun hNone => ?_, fun _ => ⟨rfl, s.params.movesTo_withDatabase name, rfl⟩⟩
      rw [hOpened] at hNone
      cases hNone

/-- A server that refuses a number of attempts to connect, and never closes a connection. -/
def reluctant (r : Request) (refusals : Nat) : r.Answer × Nat :=
  match r with
  | .connect .. => if refusals = 0 then (.ok (), 0) else (.error "refused", refusals - 1)
  | .close _ => (.error "busy", refusals)
  | .execute .. => (.ok ⟨[]⟩, refusals)
  | .validate .. | .tableDetails .. | .tables _ | .databases _ => (.ok [], refusals)
  | .currentDatabase _ | .version _ => (.ok "", refusals)
  | .load .. | .compile .. | .register => (.ok (), refusals)
  | .jitter => ((⟨0, Nat.succ_pos 999⟩ : Fin 1000), refusals)
  | .pause _ => ((), refusals)

/-- Settings under which a session is opened in a database, in two attempts at most. -/
def twoAttempts : Settings where
  connection := { user := some "u", password := some "p", database := some "a" }
  retry := ⟨2, 0, 0⟩

/-- A session that moves at the second attempt, while its old connection does not close, and then
fails to move again. -/
theorem one_open_connection_reluctant :
    ∃ es s, Reached twoAttempts false es s ∧ (opened es).map Prod.fst = [0, 1] ∧ closed es = [0] ∧
      (opened es).getLast? = some (s.connection, s.params) ∧ s.connection ∉ closed es ∧
      s.params.target = .credentials "u" "p" "b" ∧
      ∃ es' error, (s.setDatabase "c").run.Ends es' (.error error) ∧
        es'.length = 4 ∧ s.after (.error error) = s ∧ closed es' = [] := by
  have hConnected : Reached twoAttempts false _ _ :=
    .connected (Dialogue.ends_run reluctant (connect twoAttempts false).run 0)
  have hMoved := hConnected.called (.setDatabase "b") (Dialogue.ends_run reluctant _ 1)
  rcases one_open_connection hMoved with ⟨hLast, -, hOpen, -, hMoves⟩
  -- both attempts to move on are refused
  rcases hMoves "c" _ _ (Dialogue.ends_run reluctant _ 2) with ⟨hStays, -⟩
  rcases hStays rfl with ⟨hSame, hClosed, -⟩
  exact ⟨_, _, hMoved, rfl, rfl, hLast, hOpen, rfl, _, _, Dialogue.ends_run reluctant _ 2, rfl,
    hSame, hClosed⟩

end Session

end TableQuery
