import TableQuery.Proofs.Outcome
import TableQuery.Proofs.Session.Exchange
import TableQuery.Session.Define

/-!
# Statements — what a call has sent when it fails

A call that runs a statement makes the whole of it up first: the query, the names, the types, the
defaults and the mode. If any of this fails, the error is of one of four kinds and nothing has been
sent; otherwise exactly the statement is sent, once, and the only error left is a refusal by the
server, which carries the statement (`StatementCall.ends_cases`). Dropping a table or a view takes
two statements, of which the second is sent only if the first was refused
(`Session.ends_dropTableOrView_cases`).
-/

namespace TableQuery

/-- An error of a kind that is found without asking the server. -/
def ClientError.IsLocal (e : ClientError) : Prop :=
  e.kind = .compilation ∨ e.kind = .unsupportedType ∨ e.kind = .invalidQuery ∨
    e.kind = .invalidExecutionType

theorem ClientError.not_isLocal_execution (reason sql : String) :
    ¬ (ClientError.execution reason sql).IsLocal := by
  simp [IsLocal, kind]

/-! ## Errors of what is made up -/

/-- Whatever error this has, it is found without asking the server. -/
def FailsLocally {α : Type} (x : Except ClientError α) : Prop :=
  ∀ e, x = .error e → e.IsLocal

section Outcomes

variable {α β : Type} {x : Except ClientError α}

@[simp] theorem failsLocally_ok (a : α) : FailsLocally (.ok a : Except ClientError α) := by
  simp [FailsLocally]

@[simp] theorem failsLocally_error_iff {e : ClientError} :
    FailsLocally (.error e : Except ClientError α) ↔ e.IsLocal := by
  simp [FailsLocally]

theorem FailsLocally.bind {f : α → Except ClientError β} (h : FailsLocally x)
    (hf : ∀ a, FailsLocally (f a)) : FailsLocally (x >>= f) := by
  cases x with
  | error e => exact failsLocally_error_iff.2 (h e rfl)
  | ok a => exact hf a

theorem FailsLocally.mapM {f : α → Except ClientError β} (h : ∀ a, FailsLocally (f a))
    (as : List α) : FailsLocally (as.mapM f) := by
  induction as with
  | nil => exact failsLocally_ok []
  | cons a as ih =>
      rw [List.mapM_cons]
      exact (h a).bind fun b => ih.bind fun bs => failsLocally_ok (b :: bs)

theorem failsLocally_mapError {ε : Type} {y : Except ε α} {error : ε → ClientError}
    (h : ∀ e, (error e).IsLocal) : FailsLocally (y.mapError error) := by
  cases y with
  | error e => exact failsLocally_error_iff.2 (h e)
  | ok a => exact failsLocally_ok a

/-- What has no text, a query as well as a name or a value, is refused by the compiler. -/
theorem failsLocally_compilation (y : Except SqlError α) :
    FailsLocally (y.mapError ClientError.compilation) :=
  failsLocally_mapError fun _ => .inl rfl

end Outcomes

theorem Session.failsLocally_compile (s : Session) (r : Relation) : FailsLocally (s.compile r) :=
  failsLocally_compilation _

theorem ExecutionMode.failsLocally_resolve (ipc : Option Bool) (gpuDevice : Option Nat) :
    FailsLocally (resolve ipc gpuDevice) := by
  unfold resolve
  split <;> simp [ClientError.IsLocal, ClientError.kind]

namespace Ddl

theorem failsLocally_ident (name : String) : FailsLocally (ident name) :=
  failsLocally_compilation _

theorem failsLocally_typeText (t : DataType) : FailsLocally (typeText t) :=
  failsLocally_mapError fun _ => .inr (.inl rfl)

theorem failsLocally_encodingText (encoding : String) : FailsLocally (encodingText encoding) := by
  unfold encodingText
  split <;> simp [ClientError.IsLocal, ClientError.kind]

theorem failsLocally_defaultText (d : Dialect) (default : Option Literal) :
    FailsLocally (defaultText d default) := by
  cases default with
  | none => exact failsLocally_ok ""
  | some value => exact (failsLocally_compilation _).bind fun _ => failsLocally_ok _

theorem failsLocally_encodingClause (encoding : Option String) :
    FailsLocally (encodingClause encoding) := by
  cases encoding with
  | none => exact failsLocally_ok ""
  | some encoding => exact (failsLocally_encodingText encoding).bind fun _ => failsLocally_ok _

theorem failsLocally_columnLine (f : Field) : FailsLocally (columnLine f) :=
  (failsLocally_typeText f.dataType).bind fun _ =>
    (failsLocally_ident f.name).bind fun _ => failsLocally_ok _

theorem failsLocally_columnDefinition (d : Dialect) (c : ColumnSpec) :
    FailsLocally (columnDefinition d c) :=
  (failsLocally_ident c.name).bind fun _ =>
    (failsLocally_typeText c.dataType).bind fun _ =>
      (failsLocally_defaultText d c.default).bind fun _ =>
        (failsLocally_encodingClause c.encoding).bind fun _ => failsLocally_ok _

theorem failsLocally_createTable (name : String) (schema : Schema) (options : TableOptions)
    (gpu : Bool) : FailsLocally (createTable name schema options gpu) :=
  (FailsLocally.mapM failsLocally_columnLine schema.fields).bind fun _ =>
    (failsLocally_ident name).bind fun _ => failsLocally_ok _

theorem failsLocally_createTableAs (name select : String) :
    FailsLocally (createTableAs name select) :=
  (failsLocally_ident name).bind fun _ => failsLocally_ok _

theorem failsLocally_createView (name select : String) : FailsLocally (createView name select) :=
  (failsLocally_ident name).bind fun _ => failsLocally_ok _

theorem failsLocally_drop (kind name : String) (force : Bool) :
    FailsLocally (drop kind name force) :=
  (failsLocally_ident name).bind fun _ => failsLocally_ok _

theorem failsLocally_renameTable (name newName : String) :
    FailsLocally (renameTable name newName) :=
  (failsLocally_ident name).bind fun _ =>
    (failsLocally_ident newName).bind fun _ => failsLocally_ok _

theorem failsLocally_truncateTable (name : String) : FailsLocally (truncateTable name) :=
  (failsLocally_ident name).bind fun _ => failsLocally_ok _

theorem failsLocally_addColumns (d : Dialect) (table : String) (columns : List ColumnSpec) :
    FailsLocally (addColumns d table columns) := by
  unfold addColumns
  split
  · exact failsLocally_error_iff.2 (.inr (.inr (.inl rfl)))
  · exact (FailsLocally.mapM (failsLocally_columnDefinition d) columns).bind fun _ =>
      (failsLocally_ident table).bind fun _ => failsLocally_ok _

theorem failsLocally_dropColumns (table : String) (names : List String) :
    FailsLocally (dropColumns table names) := by
  unfold dropColumns
  split
  · exact failsLocally_error_iff.2 (.inr (.inr (.inl rfl)))
  · exact (FailsLocally.mapM failsLocally_ident names).bind fun _ =>
      (failsLocally_ident table).bind fun _ => failsLocally_ok _

end Ddl

/-! ## Calls that run one statement -/

/-- A call that runs one statement, by the type of its value. -/
inductive StatementCall : Type → Type where
  | execute (r : Relation) : StatementCall QueryResult
  | runTextWith (sql : String) (ipc : Option Bool) (gpuDevice : Option Nat) :
      StatementCall QueryResult
  | createTable (name : String) (schema : Schema) (options : TableOptions) : StatementCall Unit
  | createTableFrom (name : String) (r : Relation) : StatementCall Unit
  | createView (name : String) (r : Relation) : StatementCall Unit
  | dropTable (name : String) (force : Bool) : StatementCall Unit
  | dropView (name : String) (force : Bool) : StatementCall Unit
  | renameTable (name newName : String) : StatementCall Unit
  | addColumns (table : String) (columns : List ColumnSpec) : StatementCall Unit
  | dropColumns (table : String) (names : List String) : StatementCall Unit
  | truncateTable (name : String) : StatementCall Unit

namespace StatementCall

variable {α : Type}

/-- The call, made in a session. -/
def attempt (s : Session) : StatementCall α → Attempt α
  | execute r => s.execute r
  | runTextWith sql ipc gpuDevice => s.runTextWith sql ipc gpuDevice
  | createTable name schema options => s.createTable name schema options
  | createTableFrom name r => s.createTableFrom name r
  | createView name r => s.createView name r
  | dropTable name force => s.dropTable name force
  | dropView name force => s.dropView name force
  | renameTable name newName => s.renameTable name newName
  | addColumns table columns => s.addColumns table columns
  | dropColumns table names => s.dropColumns table names
  | truncateTable name => s.truncateTable name

/-- The statement of a call and the way its result comes back, if both can be made up. -/
def statement (s : Session) : StatementCall α → Except ClientError (String × ExecutionMode)
  | execute r => (s.compile r).map (·, s.mode)
  | runTextWith sql ipc gpuDevice => (ExecutionMode.resolve ipc gpuDevice).map (sql, ·)
  | createTable name schema options =>
    (Ddl.createTable name schema options s.mode.isGpu).map (·, .cursor)
  | createTableFrom name r => (do Ddl.createTableAs name (← s.compile r)).map (·, .cursor)
  | createView name r => (do Ddl.createView name (← s.compile r)).map (·, .cursor)
  | dropTable name force => (Ddl.dropTable name force).map (·, .cursor)
  | dropView name force => (Ddl.dropView name force).map (·, .cursor)
  | renameTable name newName => (Ddl.renameTable name newName).map (·, .cursor)
  | addColumns table columns => (Ddl.addColumns s.dialect table columns).map (·, .cursor)
  | dropColumns table names => (Ddl.dropColumns table names).map (·, .cursor)
  | truncateTable name => (Ddl.truncateTable name).map (·, .cursor)

/-- What a call makes of the result of its statement; one that defines something has no value. -/
def value : StatementCall α → QueryResult → α
  | execute _ | runTextWith .. => id
  | createTable .. | createTableFrom .. | createView .. | dropTable .. | dropView ..
  | renameTable .. | addColumns .. | dropColumns .. | truncateTable .. => fun _ => ()

theorem failsLocally_statement (s : Session) (call : StatementCall α) :
    FailsLocally (call.statement s) := by
  -- the mode, or what is made up before it, is put beside a text and adds no error
  have hMap {β γ : Type} {f : β → γ} {x : Except ClientError β} (h : FailsLocally x) :
      FailsLocally (x.map f) := h.bind fun b => failsLocally_ok (f b)
  cases call with
  | execute r => exact hMap (s.failsLocally_compile r)
  | runTextWith sql ipc gpuDevice => exact hMap (ExecutionMode.failsLocally_resolve ipc gpuDevice)
  | createTable name schema options =>
      exact hMap (Ddl.failsLocally_createTable name schema options s.mode.isGpu)
  | createTableFrom name r =>
      exact hMap ((s.failsLocally_compile r).bind (Ddl.failsLocally_createTableAs name))
  | createView name r =>
      exact hMap ((s.failsLocally_compile r).bind (Ddl.failsLocally_createView name))
  | dropTable name force => exact hMap (Ddl.failsLocally_drop "TABLE" name force)
  | dropView name force => exact hMap (Ddl.failsLocally_drop "VIEW" name force)
  | renameTable name newName => exact hMap (Ddl.failsLocally_renameTable name newName)
  | addColumns table columns => exact hMap (Ddl.failsLocally_addColumns s.dialect table columns)
  | dropColumns table names => exact hMap (Ddl.failsLocally_dropColumns table names)
  | truncateTable name => exact hMap (Ddl.failsLocally_truncateTable name)

end StatementCall

/-! ## What is sent -/

variable {s : Session} {es : List Exchange}

/-- Running a statement sends it once, and its refusal is an error that carries it. -/
theorem Session.ends_run_iff {sql : String} {mode : ExecutionMode}
    {result : Except ClientError QueryResult} :
    (s.run sql mode).run.Ends es result ↔
      ∃ answer : Except String QueryResult, es = [⟨.execute s.connection sql mode, answer⟩] ∧
        result = answer.mapError fun reason => .execution reason sql := by
  refine Attempt.ends_ofReasons_iff.trans (exists_congr fun answer => ?_)
  exact and_congr_left' Dialogue.ends_request_iff

/-- Makes up a statement, runs it, and makes something of its result. -/
def Session.send {α : Type} (s : Session) (statement : Except ClientError (String × ExecutionMode))
    (value : QueryResult → α) : Attempt α := do
  let (sql, mode) ← Attempt.ofResult statement
  let result ← s.run sql mode
  return value result

/-- Nothing is sent if the statement cannot be made up, and otherwise the statement. -/
theorem Session.ends_send_cases {α : Type}
    {statement : Except ClientError (String × ExecutionMode)} {value : QueryResult → α}
    {result : Except ClientError α} (h : (s.send statement value).run.Ends es result) :
    (∃ error, statement = .error error ∧ es = [] ∧ result = .error error) ∨
    ∃ sql mode, ∃ answer : Except String QueryResult, statement = .ok (sql, mode) ∧
      es = [⟨.execute s.connection sql mode, answer⟩] ∧
      result = (answer.mapError fun reason => .execution reason sql).map value := by
  -- making the statement up asks for nothing, so what is sent is what running it sends
  rcases Attempt.ends_bind_iff.1 h with
    ⟨error, hMade, rfl⟩ | ⟨_, ⟨sql, mode⟩, es₂, hMade, hRest, rfl⟩
  · rcases Attempt.ends_ofResult_iff.1 hMade with ⟨rfl, hError⟩
    exact .inl ⟨error, hError.symm, rfl, rfl⟩
  · rcases Attempt.ends_ofResult_iff.1 hMade with ⟨rfl, hStatement⟩
    rcases Attempt.ends_bind_iff.1 hRest with ⟨error, hRun, rfl⟩ | ⟨es₃, rows, _, hRun, hDone, rfl⟩
    · rcases Session.ends_run_iff.1 hRun with ⟨answer, rfl, hAnswer⟩
      exact .inr ⟨sql, mode, answer, hStatement.symm, rfl, by rw [← hAnswer]; rfl⟩
    · rcases Session.ends_run_iff.1 hRun with ⟨answer, rfl, hAnswer⟩
      rcases Attempt.ends_pure_iff.1 hDone with ⟨rfl, rfl⟩
      exact .inr ⟨sql, mode, answer, hStatement.symm, rfl, by rw [← hAnswer]; rfl⟩

/-- A statement that is there is sent as it is. -/
theorem Session.run_eq_send (s : Session) (sql : String) (mode : ExecutionMode) :
    s.run sql mode = s.send (.ok (sql, mode)) id :=
  congrArg (Dialogue.ask (.execute s.connection sql mode)) <| funext fun answer => by
    cases answer <;> rfl

theorem Session.define_eq_send (s : Session) (statement : Except ClientError String) :
    s.define statement = s.send (statement.map (·, .cursor)) fun _ => () := by
  cases statement <;> rfl

theorem StatementCall.attempt_eq_send {α : Type} (s : Session) (call : StatementCall α) :
    call.attempt s = s.send (call.statement s) call.value := by
  -- two calls give the rows back as they come; all others define something
  cases call with
  | execute r =>
      rw [attempt, statement, Session.execute]
      cases s.compile r with
      | error e => rfl
      | ok sql => exact s.run_eq_send sql s.mode
  | runTextWith sql ipc gpuDevice =>
      rw [attempt, statement, Session.runTextWith]
      cases ExecutionMode.resolve ipc gpuDevice with
      | error e => rfl
      | ok mode => exact s.run_eq_send sql mode
  | createTable | createTableFrom | createView | dropTable | dropView | renameTable | addColumns
  | dropColumns | truncateTable => exact s.define_eq_send _

theorem Session.ends_define_cases {statement : Except ClientError String}
    {result : Except ClientError Unit} (h : (s.define statement).run.Ends es result) :
    (∃ error, statement = .error error ∧ es = [] ∧ result = .error error) ∨
    ∃ sql, ∃ answer : Except String QueryResult, statement = .ok sql ∧
      es = [⟨.execute s.connection sql .cursor, answer⟩] ∧
      result = (answer.mapError fun reason => .execution reason sql).map fun _ => () := by
  rw [define_eq_send] at h
  cases statement with
  | error error =>
      rcases ends_send_cases h with ⟨_, hError, rfl, rfl⟩ | ⟨_, _, _, hOk, -, -⟩
      · cases hError
        exact .inl ⟨error, rfl, rfl, rfl⟩
      · cases hOk
  | ok sql =>
      rcases ends_send_cases h with ⟨_, hError, -, -⟩ | ⟨_, _, answer, hOk, rfl, rfl⟩
      · cases hError
      · cases hOk
        exact .inr ⟨sql, answer, rfl, rfl, rfl⟩

/-! ## Dropping a table or a view -/

/-- Of the statements that drop a name as a table and as a view, both can be made up or neither. -/
theorem Ddl.drop_cases (kind kind' name : String) (force force' : Bool) :
    (∃ error, drop kind name force = .error error ∧ drop kind' name force' = .error error) ∨
    ∃ sql sql', drop kind name force = .ok sql ∧ drop kind' name force' = .ok sql' := by
  unfold drop
  cases ident name with
  | error error => exact .inl ⟨error, rfl, rfl⟩
  | ok quoted => exact .inr ⟨_, _, rfl, rfl⟩

/-- What follows the answer about the table: nothing if the table is dropped, and otherwise the drop
of the view, whose own refusal is not reported. -/
theorem Session.of_ends_dropTableOrView {name : String} {force : Bool}
    {result : Except ClientError Unit} (h : (s.dropTableOrView name force).run.Ends es result) :
    ((s.dropTable name false).run.Ends es (.ok ()) ∧ result = .ok ()) ∨
    ∃ first es₁ second es₂, (s.dropTable name false).run.Ends es₁ (.error first) ∧
      (s.dropView name force).run.Ends es₂ second ∧ es = es₁ ++ es₂ ∧
      result = second.mapError fun _ => first := by
  -- the drop of the table is over before anything else is decided
  rcases Dialogue.ends_bind_iff.1 h with ⟨es₁, first, es₂, hTable, hRest, rfl⟩
  cases first with
  | ok u =>
      rcases Dialogue.ends_done_iff.1 hRest with ⟨rfl, rfl⟩
      exact .inl ⟨by simpa using hTable, rfl⟩
  | error first =>
      rcases Dialogue.ends_bind_iff.1 hRest with ⟨es₃, second, es₄, hView, hDone, rfl⟩
      have hEnd : es₄ = [] ∧ result = second.mapError fun _ => first := by
        cases second <;> exact Dialogue.ends_done_iff.1 hDone
      rcases hEnd with ⟨rfl, rfl⟩
      exact .inr ⟨first, es₁, second, es₃, hTable, hView, by simp, rfl⟩

/-- The courses of dropping a table or a view: neither statement can be made up, and nothing is
sent; the table is dropped; or its drop is refused and the view is tried. -/
theorem Session.ends_dropTableOrView_cases {name : String} {force : Bool}
    {result : Except ClientError Unit} (h : (s.dropTableOrView name force).run.Ends es result) :
    (∃ error, Ddl.dropTable name false = .error error ∧ es = [] ∧ result = .error error) ∨
    ∃ table view, ∃ answer : Except String QueryResult,
      Ddl.dropTable name false = .ok table ∧ Ddl.dropView name force = .ok view ∧
      ((∃ rows, answer = .ok rows ∧ es = [⟨.execute s.connection table .cursor, answer⟩] ∧
          result = .ok ()) ∨
        ∃ reason, ∃ answer' : Except String QueryResult, answer = .error reason ∧
          es = [⟨.execute s.connection table .cursor, answer⟩,
            ⟨.execute s.connection view .cursor, answer'⟩] ∧
          result = (answer'.mapError fun _ => .execution reason table).map fun _ => ()) := by
  -- the name is all that can fail, so either both statements are there or neither
  rcases Ddl.drop_cases "TABLE" "VIEW" name false force with
    ⟨error, hTableText, hViewText⟩ | ⟨table, view, hTableText, hViewText⟩ <;>
  rcases of_ends_dropTableOrView h with
    ⟨hTable, rfl⟩ | ⟨first, es₁, second, es₂, hTable, hView, rfl, rfl⟩
  · rcases ends_define_cases hTable with ⟨_, -, -, hError⟩ | ⟨_, _, hOk, -, -⟩
    · cases hError
    · cases hTableText.symm.trans hOk
  · rcases ends_define_cases hTable with ⟨_, hError, rfl, hFirst⟩ | ⟨_, _, hOk, -, -⟩
    · rcases ends_define_cases hView with ⟨_, -, rfl, hSecond⟩ | ⟨_, _, hOk, -, -⟩
      · cases hFirst
        cases hSecond
        exact .inl ⟨first, hError, rfl, rfl⟩
      · cases hViewText.symm.trans hOk
    · cases hTableText.symm.trans hOk
  · rcases ends_define_cases hTable with ⟨_, -, -, hError⟩ | ⟨_, answer, hOk, rfl, hAnswer⟩
    · cases hError
    · cases answer with
      | error reason => cases hAnswer
      | ok rows => exact .inr ⟨_, view, .ok rows, hOk, hViewText, .inl ⟨rows, rfl, rfl, rfl⟩⟩
  · rcases ends_define_cases hTable with ⟨_, hError, -, -⟩ | ⟨_, answer, hOk, rfl, hAnswer⟩
    · cases hTableText.symm.trans hError
    · rcases ends_define_cases hView with ⟨_, hError, -, -⟩ | ⟨_, answer', hOk', rfl, rfl⟩
      · cases hViewText.symm.trans hError
      · cases answer with
        | ok rows => cases hAnswer
        | error reason =>
            cases hAnswer
            refine .inr ⟨_, _, .error reason, hOk, hOk', .inr ⟨reason, answer', rfl, rfl, ?_⟩⟩
            cases answer' <;> rfl

/-! ## Local errors -/

/-- An outcome that is an error found without asking the server. -/
def FailedLocally {α : Type} (result : Except ClientError α) : Prop :=
  ∃ error, error.IsLocal ∧ result = .error error

/-- A refusal by the server is no such outcome. -/
theorem not_failedLocally_answer {α : Type} (answer : Except String QueryResult)
    (refusal : String → String × String) (value : QueryResult → α) :
    ¬ FailedLocally
      ((answer.mapError fun reason => .execution (refusal reason).1 (refusal reason).2).map
        value) := by
  rintro ⟨error, hLocal, hError⟩
  cases answer with
  | ok rows => cases hError
  | error reason =>
      cases hError
      exact ClientError.not_isLocal_execution _ _ hLocal

/-- What is known without asking the server is found before it is asked. A call that runs one
statement either fails with a local error and has sent nothing; or it has sent exactly one
statement, the one of the call, and its only errors are refusals by the server, each with the
statement. A drop of a table or a view fails with a local error and has sent nothing, or it has sent
the drop of the table first: that of the view is sent only if the first was refused, and if both
are, the error is the first refusal, with its statement. -/
theorem Session.local_errors_send_nothing (s : Session) :
    (∀ {α : Type} (call : StatementCall α) (es : List Exchange) (result : Except ClientError α),
      (call.attempt s).run.Ends es result →
        (FailedLocally result ∧ es = []) ∨
        (¬ FailedLocally result ∧ ∃ sql mode, ∃ answer : Except String QueryResult,
          call.statement s = .ok (sql, mode) ∧
          es = [⟨.execute s.connection sql mode, answer⟩] ∧
          result = (answer.mapError fun reason => .execution reason sql).map call.value)) ∧
    (∀ (name : String) (force : Bool) (es : List Exchange) (result : Except ClientError Unit),
      (s.dropTableOrView name force).run.Ends es result →
        (FailedLocally result ∧ es = []) ∨
        (¬ FailedLocally result ∧ ∃ table view, ∃ answer : Except String QueryResult,
          Ddl.dropTable name false = .ok table ∧ Ddl.dropView name force = .ok view ∧
          ((∃ rows, answer = .ok rows ∧ es = [⟨.execute s.connection table .cursor, answer⟩] ∧
              result = .ok ()) ∨
            ∃ reason, ∃ answer' : Except String QueryResult, answer = .error reason ∧
              es = [⟨.execute s.connection table .cursor, answer⟩,
                ⟨.execute s.connection view .cursor, answer'⟩] ∧
              result = (answer'.mapError fun _ => .execution reason table).map fun _ => ()))) := by
  refine ⟨fun call es result h => ?_, fun name force es result h => ?_⟩
  · rw [StatementCall.attempt_eq_send] at h
    rcases ends_send_cases h with
      ⟨error, hStatement, rfl, rfl⟩ | ⟨sql, mode, answer, hStatement, rfl, rfl⟩
    · exact .inl ⟨⟨error, call.failsLocally_statement s error hStatement, rfl⟩, rfl⟩
    · have hOther := not_failedLocally_answer answer (·, sql) call.value
      exact .inr ⟨hOther, sql, mode, answer, hStatement, rfl, rfl⟩
  · rcases ends_dropTableOrView_cases h with
      ⟨error, hStatement, rfl, rfl⟩ | ⟨table, view, answer, hTable, hView, hCourse⟩
    · exact .inl ⟨⟨error, Ddl.failsLocally_drop "TABLE" name false error hStatement, rfl⟩, rfl⟩
    · refine .inr ⟨?_, table, view, answer, hTable, hView, hCourse⟩
      rcases hCourse with ⟨_, -, -, rfl⟩ | ⟨reason, answer', -, -, rfl⟩
      · rintro ⟨error, -, hError⟩
        cases hError
      · exact not_failedLocally_answer answer' (fun _ => (reason, table)) _

/-- A session over its first connection. -/
def firstSession : Session :=
  ⟨0, ⟨.session "id", "host", 6274, .binary, none⟩, .ipc, .standard, ⟨1, 0, 0⟩, false⟩

/-- A type without a name on the server is found out before the table is created; and where a name
is refused both as a table and as a view, the first refusal counts. -/
theorem Session.local_errors_send_nothing_firstSession :
    (∃ es result, ((StatementCall.createTable "t" ⟨[⟨"a", .binary, true⟩]⟩
        ⟨none, none, false⟩).attempt firstSession).run.Ends es result ∧
      result = .error (.unsupportedType "binary") ∧ FailedLocally result ∧ es = []) ∧
    ∃ es result, (firstSession.dropTableOrView "t" true).run.Ends es result ∧ es.length = 2 ∧
      ¬ FailedLocally result ∧ result = .error (.execution "no table" "DROP TABLE t") := by
  rcases local_errors_send_nothing firstSession with ⟨hCalls, hDrops⟩
  constructor
  · have hEnds : ((StatementCall.createTable "t" ⟨[⟨"a", .binary, true⟩]⟩
        ⟨none, none, false⟩).attempt firstSession).run.Ends []
        (.error (.unsupportedType "binary")) := Dialogue.ends_done_iff.2 ⟨rfl, rfl⟩
    rcases hCalls _ _ _ hEnds with h | ⟨-, sql, mode, answer, -, hSent, -⟩
    · exact ⟨_, _, hEnds, rfl, h⟩
    · cases hSent
  · have hTable : Ddl.dropTable "t" false = .ok "DROP TABLE t" := by decide +kernel
    have hView : Ddl.dropView "t" true = .ok "DROP VIEW IF EXISTS t" := by decide +kernel
    have hEnds : (firstSession.dropTableOrView "t" true).run.Ends
        [⟨.execute 0 "DROP TABLE t" .cursor, .error "no table"⟩,
          ⟨.execute 0 "DROP VIEW IF EXISTS t" .cursor, .error "no view"⟩]
        (.error (.execution "no table" "DROP TABLE t")) := by
      rw [dropTableOrView, dropTable, dropView, hTable, hView]
      exact .ask (.ask (.done _))
    rcases hDrops "t" true _ _ hEnds with ⟨-, hNothing⟩ | ⟨hOther, -⟩
    · cases hNothing
    · exact ⟨_, _, hEnds, rfl, hOther, rfl⟩

end TableQuery
