import TableQuery.Proofs.Session.Lifetime

/-!
# Database — where a session is

A session compares the name of a database to the one it has asked for, and not to what the server
says about it. Once it has asked for one, in the settings or by a move, the two agree, and a move to
where the server says the session is does nothing at all. Before that the database is one of the
server's choosing. Every move then opens a connection and closes the one there is, also a move to the
database that the session is in (`Session.setDatabase_current`).
-/

namespace TableQuery

/-! ## What a session asks for -/

/-- Parameters name a database exactly if the settings do, and only those for an open session or an
address can name none. -/
theorem ConnectParams.database_of_ofSettings {settings : ConnectionSettings} {p : ConnectParams}
    (h : ofSettings settings = .ok p) :
    p.database = settings.database ∧
      (p.database = none → ∀ user password database,
        p.target ≠ .credentials user password database) := by
  unfold ofSettings targetOf at h
  split at h
  · cases h
    exact ⟨rfl, fun _ user password database hTarget => by cases hTarget⟩
  · cases h
    exact ⟨rfl, fun _ user password database hTarget => by cases hTarget⟩
  · next hNamed =>
    cases h
    refine ⟨rfl, fun hNone => ?_⟩
    rw [hNamed] at hNone
    cases hNone
  · cases h

namespace Session

variable {settings : Settings} {hasCompiler : Bool} {es es' : List Exchange} {s s' : Session}

/-- What has been said since a session was opened with some settings, and the session at the end: the
session is opened, then calls are made, each of which may be answered in any way. It may also be
closed, and used after that. -/
inductive Used (settings : Settings) (hasCompiler : Bool) : List Exchange → Session → Prop where
  | connected {es : List Exchange} {s : Session} :
      (connect settings hasCompiler).run.Ends es (.ok s) → Used settings hasCompiler es s
  | called {es es' : List Exchange} {s s' : Session} (call : Call) :
      Used settings hasCompiler es s → (call.dialogue s).Ends es' s' →
      Used settings hasCompiler (es ++ es') s'
  | closed {es es' : List Exchange} {s : Session} {result : Except ClientError Unit} :
      Used settings hasCompiler es s → s.close.run.Ends es' result →
      Used settings hasCompiler (es ++ es') s

/-- The connection of a session was opened last, after as many as its number says. The first one is
as the settings say, and each later one names a database. -/
structure Holds (settings : Settings) (es : List Exchange) (s : Session) : Prop where
  current : (opened es).getLast? = some (s.connection, s.params)
  count : (opened es).length = s.connection + 1
  first : s.connection = 0 → ConnectParams.ofSettings settings.connection = .ok s.params
  later : s.connection ≠ 0 → s.params.database ≠ none

theorem holds_of_connect (h : (connect settings hasCompiler).run.Ends es (.ok s)) :
    Holds settings es s := by
  rcases ends_connect_ok h with ⟨hFirst, hParams, -⟩
  have hAccounts := accounts_of_connect h
  refine ⟨hAccounts.current, ?_, fun _ => hParams, fun hLater => absurd hFirst hLater⟩
  simpa using congrArg List.length hAccounts.numbers

theorem Holds.append (h : Holds settings es s) (hOpened : opened es' = []) :
    Holds settings (es ++ es') s := by
  have hSame : opened (es ++ es') = opened es := by
    rw [opened_append, hOpened, List.append_nil]
  refine ⟨?_, ?_, h.first, h.later⟩
  · rw [hSame]
    exact h.current
  · rw [hSame]
    exact h.count

theorem Holds.setDatabase (h : Holds settings es s) {name : String}
    {result : Except ClientError Session} (hMove : (s.setDatabase name).run.Ends es' result) :
    Holds settings (es ++ es') (s.after result) := by
  rcases setDatabase_cases hMove with ⟨-, rfl, rfl⟩ | ⟨-, hOpened, -, error, rfl⟩ |
    ⟨-, hOpened, -, rfl⟩
  · exact h.append rfl
  · exact h.append hOpened
  · refine ⟨?_, ?_, fun hFirst => ?_, fun _ hNone => ?_⟩
    · rw [opened_append, hOpened]
      exact List.getLast?_concat
    · rw [opened_append, hOpened, List.length_append, h.count]
      rfl
    · cases hFirst
    · cases hNone

theorem Used.holds (h : Used settings hasCompiler es s) : Holds settings es s := by
  -- along the history; only a move opens a connection
  induction h with
  | connected hConnect => exact holds_of_connect hConnect
  | @called es es' s s' call _ hCall ih =>
      by_cases hMove : ∃ name, call = .setDatabase name
      · rcases hMove with ⟨name, rfl⟩
        rcases Dialogue.ends_bind_iff.1 hCall with ⟨es₁, result, es₂, hMove, hDone, rfl⟩
        rcases Dialogue.ends_done_iff.1 hDone with ⟨rfl, rfl⟩
        rw [List.append_nil]
        exact ih.setDatabase hMove
      · have hOther := not_exists.1 hMove
        rcases Call.ends_dialogue hOther hCall with ⟨rfl, hOpened, -⟩
        exact ih.append hOpened
  | closed _ hClose ih =>
      rcases Attempt.ends_ofReasons_iff.1 hClose with ⟨answer, hRequest, -⟩
      rw [Dialogue.ends_request_iff.1 hRequest]
      exact ih.append rfl

/-- A session has asked for a database: in the settings, or by a move that has opened another
connection. -/
def HasAsked (settings : Settings) (es : List Exchange) : Prop :=
  settings.connection.database ≠ none ∨ 1 < (opened es).length

theorem Holds.hasAsked_iff (h : Holds settings es s) :
    HasAsked settings es ↔ s.params.database ≠ none := by
  unfold HasAsked
  rw [h.count]
  by_cases hFirst : s.connection = 0
  · rw [(ConnectParams.database_of_ofSettings (h.first hFirst)).1, hFirst]
    simp
  · have hNamed := h.later hFirst
    have hMore : 1 < s.connection + 1 := by omega
    exact ⟨fun _ => hNamed, fun _ => .inr hMore⟩

/-! ## What the server says -/

/-- Whenever the server is asked for the database of a connection that was opened for a database, it
names this one. -/
def TellsAskedFor (es : List Exchange) : Prop :=
  ∀ n params database name, (n, params) ∈ opened es → params.database = some database →
    ⟨.currentDatabase n, .ok name⟩ ∈ es → name = database

theorem ends_currentDatabase_ok {name : String}
    (h : s.currentDatabase.run.Ends es (.ok name)) :
    es = [⟨.currentDatabase s.connection, .ok name⟩] := by
  rcases Attempt.ends_ofReasons_iff.1 h with ⟨answer, hRequest, hName⟩
  rw [Dialogue.ends_request_iff.1 hRequest]
  cases answer with
  | error reason => cases hName
  | ok told =>
      cases hName
      rfl

/-- If the server is asked once and last, the answer that counts is that one. -/
theorem tellsAskedFor_append {told : List Exchange} {name : String}
    (hTold : s.currentDatabase.run.Ends told (.ok name))
    (hQuiet : ∀ e ∈ es, ∀ n, e.request ≠ .currentDatabase n)
    (hName : ∀ params database, (s.connection, params) ∈ opened es →
      params.database = some database → name = database) : TellsAskedFor (es ++ told) := by
  rw [ends_currentDatabase_ok hTold]
  intro n params database said hOpened hDatabase hSaid
  rcases List.mem_append.1 hSaid with hEarlier | hLast
  · exact absurd rfl (hQuiet _ hEarlier n)
  · cases List.mem_singleton.1 hLast
    rw [opened_append, List.mem_append] at hOpened
    rcases hOpened with hOpened | hNone
    · exact hName params database hOpened hDatabase
    · cases hNone

/-- An attempt to open a connection starts with a request to open it. -/
theorem connect_mem_of_openConnection {n : Nat} {params : ConnectParams} {retry : RetrySettings}
    {result : Except ClientError Unit} (h : (openConnection n params retry).run.Ends es result) :
    ∃ answer, ⟨.connect n params, answer⟩ ∈ es := by
  rcases Attempt.ends_ofReasons_iff.1 h with ⟨answer, hAttempts, -⟩
  unfold Retry.always Retry.whenRetryable at hAttempts
  generalize retry.maxAttempts - 1 = left at hAttempts
  cases left with
  | zero =>
      rw [Dialogue.ends_request_iff.1 hAttempts]
      exact ⟨_, List.mem_cons_self⟩
  | succ left =>
      rcases Dialogue.ends_bind_iff.1 hAttempts with ⟨es₁, first, es₂, hFirst, -, rfl⟩
      rw [Dialogue.ends_request_iff.1 hFirst]
      exact ⟨_, List.mem_cons_self⟩

/-- A move to another database than the one asked for starts with a request to connect. -/
theorem connect_mem_of_setDatabase {name : String} {result : Except ClientError Session}
    (hOther : s.params.database ≠ some name) (h : (s.setDatabase name).run.Ends es result) :
    ∃ answer, ⟨.connect (s.connection + 1) (s.params.withDatabase name), answer⟩ ∈ es := by
  rw [setDatabase, if_neg hOther] at h
  rcases Attempt.ends_bind_iff.1 h with ⟨error, hOpen, -⟩ | ⟨es₁, _, es₂, hOpen, -, rfl⟩
  · exact connect_mem_of_openConnection hOpen
  · rcases connect_mem_of_openConnection hOpen with ⟨answer, hMem⟩
    exact ⟨answer, List.mem_append_left _ hMem⟩

/-! ## Moving to where the session is -/

/-- After any use of a session, and whatever the server says is its database: if the session has asked
for a database, moving to what the server says asks for nothing, succeeds and leaves the session as it
is. If it has not, then it is not over credentials, and the move asks for a second connection; once
that is open the first one is closed, though the session was in this database all the time. -/
theorem setDatabase_current (h : Used settings hasCompiler es s) {told : List Exchange}
    {name : String} (hTold : s.currentDatabase.run.Ends told (.ok name))
    (hServer : TellsAskedFor (es ++ told)) :
    (HasAsked settings es →
      ∀ es' result, (s.setDatabase name).run.Ends es' result ↔ es' = [] ∧ result = .ok s) ∧
    (¬ HasAsked settings es →
      (∀ user password database, s.params.target ≠ .credentials user password database) ∧
      ∀ es' result, (s.setDatabase name).run.Ends es' result →
        (∃ answer, ⟨.connect 1 (s.params.withDatabase name), answer⟩ ∈ es') ∧
        (((∃ error, result = .error error) ∧ opened es' = [] ∧ closed es' = []) ∨
          (result = .ok (s.moved name) ∧ opened es' = [(1, s.params.withDatabase name)] ∧
            closed es' = [0]))) := by
  have hHolds := h.holds
  rw [hHolds.hasAsked_iff]
  constructor
  · intro hAsked es' result
    rcases Option.ne_none_iff_exists'.1 hAsked with ⟨database, hDatabase⟩
    -- the server has been asked about the current connection
    have hOpened : (s.connection, s.params) ∈ opened (es ++ told) := by
      rw [opened_append]
      exact List.mem_append_left _ (List.mem_of_getLast? hHolds.current)
    have hSaid : ⟨.currentDatabase s.connection, .ok name⟩ ∈ es ++ told := by
      rw [ends_currentDatabase_ok hTold]
      exact List.mem_append_right _ List.mem_cons_self
    obtain rfl : name = database := hServer _ _ _ _ hOpened hDatabase hSaid
    rw [setDatabase, if_pos hDatabase]
    exact Attempt.ends_pure_iff
  · intro hNotAsked
    have hNone : s.params.database = none := not_ne_iff.1 hNotAsked
    have hFirst : s.connection = 0 := by
      by_contra hLater
      exact hHolds.later hLater hNone
    have hTarget := (ConnectParams.database_of_ofSettings (hHolds.first hFirst)).2 hNone
    refine ⟨hTarget, fun es' result hMove => ?_⟩
    have hOther : s.params.database ≠ some name := by
      rw [hNone]
      exact nofun
    have hAsks := connect_mem_of_setDatabase hOther hMove
    rw [hFirst] at hAsks
    refine ⟨hAsks, ?_⟩
    rcases setDatabase_cases hMove with ⟨hSame, -, -⟩ | ⟨-, hOpened, hClosed, hError⟩ |
      ⟨-, hOpened, hClosed, hMoved⟩
    · exact absurd hSame hOther
    · exact .inl ⟨hError, hOpened, hClosed⟩
    · rw [hFirst] at hOpened hClosed
      exact .inr ⟨hMoved, hOpened, hClosed⟩

/-- Settings under which an open session is taken up, and no database is asked for. -/
def takenUp : Settings where
  connection := { sessionId := some "s" }

/-- The session that these settings give. -/
def takenUpSession : Session :=
  ⟨0, ⟨.session "s", "localhost", 6274, .binary, none⟩, .cursor, .standard, {}, false⟩

theorem used_takenUp :
    Used takenUp false [⟨.connect 0 takenUpSession.params, .ok ()⟩] takenUpSession :=
  .connected (.ask (.done _))

/-- A move of this session for which a connection is opened at once. -/
theorem ends_setDatabase_takenUp (name : String) (closing : Except String Unit) :
    (takenUpSession.setDatabase name).run.Ends
      [⟨.connect 1 (takenUpSession.moved name).params, .ok ()⟩, ⟨.close 0, closing⟩]
      (.ok (takenUpSession.moved name)) :=
  .ask (.ask (.done _))

/-- What is said until this session has been moved, while its first connection did not close, and then
been closed. -/
def movedLog : List Exchange :=
  [⟨.connect 0 takenUpSession.params, .ok ()⟩,
    ⟨.connect 1 (takenUpSession.moved "b").params, .ok ()⟩, ⟨.close 0, .error "busy"⟩,
    ⟨.close 1, .ok ()⟩]

/-- A session that has been moved and closed is where it was moved to. -/
theorem setDatabase_current_moved :
    ∃ es s told, Used takenUp false es s ∧ s.currentDatabase.run.Ends told (.ok "b") ∧
      TellsAskedFor (es ++ told) ∧ HasAsked takenUp es ∧
      (s.setDatabase "b").run.Ends [] (.ok s) := by
  have hMove := ends_setDatabase_takenUp "b" (.error "busy")
  have hMoved := used_takenUp.called (.setDatabase "b")
    (Dialogue.ends_bind_iff.2 ⟨_, _, [], hMove, .done _, rfl⟩)
  have hClose : (takenUpSession.moved "b").close.run.Ends [⟨.close 1, .ok ()⟩] (.ok ()) :=
    .ask (.done _)
  have hClosed : Used takenUp false movedLog (takenUpSession.moved "b") :=
    hMoved.closed hClose
  have hTold : (takenUpSession.moved "b").currentDatabase.run.Ends
      [⟨.currentDatabase 1, .ok "b"⟩] (.ok "b") := .ask (.done _)
  have hServer : TellsAskedFor (movedLog ++ [⟨.currentDatabase 1, .ok "b"⟩]) := by
    refine tellsAskedFor_append hTold (by simp [movedLog]) fun params database hOpened hNamed => ?_
    rcases List.mem_cons.1 hOpened with hFirst | hSecond
    · cases hFirst
    · cases List.mem_singleton.1 hSecond
      exact Option.some.inj hNamed
  have hAsked : HasAsked takenUp movedLog := .inr Nat.one_lt_two
  rcases setDatabase_current hClosed hTold hServer with ⟨hNothing, -⟩
  exact ⟨_, _, _, hClosed, hTold, hServer, hAsked, (hNothing hAsked [] _).2 ⟨rfl, rfl⟩⟩

/-- A session for which no database was asked for is in the server's own one; moved to it, it is
opened again, and the connection that it had is closed. -/
theorem setDatabase_current_reopens :
    ∃ es s told es' s', Used takenUp false es s ∧
      s.currentDatabase.run.Ends told (.ok "heavyai") ∧ TellsAskedFor (es ++ told) ∧
      (s.setDatabase "heavyai").run.Ends es' (.ok s') ∧
      opened es' = [(1, s'.params)] ∧ closed es' = [s.connection] := by
  have hTold : takenUpSession.currentDatabase.run.Ends
      [⟨.currentDatabase 0, .ok "heavyai"⟩] (.ok "heavyai") := .ask (.done _)
  have hServer : TellsAskedFor
      ([⟨.connect 0 takenUpSession.params, .ok ()⟩] ++ [⟨.currentDatabase 0, .ok "heavyai"⟩]) :=
    tellsAskedFor_append hTold (by simp) fun params database hOpened hDatabase => by
      cases List.mem_singleton.1 hOpened
      cases hDatabase
  have hMove := ends_setDatabase_takenUp "heavyai" (.ok ())
  exact ⟨_, _, _, _, _, used_takenUp, hTold, hServer, hMove, rfl, rfl⟩

end Session

end TableQuery
