import TableQuery.Ddl
import TableQuery.Session.Query

/-!
# Defining tables in a session

Creating, changing and dropping tables and views, and pushing rows into tables. A statement is made
up completely before any of it is sent.
-/

namespace TableQuery.Session

/-- Runs a statement that defines something, if it can be made up. -/
def define (s : Session) (statement : Except ClientError String) : Attempt Unit := do
  let sql ← Attempt.ofResult statement
  let _ ← s.run sql .cursor

/-- Creates an empty table. -/
def createTable (s : Session) (name : String) (schema : Schema) (options : TableOptions) :
    Attempt Unit :=
  s.define (Ddl.createTable name schema options s.mode.isGpu)

def createTableFrom (s : Session) (name : String) (r : Relation) : Attempt Unit :=
  s.define (do Ddl.createTableAs name (← s.compile r))

def createView (s : Session) (name : String) (r : Relation) : Attempt Unit :=
  s.define (do Ddl.createView name (← s.compile r))

/-- Drops a table; with `force` it need not be there. -/
def dropTable (s : Session) (name : String) (force : Bool) : Attempt Unit :=
  s.define (Ddl.dropTable name force)

/-- Drops a view; with `force` it need not be there. -/
def dropView (s : Session) (name : String) (force : Bool) : Attempt Unit :=
  s.define (Ddl.dropView name force)

/-- Drops a table, or the view of that name where that fails. If both fail, the first error
counts. -/
def dropTableOrView (s : Session) (name : String) (force : Bool) : Attempt Unit :=
  ExceptT.mk do
    match ← (s.dropTable name false).run with
    | .ok () => return .ok ()
    | .error first =>
      match ← (s.dropView name force).run with
      | .ok () => return .ok ()
      | .error _ => return .error first

/-- Gives a table another name. -/
def renameTable (s : Session) (name newName : String) : Attempt Unit :=
  s.define (Ddl.renameTable name newName)

def addColumns (s : Session) (table : String) (columns : List ColumnSpec) : Attempt Unit :=
  s.define (Ddl.addColumns s.dialect table columns)

def dropColumns (s : Session) (table : String) (names : List String) : Attempt Unit :=
  s.define (Ddl.dropColumns table names)

/-- Removes all rows of a table. -/
def truncateTable (s : Session) (name : String) : Attempt Unit :=
  s.define (Ddl.truncateTable name)

/-- Pushes a number of rows into a table. -/
def load (s : Session) (table : String) (rows : Nat) (method : Option LoadMethod) : Attempt Unit :=
  Attempt.ofReasons .driver
    (Dialogue.request (.load s.connection table rows (method.getD .default)))

end TableQuery.Session
