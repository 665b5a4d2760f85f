import RowFilter.Filter.Reference
import RowFilter.Service.Query

/-!
# Sessions

A session holds the file of a catalogue and the entities of its last load that
succeeded.  Steps write the file, load it and ask for what is loaded; a load
that fails leaves the entities as they were.
-/

namespace RowFilter
namespace Service

/-- The path of the catalogue where none is given. -/
def defaultPath : String := "config/entities.yaml"

/-- The file of a catalogue and the entities that are loaded. -/
structure Session where
  /-- The path of the file. -/
  path : String
  /-- The content of the file, where there is one. -/
  file : Option String := none
  /-- The entities of the last load that succeeded. -/
  catalogue : Catalogue := []

/-- The session at a path, before its first step; an empty path is the default one. -/
def Session.start (path : Option String) : Session :=
  match path with
  | some path => { path := Document.plainPath (if path = "" then defaultPath else path) }
  | none => { path := defaultPath }

/-- What can be done in a session. -/
inductive Step where
  /-- Write the file. -/
  | write (text : String)
  /-- Remove the file. -/
  | delete
  /-- Load the file. -/
  | load
  /-- Load the file and tell what was loaded. -/
  | refresh
  /-- Load the file on request. -/
  | reload
  /-- Ask for an entity. -/
  | entity (name : String)
  /-- Ask for the column of a field of an entity. -/
  | resolve (name field : String) (quote : Bool)
  /-- Ask for the names of the entities. -/
  | names
  /-- Ask for the entities. -/
  | entities
  /-- Ask for the reference of the filter language. -/
  | reference
  /-- Read filters. -/
  | parse (raws : List (Option String))
  /-- Answer a query. -/
  | query (request : QueryRequest)

/-- What a step answers. -/
inductive Reply where
  /-- It is done. -/
  | done
  /-- The names of the entities. -/
  | names (names : List Datum)
  /-- A line for each entity that was loaded. -/
  | summary (lines : List (Datum × String))
  /-- An entity. -/
  | entity (entity : Entity)
  /-- A column. -/
  | column (column : Sql.ColumnExpr)
  /-- The entities. -/
  | entities (catalogue : Catalogue)
  /-- The reference of the filter language. -/
  | reference (page : String)
  /-- Filters. -/
  | filters (filters : List Filter)
  /-- The answer to a query. -/
  | answer (answer : QueryAnswer)
  /-- A failure. -/
  | failed (failure : Failure)
  /-- A rejection. -/
  | rejected (rejection : Rejection)

namespace Session

/-- A session after a load, with what is answered to success and to failure. -/
def load (session : Session) (succeed : Catalogue → Reply) (fail : LoadError → Reply) :
    Session × Reply :=
  match Catalogue.read session.path session.file with
  | .ok catalogue => ({ session with catalogue }, succeed catalogue)
  | .error error => (session, fail error)

/-- What a field of an entity is resolved to. -/
def resolve (session : Session) (name field : String) (quote : Bool) : Reply :=
  match session.catalogue.find? name with
  | none => .failed (.unknownEntity name)
  | some entity =>
      match Sql.resolver entity.fieldColumns quote field with
      | .ok column => .column column
      | .error error => .failed (.filter error)

/-- The session after a step, and what the step answers. -/
def step (session : Session) : Step → Session × Reply
  | .write text => ({ session with file := some text }, .done)
  | .delete => ({ session with file := none }, .done)
  | .load =>
      session.load (fun catalogue => .names catalogue.names) fun error => .failed (.load error)
  | .refresh =>
      session.load (fun catalogue => .summary catalogue.summary) fun error => .failed (.load error)
  | .reload =>
      session.load (fun catalogue => .summary catalogue.summary) fun error =>
        .rejected (Failure.load error).rejection
  | .entity name =>
      match session.catalogue.find? name with
      | some entity => (session, .entity entity)
      | none => (session, .failed (.unknownEntity name))
  | .resolve name field quote => (session, session.resolve name field quote)
  | .names => (session, .names session.catalogue.names)
  | .entities => (session, .entities session.catalogue)
  | .reference =>
      match Reference.page [] with
      | .ok page => (session, .reference page)
      | .error _ => (session, .reference "")
  | .parse raws =>
      match parseAll raws with
      | .ok filters => (session, .filters filters)
      | .error error => (session, .rejected (Failure.filter error).rejection)
  | .query request =>
      match Service.query session.catalogue request with
      | .ok answer => (session, .answer answer)
      | .error rejection => (session, .rejected rejection)

/-- The session after steps, and what each of them answers. -/
def run (session : Session) : List Step → Session × List Reply
  | [] => (session, [])
  | step :: steps =>
      let (next, reply) := session.step step
      let (last, replies) := run next steps
      (last, reply :: replies)

end Session
end Service
end RowFilter
