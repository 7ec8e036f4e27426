import SqlTemplate.Config
import SqlTemplate.Handle
import SqlTemplate.Parsing
import SqlTemplate.Resolution

/-!
# Sessions

What statements leave behind: the caches of the parsers, the identities given to queries, the
history of finders and suppliers, and the log. An effect is a computation that may fail and that
changes the session either way.
-/

namespace SqlTemplate

open Text (shortened)

/-- The state that statements share. -/
structure Session where
  caches : List QueryCache
  /-- The identity of the next query. -/
  nextId : Nat
  history : History
  /-- The records, the latest first. -/
  log : List LogRecord

/-- A computation on a session that may fail. -/
abbrev Effect := ExceptT Failure (StateM Session)

namespace Session

/-- No parser yet, and nothing done. -/
def empty : Session := ⟨[], 0, [], []⟩

/-- The session with a further cache, whose place is the number of caches so far. -/
def addCache (s : Session) (cache : QueryCache) : Session :=
  { s with caches := s.caches ++ [cache] }

/-- The cache at a place. -/
def cacheAt (s : Session) (place : Nat) : QueryCache :=
  s.caches.getD place .disabled

/-- The session with further records. -/
def addRecords (s : Session) (records : List LogRecord) : Session :=
  { s with log := records.reverse ++ s.log }

/-- The records in order. -/
def records (s : Session) : List LogRecord := s.log.reverse

end Session

/-- Writes records to the log. -/
def report (records : List LogRecord) : Effect Unit :=
  modify (·.addRecords records)

/-- Ends with a failure that is written to the log. -/
def failLoudly {α : Type} (failure : Failure) : Effect α := do
  report [⟨.error, failure.message⟩]
  throw failure

/-- Carries a recording computation out on the history of the session. -/
def onHistory {α : Type} (action : Recording α) : Effect α := do
  let session ← get
  let (result, history) := action.run session.history
  set { session with history }
  match result with
  | .ok a => pure a
  | .error failure => throw failure

namespace TemplateEngine

/-- A template with its attributes in place. -/
def render (engine : TemplateEngine) (attributes : Attributes) (template : String) :
    Effect String :=
  match engine with
  | verbatim => pure template
  | .attributes =>
    match attributes.substitute template with
    | .ok rendered => pure rendered
    | .error failure =>
      failLoudly (.context ("Cannot render the template:\n" ++ shortened template) failure)

end TemplateEngine

namespace Config

/-- Renders a template; a failure names the attributes. -/
def renderTemplate (c : Config) (attributes : Attributes) (template : String) : Effect String :=
  tryCatch (c.engine.render attributes template) fun failure =>
    throw (.context ("Using attributes " ++ attributes.text) failure)

/-- Parses a rendered template with the parser of the configuration. -/
def parse (c : Config) (template : String) : Effect Entry := do
  let session ← get
  let outcome := (session.cacheAt c.cache).parse c.style session.nextId template
  set { session with
    caches := session.caches.set c.cache outcome.cache
    nextId := outcome.nextId }
  report outcome.records
  match outcome.result with
  | .ok entry => pure entry
  | .error failure => throw failure

end Config

namespace Binding

/-- The failure of a resolution together with what was bound, and to which query. -/
def resolutionFailure (b : Binding) (site : BindingSite) (failure : Failure) : Failure :=
  .context ("Cannot bind " ++ b.text ++ " to query:\n" ++ shortened site.template) failure

/-- The arguments for the placeholders of parameters; a failure shows what was bound. -/
def resolveParameters (b : Binding) (parameters : Parameters) (site : BindingSite)
    (allowUnused : Bool) : Effect (List Resolved) :=
  tryCatch (onHistory (b.resolve parameters site allowUnused)) fun failure =>
    failLoudly (b.resolutionFailure site failure)

/-- The arguments for the placeholders of the query that is shown to the finders. -/
def resolveFor (b : Binding) (site : BindingSite) (allowUnused : Bool) : Effect (List Resolved) :=
  b.resolveParameters site.query.parameters site allowUnused

end Binding

end SqlTemplate
