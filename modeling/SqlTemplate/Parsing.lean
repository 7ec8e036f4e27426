import SqlTemplate.Failure
import SqlTemplate.Log
import SqlTemplate.QueryCache
import SqlTemplate.Text.Shortened

/-!
# Parsing with a memory

A template is looked up in the cache first and parsed only when it is not there. A new query gets
the next identity; a template that fails leaves the cache as it was.
-/

namespace SqlTemplate

open Text (shortened)

/-- What parsing a template did. -/
structure ParseOutcome where
  result : Except Failure Entry
  cache : QueryCache
  /-- The identity of the next new entry. -/
  nextId : Nat
  records : List LogRecord

namespace QueryCache

/-- The failure of a template with what was being done. -/
def parseFailure (template : String) (failure : LexFailure) : Failure :=
  .context ("Exception parsing for named parameter replacement:\n" ++ shortened template)
    (.lex failure)

/-- The record of an eviction. -/
def evictionRecords (evicted : Option String) : List LogRecord :=
  evicted.toList.map fun template =>
    ⟨.debug, "Parse cache evicted template:\n" ++ shortened template⟩

/-- The entry of a template, from the cache or new. -/
def parse (c : QueryCache) (s : Style) (nextId : Nat) (template : String) : ParseOutcome :=
  match c.get template with
  | (some entry, c') =>
    ⟨.ok entry, c', nextId, [⟨.trace, "Parse cache hit for:\n" ++ shortened template⟩]⟩
  | (none, c') =>
    let miss : LogRecord := ⟨.debug, "Parse cache miss for:\n" ++ shortened template⟩
    match Query.ofTemplate s template with
    | .error lexFailure =>
      let failure := parseFailure template lexFailure
      ⟨.error failure, c', nextId, [miss, ⟨.error, failure.message⟩]⟩
    | .ok query =>
      let insertion := c'.insert template ⟨nextId, query⟩
      ⟨.ok insertion.stored, insertion.cache, nextId + 1,
        miss :: evictionRecords insertion.evicted⟩

end QueryCache

end SqlTemplate
