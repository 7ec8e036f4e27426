import SqlTemplate.Draft
import SqlTemplate.Session

/-!
# Statements

A statement is a template with a configuration and a draft. Rendering it puts the attributes in
place, parses the result and resolves the binding, so it is the query together with one argument for
each placeholder.
-/

namespace SqlTemplate

open Text (escaped shortened)

/-- A template that is being bound. -/
structure Statement where
  template : String
  config : Config
  draft : Draft

/-- A query with the arguments for its placeholders. -/
structure Rendered where
  entry : Entry
  arguments : List Resolved

namespace Statement

/-- A statement without arguments, with the attributes of its configuration. -/
def create (config : Config) (template : String) : Statement :=
  ⟨template, config, ⟨.empty, config.attributes⟩⟩

/-- The statement after a call that fills it in. -/
def apply (s : Statement) (call : BindCall) : Except Failure Statement :=
  (s.draft.apply s.config.style call).map fun draft => { s with draft }

/-- The query and its arguments. -/
def render (s : Statement) : Effect Rendered := do
  let template ← s.config.renderTemplate s.draft.attributes s.template
  let entry ← s.config.parse template
  let site : BindingSite := ⟨template, entry.query, s.draft.attributes⟩
  let arguments ← s.draft.binding.resolveFor site s.config.allowUnused
  pure ⟨entry, arguments⟩

/-- Template, binding and attributes in words. -/
def text (s : Statement) : String :=
  shortened s.template ++ " with " ++ s.draft.binding.text ++ " and attributes " ++
    s.draft.attributes.text

/-- All parts of the statement. -/
def diagnostic (s : Statement) : String :=
  "SqlStatement \x7b template: " ++ escaped s.template ++ ", config: " ++ s.config.diagnostic ++
    ", attributes: " ++ s.draft.attributes.diagnostic ++ ", binding: " ++ s.draft.binding.text ++
    " \x7d"

end Statement

namespace Rendered

/-- The values of the arguments. -/
def values (r : Rendered) : List Value :=
  r.arguments.map (·.value)

/-- The SQL and the values of its placeholders. -/
def text (r : Rendered) : String :=
  r.entry.query.sql ++ " [" ++ ", ".intercalate (r.values.map Value.text) ++ "]"

/-- Hands the arguments to a handle. -/
def bindTo (r : Rendered) (registry : Registry) (h : Handle) : Delivery :=
  h.fill registry r.entry.query.sql 0 r.arguments

end Rendered

end SqlTemplate
