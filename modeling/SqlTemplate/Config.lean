import SqlTemplate.Attributes
import SqlTemplate.Registry

/-!
# Configurations

What statements have in common: attributes that every statement starts with, the way templates are
rendered, the parser with its cache, the adapters, and whether unused arguments are allowed. The
cache is named by its place in the session, so configurations that share a parser share its cache.
-/

namespace SqlTemplate

/-- What happens to a template before it is parsed. -/
inductive TemplateEngine where
  /-- Attributes are put in place of the references to them. -/
  | attributes
  /-- Nothing. -/
  | verbatim
  deriving DecidableEq, Repr

/-- The settings of statements. -/
structure Config where
  attributes : Attributes
  engine : TemplateEngine
  style : Style
  /-- The place of the parser's cache in the session. -/
  cache : Nat
  registry : Registry
  allowUnused : Bool

namespace Config

/-- The settings unless others are asked for. -/
def standard (cache : Nat) : Config :=
  ⟨.empty, .attributes, .colon, cache, .standard, false⟩

/-- The configuration with an attribute for every statement. -/
def define (c : Config) (key value : String) : Config :=
  { c with attributes := c.attributes.define key value }

/-- The settings that can be shown. -/
def diagnostic (c : Config) : String :=
  "StatementConfig \x7b attributes: " ++ c.attributes.diagnostic ++ ", registry: " ++
    c.registry.diagnostic ++ ", allow_unused_bindings: " ++
    (if c.allowUnused then "true" else "false") ++ ", .. \x7d"

end Config

end SqlTemplate
