import SqlTemplate.Batch
import SqlTemplate.Proofs.CacheTransparency
import SqlTemplate.Proofs.ResolutionRun

/-!
# What rendering does

Rendering a statement puts the attributes in place, parses and resolves. When the cache of the
parser is faithful in a session, the rendered template and its query are a function of the template
and the attributes, and the arguments depend on the session by its history only. What else a session
has, the entries of its caches and its log, has no part in the answer.
-/

namespace SqlTemplate

open Text (shortened)

namespace Session

@[simp]
theorem cacheAt_addRecords (S : Session) (records : List LogRecord) (place : Nat) :
    (S.addRecords records).cacheAt place = S.cacheAt place := rfl

/-- Whether the cache of the parser of a configuration holds nothing but queries of templates. -/
def Faithful (S : Session) (c : Config) : Prop :=
  (S.cacheAt c.cache).Faithful c.style

theorem Faithful.congr {S S' : Session} {c : Config} (hS : S.Faithful c)
    (hcaches : S'.caches = S.caches) : S'.Faithful c := by
  rw [Faithful, cacheAt, hcaches]
  exact hS

end Session

/-! ## The rendered template -/

namespace TemplateEngine

/-- What an engine makes of a template. -/
def rendered (engine : TemplateEngine) (attributes : Attributes) (template : String) :
    Except Failure String :=
  match engine with
  | verbatim => .ok template
  | .attributes =>
    withContext ("Cannot render the template:\n" ++ shortened template)
      (attributes.substitute template)

theorem render_run (engine : TemplateEngine) (attributes : Attributes) (template : String)
    (S : Session) :
    ∃ records, (engine.render attributes template).run S =
      (engine.rendered attributes template, S.addRecords records) := by
  cases engine with
  | verbatim => exact ⟨[], rfl⟩
  | «attributes» =>
      unfold render rendered
      cases attributes.substitute template with
      | ok text => exact ⟨[], rfl⟩
      | error failure => exact ⟨[⟨.error, _⟩], rfl⟩

end TemplateEngine

namespace Config

/-- What a configuration makes of a template. -/
def rendered (c : Config) (attributes : Attributes) (template : String) : Except Failure String :=
  withContext ("Using attributes " ++ attributes.text) (c.engine.rendered attributes template)

theorem renderTemplate_run (c : Config) (attributes : Attributes) (template : String)
    (S : Session) :
    ∃ records, (c.renderTemplate attributes template).run S =
      (c.rendered attributes template, S.addRecords records) := by
  obtain ⟨records, hrun⟩ := c.engine.render_run attributes template S
  refine ⟨records, ?_⟩
  rw [renderTemplate, tryCatch_run, hrun, rendered]
  cases c.engine.rendered attributes template <;> rfl

end Config

/-! ## The parsed template -/

/-- The session after parsing a template. -/
def Session.afterParse (S : Session) (c : Config) (template : String) : Session :=
  let outcome := (S.cacheAt c.cache).parse c.style S.nextId template
  { S with
    caches := S.caches.set c.cache outcome.cache
    nextId := outcome.nextId }.addRecords outcome.records

theorem Session.Faithful.afterParse {S : Session} {c : Config} (hS : S.Faithful c)
    (template : String) : (S.afterParse c template).Faithful c := by
  have hkept := hS.parse S.nextId template
  rw [Faithful, Session.afterParse, cacheAt_addRecords, cacheAt, List.getD_eq_getElem?_getD,
    List.getElem?_set_self']
  -- There is nothing at a place beyond the caches, and no cache is set there.
  cases S.caches[c.cache]? with
  | none => exact .of_empty rfl
  | some cache => exact hkept

namespace Config

/-- The query of a rendered template, or the failure of its parsing. -/
def queryOf (c : Config) (template : String) : Except Failure Query :=
  (Query.ofTemplate c.style template).mapError (QueryCache.parseFailure template)

/-- A faithful session parses by the queries of templates. -/
theorem parse_run (c : Config) (template : String) {S : Session} (hS : S.Faithful c) :
    match c.queryOf template with
    | .ok query =>
      ∃ entry, entry.query = query ∧
        (c.parse template).run S = (.ok entry, S.afterParse c template)
    | .error failure => (c.parse template).run S = (.error failure, S.afterParse c template) := by
  have hanswer := hS.parse_answer S.nextId template
  have hrun : (c.parse template).run S =
      (((S.cacheAt c.cache).parse c.style S.nextId template).result,
        S.afterParse c template) := by
    refine (run_bind_lift rfl).trans ((run_bind_lift rfl).trans ((run_bind_lift rfl).trans ?_))
    rw [Session.afterParse]
    cases ((S.cacheAt c.cache).parse c.style S.nextId template).result <;> rfl
  rw [hrun, queryOf]
  cases hquery : Query.ofTemplate c.style template with
  | ok query =>
      rw [hquery] at hanswer
      obtain ⟨entry, hresult, hentry⟩ := hanswer
      exact ⟨entry, hentry, by rw [hresult]⟩
  | error e =>
      rw [hquery] at hanswer
      simp only [Except.mapError]
      rw [hanswer.1]

/-- A template rendered with attributes, and its query. -/
def prepared (c : Config) (attributes : Attributes) (template : String) :
    Except Failure (String × Query) := do
  let text ← c.rendered attributes template
  let query ← c.queryOf text
  pure (text, query)

theorem prepared_of_ok {c : Config} {attributes : Attributes} {template text : String}
    {query : Query} (hengine : c.engine = .attributes)
    (htext : attributes.substitute template = .ok text)
    (hquery : Query.ofTemplate c.style text = .ok query) :
    c.prepared attributes template = .ok (text, query) := by
  have hrendered : c.rendered attributes template = .ok text := by
    rw [rendered, hengine, TemplateEngine.rendered, htext]
    rfl
  rw [prepared, hrendered]
  simp only [queryOf, hquery, bind, Except.bind, Except.mapError, pure, Except.pure]

/-- Statements and batches begin alike. In a faithful session they fail as the template does, or go
on with its text and its query after the history that there was. -/
theorem prepared_run {α : Type} (c : Config) (attributes : Attributes) (template : String)
    (next : String → Entry → Effect α) {S : Session} (hS : S.Faithful c) :
    ∃ S', S'.history = S.history ∧ S'.Faithful c ∧
      match c.prepared attributes template with
      | .ok (text, query) =>
        ∃ entry, entry.query = query ∧
          (c.renderTemplate attributes template >>= fun text =>
            c.parse text >>= next text).run S = (next text entry).run S'
      | .error failure =>
        (c.renderTemplate attributes template >>= fun text =>
          c.parse text >>= next text).run S = (.error failure, S') := by
  obtain ⟨records, hrender⟩ := c.renderTemplate_run attributes template S
  rw [prepared]
  cases hrendered : c.rendered attributes template with
  | error failure =>
      rw [hrendered] at hrender
      exact ⟨S.addRecords records, rfl, hS, run_bind_of_error hrender⟩
  | ok text =>
      rw [hrendered] at hrender
      have hS₁ : (S.addRecords records).Faithful c := hS
      have hparse := c.parse_run text hS₁
      refine ⟨(S.addRecords records).afterParse c text, rfl, hS₁.afterParse text, ?_⟩
      rw [run_bind_of_ok hrender]
      cases hquery : c.queryOf text with
      | error failure =>
          rw [hquery] at hparse
          simp only [hquery, bind, Except.bind]
          exact run_bind_of_error hparse
      | ok query =>
          rw [hquery] at hparse
          obtain ⟨entry, hentry, hparse⟩ := hparse
          simp only [hquery, bind, Except.bind, pure, Except.pure]
          exact ⟨entry, hentry, run_bind_of_ok hparse⟩

/-- A template fails, or has a query, whatever else a faithful session has. -/
theorem template_run (c : Config) (attributes : Attributes) (template : String) {S : Session}
    (hS : S.Faithful c) :
    match c.prepared attributes template with
    | .ok (_, query) =>
      ∃ entry S', entry.query = query ∧
        (c.renderTemplate attributes template >>= c.parse).run S = (.ok entry, S')
    | .error failure =>
      ∃ S', (c.renderTemplate attributes template >>= c.parse).run S = (.error failure, S') := by
  obtain ⟨S', -, -, hrun⟩ := c.prepared_run attributes template (fun _ entry => pure entry) hS
  simp only [bind_pure] at hrun
  cases hprepared : c.prepared attributes template with
  | error failure =>
      rw [hprepared] at hrun
      exact ⟨S', hrun⟩
  | ok pair =>
      rw [hprepared] at hrun
      obtain ⟨entry, hentry, hrun⟩ := hrun
      exact ⟨entry, S', hentry, hrun⟩

end Config

/-! ## The arguments -/

namespace Binding

/-- What a binding gives at a site after a history, and the history from then on. -/
def answer (b : Binding) (site : BindingSite) (allowUnused : Bool) (h : History) :
    Except Failure (List Resolved) × History :=
  let outcome := (b.resolve site.query.parameters site allowUnused).run h
  (outcome.1.mapError (b.resolutionFailure site), outcome.2)

theorem resolveFor_run (b : Binding) (site : BindingSite) (allowUnused : Bool) (S : Session) :
    ∃ S', S'.caches = S.caches ∧ S'.history = (b.answer site allowUnused S.history).2 ∧
      (b.resolveFor site allowUnused).run S =
        ((b.answer site allowUnused S.history).1, S') := by
  rw [resolveFor, resolveParameters_run, answer]
  cases (b.resolve site.query.parameters site allowUnused).run S.history with
  | mk result history =>
      cases result with
      | ok args => exact ⟨{ S with history }, rfl, rfl, rfl⟩
      | error failure => exact ⟨{ S with history }.addRecords _, rfl, rfl, rfl⟩

end Binding

namespace Statement

/-- A statement fails as its template does, or answers as its binding does after the history that
there was. -/
theorem render_run (st : Statement) {S : Session} (hS : S.Faithful st.config) :
    match st.config.prepared st.draft.attributes st.template with
    | .ok (text, query) =>
      let outcome := st.draft.binding.answer ⟨text, query, st.draft.attributes⟩
        st.config.allowUnused S.history
      ∃ entry S', entry.query = query ∧ S'.history = outcome.2 ∧ S'.Faithful st.config ∧
        st.render.run S = (outcome.1.map fun arguments => ⟨entry, arguments⟩, S')
    | .error failure =>
      ∃ S', S'.history = S.history ∧ S'.Faithful st.config ∧
        st.render.run S = (.error failure, S') := by
  obtain ⟨S₁, hhistory, hS₁, hrun⟩ := st.config.prepared_run st.draft.attributes st.template
    (fun text entry => st.draft.binding.resolveFor ⟨text, entry.query, st.draft.attributes⟩
      st.config.allowUnused >>= fun arguments => pure (⟨entry, arguments⟩ : Rendered)) hS
  cases hprepared : st.config.prepared st.draft.attributes st.template with
  | error failure =>
      rw [hprepared] at hrun
      exact ⟨S₁, hhistory, hS₁, hrun⟩
  | ok pair =>
      obtain ⟨text, query⟩ := pair
      rw [hprepared] at hrun
      obtain ⟨entry, rfl, hrun⟩ := hrun
      obtain ⟨S', hcaches, hhistory', hresolve⟩ := st.draft.binding.resolveFor_run
        ⟨text, entry.query, st.draft.attributes⟩ st.config.allowUnused S₁
      rw [hhistory] at hhistory' hresolve
      rw [run_bind_pure, hresolve] at hrun
      exact ⟨entry, S', rfl, hhistory', hS₁.congr hcaches, hrun⟩

theorem render_of_answer (st : Statement) {S : Session} (hS : S.Faithful st.config)
    {text : String} {query : Query} {args : List Resolved} {h : History}
    (hprepared : st.config.prepared st.draft.attributes st.template = .ok (text, query))
    (hanswer : st.draft.binding.answer ⟨text, query, st.draft.attributes⟩ st.config.allowUnused
      S.history = (.ok args, h)) :
    ∃ entry S', entry.query = query ∧ st.render.run S = (.ok ⟨entry, args⟩, S') := by
  have hrender := st.render_run hS
  rw [hprepared] at hrender
  obtain ⟨entry, S', hentry, -, -, hrun⟩ := hrender
  rw [hanswer] at hrun
  exact ⟨entry, S', hentry, hrun⟩

end Statement

end SqlTemplate
