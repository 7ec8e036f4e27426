import Mathlib
import SqlTemplate.Parsing
import SqlTemplate.Proofs.AssociationLists

/-!
# A cache changes no answer

Parsing with a cache gives what parsing without one gives. The invariant is that a cache is
faithful: whatever it holds for a template is the query of that template. `Parses` lists what one
call can do, and all of it keeps a cache faithful. A template that fails leaves the cache as it was,
so failures are never held.
-/

namespace SqlTemplate

namespace QueryCache

/-! ## Entries -/

theorem mem_of_peek? {c : QueryCache} {template : String} {entry : Entry}
    (hpeek : c.peek? template = some entry) : (template, entry) ∈ c.entries :=
  mem_of_lookup hpeek

theorem exists_peek?_of_mem {c : QueryCache} {template : String} {entry : Entry}
    (hmem : (template, entry) ∈ c.entries) : ∃ first, c.peek? template = some first := by
  cases hpeek : c.peek? template with
  | some first => exact ⟨first, rfl⟩
  | none => exact absurd rfl (ne_of_lookup_eq_none hpeek hmem)

theorem ne_of_peek?_eq_none {c : QueryCache} {template : String} (hpeek : c.peek? template = none)
    {e : String × Entry} (he : e ∈ c.entries) : e.1 ≠ template :=
  ne_of_lookup_eq_none hpeek he

/-- A template that is not there cannot be used. -/
theorem touch_of_absent {c : QueryCache} {template : String} (hpeek : c.peek? template = none) :
    c.touch template = c := by
  cases c with
  | bounded capacity entries =>
      have hlookup : entries.lookup template = none := hpeek
      simp [touch, hlookup]
  | unbounded entries => rfl
  | disabled => rfl

theorem mem_of_mem_touch {c : QueryCache} {template : String} {e : String × Entry}
    (he : e ∈ (c.touch template).entries) : e ∈ c.entries := by
  cases c with
  | bounded capacity entries =>
      unfold touch at he
      cases hlookup : entries.lookup template with
      | none => simpa [hlookup] using he
      | some entry =>
          simp only [hlookup] at he
          rcases List.mem_cons.mp he with rfl | he
          · exact mem_of_peek? (c := bounded capacity entries) hlookup
          · exact List.mem_of_mem_filter he
  | unbounded entries => exact he
  | disabled => exact he

/-- Storing an entry adds no other one. -/
theorem mem_of_mem_insert {c : QueryCache} {template : String} {entry : Entry}
    {e : String × Entry} (he : e ∈ (c.insert template entry).cache.entries) :
    e = (template, entry) ∨ e ∈ c.entries := by
  unfold insert at he
  cases hpeek : c.peek? template with
  | some existing =>
      rw [hpeek] at he
      exact Or.inr (mem_of_mem_touch he)
  | none =>
      rw [hpeek] at he
      cases c with
      | bounded capacity entries =>
          simp only at he
          split at he
          · exact List.mem_cons.mp he
          · exact List.mem_cons.mp (List.dropLast_subset _ he)
      | unbounded entries =>
          rcases List.mem_append.mp he with he | he
          · exact Or.inr he
          · exact Or.inl (List.mem_singleton.mp he)
      | disabled => exact Or.inr he

/-! ## One call -/

/-- What parsing a template can do: use an entry that is there, fail, or make a new entry. -/
inductive Parses (s : Style) (c : QueryCache) (nextId : Nat) (template : String) :
    ParseOutcome → Prop
  | hit {entry : Entry} {records : List LogRecord} :
      c.peek? template = some entry →
      Parses s c nextId template ⟨.ok entry, c.touch template, nextId, records⟩
  | fault {e : LexFailure} {records : List LogRecord} :
      c.peek? template = none → Query.ofTemplate s template = .error e →
      Parses s c nextId template ⟨.error (parseFailure template e), c, nextId, records⟩
  | new {query : Query} {records : List LogRecord} :
      c.peek? template = none → Query.ofTemplate s template = .ok query →
      Parses s c nextId template
        ⟨.ok ⟨nextId, query⟩, (c.insert template ⟨nextId, query⟩).cache, nextId + 1, records⟩

theorem stored_of_absent {c : QueryCache} {template : String} {entry : Entry}
    (hpeek : c.peek? template = none) : (c.insert template entry).stored = entry := by
  unfold insert
  rw [hpeek]
  cases c with
  | bounded capacity entries =>
      simp only
      split <;> rfl
  | unbounded entries => rfl
  | disabled => rfl

theorem parses_parse (s : Style) (c : QueryCache) (nextId : Nat) (template : String) :
    Parses s c nextId template (c.parse s nextId template) := by
  unfold parse get
  cases hpeek : c.peek? template with
  | some entry => exact .hit hpeek
  | none =>
      simp only [touch_of_absent hpeek]
      cases hquery : Query.ofTemplate s template with
      | error e => exact .fault hpeek hquery
      | ok query =>
          simp only [stored_of_absent hpeek]
          exact .new hpeek hquery

/-! ## Faithful caches -/

/-- Whether every entry is the query of its template. -/
def Faithful (s : Style) (c : QueryCache) : Prop :=
  ∀ template entry, (template, entry) ∈ c.entries →
    Query.ofTemplate s template = .ok entry.query

theorem Faithful.of_empty {s : Style} {c : QueryCache} (hempty : c.entries = []) :
    c.Faithful s := by
  intro template entry hmem
  rw [hempty] at hmem
  exact absurd hmem (by simp)

theorem entries_clear (c : QueryCache) : c.clear.entries = [] := by
  cases c <;> rfl

/-- Parsing keeps a cache faithful. -/
theorem Faithful.parse {s : Style} {c : QueryCache} (hc : c.Faithful s) (nextId : Nat)
    (template : String) : (c.parse s nextId template).cache.Faithful s := by
  have hparses := parses_parse s c nextId template
  generalize c.parse s nextId template = outcome at hparses
  cases hparses with
  | hit => exact fun t entry hmem => hc t entry (mem_of_mem_touch hmem)
  | fault => exact hc
  | new _ hquery =>
      intro t entry hmem
      rcases mem_of_mem_insert hmem with hnew | hmem
      · obtain ⟨rfl, rfl⟩ := Prod.mk.inj hnew
        exact hquery
      · exact hc t entry hmem

/-- A faithful cache answers by the query of the template. When that fails, so does the call, and
it leaves the cache and the identities alone. -/
theorem Faithful.parse_answer {s : Style} {c : QueryCache} (hc : c.Faithful s) (nextId : Nat)
    (template : String) :
    match Query.ofTemplate s template with
    | .ok query => ∃ entry, (c.parse s nextId template).result = .ok entry ∧ entry.query = query
    | .error e =>
      (c.parse s nextId template).result = .error (parseFailure template e) ∧
        (c.parse s nextId template).cache = c ∧ (c.parse s nextId template).nextId = nextId := by
  have hparses := parses_parse s c nextId template
  generalize c.parse s nextId template = outcome at hparses
  cases hparses with
  | @hit entry _ hpeek =>
      rw [hc template entry (mem_of_peek? hpeek)]
      exact ⟨entry, rfl, rfl⟩
  | fault _ hquery =>
      rw [hquery]
      exact ⟨rfl, rfl, rfl⟩
  | new _ hquery =>
      rw [hquery]
      exact ⟨_, rfl, rfl⟩

/-- The caches that parsing and clearing make of an empty one, whatever identities the new entries
are given. -/
inductive Reached (s : Style) : QueryCache → Prop
  | empty {c : QueryCache} : c.entries = [] → Reached s c
  | parsed {c : QueryCache} (nextId : Nat) (template : String) :
      Reached s c → Reached s (c.parse s nextId template).cache
  | cleared {c : QueryCache} : Reached s c → Reached s c.clear

theorem Reached.faithful {s : Style} {c : QueryCache} (hc : Reached s c) : c.Faithful s := by
  induction hc with
  | empty hempty => exact .of_empty hempty
  | parsed nextId template _ ih => exact ih.parse nextId template
  | @cleared c => exact .of_empty c.entries_clear

end QueryCache

/-! ## Runs -/

/-- A parser: a style with a cache of its own, and the identity of its next new entry. -/
structure Parser where
  style : Style
  cache : QueryCache
  nextId : Nat

/-- A call of a parser. -/
inductive ParserCall where
  | parse (template : String)
  | clear
  deriving DecidableEq

namespace Parser

/-- The parser after a call. -/
def call (p : Parser) : ParserCall → Parser
  | .parse template =>
    let outcome := p.cache.parse p.style p.nextId template
    { p with cache := outcome.cache, nextId := outcome.nextId }
  | .clear => { p with cache := p.cache.clear }

/-- The parser after calls in order. -/
def after (p : Parser) (calls : List ParserCall) : Parser :=
  calls.foldl call p

/-- What the parser answers for a template. -/
def answer (p : Parser) (template : String) : Except Failure Entry :=
  (p.cache.parse p.style p.nextId template).result

theorem after_append_singleton (p : Parser) (calls : List ParserCall) (last : ParserCall) :
    p.after (calls ++ [last]) = (p.after calls).call last := by
  rw [after, after, List.foldl_append]
  rfl

theorem style_after (p : Parser) (calls : List ParserCall) : (p.after calls).style = p.style := by
  induction calls generalizing p with
  | nil => rfl
  | cons call calls ih =>
      have hcall : (p.call call).style = p.style := by cases call <;> rfl
      exact (ih (p.call call)).trans hcall

theorem reached_after {p : Parser} (hp : p.cache.Reached p.style) (calls : List ParserCall) :
    (p.after calls).cache.Reached p.style := by
  induction calls generalizing p with
  | nil => exact hp
  | cons call calls ih =>
      cases call with
      | parse template => exact ih (p := p.call (.parse template)) (.parsed p.nextId template hp)
      | clear => exact ih (p := p.call .clear) (.cleared hp)

theorem query_of_answer {p : Parser} (hp : p.cache.Faithful p.style) {template : String}
    {entry : Entry} (hanswer : p.answer template = .ok entry) :
    Query.ofTemplate p.style template = .ok entry.query := by
  have hresult := hp.parse_answer p.nextId template
  rw [answer] at hanswer
  cases hquery : Query.ofTemplate p.style template with
  | ok query =>
      rw [hquery] at hresult
      obtain ⟨entry', hentry', rfl⟩ := hresult
      rw [Except.ok.inj (hanswer.symm.trans hentry')]
  | error e =>
      rw [hquery] at hresult
      cases hanswer.symm.trans hresult.1

end Parser

/-- The cache of a parser changes no answer. After any calls, from a cache of any kind that was
empty, a template gets its own query, or the fault that it has without a cache; a fault leaves the
parser as it was. What the cache holds are queries of their templates, never a failure. -/
theorem cached_parse_transparent (s : Style) (c : QueryCache) (hempty : c.entries = [])
    (nextId : Nat) (calls : List ParserCall) (template : String) :
    let p := (Parser.mk s c nextId).after calls
    (match Query.ofTemplate s template with
    | .ok query => ∃ entry, p.answer template = .ok entry ∧ entry.query = query
    | .error e => ∃ failure, p.answer template = .error failure ∧ failure.cause = .lex e ∧
        p.call (.parse template) = p) ∧
    p.cache.Faithful s := by
  intro p
  have hstyle : p.style = s := Parser.style_after _ calls
  have hfaithful : p.cache.Faithful s :=
    (Parser.reached_after (p := ⟨s, c, nextId⟩) (.empty hempty) calls).faithful
  clear_value p
  subst hstyle
  refine ⟨?_, hfaithful⟩
  have hanswer := hfaithful.parse_answer p.nextId template
  cases hquery : Query.ofTemplate p.style template with
  | ok query =>
      rw [hquery] at hanswer
      exact hanswer
  | error e =>
      rw [hquery] at hanswer
      obtain ⟨hresult, hcache, hnextId⟩ := hanswer
      refine ⟨_, hresult, rfl, ?_⟩
      rw [Parser.call, hcache, hnextId]

/-- A cache of one entry that has given up a template, been cleared, and come through a failure. -/
theorem cached_parse_transparent_evicting :
    (QueryCache.ofCapacity 1).entries = [] ∧
    let p := (Parser.mk .hash (.ofCapacity 1) 0).after
      [.parse "#a", .parse "#b", .clear, .parse "#b", .parse "'", .parse "#a"]
    (∃ entry, p.answer "#b" = .ok entry ∧ entry.query = ⟨"?", .named ["b"]⟩) ∧
    ∃ failure, p.answer "'" = .error failure ∧ failure.cause = .lex ⟨.unterminatedQuote, 0⟩ ∧
      p.call (.parse "'") = p := by
  have hquery : Query.ofTemplate .hash "#b" = .ok ⟨"?", .named ["b"]⟩ := by cbv
  have hfault : Query.ofTemplate .hash "'" = .error ⟨.unterminatedQuote, 0⟩ := by cbv
  have hparse := cached_parse_transparent .hash (.ofCapacity 1) rfl 0
    [.parse "#a", .parse "#b", .clear, .parse "#b", .parse "'", .parse "#a"]
  refine ⟨rfl, ?_, ?_⟩
  · have hanswer := (hparse "#b").1
    rwa [hquery] at hanswer
  · have hanswer := (hparse "'").1
    rwa [hfault] at hanswer

end SqlTemplate
