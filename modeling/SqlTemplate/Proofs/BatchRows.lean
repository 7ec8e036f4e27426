import SqlTemplate.Proofs.StatementRun

/-!
# A batch is its rows one by one

Rendering a batch gives what rendering one statement for each row gives, although the batch renders
and parses its template once and the statements do so every time. The batch and the statements are
compared in step: the sessions differ in entries and records, but never in their histories, and
nothing else decides what a row answers.
-/

namespace SqlTemplate

namespace Batch

/-- A row of a batch as a statement of its own. -/
def statement (b : Batch) (row : Binding) : Statement :=
  ⟨b.template, b.config, ⟨row, b.draft.attributes⟩⟩

/-- The failure of a batch by one of its rows. -/
def rowFailure (index : Nat) (failure : Failure) : Failure :=
  .context ("Cannot resolve row " ++ toString index ++ " of the batch") failure

/-! ## One after the other -/

section

variable {st : Statement} {S S₁ : Session}

theorem renderAll_cons_of_ok {r : Rendered} (hrun : st.render.run S = (.ok r, S₁))
    (rest : List Statement) :
    ((st :: rest).mapM Statement.render).run S =
      (((rest.mapM Statement.render).run S₁).1.map (r :: ·),
        ((rest.mapM Statement.render).run S₁).2) := by
  rw [List.mapM_cons, run_bind_of_ok hrun, run_bind_pure]

theorem renderAll_cons_of_error {failure : Failure} (hrun : st.render.run S = (.error failure, S₁))
    (rest : List Statement) :
    ((st :: rest).mapM Statement.render).run S = (.error failure, S₁) := by
  rw [List.mapM_cons, run_bind_of_error hrun]

/-- Where a statement fails after those before it have rendered, all of them fail. -/
theorem renderAll_of_failed {earlier : List Statement} {rs : List Rendered} {failure : Failure}
    {S' : Session} (hearlier : (earlier.mapM Statement.render).run S = (.ok rs, S₁))
    (hfailed : st.render.run S₁ = (.error failure, S')) (later : List Statement) :
    ((earlier ++ st :: later).mapM Statement.render).run S = (.error failure, S') := by
  rw [List.mapM_append, run_bind_of_ok hearlier,
    run_bind_of_error (renderAll_cons_of_error hfailed later)]

end

/-- The statements of the rows before `index` render, and that of the row there fails. -/
def FirstFailure (b : Batch) (S : Session) (index : Nat) (cause : Failure) (S' : Session) : Prop :=
  ∃ earlier row later rs S₁, b.rows = earlier ++ row :: later ∧ earlier.length = index ∧
    ((earlier.map b.statement).mapM Statement.render).run S = (.ok rs, S₁) ∧
    (b.statement row).render.run S₁ = (.error cause, S')

/-- The statements of some rows all render, or a first one fails. -/
theorem renderAll_split (b : Batch) (rows : List Binding) (S : Session) :
    (∃ rs S', ((rows.map b.statement).mapM Statement.render).run S = (.ok rs, S')) ∨
      ∃ earlier row later rs S₁ cause S', rows = earlier ++ row :: later ∧
        ((earlier.map b.statement).mapM Statement.render).run S = (.ok rs, S₁) ∧
        (b.statement row).render.run S₁ = (.error cause, S') := by
  induction rows generalizing S with
  | nil => exact .inl ⟨[], S, rfl⟩
  | cons row rest ih =>
      obtain ⟨result, S₁, hrun⟩ : ∃ result S₁, (b.statement row).render.run S = (result, S₁) :=
        ⟨_, _, rfl⟩
      cases result with
      | error cause => exact .inr ⟨[], row, rest, [], S, cause, S₁, rfl, rfl, hrun⟩
      | ok r =>
          rcases ih S₁ with ⟨rs, S', hrest⟩ |
            ⟨earlier, row', later, rs, S₂, cause, S', rfl, hearlier, hfailed⟩
          · refine .inl ⟨r :: rs, S', ?_⟩
            rw [List.map_cons, renderAll_cons_of_ok hrun, hrest]
            rfl
          · refine .inr ⟨row :: earlier, row', later, r :: rs, S₂, cause, S', rfl, ?_, hfailed⟩
            rw [List.map_cons, renderAll_cons_of_ok hrun, hearlier]
            rfl

theorem renderAll_cases (b : Batch) (S : Session) :
    (∃ rs S', ((b.rows.map b.statement).mapM Statement.render).run S = (.ok rs, S')) ∨
      ∃ index cause S', b.FirstFailure S index cause S' ∧
        ((b.rows.map b.statement).mapM Statement.render).run S = (.error cause, S') := by
  rcases b.renderAll_split b.rows S with hrenders |
    ⟨earlier, row, later, rs, S₁, cause, S', hrows, hearlier, hfailed⟩
  · exact .inl hrenders
  · refine .inr ⟨_, cause, S', ⟨earlier, row, later, rs, S₁, hrows, rfl, hearlier, hfailed⟩, ?_⟩
    rw [hrows, List.map_append, List.map_cons]
    exact renderAll_of_failed hearlier hfailed _

section

variable {site : BindingSite} {allowUnused : Bool} {row : Binding} {S S₁ : Session}

theorem resolveRows_cons_of_ok {arguments : List Resolved}
    (hrun : (row.resolveFor site allowUnused).run S = (.ok arguments, S₁)) (index : Nat)
    (rest : List Binding) :
    (resolveRows site allowUnused index (row :: rest)).run S =
      (((resolveRows site allowUnused (index + 1) rest).run S₁).1.map (arguments :: ·),
        ((resolveRows site allowUnused (index + 1) rest).run S₁).2) := by
  have hrow := tryCatch_run (row.resolveFor site allowUnused)
    (fun failure => throw (rowFailure index failure)) S
  rw [hrun] at hrow
  rw [resolveRows, ← run_bind_pure]
  exact run_bind_of_ok hrow

theorem resolveRows_cons_of_error {failure : Failure}
    (hrun : (row.resolveFor site allowUnused).run S = (.error failure, S₁)) (index : Nat)
    (rest : List Binding) :
    (resolveRows site allowUnused index (row :: rest)).run S =
      (.error (rowFailure index failure), S₁) := by
  have hrow := tryCatch_run (row.resolveFor site allowUnused)
    (fun failure => throw (rowFailure index failure)) S
  rw [hrun] at hrow
  rw [resolveRows]
  exact run_bind_of_error hrow

end

/-! ## In step -/

/-- Whether a site is that of the rows of a batch. -/
structure SiteOf (b : Batch) (site : BindingSite) : Prop where
  prepared : b.config.prepared b.draft.attributes b.template = .ok (site.template, site.query)
  attributes : site.attributes = b.draft.attributes

section

variable {b : Batch} {site : BindingSite}

/-- A row answers in a batch as in a statement of its own after the same history. -/
theorem row_agrees (hsite : b.SiteOf site) (row : Binding) {S₁ S₂ : Session}
    (hhistory : S₁.history = S₂.history) (hS₂ : S₂.Faithful b.config) :
    ∃ S₁' S₂' result, S₁'.history = S₂'.history ∧ S₂'.Faithful b.config ∧
      (row.resolveFor site b.config.allowUnused).run S₁ = (result, S₁') ∧
      ∃ entry, entry.query = site.query ∧ (b.statement row).render.run S₂ =
        (result.map fun arguments => ⟨entry, arguments⟩, S₂') := by
  obtain ⟨text, query, attributes⟩ := site
  obtain ⟨hprepared, rfl⟩ := hsite
  have hstatement := (b.statement row).render_run hS₂
  have hprepared' : (b.statement row).config.prepared (b.statement row).draft.attributes
      (b.statement row).template = .ok (text, query) := hprepared
  rw [hprepared'] at hstatement
  obtain ⟨entry, S₂', hentry, hhistory₂, hS₂', hrender⟩ := hstatement
  obtain ⟨S₁', -, hhistory₁, hresolve⟩ := row.resolveFor_run
    ⟨text, query, b.draft.attributes⟩ b.config.allowUnused S₁
  rw [hhistory] at hhistory₁ hresolve
  exact ⟨S₁', S₂', _, hhistory₁.trans hhistory₂.symm, hS₂', hresolve, entry, hentry, hrender⟩

/-- While the statements of the rows render, the batch collects their arguments. -/
theorem rows_of_renderAll (hsite : b.SiteOf site) {rows : List Binding} {S₁ S₂ S₂' : Session}
    {rs : List Rendered} (hhistory : S₁.history = S₂.history) (hS₂ : S₂.Faithful b.config)
    (hrender : ((rows.map b.statement).mapM Statement.render).run S₂ = (.ok rs, S₂'))
    (index : Nat) (later : List Binding) :
    ∃ S₁', S₁'.history = S₂'.history ∧ S₂'.Faithful b.config ∧
      (∀ r ∈ rs, r.entry.query = site.query) ∧
      ∀ {result S}, (resolveRows site b.config.allowUnused (index + rows.length) later).run S₁' =
          (result, S) →
        (resolveRows site b.config.allowUnused index (rows ++ later)).run S₁ =
          (result.map (rs.map (·.arguments) ++ ·), S) := by
  induction rows generalizing index S₁ S₂ rs with
  | nil =>
      obtain ⟨hrs, rfl⟩ := Prod.mk.inj hrender
      obtain rfl := Except.ok.inj hrs
      refine ⟨S₁, hhistory, hS₂, by simp, ?_⟩
      intro result S hlater
      refine hlater.trans ?_
      cases result <;> rfl
  | cons row rows ih =>
      obtain ⟨S₁', S₃, result, hhistory', hS₃, hrow, entry, hentry, hstatement⟩ :=
        row_agrees hsite row hhistory hS₂
      rw [List.map_cons] at hrender
      cases result with
      | error failure => cases hrender.symm.trans (renderAll_cons_of_error hstatement _)
      | ok arguments =>
          rw [renderAll_cons_of_ok hstatement] at hrender
          obtain ⟨result, S₄, hrest⟩ : ∃ result S₄,
              ((rows.map b.statement).mapM Statement.render).run S₃ = (result, S₄) := ⟨_, _, rfl⟩
          rw [hrest] at hrender
          cases result with
          | error failure => cases hrender
          | ok rs' =>
              obtain ⟨hrs, rfl⟩ := Prod.mk.inj hrender
              obtain rfl := Except.ok.inj hrs
              obtain ⟨S₁'', hhistory'', hS₄, hqueries, hrows⟩ :=
                ih hhistory' hS₃ hrest (index + 1)
              refine ⟨S₁'', hhistory'', hS₄, ?_, ?_⟩
              · intro r hr
                rcases List.mem_cons.mp hr with rfl | hr
                · exact hentry
                · exact hqueries r hr
              · intro result S hlater
                have hindex : index + (row :: rows).length = index + 1 + rows.length := by
                  rw [List.length_cons]
                  omega
                rw [hindex] at hlater
                rw [List.cons_append, resolveRows_cons_of_ok hrow, hrows hlater]
                cases result <;> rfl

/-- A row whose statement fails after those before it ends the batch with that failure. -/
theorem rows_of_failed (hsite : b.SiteOf site) {earlier : List Binding} {row : Binding}
    {S₁ S₂ S₃ S₂' : Session} {rs : List Rendered} {cause : Failure}
    (hhistory : S₁.history = S₂.history) (hS₂ : S₂.Faithful b.config)
    (hearlier : ((earlier.map b.statement).mapM Statement.render).run S₂ = (.ok rs, S₃))
    (hfailed : (b.statement row).render.run S₃ = (.error cause, S₂'))
    (index : Nat) (later : List Binding) :
    ∃ S₁', S₁'.history = S₂'.history ∧
      (resolveRows site b.config.allowUnused index (earlier ++ row :: later)).run S₁ =
        (.error (rowFailure (index + earlier.length) cause), S₁') := by
  obtain ⟨S₁', hhistory', hS₃, -, hrows⟩ :=
    rows_of_renderAll hsite hhistory hS₂ hearlier index (row :: later)
  obtain ⟨S₁'', S₄, result, hhistory'', -, hrow, entry, -, hstatement⟩ :=
    row_agrees hsite row hhistory' hS₃
  obtain ⟨hresult, rfl⟩ := Prod.mk.inj (hfailed.symm.trans hstatement)
  cases result with
  | ok arguments => cases hresult
  | error failure =>
      obtain rfl := Except.error.inj hresult
      exact ⟨S₁'', hhistory'', hrows (resolveRows_cons_of_error hrow _ _)⟩

end

/-! ## The whole batch -/

/-- A batch fails as its template does, or resolves its rows after the history that there was. -/
theorem render_run (b : Batch) {S : Session} (hS : S.Faithful b.config) :
    match b.config.prepared b.draft.attributes b.template with
    | .ok (text, query) =>
      ∃ entry S₁, entry.query = query ∧ S₁.history = S.history ∧
        ∀ {result S'}, (resolveRows ⟨text, query, b.draft.attributes⟩ b.config.allowUnused 0
            b.rows).run S₁ = (result, S') →
          b.render.run S = (result.map fun rows => ⟨entry, rows⟩, S')
    | .error failure => ∃ S', b.render.run S = (.error failure, S') := by
  obtain ⟨S₁, hhistory, -, hrun⟩ := b.config.prepared_run b.draft.attributes b.template
    (fun text entry => do
      if !b.draft.binding.isEmpty then
        report [⟨.warn, "Batch rendered with a row not added yet, it is ignored:\n" ++
          Text.shortened text⟩]
      let rows ← resolveRows ⟨text, entry.query, b.draft.attributes⟩ b.config.allowUnused 0 b.rows
      pure (⟨entry, rows⟩ : RenderedBatch)) hS
  cases hprepared : b.config.prepared b.draft.attributes b.template with
  | error failure =>
      rw [hprepared] at hrun
      exact ⟨S₁, hrun⟩
  | ok pair =>
      obtain ⟨text, query⟩ := pair
      rw [hprepared] at hrun
      obtain ⟨entry, rfl, hrun⟩ := hrun
      by_cases hempty : b.draft.binding.isEmpty = true
      · refine ⟨entry, S₁, rfl, hhistory, ?_⟩
        intro result S' hrows
        refine hrun.trans ?_
        rw [hempty]
        refine (run_bind_pure _ _ _).trans ?_
        rw [hrows]
      · -- The warning is written to the log only.
        refine ⟨entry, S₁.addRecords [⟨.warn,
          "Batch rendered with a row not added yet, it is ignored:\n" ++ Text.shortened text⟩],
          rfl, hhistory, ?_⟩
        intro result S' hrows
        refine hrun.trans ?_
        rw [Bool.not_eq_true] at hempty
        rw [hempty]
        refine (run_bind_lift rfl).trans ((run_bind_pure _ _ _).trans ?_)
        rw [hrows]

section

variable {b : Batch} {text : String} {query : Query} {S : Session}

theorem render_of_renderAll
    (hprepared : b.config.prepared b.draft.attributes b.template = .ok (text, query))
    (hS : S.Faithful b.config) {rs : List Rendered} {S' : Session}
    (hrender : ((b.rows.map b.statement).mapM Statement.render).run S = (.ok rs, S')) :
    ∃ entry S₁, b.render.run S = (.ok ⟨entry, rs.map (·.arguments)⟩, S₁) ∧
      S₁.history = S'.history ∧ ∀ r ∈ rs, r.entry.query = entry.query := by
  have hbatch := b.render_run hS
  rw [hprepared] at hbatch
  obtain ⟨entry, S₁, rfl, hhistory, hbatch⟩ := hbatch
  have hsite : b.SiteOf ⟨text, entry.query, b.draft.attributes⟩ := ⟨hprepared, rfl⟩
  obtain ⟨S₁', hhistory', -, hqueries, hrows⟩ :=
    rows_of_renderAll hsite hhistory hS hrender 0 []
  rw [List.append_nil] at hrows
  refine ⟨entry, S₁', ?_, hhistory', hqueries⟩
  rw [hbatch (hrows rfl)]
  simp [Except.map]

theorem render_of_firstFailure
    (hprepared : b.config.prepared b.draft.attributes b.template = .ok (text, query))
    (hS : S.Faithful b.config) {index : Nat} {cause : Failure} {S' : Session}
    (hfails : b.FirstFailure S index cause S') :
    (b.render.run S).1 = .error (rowFailure index cause) ∧
      (b.render.run S).2.history = S'.history := by
  obtain ⟨earlier, row, later, rs, S₁, hrows, rfl, hearlier, hfailed⟩ := hfails
  have hbatch := b.render_run hS
  rw [hprepared] at hbatch
  obtain ⟨entry, S₀, rfl, hhistory, hbatch⟩ := hbatch
  have hsite : b.SiteOf ⟨text, entry.query, b.draft.attributes⟩ := ⟨hprepared, rfl⟩
  obtain ⟨S₂, hhistory', hrun⟩ := rows_of_failed hsite hhistory hS hearlier hfailed 0 later
  rw [← hrows, Nat.zero_add] at hrun
  rw [hbatch hrun]
  exact ⟨rfl, hhistory'⟩

end

end Batch

/-- A batch gives what statements of its rows give one after the other, in a session whose cache was
made by parsing. It renders when its template has a query and all the statements render; its rows
are then their arguments, and its query is theirs. It fails as its template does, whatever the rows
are, or else as the first statement that fails, and after that no supplier is called. -/
theorem batch_renders_as_statements (b : Batch) (S : Session)
    (hcache : (S.cacheAt b.config.cache).Reached b.config.style) :
    let template :=
      (b.config.renderTemplate b.draft.attributes b.template >>= b.config.parse).run S
    let singles := ((b.rows.map b.statement).mapM Statement.render).run S
    let batch := b.render.run S
    ((∃ out, batch.1 = .ok out) ↔ (∃ entry, template.1 = .ok entry) ∧ ∃ rs, singles.1 = .ok rs) ∧
    (∀ out rs, batch.1 = .ok out → singles.1 = .ok rs →
      out.rows = rs.map (·.arguments) ∧ (∀ r ∈ rs, r.entry.query = out.entry.query) ∧
        batch.2.history = singles.2.history) ∧
    (∀ failure, template.1 = .error failure → batch.1 = .error failure) ∧
    (∀ entry, template.1 = .ok entry →
      ((∃ failure, batch.1 = .error failure) ↔
        ∃ index cause S', b.FirstFailure S index cause S') ∧
      ∀ index cause S', b.FirstFailure S index cause S' →
        batch.1 = .error (.context ("Cannot resolve row " ++ toString index ++ " of the batch")
          cause) ∧
        batch.2.history = S'.history) := by
  have hS : S.Faithful b.config := hcache.faithful
  have hrun := b.config.template_run b.draft.attributes b.template hS
  cases hprepared : b.config.prepared b.draft.attributes b.template with
  | error cause =>
      have hbatch := b.render_run hS
      rw [hprepared] at hrun hbatch
      obtain ⟨S₁, hrun⟩ := hrun
      obtain ⟨S', hbatch⟩ := hbatch
      rw [hrun, hbatch]
      refine ⟨by simp, by simp, ?_, by simp⟩
      intro failure hfailure
      rw [Except.error.inj hfailure]
  | ok pair =>
      obtain ⟨text, query⟩ := pair
      rw [hprepared] at hrun
      obtain ⟨entry, S₀, -, hrun⟩ := hrun
      have htemplate := congrArg Prod.fst hrun
      have hfails := @Batch.render_of_firstFailure _ _ _ _ hprepared hS
      have hnofault : ∀ failure, ((b.config.renderTemplate b.draft.attributes b.template >>=
          b.config.parse).run S).1 = .error failure → (b.render.run S).1 = .error failure :=
        fun failure hfailure => absurd (htemplate.symm.trans hfailure) (by simp)
      rcases b.renderAll_cases S with ⟨rs, S', hsingles⟩ | ⟨index, cause, S', hfirst, hsingles⟩
      · obtain ⟨entry', S₁, hbatch, hhistory, hqueries⟩ :=
          Batch.render_of_renderAll hprepared hS hsingles
        have hnever : ∀ index cause S', ¬b.FirstFailure S index cause S' := by
          intro index cause S' hfirst
          rw [hbatch] at hfails
          cases (hfails hfirst).1
        rw [hsingles]
        refine ⟨⟨fun _ => ⟨⟨entry, htemplate⟩, rs, rfl⟩, fun _ => ⟨_, congrArg Prod.fst hbatch⟩⟩,
          ?_, hnofault, ?_⟩
        · rw [hbatch]
          rintro out rs' hout hrs'
          obtain rfl := Except.ok.inj hout
          obtain rfl := Except.ok.inj hrs'
          exact ⟨rfl, hqueries, hhistory⟩
        · rintro - -
          exact ⟨by simp [hbatch, hnever], fun _ _ _ => hfails⟩
      · have hbatch := (hfails hfirst).1
        have hfailed : ∀ out, (b.render.run S).1 ≠ .ok out := by simp [hbatch]
        rw [hsingles]
        refine ⟨⟨?_, ?_⟩, fun out _ hout => absurd hout (hfailed out), hnofault, ?_⟩
        · rintro ⟨out, hout⟩
          exact absurd hout (hfailed out)
        · rintro ⟨-, rs, hrs⟩
          cases hrs
        · rintro - -
          exact ⟨⟨fun _ => ⟨index, cause, S', hfirst⟩, fun _ => ⟨_, hbatch⟩⟩, fun _ _ _ => hfails⟩

/-- The row in the middle has no argument: it is named, and only the supplier before it is
called. -/
theorem batch_renders_as_statements_stopped :
    let S := Session.empty.addCache (.ofCapacity 1)
    let counted := Binding.empty.addNamed "a" (.supplier (.counter 7 1))
    let b := { Batch.create (.standard 0) "select :a" with rows := [counted, .empty, counted] }
    (S.cacheAt b.config.cache).Reached b.config.style ∧
    (∃ cause, (b.render.run S).1 = .error (.context "Cannot resolve row 1 of the batch" cause)) ∧
    (b.render.run S).2.history = [.called 7] := by
  intro S counted b
  have hreached : (S.cacheAt b.config.cache).Reached b.config.style := .empty rfl
  have hS : S.Faithful b.config := hreached.faithful
  have hprepared : b.config.prepared b.draft.attributes b.template =
      .ok ("select :a", ⟨"select ?", .named ["a"]⟩) := by cbv
  have htemplate := b.config.template_run b.draft.attributes b.template hS
  have hfirst := (b.statement counted).render_run hS
  rw [show (b.statement counted).config.prepared (b.statement counted).draft.attributes
    (b.statement counted).template = _ from hprepared] at hfirst
  obtain ⟨entry₁, S₁, -, hhistory, hS₁, hfirst⟩ := hfirst
  have hsecond := (b.statement .empty).render_run hS₁
  rw [show (b.statement .empty).config.prepared (b.statement .empty).draft.attributes
    (b.statement .empty).template = _ from hprepared] at hsecond
  obtain ⟨entry₂, S₂, -, hhistory₂, -, hsecond⟩ := hsecond
  rw [hprepared] at htemplate
  obtain ⟨entry, S₀, -, htemplate⟩ := htemplate
  have hanswer₁ : (b.statement counted).draft.binding.answer
      ⟨"select :a", ⟨"select ?", .named ["a"]⟩, (b.statement counted).draft.attributes⟩ false
        S.history = (.ok [.ofValue (.integer .int64 (some (Integer.wrapping .int64 1)))],
          [.called 7]) := rfl
  have hanswer₂ : (b.statement .empty).draft.binding.answer
      ⟨"select :a", ⟨"select ?", .named ["a"]⟩, (b.statement .empty).draft.attributes⟩ false
        S₁.history = (.error (Binding.empty.resolutionFailure _ (.mismatch (.missingNamed ["a"]))),
          S₁.history) := rfl
  rw [show (b.statement counted).config.allowUnused = false from rfl, hanswer₁] at hfirst hhistory
  rw [show (b.statement .empty).config.allowUnused = false from rfl, hanswer₂] at hsecond hhistory₂
  have hearlier := Batch.renderAll_cons_of_ok hfirst []
  have hfails := ((batch_renders_as_statements b S hreached).2.2.2 entry
    (congrArg Prod.fst htemplate)).2 1 _ S₂
      ⟨[counted], .empty, [counted], _, S₁, rfl, rfl, hearlier, hsecond⟩
  exact ⟨hreached, ⟨_, hfails.1⟩, hfails.2.trans (hhistory₂.trans hhistory)⟩

end SqlTemplate
