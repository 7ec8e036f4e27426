import SqlTemplate.Proofs.BindingEdits
import SqlTemplate.Proofs.ListTemplate
import SqlTemplate.Proofs.ResolvedArguments

/-!
# Statements with a list

A list is bound as one named argument for each of its values. When nothing is bound besides but the
names of the texts around the list, the statement renders, and the values stand in their order
between the arguments of these texts.
-/

namespace SqlTemplate

/-! ## The calls -/

namespace Statement

theorem apply_list (st : Statement) {key : String} {values : List Value}
    (hkey : Draft.isListKey key = true) (hvalues : values ≠ []) :
    st.apply (.list key values) =
      .ok { st with draft :=
        ⟨st.draft.binding.addNameds (Draft.listArguments key values),
          st.draft.attributes.define key
            (Draft.listMarkers st.config.style key values.length)⟩ } := by
  have hnone : Draft.listFault key values = none := by
    rw [Draft.listFault, if_pos hkey, if_neg (by simpa using hvalues)]
  rw [apply, Draft.apply, hnone]
  rfl

/-- Two lists, bound one after the other. -/
theorem apply_lists (st : Statement) {key key' : String} {values values' : List Value}
    (hkey : Draft.isListKey key = true) (hkey' : Draft.isListKey key' = true)
    (hvalues : values ≠ []) (hvalues' : values' ≠ []) :
    [BindCall.list key values, .list key' values'].foldlM apply st =
      .ok { st with draft :=
        ⟨(st.draft.binding.addNameds (Draft.listArguments key values)).addNameds
            (Draft.listArguments key' values'),
          (st.draft.attributes.define key
            (Draft.listMarkers st.config.style key values.length)).define key'
              (Draft.listMarkers st.config.style key' values'.length)⟩ } := by
  rw [List.foldlM_cons, st.apply_list hkey hvalues]
  exact (bind_pure _).trans (apply_list _ hkey' hvalues')

/-- A list and other named arguments, bound one after the other. -/
theorem apply_around_list (st : Statement) {key : String} {values : List Value}
    (hkey : Draft.isListKey key = true) (hvalues : values ≠ [])
    (before after : List (String × Argument)) :
    (BindCall.ofNameds before ++ .list key values :: BindCall.ofNameds after).foldlM apply st =
      .ok { st with draft :=
        ⟨st.draft.binding.addNameds (before ++ Draft.listArguments key values ++ after),
          st.draft.attributes.define key
            (Draft.listMarkers st.config.style key values.length)⟩ } := by
  rw [List.foldlM_append, apply_nameds]
  show (_ :: _ : List BindCall).foldlM apply _ = _
  rw [List.foldlM_cons, apply_list _ hkey hvalues]
  refine (apply_nameds _ after).trans ?_
  rw [Binding.addNameds_append, Binding.addNameds_append]
  rfl

end Statement

/-! ## The binding -/

namespace Draft

theorem mem_listArguments_iff {key name : String} {values : List Value} {argument : Argument} :
    (name, argument) ∈ listArguments key values ↔
      ∃ (i : Nat) (value : Value), values[i]? = some value ∧ name = listParameter key i ∧
        argument = .value value := by
  rw [listArguments, List.mem_iff_getElem?]
  refine exists_congr fun i => ?_
  rw [List.getElem?_mapIdx, Option.map_eq_some_iff]
  simp [eq_comm]

end Draft

namespace Binding

theorem mismatch?_of_exact {b : Binding} (site : BindingSite) {names : List String}
    (hpositional : ∀ i, b.positional.get? i = none)
    (hnames : ∀ name, b.named.get? name ≠ none ↔ name ∈ names) :
    b.mismatch? site (.named names) false = none := by
  rw [mismatch?_eq_none_iff]
  intro kind hkind
  simp only [Parameters.mismatchKinds, List.mem_cons, List.not_mem_nil, or_false,
    Bool.false_eq_true, if_false] at hkind
  rcases hkind with rfl | rfl | rfl
  · rintro ⟨name, hname, hunbound, -⟩
    exact (hnames name).mpr hname hunbound
  · rintro ⟨name, hbound, hname⟩
    exact hname ((hnames name).mp hbound)
  · rintro ⟨i, hbound, -⟩
    exact hbound (hpositional i)

/-- A binding that has exactly the names that are declared, and nothing else, resolves when its
suppliers answer. -/
theorem answer_of_exact (b : Binding) (site : BindingSite) {names : List String}
    (hparameters : site.query.parameters = .named names) (hfinders : b.finders = [])
    (hpositional : ∀ i, b.positional.get? i = none)
    (hnames : ∀ name, b.named.get? name ≠ none ↔ name ∈ names)
    (hanswers : ∀ name supplier h, b.named.get? name = some (.supplier supplier) →
      ∃ value, supplier.answer h = .ok value) (h : History) :
    ∃ args h', b.answer site false h = (.ok args, h') ∧ args.length = names.length ∧
      b.Aligned site h h' args (.named names) := by
  have hresolves := b.resolves_run (.named names) site false h
  have hnone := mismatch?_of_exact site hpositional hnames
  rw [answer, hparameters]
  generalize (b.resolve (.named names) site false).run h = outcome at hresolves
  obtain ⟨result, h'⟩ := outcome
  rcases hresolves.cases with ⟨m, hmismatch, -⟩ | ⟨-, ⟨args, rfl⟩ | ⟨failure, hfailure, -⟩⟩
  · rw [hnone] at hmismatch
    exact absurd hmismatch (by simp)
  · exact ⟨args, h', rfl, hresolves.aligned rfl⟩
  · cases hfailure with
    | @named _ name supplier h₁ cause _ hsource hcause =>
        cases sourceOf_of_source? hsource with
        | bound hget =>
            obtain ⟨value, hvalue⟩ := hanswers name supplier h₁ hget
            rw [hvalue] at hcause
            exact absurd hcause (by simp)
        | found _ hsplit => simp [hfinders] at hsplit

/-- A value that is bound to a name stands in the places of the name. -/
theorem Aligned.getElem?_of_value {b : Binding} {site : BindingSite} {h h' : History}
    {args : List Resolved} {names : List String}
    (haligned : b.Aligned site h h' args (.named names)) {i : Nat} {name : String} {value : Value}
    (hname : names[i]? = some name) (hbound : b.named.get? name = some (.value value)) :
    args[i]? = some ⟨value, value.asNull, false⟩ := by
  obtain ⟨argument, r, hsource, hr, _, _, _, hrealizes, _⟩ := haligned.1 i name hname
  obtain rfl : argument = .value value := by
    cases hsource with
    | bound hget => exact Option.some.inj (hget.symm.trans hbound)
    | found hunbound =>
        rw [hunbound] at hbound
        exact absurd hbound (by simp)
  cases hrealizes with
  | value => exact hr

end Binding

/-! ## The list in its place -/

section

variable {key : String} {values : List Value} {before after : List (String × Argument)}
  {names names' : List String}

/-- What the names of the list and those around it are bound to. -/
theorem Binding.get?_around_list
    (hbound : ∀ name, (∃ argument, (name, argument) ∈ before ++ after) ↔ name ∈ names ++ names')
    (hown : ∀ i < values.length, Draft.listParameter key i ∉ names ++ names') :
    let b := Binding.empty.addNameds (before ++ Draft.listArguments key values ++ after)
    (∀ name, b.named.get? name ≠ none ↔
      name ∈ names ++ (List.range values.length).map (Draft.listParameter key) ++ names') ∧
    (∀ name argument, b.named.get? name = some argument → (name, argument) ∈ before ++ after ∨
      ∃ value, argument = .value value) ∧
    ∀ (i : Nat) value, values[i]? = some value →
      b.named.get? (Draft.listParameter key i) = some (.value value) := by
  intro b
  have hmem : ∀ entry, entry ∈ before ++ Draft.listArguments key values ++ after ↔
      entry ∈ before ++ after ∨ entry ∈ Draft.listArguments key values := by
    intro entry
    simp only [List.mem_append]
    tauto
  refine ⟨fun name => ?_, fun name argument hget => ?_, fun i value hvalue => ?_⟩
  · have hlist : (∃ argument, (name, argument) ∈ Draft.listArguments key values) ↔
        name ∈ (List.range values.length).map (Draft.listParameter key) := by
      simp only [Draft.mem_listArguments_iff, List.mem_map, List.mem_range]
      constructor
      · rintro ⟨_, i, value, hvalue, rfl, -⟩
        exact ⟨i, (List.getElem?_eq_some_iff.mp hvalue).1, rfl⟩
      · rintro ⟨i, hi, rfl⟩
        exact ⟨_, i, values[i], List.getElem?_eq_getElem hi, rfl, rfl⟩
    rw [Binding.get?_addNameds_ne_none_iff]
    simp only [hmem, exists_or, hlist]
    rw [hbound]
    simp only [List.mem_append]
    tauto
  · rcases (hmem _).mp (Binding.mem_of_get?_addNameds hget) with haround | hlist
    · exact Or.inl haround
    · obtain ⟨_, value, -, -, rfl⟩ := Draft.mem_listArguments_iff.mp hlist
      exact Or.inr ⟨value, rfl⟩
  · refine Binding.get?_addNameds_of_unique ((hmem _).mpr (Or.inr ?_)) fun other hother => ?_
    · exact Draft.mem_listArguments_iff.mpr ⟨i, value, hvalue, rfl, rfl⟩
    · rcases (hmem _).mp hother with haround | hlist
      · exact absurd ((hbound _).mp ⟨other, haround⟩)
          (hown i (List.getElem?_eq_some_iff.mp hvalue).1)
      · obtain ⟨j, value', hvalue', hname, rfl⟩ := Draft.mem_listArguments_iff.mp hlist
        obtain rfl := Draft.listParameter_injective key hname
        rw [Option.some.inj (hvalue'.symm.trans hvalue)]

/-- Where the names of the list stand, the arguments are its values. -/
theorem Binding.Aligned.around_list {b : Binding} {site : BindingSite} {h h' : History}
    {args : List Resolved}
    (haligned : b.Aligned site h h' args
      (.named (names ++ (List.range values.length).map (Draft.listParameter key) ++ names')))
    (hlength : args.length = names.length + values.length + names'.length)
    (hvalues : ∀ (i : Nat) value, values[i]? = some value →
      b.named.get? (Draft.listParameter key i) = some (.value value)) :
    ∃ front back,
      args = front ++ values.map (fun value => ⟨value, value.asNull, false⟩) ++ back ∧
      front.length = names.length ∧ back.length = names'.length := by
  have hmiddle : (args.drop names.length).take values.length =
      values.map fun value => ⟨value, value.asNull, false⟩ := by
    refine List.ext_getElem? fun i => ?_
    rw [List.getElem?_map]
    cases hvalue : values[i]? with
    | none =>
        have hi := List.getElem?_eq_none_iff.mp hvalue
        exact List.getElem?_eq_none (by rw [List.length_take]; omega)
    | some value =>
        have hi := (List.getElem?_eq_some_iff.mp hvalue).1
        have hname : (names ++ (List.range values.length).map (Draft.listParameter key) ++
            names')[names.length + i]? = some (Draft.listParameter key i) := by
          rw [List.append_assoc, List.getElem?_append_right (Nat.le_add_right _ _),
            Nat.add_sub_cancel_left, List.getElem?_append_left (by simpa using hi)]
          simp [hi]
        rw [List.getElem?_take_of_lt hi, List.getElem?_drop]
        exact haligned.getElem?_of_value hname (hvalues i value hvalue)
  refine ⟨args.take names.length, args.drop (names.length + values.length), ?_, ?_, ?_⟩
  · rw [← hmiddle, ← List.drop_drop, List.append_assoc, List.take_append_drop,
      List.take_append_drop]
  · rw [List.length_take, hlength]
    omega
  · rw [List.length_drop, hlength]
    omega

end

/-- Binding a list works end to end. A statement whose template has a list between brackets, with a
text before that is empty or ends in plain text with a blank and any text behind, renders when
exactly the names of the two texts are bound besides. Its SQL is that of the two texts with a
placeholder for each value between brackets, its names are theirs with those of the list between
them, and there the arguments are the values in their order. -/
theorem list_statement_renders (config : Config) (front back key : String)
    (frontQuery backQuery : Query) (values : List Value)
    (before after : List (String × Argument)) (S : Session)
    (hstyle : config.style ∈ [Style.colon, .hash, .dollar]) (hengine : config.engine = .attributes)
    (hstrict : config.allowUnused = false)
    (hcache : (S.cacheAt config.cache).Reached config.style)
    (hkey : Draft.isListKey key = true) (hvalues : values ≠ [])
    (hfront : Surrounding config.style front frontQuery) (hends : EndsInBlank config.style front)
    (hback : Surrounding config.style back backQuery)
    (hbound : ∀ name, (∃ argument, (name, argument) ∈ before ++ after) ↔
      name ∈ frontQuery.parameters.names ++ backQuery.parameters.names)
    (hown : ∀ i < values.length, Draft.listParameter key i ∉
      frontQuery.parameters.names ++ backQuery.parameters.names)
    (hanswers : ∀ name supplier h, (name, .supplier supplier) ∈ before ++ after →
      ∃ value, supplier.answer h = .ok value) :
    ∃ st rendered S',
      (BindCall.ofNameds before ++ .list key values :: BindCall.ofNameds after).foldlM
        Statement.apply (Statement.create config (front ++ "(<" ++ key ++ ">)" ++ back)) =
          .ok st ∧
      st.render.run S = (.ok rendered, S') ∧
      rendered.entry.query.sql = frontQuery.sql ++
        ("(" ++ ",".intercalate (List.replicate values.length "?") ++ ")") ++ backQuery.sql ∧
      rendered.entry.query.parameters = .named (frontQuery.parameters.names ++
        (List.range values.length).map (Draft.listParameter key) ++
          backQuery.parameters.names) ∧
      ∃ frontArgs backArgs,
        rendered.arguments = frontArgs ++
          values.map (fun value => ⟨value, value.asNull, false⟩) ++ backArgs ∧
        frontArgs.length = frontQuery.parameters.names.length ∧
        backArgs.length = backQuery.parameters.names.length := by
  obtain ⟨text, hprepared⟩ := Config.prepared_list config.attributes hstyle hengine hkey
    (mt List.eq_nil_of_length_eq_zero hvalues) hfront hends hback
  let st : Statement := ⟨front ++ "(<" ++ key ++ ">)" ++ back, config,
    ⟨Binding.empty.addNameds (before ++ Draft.listArguments key values ++ after),
      config.attributes.define key (Draft.listMarkers config.style key values.length)⟩⟩
  -- What is bound after the calls are the names that are declared.
  obtain ⟨hdeclared, hsources, hlist⟩ := Binding.get?_around_list hbound hown
  have hsupplied : ∀ name supplier h,
      st.draft.binding.named.get? name = some (.supplier supplier) →
        ∃ value, supplier.answer h = .ok value := by
    intro name supplier h hget
    rcases hsources name _ hget with haround | ⟨value, hvalue⟩
    · exact hanswers name supplier h haround
    · exact absurd hvalue (by simp)
  obtain ⟨args, h', hanswer, hlength, haligned⟩ := st.draft.binding.answer_of_exact
    ⟨text, frontQuery.withList key values.length backQuery, st.draft.attributes⟩ rfl
    (Binding.finders_addNameds _ _) (fun i => by rw [Binding.positional_addNameds]; rfl) hdeclared
    hsupplied S.history
  rw [← hstrict] at hanswer
  obtain ⟨entry, S', hentry, hrun⟩ := st.render_of_answer hcache.faithful hprepared hanswer
  refine ⟨st, ⟨entry, args⟩, S', ?_, hrun, congrArg Query.sql hentry,
    congrArg Query.parameters hentry, haligned.around_list ?_ hlist⟩
  · exact Statement.apply_around_list _ hkey hvalues before after
  · rw [hlength, List.length_append, List.length_append, List.length_map, List.length_range]

/-- A key that begins with a dot, between a name and a literal and a comment that look like markers
and references. -/
theorem list_statement_renders_dotted :
    let S := Session.empty.addCache (.ofCapacity 1)
    let one : Value := .varchar (some "1")
    let two : Value := .varchar (some "2")
    ∃ st rendered S' first,
      [BindCall.named "x" (.value one), .list ".a" [one, two]].foldlM Statement.apply
        (Statement.create (.standard 0) "select :x in (<.a>) or z = ':n' -- <b>") = .ok st ∧
      st.render.run S = (.ok rendered, S') ∧
      rendered.entry.query =
        ⟨"select ? in (?,?) or z = ':n' -- <b>", .named ["x", "__.a_0", "__.a_1"]⟩ ∧
      rendered.arguments = first :: [⟨one, one.asNull, false⟩, ⟨two, two.asNull, false⟩] := by
  intro S one two
  have hlex : lex .colon "select :x in " = [.ok ⟨.literal, "select ".toList, 0⟩,
      .ok ⟨.named, "x".toList, 7⟩, .ok ⟨.literal, " in ".toList, 9⟩] := by cbv
  have hlex' : lex .colon " or z = ':n' -- <b>" = [.ok ⟨.literal, " or z = ".toList, 0⟩,
      .ok ⟨.quoted, "':n'".toList, 8⟩, .ok ⟨.literal, " ".toList, 12⟩,
      .ok ⟨.comment, "-- <b>".toList, 13⟩] := by cbv
  have hfront : Surrounding .colon "select :x in " ⟨"select ? in ", .named ["x"]⟩ := by
    refine ⟨by cbv, by simp, ?_⟩
    rw [hlex]
    intro t ht
    refine .of_not_mem ?_
    simp only [List.mem_cons, List.not_mem_nil, or_false, Except.ok.injEq] at ht
    rcases ht with rfl | rfl | rfl <;> decide
  have hback : Surrounding .colon " or z = ':n' -- <b>"
      ⟨" or z = ':n' -- <b>", .positional 0⟩ := by
    refine ⟨by cbv, by simp, ?_⟩
    rw [hlex']
    intro t ht
    refine .of_not_mem ?_
    simp only [List.mem_cons, List.not_mem_nil, or_false, Except.ok.injEq] at ht
    rcases ht with rfl | rfl | rfl | rfl <;> decide
  have hends : EndsInBlank .colon "select :x in " :=
    Or.inr ⟨[.ok ⟨.literal, "select ".toList, 0⟩, .ok ⟨.named, "x".toList, 7⟩],
      ⟨.literal, " in ".toList, 9⟩, hlex, rfl, ' ', rfl, by cbv⟩
  obtain ⟨st, rendered, S', hcalls, hrun, hsql, hparameters, frontArgs, backArgs, hargs, hlength,
    hlength'⟩ := list_statement_renders (.standard 0) "select :x in " " or z = ':n' -- <b>" ".a"
      _ _ [one, two] [("x", .value one)] [] S (by decide) rfl rfl (.empty rfl) (by decide)
      (by simp) hfront hends hback (by simp [Parameters.names]) (by decide) (by simp)
  obtain ⟨first, rfl⟩ := List.length_eq_one_iff.mp hlength
  obtain rfl := List.eq_nil_of_length_eq_zero hlength'
  refine ⟨st, rendered, S', first, hcalls, hrun, ?_, by simpa using hargs⟩
  rw [show rendered.entry.query = ⟨rendered.entry.query.sql, rendered.entry.query.parameters⟩
    from rfl, hsql, hparameters]
  cbv

end SqlTemplate
