import SqlTemplate.Proofs.Concatenation

/-!
# Names of parameters

A query does not show what its parameters are called. Other names can be given to the named markers
of a template, longer or shorter ones: the tokens between the markers see no more of a marker than
its sigil, and what ended the old name ends the new one. So only the list of the names changes.
-/

namespace SqlTemplate

open Lexer

namespace Token

/-- The token with another name, if it is a named marker. -/
def renamed (r : String → String) (t : Token) : Token :=
  if t.kind = .named then { t with text := (r (String.ofList t.text)).toList } else t

variable {r : String → String} {t : Token}

theorem renamed_of_named (hkind : t.kind = .named) :
    t.renamed r = { t with text := (r (String.ofList t.text)).toList } := if_pos hkind

theorem renamed_of_not_named (hkind : t.kind ≠ .named) : t.renamed r = t := if_neg hkind

theorem kind_renamed (r : String → String) (t : Token) : (t.renamed r).kind = t.kind := by
  by_cases hkind : t.kind = .named
  · rw [renamed_of_named hkind]
  · rw [renamed_of_not_named hkind]

/-- A query has the same text for a marker whatever its name is. -/
theorem rewritten_renamed (r : String → String) (t : Token) :
    (t.renamed r).rewritten = t.rewritten := by
  by_cases hkind : t.kind = .named
  · have hmarker : t.isMarker = true := isMarker_iff.mpr (Or.inl hkind)
    rw [rewritten, isMarker_congr (kind_renamed r t), rewritten, if_pos hmarker, if_pos hmarker]
  · rw [renamed_of_not_named hkind]

end Token

namespace Lexer

variable {s : Style} {rest : List Char} {tokens : List Token}

/-- Of what follows a token only the names change, so it begins as before. -/
theorem head?_sources_renamed (r : String → String) (hclasses : InClasses s rest tokens) :
    (Token.sources s (tokens.map (Token.renamed r)) ++ rest).head? =
      (Token.sources s tokens ++ rest).head? := by
  cases tokens with
  | nil => rfl
  | cons t tokens =>
      rw [List.map_cons, Token.sources_cons, Token.sources_cons, List.append_assoc,
        List.append_assoc]
      by_cases hkind : t.kind = .named
      · rw [Token.renamed_of_named hkind, Token.source, Token.source, hkind]
        rfl
      · have hne : t.source s ≠ [] := hclasses.1.source_ne_nil
        rw [Token.renamed_of_not_named hkind, List.head?_append_of_ne_nil _ hne,
          List.head?_append_of_ne_nil _ hne]

theorem opens_sources_renamed (r : String → String) (hclasses : InClasses s rest tokens)
    (hopens : Opens s (Token.sources s tokens ++ rest)) :
    Opens s (Token.sources s (tokens.map (Token.renamed r)) ++ rest) := by
  cases tokens with
  | nil => exact hopens
  | cons t tokens =>
      rw [List.map_cons, Token.sources_cons, List.append_assoc]
      by_cases hkind : t.kind = .named
      · rw [Token.renamed_of_named hkind, Token.source, hkind]
        exact opens_sigil s _
      · rw [Token.sources_cons, List.append_assoc] at hopens
        rw [Token.renamed_of_not_named hkind]
        exact hclasses.1.opens_append _ hopens

/-- A sigil does not belong to a name. -/
theorem not_extendsName_sigil (s : Style) (cs : List Char) : ¬ ExtendsName (s.sigil :: cs) := by
  rintro ⟨c, rest, hc, heq | heq⟩
  · obtain ⟨rfl, -⟩ := List.cons.inj heq
    rw [s.sigil_not_nameChar] at hc
    exact absurd hc (by decide)
  · exact s.sigil_ne_of_reserved (by decide) (List.cons.inj heq).1

/-- No name goes on into a text that it did not go on into before. -/
theorem extendsName_of_renamed {r : String → String} (hclasses : InClasses s rest tokens)
    (hextends : ExtendsName (Token.sources s (tokens.map (Token.renamed r)) ++ rest)) :
    ExtendsName (Token.sources s tokens ++ rest) := by
  cases tokens with
  | nil => exact hextends
  | cons t tokens =>
      rw [List.map_cons, Token.sources_cons, List.append_assoc] at hextends
      by_cases hkind : t.kind = .named
      · rw [Token.renamed_of_named hkind, Token.source, hkind] at hextends
        exact absurd hextends (not_extendsName_sigil s _)
      · rw [Token.renamed_of_not_named hkind] at hextends
        rw [Token.sources_cons, List.append_assoc]
        exact hextends.of_append hclasses.1.source_ne_nil (head?_sources_renamed r hclasses.2)

/-- Tokens stay in their classes when the named markers get other names. -/
theorem InClasses.renamed {r : String → String} (hclasses : InClasses s rest tokens)
    (hr : ∀ t ∈ tokens, t.kind = .named → DottedName (r (String.ofList t.text)).toList) :
    InClasses s rest (tokens.map (Token.renamed r)) := by
  induction tokens with
  | nil => trivial
  | cons t tokens ih =>
      obtain ⟨hclass, hclasses⟩ := hclasses
      obtain ⟨hname, hr⟩ := List.forall_mem_cons.mp hr
      refine ⟨?_, ih hclasses hr⟩
      have hhead := head?_sources_renamed r hclasses
      by_cases hkind : t.kind = .named
      · rw [Token.renamed_of_named hkind, hkind]
        rw [hkind] at hclass
        cases hclass with
        | named _ hend hforeign =>
            rw [← hhead] at hforeign
            exact .named (hname hkind) (fun h => hend (extendsName_of_renamed hclasses h)) hforeign
      · rw [Token.renamed_of_not_named hkind]
        exact hclass.of_lookahead hhead.symm (opens_sources_renamed r hclasses)
          (fun h => absurd h hkind)

end Lexer

namespace Parameters

theorem namesOf_renamed (r : String → String) (tokens : List Token) :
    namesOf (tokens.map (Token.renamed r)) = (namesOf tokens).map r := by
  rw [namesOf, namesOf, List.filter_map, List.map_map, List.map_map]
  have hkinds : (fun t : Token => t.kind == .named) ∘ Token.renamed r = (·.kind == .named) := by
    funext t
    rw [Function.comp_apply, Token.kind_renamed]
  rw [hkinds]
  refine List.map_congr_left fun t ht => ?_
  have hkind : t.kind = .named := by simpa using (List.mem_filter.mp ht).2
  rw [Function.comp_apply, Token.renamed_of_named hkind, String.ofList_toList]
  rfl

end Parameters

/-- Named parameters are the names of named markers. -/
theorem Parameters.names_of_ofTokens {tokens : List Token} {names : List String}
    (hnamed : ofTokens tokens = .named names) :
    namesOf tokens ≠ [] ∧ namesOf tokens = names := by
  by_cases hnil : namesOf tokens = []
  · rw [ofTokens_of_namesOf_eq_nil hnil] at hnamed
    exact absurd hnamed (by simp)
  · rw [ofTokens_of_namesOf_ne_nil hnil] at hnamed
    exact ⟨hnil, Parameters.named.inj hnamed⟩

/-- The query of renamed tokens has the same SQL and the new names. -/
theorem Query.ofTokens_renamed {tokens : List Token} (r : String → String)
    (hnamed : Parameters.namesOf tokens ≠ []) :
    ofTokens (tokens.map (Token.renamed r)) =
      ⟨(ofTokens tokens).sql, .named ((Parameters.namesOf tokens).map r)⟩ := by
  have hsql : (tokens.map (Token.renamed r)).flatMap Token.rewritten =
      tokens.flatMap Token.rewritten := by
    rw [List.flatMap_map]
    exact List.flatMap_congr fun t _ => t.rewritten_renamed r
  have hnames := Parameters.namesOf_renamed r tokens
  rw [ofTokens, hsql, Parameters.ofTokens_of_namesOf_ne_nil (by simpa [hnames] using hnamed),
    hnames]
  rfl

/-- The marker of a name is read as that name exactly when it is a dotted name. -/
theorem lex_marker_iff (s : Style) (name : String) :
    lex s (s.marker name) = [.ok ⟨.named, name.toList, 0⟩] ↔ DottedName name.toList := by
  have htokens : ([.ok ⟨.named, name.toList, 0⟩] : List LexItem) =
      [(⟨.named, name.toList, 0⟩ : Token)].map .ok := rfl
  have hwhole : (s.marker name).toList = Token.sources s [⟨.named, name.toList, 0⟩] := by
    simp [Style.marker, Token.sources, Token.source, Token.sourceOf]
  rw [htokens, lex_eq_tokens_iff]
  constructor
  · rintro ⟨-, ⟨hclass, -⟩, -⟩
    cases hclass with
    | named hname => exact hname
  · intro hname
    refine ⟨hwhole, ⟨.named hname ?_ (by simp [Token.sources]), trivial⟩, rfl⟩
    rintro ⟨c, cs, -, heq | heq⟩ <;> simp [Token.sources] at heq

/-- Names do not leak into the query. When the named markers of a template get other dotted names,
the template with these has a query again, with the same SQL and the new names in the order of the
old ones. And the marker of a name is read back alone exactly when it is a dotted name. -/
theorem names_never_leak (s : Style) :
    (∀ (template : String) (query : Query) (names : List String) (tokens : List Token)
      (r : String → String), Query.ofTemplate s template = .ok query →
      query.parameters = .named names → lex s template = tokens.map .ok →
      (∀ name ∈ names, DottedName (r name).toList) →
      Query.ofTemplate s (String.ofList (Token.sources s (tokens.map (Token.renamed r)))) =
        .ok ⟨query.sql, .named (names.map r)⟩) ∧
    ∀ name : String,
      lex s (s.marker name) = [.ok ⟨.named, name.toList, 0⟩] ↔ DottedName name.toList := by
  refine ⟨?_, lex_marker_iff s⟩
  intro template query names tokens r hquery hnamed hlex hr
  obtain ⟨tokens', hlex', hunmixed, rfl⟩ := Query.ofTemplate_eq_ok_iff.mp hquery
  obtain rfl := tokens_unique hlex' hlex
  obtain ⟨hne, rfl⟩ := Parameters.names_of_ofTokens hnamed
  obtain ⟨-, hclasses, -⟩ := lex_eq_tokens_iff.mp hlex
  have hclasses' : InClasses s [] (tokens'.map (Token.renamed r)) := by
    refine hclasses.renamed fun t ht hkind => hr _ (List.mem_map_of_mem ?_)
    exact List.mem_filter.mpr ⟨ht, by simpa using hkind⟩
  rw [← Query.ofTokens_renamed r hne]
  exact Query.ofTemplate_of_inClasses String.toList_ofList hclasses' ⟨rfl, rfl⟩
    (hunmixed.map (Token.kind_renamed r))

/-- Names that repeat, beside a dot, a doubled sigil and each other, one of them grown by a segment
and one of them shortened. -/
theorem names_never_leak_repeated :
    let r := fun name : String => if name = "ab.c" then "x" else "ab.c.d"
    Query.ofTemplate .colon ":ab.c.:y:ab.c, '::y'::y" =
        .ok ⟨"?.??, '::y'::y", .named ["ab.c", "y", "ab.c"]⟩ ∧
      (∀ name ∈ ["ab.c", "y", "ab.c"], DottedName (r name).toList) ∧
      Query.ofTemplate .colon ":x.:ab.c.d:x, '::y'::y" =
        .ok ⟨"?.??, '::y'::y", .named ["x", "ab.c.d", "x"]⟩ ∧
      lex .colon (Style.colon.marker "ab.c") = [.ok ⟨.named, "ab.c".toList, 0⟩] := by
  intro r
  have hquery : Query.ofTemplate .colon ":ab.c.:y:ab.c, '::y'::y" =
      .ok ⟨"?.??, '::y'::y", .named ["ab.c", "y", "ab.c"]⟩ := by cbv
  let tokens : List Token := [⟨.named, "ab.c".toList, 0⟩, ⟨.literal, ['.'], 5⟩,
    ⟨.named, ['y'], 6⟩, ⟨.named, "ab.c".toList, 8⟩, ⟨.literal, ", ".toList, 13⟩,
    ⟨.quoted, "'::y'".toList, 15⟩, ⟨.literal, "::".toList, 20⟩, ⟨.literal, ['y'], 22⟩]
  have hlex : lex .colon ":ab.c.:y:ab.c, '::y'::y" = tokens.map .ok := by cbv
  have hshort : DottedName "x".toList := .single (by decide)
  have hold : DottedName "ab.c".toList :=
    .letter (by decide) (.dot (by decide) (.single (by decide)))
  have hlong : DottedName "ab.c.d".toList :=
    .letter (by decide) (.dot (by decide) (.dot (by decide) (.single (by decide))))
  have hr : ∀ name ∈ ["ab.c", "y", "ab.c"], DottedName (r name).toList := by
    simp only [List.forall_mem_cons, List.not_mem_nil, false_implies, implies_true, and_true]
    exact ⟨hshort, hlong, hshort⟩
  obtain ⟨hrenamed, hmarker⟩ := names_never_leak .colon
  have hnames : ["ab.c", "y", "ab.c"].map r = ["x", "ab.c.d", "x"] := by cbv
  have htemplate : String.ofList (Token.sources .colon (tokens.map (Token.renamed r))) =
      ":x.:ab.c.d:x, '::y'::y" := by cbv
  have hnew := hrenamed _ _ _ tokens r hquery rfl hlex hr
  rw [htemplate, hnames] at hnew
  exact ⟨hquery, hr, hnew, (hmarker "ab.c").mpr hold⟩

end SqlTemplate
