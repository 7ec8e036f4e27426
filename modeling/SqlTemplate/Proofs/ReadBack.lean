import SqlTemplate.Proofs.QueryFold
import SqlTemplate.Proofs.TokenSequences

/-!
# A query reads back as its placeholders

The SQL of a query is itself a template: read in the same style it has one positional marker for
each parameter and the other tokens as they were. Putting a question mark in the place of a name can
only go wrong where the mark meets another one behind it, and where a backslash has been dropped.
-/

namespace SqlTemplate

open Lexer (InClass InClasses Opens openings)

namespace Token

/-- The token with a positional marker in place of a named one. -/
def positioned (t : Token) : Token :=
  if t.kind = .named then { t with kind := .positional, text := ['?'] } else t

/-- Whether a question mark in place of the first token would be read together with the second. -/
def Fuses (t u : Token) : Prop :=
  t.kind = .named ∧ (u.kind = .named ∨ u.kind = .literal ∧ u.text = ['?', '?'])

instance (t u : Token) : Decidable (Fuses t u) :=
  inferInstanceAs (Decidable (_ ∧ (_ ∨ _ ∧ _)))

theorem positioned_of_named {t : Token} (hkind : t.kind = .named) :
    t.positioned = { t with kind := .positional, text := ['?'] } := if_pos hkind

theorem positioned_of_not_named {t : Token} (hkind : t.kind ≠ .named) : t.positioned = t :=
  if_neg hkind

theorem positioned_ne_named (t : Token) : t.positioned.kind ≠ .named := by
  by_cases hkind : t.kind = .named
  · rw [positioned_of_named hkind]
    simp
  · rwa [positioned_of_not_named hkind]

theorem isMarker_positioned (t : Token) : t.positioned.isMarker = t.isMarker := by
  by_cases hkind : t.kind = .named
  · rw [positioned_of_named hkind, isMarker, isMarker, hkind]
    rfl
  · rw [positioned_of_not_named hkind]

theorem rewritten_positioned (t : Token) : t.positioned.rewritten = t.rewritten := by
  by_cases hkind : t.kind = .named
  · rw [positioned_of_named hkind]
    simp [rewritten, isMarker, hkind]
  · rw [positioned_of_not_named hkind]

end Token

open Token (Unmixed Fuses)

namespace Lexer

/-- Only a positional marker and a doubled question mark begin with one. -/
theorem InClass.of_head_mark {s : Style} {kind : TokenKind} {text after : List Char}
    (hclass : InClass s kind text after) (hhead : (Token.sourceOf s kind text).head? = some '?') :
    kind = .positional ∨ kind = .literal ∧ text = ['?', '?'] := by
  obtain ⟨-, -, -, -, -, hmark⟩ := sigil_ne_reserved s
  cases hclass with
  | quoted hquote => rcases hquote with rfl | rfl <;> simp [Token.sourceOf] at hhead
  | positional => exact Or.inl rfl
  | doubledMark => exact Or.inr ⟨rfl, rfl⟩
  | run hne hchars =>
      obtain ⟨c, cs, rfl⟩ := List.exists_cons_of_ne_nil hne
      obtain rfl : c = '?' := by simpa [Token.sourceOf] using hhead
      exact absurd (hchars '?' (by simp)) (by simp)
  | _ => simp [Token.sourceOf, hmark] at hhead

theorem opens_mark (s : Style) (after : List Char) : Opens s ('?' :: after) :=
  ⟨['?'], by simp [openings], by simp⟩

/-- A token in front of a named marker stays one in front of a question mark. -/
theorem InClass.before_mark {s : Style} {kind : TokenKind} {text after : List Char}
    (hclass : InClass s kind text (s.sigil :: after)) (hnamed : kind ≠ .named)
    (hpositional : kind ≠ .positional) (after' : List Char) :
    InClass s kind text ('?' :: after') := by
  cases hclass with
  | quoted hquote hbody => exact .quoted hquote hbody
  | line hinside hbehind =>
      -- A line break cannot be a sigil.
      have hsigil := s.admitted
      rcases hbehind s.sigil rfl with hend | hend
      · rw [hend] at hsigil
        exact absurd hsigil (by decide)
      · rw [hend] at hsigil
        exact absurd hsigil (by decide)
  | block hbody => exact .block hbody
  | escaped => exact .escaped
  | named => exact absurd rfl hnamed
  | positional => exact absurd rfl hpositional
  | doubledSigil => exact .doubledSigil
  | doubledMark => exact .doubledMark
  | sigil hnext => exact absurd rfl (hnext s.sigil rfl).2.2
  | run hne hchars hline hblock =>
      have hrun : PlainRun s (s.sigil :: after) text := plainRun_iff.mpr ⟨hchars, hline, hblock⟩
      have hrun' : PlainRun s ('?' :: after') text := hrun.of_head (by simp) (by simp)
      obtain ⟨hchars, hline, hblock⟩ := plainRun_iff.mp hrun'
      exact .run hne hchars hline hblock (Or.inr (opens_mark s after'))

/-- A token stays in its class when it and those behind it get positional markers. -/
theorem InClass.positioned {s : Style} {t : Token} {tokens : List Token}
    (hclass : InClass s t.kind t.text (Token.sources s tokens)) (hclasses : InClasses s [] tokens)
    (hpositional : ∀ u ∈ t :: tokens, u.kind ≠ .positional)
    (hapart : ∀ u ∈ tokens.head?, ¬ Fuses t u) :
    InClass s t.positioned.kind t.positioned.text
      (Token.sources s (tokens.map Token.positioned)) := by
  cases tokens with
  | nil =>
      by_cases hnamed : t.kind = .named
      · rw [Token.positioned_of_named hnamed]
        exact .positional (by simp [Token.sources])
      · rwa [Token.positioned_of_not_named hnamed]
  | cons u tokens =>
      have hfuses : ¬ Fuses t u := hapart u rfl
      have hclassU := hclasses.1
      have hne : u.source s ≠ [] := hclassU.source_ne_nil
      rw [Token.sources_cons] at hclass
      rw [List.map_cons, Token.sources_cons]
      by_cases hnamed : t.kind = .named
      · -- Behind a name comes nothing that could take the question mark up.
        have hnext : u.kind ≠ .named := fun h => hfuses ⟨hnamed, Or.inl h⟩
        rw [Token.positioned_of_named hnamed, Token.positioned_of_not_named hnext]
        refine .positional fun hhead => ?_
        rw [List.head?_append_of_ne_nil _ hne] at hhead
        rcases hclassU.of_head_mark hhead with hkind | hdoubled
        · exact hpositional u (by simp) hkind
        · exact hfuses ⟨hnamed, Or.inr hdoubled⟩
      · rw [Token.positioned_of_not_named hnamed]
        by_cases hnext : u.kind = .named
        · rw [Token.source, hnext] at hclass
          rw [Token.positioned_of_named hnext]
          exact hclass.before_mark hnamed (hpositional t (by simp)) _
        · rw [Token.positioned_of_not_named hnext]
          refine hclass.of_lookahead ?_ (fun hopens => ?_) (absurd · hnamed)
          · rw [List.head?_append_of_ne_nil _ hne, List.head?_append_of_ne_nil _ hne]
          · rw [← List.append_nil (Token.sources s tokens)] at hopens
            exact hclassU.opens_append _ hopens

/-- Tokens stay in their classes when the named markers become positional ones. -/
theorem InClasses.positioned {s : Style} {tokens : List Token} (hclasses : InClasses s [] tokens)
    (hpositional : ∀ t ∈ tokens, t.kind ≠ .positional) (hapart : tokens.IsChain (¬ Fuses · ·)) :
    InClasses s [] (tokens.map Token.positioned) := by
  induction tokens with
  | nil => trivial
  | cons t tokens ih =>
      obtain ⟨hclass, hclasses⟩ := hclasses
      have hrest : ∀ u ∈ tokens, u.kind ≠ .positional := (List.forall_mem_cons.mp hpositional).2
      refine ⟨?_, ih hclasses hrest hapart.tail⟩
      rw [List.append_nil] at hclass ⊢
      exact hclass.positioned hclasses hpositional (List.isChain_cons.mp hapart).1

/-- A token with a positional marker is read from what stands in a query for it, unless a backslash
has been dropped there. -/
theorem InClass.source_positioned {s : Style} {t : Token} {after : List Char}
    (hclass : InClass s t.kind t.text after) (hescaped : t.kind ≠ .escaped) :
    t.positioned.source s = t.rewritten := by
  obtain ⟨kind, text, offset⟩ := t
  cases hclass with
  | escaped => exact absurd rfl hescaped
  | _ => rfl

/-- The source of the tokens with positional markers is the SQL that they stand for. -/
theorem InClasses.sources_positioned {s : Style} {rest : List Char} {tokens : List Token}
    (hclasses : InClasses s rest tokens) (hescaped : ∀ t ∈ tokens, t.kind ≠ .escaped) :
    Token.sources s (tokens.map Token.positioned) = tokens.flatMap Token.rewritten := by
  induction tokens with
  | nil => rfl
  | cons t tokens ih =>
      obtain ⟨hclass, hclasses⟩ := hclasses
      obtain ⟨hhead, htail⟩ := List.forall_mem_cons.mp hescaped
      rw [List.map_cons, Token.sources_cons, hclass.source_positioned hhead, ih hclasses htail,
        List.flatMap_cons]

end Lexer

namespace Token

/-- The markers do not depend on where the tokens are. -/
theorem markers_place (s : Style) (start : Nat) (tokens : List Token) :
    markers (place s start tokens) = markers tokens := by
  have hshapes : ∀ tokens : List Token, markers tokens =
      (tokens.map fun t => (t.kind, t.text)).filter
        fun m => m.1 == .named || m.1 == .positional := by
    intro tokens
    rw [List.filter_map]
    rfl
  rw [hshapes, hshapes, map_place s _ fun _ _ => rfl]

theorem unmixed_positioned (tokens : List Token) : Unmixed (tokens.map positioned) := by
  refine Or.inr fun t ht hmarker => ?_
  obtain ⟨u, -, rfl⟩ := List.mem_map.mp ht
  exact (isMarker_iff.mp hmarker).resolve_left u.positioned_ne_named

theorem map_positioned_of_positional {tokens : List Token}
    (hpositional : ∀ t ∈ tokens, t.isMarker → t.kind = .positional) :
    tokens.map positioned = tokens := by
  have hsame : ∀ t ∈ tokens, t.positioned = t := by
    intro t ht
    refine positioned_of_not_named fun hkind => ?_
    rw [hpositional t ht (isMarker_iff.mpr (Or.inl hkind))] at hkind
    exact absurd hkind (by decide)
  rw [List.map_congr_left hsame, List.map_id']

theorem ne_positional_of_named {tokens : List Token}
    (hnamed : ∀ t ∈ tokens, t.isMarker → t.kind = .named) :
    ∀ t ∈ tokens, t.kind ≠ .positional := by
  intro t ht hkind
  rw [hnamed t ht (isMarker_iff.mpr (Or.inr hkind))] at hkind
  exact absurd hkind (by decide)

end Token

/-- The SQL of a query is read as the tokens of its template with positional markers. -/
theorem lex_sql {s : Style} {template : String} {tokens : List Token}
    (hlex : lex s template = tokens.map .ok) (hunmixed : Unmixed tokens)
    (hescaped : ∀ t ∈ tokens, t.kind ≠ .escaped) (hapart : tokens.IsChain (¬ Fuses · ·)) :
    lex s (Query.ofTokens tokens).sql =
      (Token.place s 0 (tokens.map Token.positioned)).map .ok := by
  obtain ⟨-, hclasses, -⟩ := lex_eq_tokens_iff.mp hlex
  refine lex_of_inClasses ?_ ?_
  · rw [Query.ofTokens, String.toList_ofList, hclasses.sources_positioned hescaped]
  · rcases hunmixed with hnamed | hpositional
    · exact hclasses.positioned (Token.ne_positional_of_named hnamed) hapart
    · rwa [Token.map_positioned_of_positional hpositional]

theorem Query.ofTokens_place (s : Style) (start : Nat) (tokens : List Token) :
    ofTokens (Token.place s start tokens) = ofTokens tokens := by
  rw [ofTokens, ofTokens, Parameters.ofTokens_congr (Token.markers_place s start tokens),
    List.flatMap_def, List.flatMap_def, Token.map_place s Token.rewritten fun _ _ => rfl]

/-- The query of tokens with positional markers has the same SQL and a positional parameter for each
of theirs. -/
theorem Query.ofTokens_positioned {tokens : List Token} (hunmixed : Unmixed tokens) :
    ofTokens (tokens.map Token.positioned) =
      ⟨(ofTokens tokens).sql, .positional (ofTokens tokens).parameters.size⟩ := by
  have hsql : (tokens.map Token.positioned).flatMap Token.rewritten =
      tokens.flatMap Token.rewritten := by
    rw [List.flatMap_map]
    exact List.flatMap_congr fun t _ => t.rewritten_positioned
  have hnone : (tokens.map Token.positioned).any (·.kind == .named) = false := by
    rw [List.any_eq_false]
    intro t ht
    obtain ⟨u, -, rfl⟩ := List.mem_map.mp ht
    simpa using u.positioned_ne_named
  have hcount : (tokens.map Token.positioned).countP Token.isMarker =
      tokens.countP Token.isMarker := by
    rw [List.countP_map]
    exact List.countP_congr fun t _ => by rw [Function.comp_apply, t.isMarker_positioned]
  rw [ofTokens, ofTokens, hsql, Parameters.size_ofTokens hunmixed, Parameters.ofTokens,
    if_neg (by simp [hnone]), hcount]

/-- A query reads back as having one placeholder for each parameter. When no backslash is dropped
and no marker runs into a mark behind it, its SQL is read as the tokens of the template with
positional markers. So the SQL is its own query, with as many positional parameters, and to rewrite
a template twice is to rewrite it once. -/
theorem query_reads_back (s : Style) (template : String) (query : Query) (tokens : List Token)
    (hquery : Query.ofTemplate s template = .ok query) (hlex : lex s template = tokens.map .ok)
    (hescaped : ∀ t ∈ tokens, t.kind ≠ .escaped) (hapart : tokens.IsChain (¬ Fuses · ·)) :
    lex s query.sql = (Token.place s 0 (tokens.map Token.positioned)).map .ok ∧
    Query.ofTemplate s query.sql = .ok ⟨query.sql, .positional query.parameters.size⟩ ∧
    (Query.ofTemplate s template >>= fun q => Query.ofTemplate s q.sql).map Query.sql =
      (Query.ofTemplate s template).map Query.sql := by
  obtain ⟨tokens', hlex', hunmixed, rfl⟩ := Query.ofTemplate_eq_ok_iff.mp hquery
  obtain rfl : tokens' = tokens := by
    rw [hlex] at hlex'
    exact (List.map_injective_iff.mpr (fun _ _ => Except.ok.inj) hlex').symm
  have hback := lex_sql hlex hunmixed hescaped hapart
  have hmarkers := Token.markers_place s 0 (tokens'.map Token.positioned)
  have hunmixed' := (Token.unmixed_congr hmarkers).mpr (Token.unmixed_positioned tokens')
  have hagain := Query.ofTemplate_of_tokens hback hunmixed'
  rw [Query.ofTokens_place, Query.ofTokens_positioned hunmixed] at hagain
  refine ⟨hback, hagain, ?_⟩
  rw [hquery]
  show (Query.ofTemplate s (Query.ofTokens tokens').sql).map Query.sql = _
  rw [hagain]
  rfl

/-- Marks in a literal, a comment and doubled ones stay what they are beside two placeholders. -/
theorem query_reads_back_mixed :
    Query.ofTemplate .colon "select :a::int, '?' ?? :b -- :c" =
      .ok ⟨"select ?::int, '?' ?? ? -- :c", .named ["a", "b"]⟩ ∧
    Query.ofTemplate .colon "select ?::int, '?' ?? ? -- :c" =
      .ok ⟨"select ?::int, '?' ?? ? -- :c", .positional 2⟩ := by
  have hquery : Query.ofTemplate .colon "select :a::int, '?' ?? :b -- :c" =
      .ok ⟨"select ?::int, '?' ?? ? -- :c", .named ["a", "b"]⟩ := by cbv
  have hback := query_reads_back .colon "select :a::int, '?' ?? :b -- :c"
    ⟨"select ?::int, '?' ?? ? -- :c", .named ["a", "b"]⟩
    [⟨.literal, "select ".toList, 0⟩, ⟨.named, ['a'], 7⟩, ⟨.literal, "::".toList, 9⟩,
      ⟨.literal, "int, ".toList, 11⟩, ⟨.quoted, "'?'".toList, 16⟩, ⟨.literal, [' '], 19⟩,
      ⟨.literal, "??".toList, 20⟩, ⟨.literal, [' '], 22⟩, ⟨.named, ['b'], 23⟩,
      ⟨.literal, [' '], 25⟩, ⟨.comment, "-- :c".toList, 26⟩]
    hquery (by cbv) (by decide) (by decide)
  exact ⟨hquery, hback.2.1⟩

end SqlTemplate
