import Mathlib.Data.List.Induction
import SqlTemplate.Proofs.Lossless
import SqlTemplate.Query

/-!
# A query is the fold of its tokens

The query of a template said from the tokens alone: their texts in order with a question mark for
each marker, and the markers as parameters. The builder reaches it one token at a time; it stops at
a marker of another kind than the first one, or where the lexer stops, whichever comes first.
-/

namespace SqlTemplate

namespace Token

/-- What stands in a query for the token. -/
def rewritten (t : Token) : List Char :=
  if t.isMarker then ['?'] else t.text

/-- Whether the markers are all named or all positional. -/
def Unmixed (tokens : List Token) : Prop :=
  (∀ t ∈ tokens, t.isMarker → t.kind = .named) ∨ ∀ t ∈ tokens, t.isMarker → t.kind = .positional

/-- Whether the token is a marker of another kind than the first marker before it. -/
def Mixes (before : List Token) (t : Token) : Prop :=
  t.isMarker ∧ ∃ m, before.find? isMarker = some m ∧ t.kind ≠ m.kind

theorem isMarker_iff {t : Token} : t.isMarker = true ↔ t.kind = .named ∨ t.kind = .positional := by
  simp [isMarker]

theorem isMarker_congr {t u : Token} (hkind : t.kind = u.kind) : t.isMarker = u.isMarker := by
  rw [isMarker, isMarker, hkind]

/-- Only the kinds of tokens decide whether they are mixed. -/
theorem Unmixed.map {f : Token → Token} {tokens : List Token} (hf : ∀ t, (f t).kind = t.kind)
    (hunmixed : Unmixed tokens) : Unmixed (tokens.map f) := by
  simpa only [Unmixed, List.forall_mem_map, isMarker_congr (hf _), hf] using hunmixed

theorem Mixes.map {f : Token → Token} {before : List Token} {t : Token}
    (hf : ∀ t, (f t).kind = t.kind) (hmixes : Mixes before t) : Mixes (before.map f) (f t) := by
  obtain ⟨hmarker, m, hfirst, hother⟩ := hmixes
  have hmarkers : isMarker ∘ f = isMarker := funext fun u => isMarker_congr (hf u)
  refine ⟨(isMarker_congr (hf t)).trans hmarker, f m, ?_, ?_⟩
  · rw [List.find?_map, hmarkers, hfirst, Option.map_some]
  · rwa [hf, hf]

theorem Unmixed.of_append {tokens others : List Token} (hunmixed : Unmixed (tokens ++ others)) :
    Unmixed tokens := by
  rcases hunmixed with hnamed | hpositional
  · exact Or.inl fun t ht => hnamed t (List.mem_append_left _ ht)
  · exact Or.inr fun t ht => hpositional t (List.mem_append_left _ ht)

theorem Unmixed.same_kind {tokens : List Token} (hunmixed : Unmixed tokens) {t u : Token}
    (ht : t ∈ tokens) (hu : u ∈ tokens) (ht' : t.isMarker = true) (hu' : u.isMarker = true) :
    t.kind = u.kind := by
  rcases hunmixed with hall | hall
  · rw [hall t ht ht', hall u hu hu']
  · rw [hall t ht ht', hall u hu hu']

theorem unmixed_of_ne_positional {tokens : List Token}
    (hnamed : ∀ t ∈ tokens, t.kind ≠ .positional) : Unmixed tokens :=
  Or.inl fun t ht hmarker => (isMarker_iff.mp hmarker).resolve_right (hnamed t ht)

theorem unmixed_iff_first {tokens : List Token} :
    Unmixed tokens ↔
      ∀ m, tokens.find? isMarker = some m → ∀ t ∈ tokens, t.isMarker → t.kind = m.kind := by
  constructor
  · intro hunmixed m hfirst t ht hmarker
    exact hunmixed.same_kind ht (List.mem_of_find?_eq_some hfirst) hmarker
      (List.find?_some hfirst)
  · intro hsame
    cases hfirst : tokens.find? isMarker with
    | none => exact Or.inl fun t ht hmarker => absurd hmarker (List.find?_eq_none.mp hfirst t ht)
    | some m =>
        rcases isMarker_iff.mp (List.find?_some hfirst) with hkind | hkind
        · exact Or.inl fun t ht hmarker => (hsame m hfirst t ht hmarker).trans hkind
        · exact Or.inr fun t ht hmarker => (hsame m hfirst t ht hmarker).trans hkind

/-- Tokens stay unmixed until a token mixes them. -/
theorem Unmixed.append_singleton {tokens : List Token} {t : Token} (hunmixed : Unmixed tokens)
    (hmixes : ¬ Mixes tokens t) : Unmixed (tokens ++ [t]) := by
  rw [unmixed_iff_first] at hunmixed ⊢
  intro m hfirst u hu hmarker
  rw [List.find?_append, Option.or_eq_some_iff] at hfirst
  rcases hfirst with hfirst | ⟨hnone, hfirst⟩
  · rcases List.mem_append.mp hu with hu | hu
    · exact hunmixed m hfirst u hu hmarker
    · rw [List.mem_singleton.mp hu] at hmarker ⊢
      by_contra hother
      exact hmixes ⟨hmarker, m, hfirst, hother⟩
  · rcases List.mem_append.mp hu with hu | hu
    · exact absurd hmarker (List.find?_eq_none.mp hnone u hu)
    · have hm := List.mem_of_find?_eq_some hfirst
      rw [List.mem_singleton.mp hu, List.mem_singleton.mp hm]

/-- Tokens are unmixed, or one of them is the first to mix them. -/
theorem unmixed_or_mixes (tokens : List Token) :
    Unmixed tokens ∨
      ∃ before t after, tokens = before ++ t :: after ∧ Unmixed before ∧ Mixes before t := by
  -- From the front on, so that no token before the one found mixes.
  induction tokens using List.reverseRecOn with
  | nil => exact Or.inl (Or.inl (by simp))
  | append_singleton tokens u ih =>
      rcases ih with hunmixed | ⟨before, t, after, rfl, hunmixed, hmixes⟩
      · by_cases hmixes : Mixes tokens u
        · exact Or.inr ⟨tokens, u, [], rfl, hunmixed, hmixes⟩
        · exact Or.inl (hunmixed.append_singleton hmixes)
      · exact Or.inr ⟨before, t, after ++ [u], by simp, hunmixed, hmixes⟩

/-- The kinds and texts of the markers in order. -/
def markers (tokens : List Token) : List (TokenKind × List Char) :=
  (tokens.filter isMarker).map fun t => (t.kind, t.text)

theorem markers_append (tokens others : List Token) :
    markers (tokens ++ others) = markers tokens ++ markers others := by
  rw [markers, List.filter_append, List.map_append]
  rfl

theorem markers_cons_of_not {t : Token} (ht : t.isMarker = false) (tokens : List Token) :
    markers (t :: tokens) = markers tokens := by
  rw [markers, List.filter_cons_of_neg (by simp [ht])]
  rfl

theorem unmixed_congr {tokens tokens' : List Token} (hmarkers : markers tokens = markers tokens') :
    Unmixed tokens ↔ Unmixed tokens' := by
  have hall : ∀ (tokens : List Token) (kind : TokenKind),
      (∀ t ∈ tokens, t.isMarker → t.kind = kind) ↔ ∀ m ∈ markers tokens, m.1 = kind := by
    intro tokens kind
    simp only [markers, List.forall_mem_map, List.mem_filter, and_imp]
  rw [Unmixed, Unmixed, hall, hall, hall, hall, hmarkers]

end Token

open Token (Unmixed Mixes)

namespace Parameters

/-- The names of the named markers in order. -/
def namesOf (tokens : List Token) : List String :=
  (tokens.filter (·.kind == .named)).map (String.ofList ·.text)

/-- The parameters that the markers stand for. -/
def ofTokens (tokens : List Token) : Parameters :=
  if tokens.any (·.kind == .named) then .named (namesOf tokens)
  else .positional (tokens.countP Token.isMarker)

theorem namesOf_eq_nil_iff {tokens : List Token} :
    namesOf tokens = [] ↔ ∀ t ∈ tokens, t.kind ≠ .named := by
  simp [namesOf, List.filter_eq_nil_iff]

theorem namesOf_append (tokens others : List Token) :
    namesOf (tokens ++ others) = namesOf tokens ++ namesOf others := by
  rw [namesOf, List.filter_append, List.map_append]
  rfl

theorem ofTokens_of_namesOf_ne_nil {tokens : List Token} (hne : namesOf tokens ≠ []) :
    ofTokens tokens = .named (namesOf tokens) := by
  refine if_pos ?_
  by_contra hnone
  exact hne (namesOf_eq_nil_iff.mpr (by simpa using hnone))

theorem ofTokens_of_namesOf_eq_nil {tokens : List Token} (hnil : namesOf tokens = []) :
    ofTokens tokens = .positional (tokens.countP Token.isMarker) := by
  refine if_neg ?_
  simpa using namesOf_eq_nil_iff.mp hnil

/-- Without positional markers the names are those of the named ones, also when there are none. -/
theorem names_ofTokens {tokens : List Token} (hnamed : ∀ t ∈ tokens, t.kind ≠ .positional) :
    (ofTokens tokens).names = namesOf tokens := by
  by_cases hnil : namesOf tokens = []
  · have hcount : tokens.countP Token.isMarker = 0 := by
      rw [List.countP_eq_zero]
      intro t ht hmarker
      rcases Token.isMarker_iff.mp hmarker with hkind | hkind
      · exact namesOf_eq_nil_iff.mp hnil t ht hkind
      · exact hnamed t ht hkind
    rw [ofTokens_of_namesOf_eq_nil hnil, hnil, hcount]
    rfl
  · rw [ofTokens_of_namesOf_ne_nil hnil]
    rfl

theorem ofTokens_of_named {tokens : List Token} {m : Token} (hm : m ∈ tokens)
    (hkind : m.kind = .named) : ofTokens tokens = .named (namesOf tokens) :=
  ofTokens_of_namesOf_ne_nil fun hnil => namesOf_eq_nil_iff.mp hnil m hm hkind

theorem ofTokens_of_positional {tokens : List Token} (hunmixed : Unmixed tokens) {m : Token}
    (hm : m ∈ tokens) (hkind : m.kind = .positional) :
    ofTokens tokens = .positional (tokens.countP Token.isMarker) := by
  refine ofTokens_of_namesOf_eq_nil (namesOf_eq_nil_iff.mpr fun t ht hnamed => ?_)
  have hsame := hunmixed.same_kind ht hm (Token.isMarker_iff.mpr (Or.inl hnamed))
    (Token.isMarker_iff.mpr (Or.inr hkind))
  rw [hkind, hnamed] at hsame
  exact absurd hsame (by decide)

/-- Unmixed tokens whose parameters are named, or none, have no positional marker. -/
theorem ne_positional_of_ofTokens {tokens : List Token} (hunmixed : Unmixed tokens)
    (hnone : ∀ count, ofTokens tokens = .positional count → count = 0) :
    ∀ t ∈ tokens, t.kind ≠ .positional := by
  intro t ht hkind
  have hcount := hnone _ (ofTokens_of_positional hunmixed ht hkind)
  exact List.countP_eq_zero.mp hcount t ht (Token.isMarker_iff.mpr (Or.inr hkind))

theorem size_ofTokens {tokens : List Token} (hunmixed : Unmixed tokens) :
    (ofTokens tokens).size = tokens.countP Token.isMarker := by
  unfold ofTokens
  split
  · rename_i hany
    obtain ⟨m, hm, hnamed⟩ := List.any_eq_true.mp hany
    have hkind : m.kind = .named := by simpa using hnamed
    have hsame : ∀ t ∈ tokens, (t.kind == .named) = true ↔ t.isMarker = true := by
      intro t ht
      rw [Token.isMarker_iff, beq_iff_eq]
      refine ⟨Or.inl, fun hmarker => ?_⟩
      rw [hunmixed.same_kind ht hm (Token.isMarker_iff.mpr hmarker)
        (Token.isMarker_iff.mpr (Or.inl hkind)), hkind]
    rw [size, namesOf, List.length_map, ← List.countP_eq_length_filter]
    exact List.countP_congr hsame
  · rfl

/-- The parameters depend on the markers only. -/
theorem ofTokens_congr {tokens tokens' : List Token}
    (hmarkers : Token.markers tokens = Token.markers tokens') :
    ofTokens tokens = ofTokens tokens' := by
  have hnamed : ∀ tokens : List Token, tokens.filter (·.kind == .named) =
      (tokens.filter Token.isMarker).filter (·.kind == .named) := by
    intro tokens
    rw [List.filter_filter]
    apply List.filter_congr
    intro t _
    cases hkind : t.kind <;> simp [Token.isMarker, hkind]
  have hnames : ∀ tokens : List Token, namesOf tokens =
      ((Token.markers tokens).filter (·.1 == .named)).map (String.ofList ·.2) := by
    intro tokens
    rw [namesOf, hnamed, Token.markers, List.filter_map, List.map_map]
    rfl
  have hcount : ∀ tokens : List Token,
      tokens.countP Token.isMarker = (Token.markers tokens).length := by
    intro tokens
    rw [Token.markers, List.length_map, List.countP_eq_length_filter]
  have hany : ∀ tokens : List Token, tokens.any (·.kind == .named) = !(namesOf tokens).isEmpty := by
    intro tokens
    rw [Bool.eq_iff_iff]
    simp [namesOf, List.filter_eq_nil_iff]
  rw [ofTokens, ofTokens, hany, hany, hnames, hnames, hcount, hcount, hmarkers]

end Parameters

namespace Query

/-- The query that a sequence of tokens stands for. -/
def ofTokens (tokens : List Token) : Query where
  sql := String.ofList (tokens.flatMap Token.rewritten)
  parameters := .ofTokens tokens

/-- Besides the placeholders a query has the question marks of the texts that it copies. -/
theorem count_rewritten (tokens : List Token) :
    (tokens.flatMap Token.rewritten).count '?' =
      tokens.countP Token.isMarker +
        ((tokens.filter (!·.isMarker)).flatMap Token.text).count '?' := by
  induction tokens with
  | nil => rfl
  | cons t tokens ih =>
      rw [List.flatMap_cons, List.count_append, ih, List.countP_cons, List.filter_cons,
        Token.rewritten]
      by_cases hmarker : t.isMarker = true
      · have hmark : ['?'].count '?' = 1 := by decide
        simp only [hmarker, if_true, hmark, Bool.not_true, Bool.false_eq_true, if_false]
        omega
      · rw [Bool.not_eq_true] at hmarker
        simp only [hmarker, Bool.false_eq_true, if_false, Bool.not_false, if_true,
          List.flatMap_cons, List.count_append]
        omega

namespace Builder

/-- The builder that has been given the tokens. -/
def ofTokens (tokens : List Token) : Builder where
  sql := String.ofList (tokens.flatMap Token.rewritten)
  names := Parameters.namesOf tokens
  positional := tokens.countP (·.kind == .positional)

theorem build_ofTokens (tokens : List Token) : (ofTokens tokens).build = Query.ofTokens tokens := by
  have hparameters : (ofTokens tokens).build.parameters = Parameters.ofTokens tokens := by
    by_cases hnames : Parameters.namesOf tokens = []
    · have hany : tokens.any (·.kind == .named) = false := by
        rw [List.any_eq_false]
        intro t ht
        simpa using Parameters.namesOf_eq_nil_iff.mp hnames t ht
      have hcount : tokens.countP (·.kind == .positional) = tokens.countP Token.isMarker := by
        apply List.countP_congr
        intro t ht
        have hkind := Parameters.namesOf_eq_nil_iff.mp hnames t ht
        simp [Token.isMarker, hkind]
      simp [build, ofTokens, Parameters.ofTokens, hnames, hany, hcount]
    · have hany : tokens.any (·.kind == .named) = true := by
        by_contra hnone
        rw [Bool.not_eq_true, List.any_eq_false] at hnone
        exact hnames (Parameters.namesOf_eq_nil_iff.mpr fun t ht => by simpa using hnone t ht)
      simp [build, ofTokens, Parameters.ofTokens, hnames, hany]
  rw [Query.ofTokens, ← hparameters]
  rfl

/-- The builder that has been given one more token. -/
theorem ofTokens_append_singleton (tokens : List Token) (t : Token) :
    ofTokens (tokens ++ [t]) =
      ⟨(ofTokens tokens).sql ++ String.ofList t.rewritten,
        (ofTokens tokens).names ++ Parameters.namesOf [t],
        (ofTokens tokens).positional + [t].countP (·.kind == .positional)⟩ := by
  simp [ofTokens, Parameters.namesOf, String.ofList_append]

/-- A token that mixes nothing is added. -/
theorem addToken_ofTokens {tokens : List Token} {t : Token} (hunmixed : Unmixed (tokens ++ [t])) :
    (ofTokens tokens).addToken t = .ok (ofTokens (tokens ++ [t])) := by
  have hsame : ∀ u ∈ tokens, t.isMarker = true → u.isMarker = true → t.kind = u.kind :=
    fun u hu => hunmixed.same_kind (by simp) (List.mem_append_left _ hu)
  rw [ofTokens_append_singleton]
  cases hkind : t.kind with
  | named =>
      have hnone : (ofTokens tokens).positional = 0 := by
        rw [ofTokens, List.countP_eq_zero]
        intro u hu hpositional
        rw [beq_iff_eq] at hpositional
        have heq := hsame u hu (Token.isMarker_iff.mpr (Or.inl hkind))
          (Token.isMarker_iff.mpr (Or.inr hpositional))
        rw [hkind, hpositional] at heq
        exact absurd heq (by decide)
      simp [addToken, hkind, addNamed, hnone, Token.rewritten, Token.isMarker, Parameters.namesOf]
  | positional =>
      have hnone : (ofTokens tokens).names = [] := by
        rw [ofTokens, Parameters.namesOf_eq_nil_iff]
        intro u hu hnamed
        have heq := hsame u hu (Token.isMarker_iff.mpr (Or.inr hkind))
          (Token.isMarker_iff.mpr (Or.inl hnamed))
        rw [hkind, hnamed] at heq
        exact absurd heq (by decide)
      simp [addToken, hkind, addPositional, hnone, Token.rewritten, Token.isMarker,
        Parameters.namesOf]
  | _ =>
      simp [addToken, hkind, addText, Token.rewritten, Token.isMarker, Parameters.namesOf]

/-- A token that mixes the markers is refused. -/
theorem addToken_of_mixes {tokens : List Token} {t : Token} (hmixes : Mixes tokens t) :
    (ofTokens tokens).addToken t = .error .mixedParameters := by
  obtain ⟨hmarker, m, hfirst, hother⟩ := hmixes
  have hm := List.mem_of_find?_eq_some hfirst
  have hmark := Token.isMarker_iff.mp (List.find?_some hfirst)
  rcases Token.isMarker_iff.mp hmarker with hkind | hkind
  · have hpositional : m.kind = .positional := by
      rw [hkind] at hother
      exact hmark.resolve_left hother.symm
    have hsome : (ofTokens tokens).positional ≠ 0 := by
      rw [ofTokens, Ne, List.countP_eq_zero]
      intro hnone
      exact hnone m hm (by rw [hpositional]; rfl)
    simp [addToken, hkind, addNamed, hsome]
  · have hnamed : m.kind = .named := by
      rw [hkind] at hother
      exact hmark.resolve_right hother.symm
    have hsome : (ofTokens tokens).names ≠ [] := by
      rw [ofTokens, Ne, Parameters.namesOf_eq_nil_iff]
      intro hnone
      exact hnone m hm hnamed
    simp [addToken, hkind, addPositional, hsome]

/-- The builder goes on from the tokens that it has been given. -/
theorem addItems_append {tokens others : List Token} (hunmixed : Unmixed (tokens ++ others))
    (items : List LexItem) :
    (ofTokens tokens).addItems (others.map .ok ++ items) =
      (ofTokens (tokens ++ others)).addItems items := by
  induction others generalizing tokens with
  | nil => rw [List.map_nil, List.nil_append, List.append_nil]
  | cons t others ih =>
      have hsplit : tokens ++ t :: others = (tokens ++ [t]) ++ others := by simp
      rw [hsplit] at hunmixed ⊢
      rw [List.map_cons, List.cons_append, addItems, addToken_ofTokens hunmixed.of_append]
      exact ih hunmixed

end Builder

/-! ## From the template to the query -/

theorem ofTemplate_of_items {s : Style} {template : String} {tokens : List Token}
    {items : List LexItem} (hlex : lex s template = tokens.map .ok ++ items)
    (hunmixed : Unmixed tokens) :
    ofTemplate s template = (Builder.ofTokens tokens).addItems items := by
  rw [ofTemplate, hlex]
  exact Builder.addItems_append (show Unmixed ([] ++ tokens) from hunmixed) items

theorem ofTemplate_of_tokens {s : Style} {template : String} {tokens : List Token}
    (hlex : lex s template = tokens.map .ok) (hunmixed : Unmixed tokens) :
    ofTemplate s template = .ok (ofTokens tokens) := by
  rw [← List.append_nil (tokens.map Except.ok)] at hlex
  rw [ofTemplate_of_items hlex hunmixed, Builder.addItems, Builder.build_ofTokens]

theorem ofTemplate_of_failure {s : Style} {template : String} {tokens : List Token}
    {e : LexFailure} (hlex : lex s template = tokens.map .ok ++ [.error e])
    (hunmixed : Unmixed tokens) : ofTemplate s template = .error e := by
  rw [ofTemplate_of_items hlex hunmixed, Builder.addItems]

theorem ofTemplate_of_mixes {s : Style} {template : String} {before : List Token} {t : Token}
    {items : List LexItem} (hlex : lex s template = before.map .ok ++ .ok t :: items)
    (hunmixed : Unmixed before) (hmixes : Mixes before t) :
    ofTemplate s template = .error ⟨.mixedParameters, t.offset⟩ := by
  rw [ofTemplate_of_items hlex hunmixed, Builder.addItems, Builder.addToken_of_mixes hmixes]

/-- What the items of a template can be for the builder: unmixed tokens to the end or to a failure,
or a first token that mixes them. -/
theorem lex_cases (s : Style) (template : String) :
    (∃ tokens, lex s template = tokens.map .ok ∧ Unmixed tokens) ∨
    (∃ tokens e, lex s template = tokens.map .ok ++ [.error e] ∧ Unmixed tokens) ∨
    ∃ before t items, lex s template = before.map .ok ++ .ok t :: items ∧ Unmixed before ∧
      Mixes before t := by
  obtain ⟨tokens, -, -, hend⟩ := (Lexer.lexes_lex s template).covers
  rcases Token.unmixed_or_mixes tokens with hunmixed | ⟨before, t, after, rfl, hunmixed, hmixes⟩
  · rcases hend with ⟨hlex, -⟩ | ⟨rest, e, hlex, -, -⟩
    · exact Or.inl ⟨tokens, hlex, hunmixed⟩
    · exact Or.inr (Or.inl ⟨tokens, e, hlex, hunmixed⟩)
  · refine Or.inr (Or.inr ?_)
    rcases hend with ⟨hlex, -⟩ | ⟨rest, e, hlex, -, -⟩
    · exact ⟨before, t, after.map .ok, by rw [hlex, List.map_append, List.map_cons], hunmixed,
        hmixes⟩
    · exact ⟨before, t, after.map .ok ++ [.error e], by
        rw [hlex, List.map_append, List.map_cons, List.append_assoc, List.cons_append], hunmixed,
        hmixes⟩

theorem ofTemplate_eq_ok_iff {s : Style} {template : String} {query : Query} :
    ofTemplate s template = .ok query ↔
      ∃ tokens, lex s template = tokens.map .ok ∧ Unmixed tokens ∧ query = ofTokens tokens := by
  constructor
  · intro hquery
    rcases lex_cases s template with ⟨tokens, hlex, hunmixed⟩ | ⟨tokens, e, hlex, hunmixed⟩ |
      ⟨before, t, items, hlex, hunmixed, hmixes⟩
    · rw [ofTemplate_of_tokens hlex hunmixed] at hquery
      exact ⟨tokens, hlex, hunmixed, (Except.ok.inj hquery).symm⟩
    · rw [ofTemplate_of_failure hlex hunmixed] at hquery
      exact absurd hquery (by simp)
    · rw [ofTemplate_of_mixes hlex hunmixed hmixes] at hquery
      exact absurd hquery (by simp)
  · rintro ⟨tokens, hlex, hunmixed, rfl⟩
    exact ofTemplate_of_tokens hlex hunmixed

theorem ofTemplate_of_not_unmixed {s : Style} {template : String} {tokens : List Token}
    (hlex : lex s template = tokens.map .ok) (hmixed : ¬ Unmixed tokens) :
    ∃ offset, ofTemplate s template = .error ⟨.mixedParameters, offset⟩ := by
  rcases Token.unmixed_or_mixes tokens with hunmixed | ⟨before, t, after, rfl, hunmixed, hmixes⟩
  · exact absurd hunmixed hmixed
  · rw [List.map_append, List.map_cons] at hlex
    exact ⟨t.offset, ofTemplate_of_mixes hlex hunmixed hmixes⟩

theorem ofTemplate_eq_error_iff {s : Style} {template : String} {e : LexFailure} :
    ofTemplate s template = .error e ↔
      (∃ tokens, lex s template = tokens.map .ok ++ [.error e] ∧ Unmixed tokens) ∨
      ∃ before t items, lex s template = before.map .ok ++ .ok t :: items ∧ Unmixed before ∧
        Mixes before t ∧ e = ⟨.mixedParameters, t.offset⟩ := by
  constructor
  · intro hfailure
    rcases lex_cases s template with ⟨tokens, hlex, hunmixed⟩ | ⟨tokens, e', hlex, hunmixed⟩ |
      ⟨before, t, items, hlex, hunmixed, hmixes⟩
    · rw [ofTemplate_of_tokens hlex hunmixed] at hfailure
      exact absurd hfailure (by simp)
    · rw [ofTemplate_of_failure hlex hunmixed] at hfailure
      obtain rfl := Except.error.inj hfailure
      exact Or.inl ⟨tokens, hlex, hunmixed⟩
    · rw [ofTemplate_of_mixes hlex hunmixed hmixes] at hfailure
      exact Or.inr ⟨before, t, items, hlex, hunmixed, hmixes, (Except.error.inj hfailure).symm⟩
  · rintro (⟨tokens, hlex, hunmixed⟩ | ⟨before, t, items, hlex, hunmixed, hmixes, rfl⟩)
    · exact ofTemplate_of_failure hlex hunmixed
    · exact ofTemplate_of_mixes hlex hunmixed hmixes

end Query

/-- The query of a template is the fold of its tokens. There is one exactly when the lexer comes to
the end and the markers are of one kind: its SQL is the texts of the tokens with one question mark
for each marker, its parameters are the markers, and it has no other question marks than those and
the ones that are copied. Otherwise the failure is the one that comes first among the items: that of
the lexer, or that of the first marker of another kind than the first. -/
theorem ofTemplate_folds_tokens (s : Style) (template : String) :
    ((∃ query, Query.ofTemplate s template = .ok query) ↔
      ∃ tokens, lex s template = tokens.map .ok ∧ Unmixed tokens) ∧
    (∀ tokens, lex s template = tokens.map .ok → Unmixed tokens →
      ∃ query, Query.ofTemplate s template = .ok query ∧
        query.sql.toList = tokens.flatMap Token.rewritten ∧
        query.parameters = .ofTokens tokens ∧
        query.sql.toList.count '?' = query.parameters.size +
          ((tokens.filter (!·.isMarker)).flatMap Token.text).count '?') ∧
    ∀ e, Query.ofTemplate s template = .error e ↔
      (∃ tokens, lex s template = tokens.map .ok ++ [.error e] ∧ Unmixed tokens) ∨
      ∃ before t items, lex s template = before.map .ok ++ .ok t :: items ∧ Unmixed before ∧
        Mixes before t ∧ e = ⟨.mixedParameters, t.offset⟩ := by
  refine ⟨?_, ?_, fun e => Query.ofTemplate_eq_error_iff⟩
  · constructor
    · rintro ⟨query, hquery⟩
      obtain ⟨tokens, hlex, hunmixed, -⟩ := Query.ofTemplate_eq_ok_iff.mp hquery
      exact ⟨tokens, hlex, hunmixed⟩
    · rintro ⟨tokens, hlex, hunmixed⟩
      exact ⟨_, Query.ofTemplate_of_tokens hlex hunmixed⟩
  · intro tokens hlex hunmixed
    have hsql : (Query.ofTokens tokens).sql.toList = tokens.flatMap Token.rewritten :=
      String.toList_ofList
    refine ⟨_, Query.ofTemplate_of_tokens hlex hunmixed, hsql, rfl, ?_⟩
    rw [hsql, Query.count_rewritten, ← Parameters.size_ofTokens hunmixed]
    rfl

end SqlTemplate
