import SqlTemplate.Proofs.ListParameters
import SqlTemplate.Proofs.StatementRun

/-!
# Lists in templates

A list stands in a template as a reference between brackets. Rendering puts the markers there and
leaves the texts around alone, and the lexer reads the markers back as the parameters of the list,
so the query is that of the texts with the list between them.
-/

namespace SqlTemplate

open Attributes (AttributeName Piece literalPieces pieces)

/-! ## Texts that rendering leaves alone -/

/-- Whether rendering finds nothing to replace in a token: no name in angle brackets in plain text,
and no escaped bracket. -/
def Token.Verbatim (t : Token) : Prop :=
  (t.kind = .literal → ∀ name, AttributeName name → ¬ '<' :: name ++ ['>'] <:+: t.text) ∧
    ¬ (t.kind = .escaped ∧ t.text = ['<'])

/-- Without an opening bracket there is nothing to replace. -/
theorem Token.Verbatim.of_not_mem {t : Token}
    (htext : t.kind = .literal ∨ t.kind = .escaped → '<' ∉ t.text) : t.Verbatim := by
  refine ⟨?_, ?_⟩
  · rintro hkind name - ⟨before, after, heq⟩
    exact htext (Or.inl hkind) (by rw [← heq]; simp)
  · rintro ⟨hkind, heq⟩
    exact htext (Or.inr hkind) (by rw [heq]; simp)

theorem Attributes.literalPieces_verbatim {text : List Char}
    (htext : ∀ name, AttributeName name → ¬ '<' :: name ++ ['>'] <:+: text) :
    literalPieces text = text.map .copied := by
  induction text with
  | nil => rw [literalPieces, List.map_nil]
  | cons c text ih =>
      have hnone : c = '<' → reference? text = none := by
        rintro rfl
        rw [Option.eq_none_iff_forall_ne_some]
        rintro ⟨name, after⟩ hfound
        obtain ⟨hname, rfl⟩ := reference?_eq_some_iff.mp hfound
        exact htext name hname ⟨[], after, by simp⟩
      have hrest : ∀ name, AttributeName name → ¬ '<' :: name ++ ['>'] <:+: text :=
        fun name hname hpart => htext name hname (hpart.trans (List.suffix_cons c text).isInfix)
      rw [literalPieces_copied hnone, ih hrest, List.map_cons]

theorem Token.Verbatim.pieces {s : Style} {t : Token} (ht : t.Verbatim) :
    t.pieces s = (t.source s).map .copied := by
  obtain ⟨hliteral, hescaped⟩ := ht
  rw [Token.pieces, Token.source]
  generalize t.kind = kind, t.text = text at hliteral hescaped
  fun_cases Attributes.piecesOf s kind text with
  | case1 => exact Attributes.literalPieces_verbatim (hliteral rfl)
  | case2 => exact absurd ⟨rfl, rfl⟩ hescaped
  | case3 => rfl

theorem Token.flatMap_pieces_of_verbatim {s : Style} {tokens : List Token}
    (htokens : ∀ t ∈ tokens, t.Verbatim) :
    tokens.flatMap (Token.pieces s) = (Token.sources s tokens).map .copied := by
  rw [Token.sources, List.map_flatMap]
  exact List.flatMap_congr fun t ht => (htokens t ht).pieces

/-- A text around a list: it has a query with named parameters or none, and rendering leaves it
alone. -/
structure Surrounding (s : Style) (text : String) (query : Query) : Prop where
  parses : Query.ofTemplate s text = .ok query
  named : ∀ count, query.parameters = .positional count → count = 0
  verbatim : ∀ t, .ok t ∈ lex s text → t.Verbatim

/-- The text around a list as tokens. -/
theorem Surrounding.exists_tokens {s : Style} {text : String} {query : Query}
    (htext : Surrounding s text query) :
    ∃ tokens, lex s text = tokens.map .ok ∧ query = .ofTokens tokens ∧
      query.parameters.names = Parameters.namesOf tokens ∧
      (∀ t ∈ tokens, t.kind ≠ .positional) ∧ ∀ t ∈ tokens, t.Verbatim := by
  obtain ⟨tokens, hlex, hunmixed, rfl⟩ := Query.ofTemplate_eq_ok_iff.mp htext.parses
  have hnamed := Parameters.ne_positional_of_ofTokens hunmixed htext.named
  refine ⟨tokens, hlex, rfl, Parameters.names_ofTokens hnamed, hnamed, fun t ht => ?_⟩
  exact htext.verbatim t (by rw [hlex]; exact List.mem_map_of_mem ht)

/-- Whether a text is empty or ends in plain text with a blank. -/
def EndsInBlank (s : Style) (text : String) : Prop :=
  text = "" ∨ ∃ items t, lex s text = items ++ [.ok t] ∧ t.kind = .literal ∧
    ∃ c ∈ t.text.getLast?, Unicode.isBlank c = true

theorem toNat_of_isBlank {c : Char} (hc : Unicode.isBlank c = true) :
    c.toNat ≤ 0x20 ∨ 0x85 ≤ c.toNat := by
  simp only [Unicode.isBlank, Unicode.inRanges, Unicode.blankRanges] at hc
  simp at hc
  omega

/-- A blank is none of the characters that have a meaning. -/
theorem seam_of_isBlank (s : Style) {c : Char} (hc : Unicode.isBlank c = true) : Seam s c := by
  have hblank := toNat_of_isBlank hc
  have hother : ∀ d : Char, 0x20 < d.toNat → d.toNat < 0x85 → c ≠ d := by
    rintro d hlow hhigh rfl
    omega
  have hsigil : 0x20 < s.sigil.toNat := by
    have h := s.admitted
    simp only [isSigil, isPunctuation, Bool.and_eq_true, Bool.or_eq_true, decide_eq_true_eq] at h
    omega
  have hname : isNameChar c = false := by
    rw [← Bool.not_eq_true]
    intro hname
    have hbounds := Lexer.toNat_of_isNameChar hname
    omega
  refine ⟨?_, ⟨hother _ (by decide) (by decide), hother _ (by decide) (by decide)⟩,
    ⟨hname, hother _ (by decide) (by decide)⟩,
    ⟨hother _ (by decide) (by decide), hother _ (by decide) (by decide)⟩⟩
  simp only [List.mem_cons, List.not_mem_nil, or_false, not_or]
  exact ⟨hother _ (by decide) (by decide), hother _ (by decide) (by decide),
    hother _ (by decide) (by decide), hother _ (by decide) (by decide),
    hother _ hsigil (Nat.lt_trans s.sigil_lt (by decide))⟩

theorem EndsInBlank.endsInSeam {s : Style} {text : String} {tokens : List Token}
    (hends : EndsInBlank s text) (hlex : lex s text = tokens.map .ok) : EndsInSeam s tokens := by
  rcases hends with rfl | ⟨items, t, hitems, hkind, c, hlast, hc⟩
  · have hnone : lex s "" = [] := @lex_of_inClasses s "" [] rfl trivial
    exact Or.inl (List.map_eq_nil_iff.mp (hlex.symm.trans hnone))
  · right
    obtain ⟨front, rest, rfl, rfl, hrest⟩ := List.map_eq_append_iff.mp (hlex.symm.trans hitems)
    obtain ⟨t', rfl, ht⟩ := List.map_eq_singleton_iff.mp hrest
    obtain rfl := Except.ok.inj ht
    obtain ⟨cs, htext⟩ := List.getLast?_eq_some_iff.mp hlast
    exact ⟨front, t', cs, c, rfl, hkind, htext, seam_of_isBlank s hc⟩

/-! ## The rendered template -/

namespace Attributes

theorem fill_copied_append (a : Attributes) (cs : List Char) (ps : List Piece) :
    a.fill (cs.map .copied ++ ps) = (a.fill ps).map (cs ++ ·) := by
  induction cs with
  | nil =>
      rw [List.map_nil, List.nil_append]
      cases a.fill ps <;> rfl
  | cons c cs ih =>
      rw [List.map_cons, List.cons_append, fill_cons, ih]
      cases a.fill ps <;> rfl

theorem fill_copied (a : Attributes) (cs : List Char) : a.fill (cs.map .copied) = .ok cs := by
  have hfill := a.fill_copied_append cs []
  rw [List.append_nil] at hfill
  rw [hfill]
  exact congrArg Except.ok (List.append_nil cs)

section

variable {s : Style} {key front back : String} {tokens others : List Token}

/-- The pieces of a reference between brackets, with texts around it that stay. -/
theorem pieces_enclosed (hopen : s.sigil ≠ '<') (hclose : s.sigil ≠ '>')
    (hkey : AttributeName key.toList) (hfront : lex s front = tokens.map .ok)
    (hback : lex s back = others.map .ok) (hends : EndsInSeam s tokens)
    (hverbatim : ∀ t ∈ tokens, t.Verbatim) (hverbatim' : ∀ t ∈ others, t.Verbatim) :
    pieces (front ++ "(<" ++ key ++ ">)" ++ back).toList =
      front.toList.map .copied ++ (['('].map .copied ++ (.reference key.toList ::
        ([')'].map .copied ++ back.toList.map .copied))) := by
  obtain ⟨hwhole, hclasses, -⟩ := lex_eq_tokens_iff.mp hfront
  obtain ⟨hwhole', -, -⟩ := lex_eq_tokens_iff.mp hback
  have hunmarked : ∀ bracket ∈ ['(', ')'], ∀ c ∈ [bracket], c ∉ marks := by
    simp [marks]
  have hreference : reference? (key.toList ++ '>' :: ([')'] ++ back.toList)) =
      some (key.toList, [')'] ++ back.toList) := reference?_eq_some_iff.mpr ⟨hkey, rfl⟩
  have htemplate : (front ++ "(<" ++ key ++ ">)" ++ back).toList =
      Token.sources s tokens ++
        (['('] ++ '<' :: (key.toList ++ '>' :: ([')'] ++ back.toList))) := by
    simp [hwhole]
  rw [htemplate, pieces_append hopen hclose hends hclasses,
    Token.flatMap_pieces_of_verbatim hverbatim, ← hwhole,
    pieces_unmarked (hunmarked '(' (by decide)), pieces_of_sees (.reference hreference),
    pieces_unmarked (hunmarked ')' (by decide)),
    pieces_of_lexes hopen hclose (Lexer.lexes_lex s back) others hback,
    Token.flatMap_pieces_of_verbatim hverbatim', ← hwhole']
  rfl

/-- A reference between brackets is replaced, and what stands around it stays. -/
theorem substitute_enclosed {a : Attributes} {value : String} (hopen : s.sigil ≠ '<')
    (hclose : s.sigil ≠ '>') (hkey : AttributeName key.toList) (hvalue : a.get? key = some value)
    (hfront : lex s front = tokens.map .ok) (hback : lex s back = others.map .ok)
    (hends : EndsInSeam s tokens) (hverbatim : ∀ t ∈ tokens, t.Verbatim)
    (hverbatim' : ∀ t ∈ others, t.Verbatim) :
    a.substitute (front ++ "(<" ++ key ++ ">)" ++ back) =
      .ok (front ++ ("(" ++ value ++ ")" ++ back)) := by
  have hfilled : (Piece.reference key.toList).filled a = .ok value.toList := by
    rw [Piece.filled, Piece.filling?, String.ofList_toList, hvalue]
    rfl
  rw [substitute_eq_fill, pieces_enclosed hopen hclose hkey hfront hback hends hverbatim hverbatim',
    fill_copied_append, fill_copied_append, fill_cons, fill_copied_append, fill_copied, hfilled]
  simp [Except.bind, Except.map, ← String.toList_inj]

end

end Attributes

/-! ## The query -/

namespace Query

section

variable {tokens others : List Token} {names : List String}

/-- The query of tokens with markers between brackets among them. -/
theorem ofTokens_enclosed (hne : names ≠ []) :
    ofTokens (tokens ++ (Draft.enclosedTokens names ++ others)) =
      ⟨(ofTokens tokens).sql ++ ("(" ++ ",".intercalate (names.map fun _ => "?") ++ ")") ++
          (ofTokens others).sql,
        .named (Parameters.namesOf tokens ++ names ++ Parameters.namesOf others)⟩ := by
  have hnames : Parameters.namesOf (tokens ++ (Draft.enclosedTokens names ++ others)) =
      Parameters.namesOf tokens ++ names ++ Parameters.namesOf others := by
    rw [Parameters.namesOf_append, Parameters.namesOf_append, Draft.namesOf_enclosedTokens,
      List.append_assoc]
  rw [ofTokens, Parameters.ofTokens_of_namesOf_ne_nil (by rw [hnames]; simp [hne]), hnames,
    List.flatMap_append, List.flatMap_append, Draft.rewritten_enclosedTokens, String.ofList_append,
    String.ofList_append, String.ofList_toList, ← String.append_assoc]
  rfl

/-- Markers between brackets are read back from a template whatever stands around them. -/
theorem ofTemplate_enclosed {s : Style} {front back : String}
    (hseparators : s.sigil ∉ [',', '(', ')']) (hne : names ≠ [])
    (hnames : ∀ name ∈ names, Lexer.DottedName name.toList)
    (hfront : lex s front = tokens.map .ok) (hback : lex s back = others.map .ok)
    (hends : EndsInSeam s tokens) (hnamed : ∀ t ∈ tokens ++ others, t.kind ≠ .positional) :
    ofTemplate s (front ++ ("(" ++ ",".intercalate (names.map s.marker) ++ ")" ++ back)) =
      .ok (ofTokens (tokens ++ (Draft.enclosedTokens names ++ others))) := by
  have hclose : s.sigil ≠ ')' := by
    rintro heq
    exact hseparators (by simp [heq])
  obtain ⟨hwhole, hclasses, -⟩ := lex_eq_tokens_iff.mp hfront
  obtain ⟨hwhole', hclasses', -⟩ := lex_eq_tokens_iff.mp hback
  -- What stands behind the list is put to it first, and both then to what stands before.
  obtain ⟨joined, hglued, hjoined⟩ := Lexer.exists_glued (Draft.endsInSeam_enclosedTokens hclose)
    (Draft.inClasses_enclosedTokens hseparators hne hnames) hclasses'
  obtain ⟨all, hglued', hall⟩ := Lexer.exists_glued hends hclasses hjoined
  have hunmixed : Token.Unmixed (tokens ++ (Draft.enclosedTokens names ++ others)) := by
    refine Token.unmixed_of_ne_positional fun t ht => ?_
    simp only [List.mem_append] at ht hnamed
    rcases ht with ht | ht | ht
    · exact hnamed t (Or.inl ht)
    · exact Draft.ne_positional_enclosedTokens t ht
    · exact hnamed t (Or.inr ht)
  refine ofTemplate_of_inClasses ?_ hall
    (hglued'.sameQuery.trans (hglued.sameQuery.append_left tokens)) hunmixed
  rw [hglued'.sources, hglued.sources, Draft.sources_enclosedTokens]
  simp [hwhole, hwhole']

end

end Query

/-- The separators of a list have no meaning in the styles that there are by default. -/
theorem Style.separators_of_mem {s : Style} (hstyle : s ∈ [Style.colon, .hash, .dollar]) :
    s.sigil ≠ '<' ∧ s.sigil ≠ '>' ∧ s.sigil ∉ [',', '(', ')'] := by
  simp only [List.mem_cons, List.not_mem_nil, or_false] at hstyle
  rcases hstyle with rfl | rfl | rfl <;> decide

/-- The query of a list with so many parameters between two others. -/
def Query.withList (front : Query) (key : String) (count : Nat) (back : Query) : Query where
  sql := front.sql ++ ("(" ++ ",".intercalate (List.replicate count "?") ++ ")") ++ back.sql
  parameters := .named (front.parameters.names ++
    (List.range count).map (Draft.listParameter key) ++ back.parameters.names)

/-- A list between brackets in a template: its markers are put there, and read back as its
parameters. -/
theorem Config.prepared_list {config : Config} (attributes : Attributes) {front back key : String}
    {frontQuery backQuery : Query} {count : Nat}
    (hstyle : config.style ∈ [Style.colon, .hash, .dollar]) (hengine : config.engine = .attributes)
    (hkey : Draft.isListKey key = true) (hcount : count ≠ 0)
    (hfront : Surrounding config.style front frontQuery) (hends : EndsInBlank config.style front)
    (hback : Surrounding config.style back backQuery) :
    ∃ text, config.prepared (attributes.define key (Draft.listMarkers config.style key count))
      (front ++ "(<" ++ key ++ ">)" ++ back) =
        .ok (text, frontQuery.withList key count backQuery) := by
  obtain ⟨tokens, hlex, rfl, hnames, hnamed, hverbatim⟩ := hfront.exists_tokens
  obtain ⟨others, hlex', rfl, hnames', hnamed', hverbatim'⟩ := hback.exists_tokens
  obtain ⟨hopen, hclose, hseparators⟩ := Style.separators_of_mem hstyle
  have hseam := hends.endsInSeam hlex
  have hne : (List.range count).map (Draft.listParameter key) ≠ [] := by simpa using hcount
  have hdotted : ∀ name ∈ (List.range count).map (Draft.listParameter key),
      Lexer.DottedName name.toList := by
    intro name hname
    obtain ⟨i, -, rfl⟩ := List.mem_map.mp hname
    exact Draft.dottedName_listParameter hkey i
  have hplaceholders : ((List.range count).map (Draft.listParameter key)).map (fun _ => "?") =
      List.replicate count "?" := by simp [Function.comp_def]
  have htext := Attributes.substitute_enclosed hopen hclose
    (Draft.attributeName_of_isListKey hkey)
    (attributes.get?_define_self key (Draft.listMarkers config.style key count))
    hlex hlex' hseam hverbatim hverbatim'
  have hquery := Query.ofTemplate_enclosed hseparators hne hdotted hlex hlex' hseam
    (List.forall_mem_append.mpr ⟨hnamed, hnamed'⟩)
  rw [← Draft.listMarkers_eq, Query.ofTokens_enclosed hne, hplaceholders, ← hnames, ← hnames']
    at hquery
  exact ⟨_, Config.prepared_of_ok hengine htext hquery⟩

end SqlTemplate
