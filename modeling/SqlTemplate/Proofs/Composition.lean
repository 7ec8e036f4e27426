import SqlTemplate.Proofs.ListTemplate
import SqlTemplate.Proofs.OpaqueRegions

/-!
# Queries of composed templates

A template can be written from parts, each of which is a template of its own. Where the first part
ends in a blank the tokens of the whole are those of the parts, so its query is put together from
theirs. Markers of two kinds are found out at the first marker of the second part.
-/

namespace SqlTemplate

open Text (byteLength byteLength_append byteLength_toList)
open Token (Unmixed Mixes)

/-! ## Parameters one behind the other -/

/-- The parameters of a text with another text behind it, none when these are named and positional
ones. A text without parameters adds nothing. -/
def Parameters.followedBy (front back : Parameters) : Option Parameters :=
  if front.size = 0 then some back
  else if back.size = 0 then some front
  else
    match front, back with
    | .positional count, .positional more => some (.positional (count + more))
    | .named names, .named more => some (.named (names ++ more))
    | _, _ => none

namespace Token

theorem markers_eq_nil_iff {tokens : List Token} :
    markers tokens = [] ↔ tokens.countP isMarker = 0 := by
  rw [markers, List.map_eq_nil_iff, ← List.length_eq_zero_iff, List.countP_eq_length_filter]

/-- Unmixed tokens of two texts stay unmixed as long as they do not have markers of two kinds. -/
theorem unmixed_append_iff {tokens others : List Token} (htokens : Unmixed tokens)
    (hothers : Unmixed others) :
    Unmixed (tokens ++ others) ↔
      ∀ t ∈ tokens, ∀ u ∈ others, t.isMarker → u.isMarker → t.kind = u.kind := by
  constructor
  · intro hunmixed t ht u hu ht' hu'
    exact hunmixed.same_kind (List.mem_append_left _ ht) (List.mem_append_right _ hu) ht' hu'
  · intro hsame
    rw [unmixed_iff_first]
    intro m hfirst t ht hmarker
    have hm := List.mem_of_find?_eq_some hfirst
    have hm' := List.find?_some hfirst
    rcases List.mem_append.mp hm with hm | hm <;> rcases List.mem_append.mp ht with ht | ht
    · exact htokens.same_kind ht hm hmarker hm'
    · exact (hsame m hm t ht hm' hmarker).symm
    · exact hsame t ht m hm hmarker hm'
    · exact hothers.same_kind ht hm hmarker hm'

end Token

namespace Parameters

theorem exists_marker {tokens : List Token} (hcount : tokens.countP Token.isMarker ≠ 0) :
    ∃ m ∈ tokens, m.isMarker = true := by
  simpa [List.countP_eq_zero] using hcount

/-- The parameters of the tokens of two texts are those of the texts one behind the other, unless
the texts have markers of two kinds. -/
theorem followedBy_ofTokens {tokens others : List Token} (htokens : Unmixed tokens)
    (hothers : Unmixed others) :
    Unmixed (tokens ++ others) ∧
        (ofTokens tokens).followedBy (ofTokens others) = some (ofTokens (tokens ++ others)) ∨
      ¬ Unmixed (tokens ++ others) ∧ (ofTokens tokens).followedBy (ofTokens others) = none := by
  have hmarkers := Token.markers_append tokens others
  unfold followedBy
  rw [size_ofTokens htokens, size_ofTokens hothers]
  by_cases hnone : tokens.countP Token.isMarker = 0
  · rw [Token.markers_eq_nil_iff.mpr hnone, List.nil_append] at hmarkers
    rw [if_pos hnone, ofTokens_congr hmarkers]
    exact Or.inl ⟨(Token.unmixed_congr hmarkers).mpr hothers, rfl⟩
  by_cases hnone' : others.countP Token.isMarker = 0
  · rw [Token.markers_eq_nil_iff.mpr hnone', List.append_nil] at hmarkers
    rw [if_neg hnone, if_pos hnone', ofTokens_congr hmarkers]
    exact Or.inl ⟨(Token.unmixed_congr hmarkers).mpr htokens, rfl⟩
  obtain ⟨m, hm, hmarker⟩ := exists_marker hnone
  obtain ⟨m', hm', hmarker'⟩ := exists_marker hnone'
  have hwhole : Unmixed (tokens ++ others) ↔ m.kind = m'.kind := by
    rw [Token.unmixed_append_iff htokens hothers]
    refine ⟨fun hsame => hsame m hm m' hm' hmarker hmarker', fun hsame t ht u hu ht' hu' => ?_⟩
    rw [htokens.same_kind ht hm ht' hmarker, hothers.same_kind hu hm' hu' hmarker', hsame]
  rw [if_neg hnone, if_neg hnone', hwhole]
  have hm'' : m ∈ tokens ++ others := List.mem_append_left _ hm
  rcases Token.isMarker_iff.mp hmarker with hkind | hkind <;>
    rcases Token.isMarker_iff.mp hmarker' with hkind' | hkind' <;>
    rw [hkind, hkind']
  · refine Or.inl ⟨rfl, ?_⟩
    rw [ofTokens_of_named hm hkind, ofTokens_of_named hm' hkind', ofTokens_of_named hm'' hkind,
      namesOf_append]
  · refine Or.inr ⟨by decide, ?_⟩
    rw [ofTokens_of_named hm hkind, ofTokens_of_positional hothers hm' hkind']
  · refine Or.inr ⟨by decide, ?_⟩
    rw [ofTokens_of_positional htokens hm hkind, ofTokens_of_named hm' hkind']
  · refine Or.inl ⟨rfl, ?_⟩
    have hunmixed : Unmixed (tokens ++ others) := hwhole.mpr (hkind.trans hkind'.symm)
    rw [ofTokens_of_positional htokens hm hkind, ofTokens_of_positional hothers hm' hkind',
      ofTokens_of_positional hunmixed hm'' hkind, List.countP_append]

end Parameters

/-! ## Where the markers are -/

namespace Glued

/-- The markers of the whole are those of the parts, the ones of the second part being moved behind
the first part. -/
theorem located {s : Style} {tokens others joined : List Token}
    (hglued : Glued tokens others joined) (hplace : Token.place s 0 tokens = tokens)
    (hplace' : Token.place s 0 others = others) :
    (Token.place s 0 joined).filter Token.isMarker =
      tokens.filter Token.isMarker ++ (others.filter Token.isMarker).map
        (Token.moved 0 (byteLength (Token.sources s tokens))) := by
  have hmoved : ∀ start added (tokens : List Token), (Token.place s (start + added) tokens).filter
      Token.isMarker = ((Token.place s start tokens).filter Token.isMarker).map
        (Token.moved 0 added) := by
    intro start added tokens
    rw [Token.place_moved s start 0, List.filter_map]
    rfl
  cases hglued with
  | apart =>
      rw [Token.place_append, List.filter_append, hplace, hmoved, hplace']
  | @merged front t u others ht hu =>
      have hplain : ∀ v : Token, v.kind = .literal → v.isMarker = false := by
        intro v hv
        rw [Token.isMarker, hv]
        rfl
      have hmerged : byteLength (Token.source s { t with text := t.text ++ u.text }) =
          byteLength (t.source s) + byteLength (u.source s) := by
        rw [Token.source_of_literal s (by exact ht), Token.source_of_literal s ht,
          Token.source_of_literal s hu, byteLength_append]
      have hfront : byteLength (Token.sources s (front ++ [t])) =
          byteLength (Token.sources s front) + byteLength (t.source s) := by
        rw [Token.sources_append, byteLength_append, Token.sources_cons, byteLength_append]
        rfl
      -- The literals at the seam are no markers, so only the length of both matters.
      have hoffset : 0 + byteLength (Token.sources s front) +
          byteLength (Token.source s { t with text := t.text ++ u.text }) =
            0 + byteLength (u.source s) + byteLength (Token.sources s (front ++ [t])) := by
        rw [hmerged, hfront]
        omega
      rw [Token.place_append] at hplace
      obtain ⟨hplace, -⟩ := List.append_inj hplace (Token.length_place s 0 front)
      obtain ⟨-, hplace'⟩ := List.cons.inj hplace'
      rw [Token.place_append, hplace, Token.place, hoffset, List.filter_append,
        List.filter_cons_of_neg (by simpa using hplain _ (by exact ht)), hmoved, hplace',
        List.filter_append, List.filter_cons_of_neg (by simpa using hplain t ht), List.filter_nil,
        List.append_nil, List.filter_cons_of_neg (by simpa using hplain u hu)]

end Glued

namespace Token

/-- The marker that mixes tokens mixes the markers among them. -/
theorem mixes_filter {tokens : List Token} {t : Token} :
    Mixes (tokens.filter isMarker) t ↔ Mixes tokens t := by
  rw [Mixes, Mixes, List.find?_filter]
  simp

theorem unmixed_filter {tokens : List Token} :
    Unmixed (tokens.filter isMarker) ↔ Unmixed tokens := by
  apply unmixed_congr
  rw [markers, markers, List.filter_filter]
  simp

/-- The first marker of a text mixes unmixed tokens in front of it when any marker of the text is of
another kind than theirs. -/
theorem mixes_of_not_unmixed {tokens others rest : List Token} {m : Token}
    (htokens : Unmixed tokens) (hothers : Unmixed others)
    (hmixed : ¬ Unmixed (tokens ++ others)) (hmarkers : others.filter isMarker = m :: rest) :
    Mixes tokens m := by
  rw [unmixed_append_iff htokens hothers] at hmixed
  push Not at hmixed
  obtain ⟨t, ht, u, hu, ht', hu', hother⟩ := hmixed
  obtain ⟨hm, hm'⟩ : m ∈ others ∧ m.isMarker = true := by
    rw [← List.mem_filter, hmarkers]
    exact List.mem_cons_self
  refine ⟨hm', ?_⟩
  cases hfirst : tokens.find? isMarker with
  | none => exact absurd ht' (List.find?_eq_none.mp hfirst t ht)
  | some first =>
      refine ⟨first, rfl, fun hsame => hother ?_⟩
      rw [htokens.same_kind ht (List.mem_of_find?_eq_some hfirst) ht' (List.find?_some hfirst),
        ← hsame, hothers.same_kind hm hu hm' hu']

end Token

namespace Query

/-- A template fails at the first marker that mixes those before it. -/
theorem ofTemplate_of_located {s : Style} {template : String} {tokens before after : List Token}
    {m : Token} (hlex : lex s template = tokens.map .ok)
    (hmarkers : tokens.filter Token.isMarker = before ++ m :: after) (hunmixed : Unmixed before)
    (hmixes : Mixes before m) :
    ofTemplate s template = .error ⟨.mixedParameters, m.offset⟩ := by
  obtain ⟨front, rest, rfl, hfront, hrest⟩ := List.filter_eq_append_iff.mp hmarkers
  obtain ⟨plain, back, rfl, hplain, -, -⟩ := List.filter_eq_cons_iff.mp hrest
  have hbefore : (front ++ plain).filter Token.isMarker = before := by
    rw [List.filter_append, hfront, List.filter_eq_nil_iff.mpr hplain, List.append_nil]
  rw [← hbefore, Token.unmixed_filter] at hunmixed
  rw [← hbefore, Token.mixes_filter] at hmixes
  rw [← List.append_assoc, List.map_append, List.map_cons] at hlex
  exact ofTemplate_of_mixes hlex hunmixed hmixes

/-- A template that goes on behind a seam with markers of the other kind fails at the first of
these. -/
theorem ofTemplate_append_of_mixed {s : Style} {front back : String} {tokens others : List Token}
    (hfront : lex s front = tokens.map .ok) (hback : lex s back = others.map .ok)
    (hends : EndsInSeam s tokens) (hunmixed : Unmixed tokens) (hunmixed' : Unmixed others)
    (hmixed : ¬ Unmixed (tokens ++ others)) :
    ∃ m, others.find? Token.isMarker = some m ∧
      ofTemplate s (front ++ back) =
        .error ⟨.mixedParameters, front.utf8ByteSize + m.offset⟩ := by
  obtain ⟨joined, hglued, hjoined⟩ := lex_append hfront hback hends
  obtain ⟨hwhole, -, hplace⟩ := lex_eq_tokens_iff.mp hfront
  obtain ⟨-, -, hplace'⟩ := lex_eq_tokens_iff.mp hback
  have hlocated := hglued.located hplace hplace'
  cases hmarkers : others.filter Token.isMarker with
  | nil =>
      -- Without markers behind the seam nothing is mixed.
      have hnone : Token.markers others = [] := by rw [Token.markers, hmarkers, List.map_nil]
      have hkeeps : Token.markers (tokens ++ others) = Token.markers tokens := by
        rw [Token.markers_append, hnone, List.append_nil]
      exact absurd ((Token.unmixed_congr hkeeps).mpr hunmixed) hmixed
  | cons m rest =>
      have hmixes := Token.mixes_of_not_unmixed hunmixed hunmixed' hmixed hmarkers
      rw [hmarkers, ← hwhole, byteLength_toList, List.map_cons] at hlocated
      refine ⟨m, ?_, ?_⟩
      · rw [← List.head?_filter, hmarkers]
        rfl
      · rw [ofTemplate_of_located hjoined hlocated (Token.unmixed_filter.mpr hunmixed)
          (Token.mixes_filter.mpr hmixes), Nat.add_comm]
        rfl

theorem ofTokens_append (tokens others : List Token) :
    ofTokens (tokens ++ others) =
      ⟨(ofTokens tokens).sql ++ (ofTokens others).sql, .ofTokens (tokens ++ others)⟩ := by
  rw [ofTokens, List.flatMap_append, String.ofList_append]
  rfl

end Query

/-- Parsing is compositional. A template that ends in a blank can be written in front of any other:
the query of both has the SQL and the parameters of the first and behind them those of the second.
Only when one of them has named and the other one positional parameters there is none, and the
failure is at the first marker of the second template. -/
theorem ofTemplate_compositional (s : Style) (front back : String) (frontQuery backQuery : Query)
    (hfront : Query.ofTemplate s front = .ok frontQuery)
    (hback : Query.ofTemplate s back = .ok backQuery) (hends : EndsInBlank s front) :
    match frontQuery.parameters.followedBy backQuery.parameters with
    | some parameters =>
      Query.ofTemplate s (front ++ back) = .ok ⟨frontQuery.sql ++ backQuery.sql, parameters⟩
    | none =>
      ∃ (tokens : List Token) (m : Token), lex s back = tokens.map .ok ∧
        tokens.find? Token.isMarker = some m ∧
        Query.ofTemplate s (front ++ back) =
          .error ⟨.mixedParameters, front.utf8ByteSize + m.offset⟩ := by
  obtain ⟨tokens, hlex, hunmixed, rfl⟩ := Query.ofTemplate_eq_ok_iff.mp hfront
  obtain ⟨others, hlex', hunmixed', rfl⟩ := Query.ofTemplate_eq_ok_iff.mp hback
  have hseam := hends.endsInSeam hlex
  rcases Parameters.followedBy_ofTokens hunmixed hunmixed' with ⟨hall, hparameters⟩ |
    ⟨hmixed, hparameters⟩
  · simp only [Query.ofTokens] at hparameters ⊢
    rw [hparameters, Query.ofTemplate_append hlex hlex' hseam hall, Query.ofTokens_append]
    rfl
  · simp only [Query.ofTokens, hparameters]
    obtain ⟨m, hfirst, hfailure⟩ :=
      Query.ofTemplate_append_of_mixed hlex hlex' hseam hunmixed hunmixed' hmixed
    exact ⟨others, m, hlex', hfirst, hfailure⟩

/-- A template in front of one with names, and in front of one with positional markers. -/
theorem ofTemplate_compositional_joined :
    EndsInBlank .colon "a = :a and\n" ∧
    Query.ofTemplate .colon ("a = :a and\n" ++ "b in (:b, :a)") =
      .ok ⟨"a = ? and\nb in (?, ?)", .named ["a", "b", "a"]⟩ ∧
    Query.ofTemplate .colon ("a = :a and\n" ++ "'?' = ? or ?") = .error ⟨.mixedParameters, 17⟩ := by
  have hends : EndsInBlank .colon "a = :a and\n" :=
    Or.inr ⟨[.ok ⟨.literal, "a = ".toList, 0⟩, .ok ⟨.named, ['a'], 4⟩],
      ⟨.literal, " and\n".toList, 6⟩, by cbv, rfl, '\n', rfl, by cbv⟩
  have hfront : Query.ofTemplate .colon "a = :a and\n" = .ok ⟨"a = ? and\n", .named ["a"]⟩ := by cbv
  have hnamed : Query.ofTemplate .colon "b in (:b, :a)" =
      .ok ⟨"b in (?, ?)", .named ["b", "a"]⟩ := by cbv
  have hpositional : Query.ofTemplate .colon "'?' = ? or ?" =
      .ok ⟨"'?' = ? or ?", .positional 2⟩ := by cbv
  have hlex : lex .colon "'?' = ? or ?" = ([⟨.quoted, "'?'".toList, 0⟩,
      ⟨.literal, " = ".toList, 3⟩, ⟨.positional, ['?'], 6⟩, ⟨.literal, " or ".toList, 7⟩,
      ⟨.positional, ['?'], 11⟩] : List Token).map .ok := by cbv
  obtain ⟨tokens, m, htokens, hfirst, hfailure⟩ :=
    ofTemplate_compositional .colon _ _ _ _ hfront hpositional hends
  obtain rfl := tokens_unique htokens hlex
  obtain rfl : ⟨.positional, ['?'], 6⟩ = m := Option.some.inj hfirst
  exact ⟨hends, ofTemplate_compositional .colon _ _ _ _ hfront hnamed hends, hfailure⟩

end SqlTemplate
