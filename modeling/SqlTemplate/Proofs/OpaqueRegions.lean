import SqlTemplate.Proofs.QueryFold
import SqlTemplate.Proofs.TokenSequences

/-!
# Quoted literals and comments are opaque

Two templates that differ only inside a quoted literal or a comment have the same tokens around it,
and so the same parameters. The tokens in front see no more of the region than its delimiter, and
the lexer begins anew behind it.
-/

namespace SqlTemplate

open Text (byteLength byteLength_append byteLength_toList append_inj_byteLength)

namespace Token

/-- The token in a template where so many bytes before it are replaced by others. -/
def moved (removed added : Nat) (t : Token) : Token :=
  { t with offset := t.offset + added - removed }

theorem place_moved (s : Style) (start removed added : Nat) (tokens : List Token) :
    place s (start + added) tokens =
      (place s (start + removed) tokens).map (moved removed added) := by
  induction tokens generalizing start with
  | nil => rfl
  | cons t tokens ih =>
      have hoffset : start + added = start + removed + added - removed := by omega
      rw [place, place, List.map_cons, Nat.add_right_comm start added,
        Nat.add_right_comm start removed, ih, moved, ← hoffset]

/-- Placed tokens are placed with another one among them when those behind it move by the difference
in length. -/
theorem place_exchange {s : Style} {before after : List Token} {t u : Token}
    (hplace : place s 0 (before ++ t :: after) = before ++ t :: after)
    (hoffset : u.offset = t.offset) :
    place s 0 (before ++ u :: after) =
      before ++ u :: after.map (moved (byteLength (t.source s)) (byteLength (u.source s))) := by
  have hu : { u with offset := byteLength (sources s before) } = u := by
    rw [← Nat.zero_add (byteLength _), ← offset_of_place hplace, ← hoffset]
  rw [place_append, Nat.zero_add] at hplace ⊢
  obtain ⟨hbefore, hrest⟩ := List.append_inj hplace (length_place s 0 before)
  obtain ⟨-, hafter⟩ := List.cons.inj hrest
  rw [hbefore, place, hu, place_moved s _ (byteLength (t.source s)), hafter]

theorem markers_moved (removed added : Nat) (tokens : List Token) :
    markers (tokens.map (moved removed added)) = markers tokens := by
  rw [markers, List.filter_map, List.map_map]
  rfl

theorem rewritten_moved (removed added : Nat) (tokens : List Token) :
    (tokens.map (moved removed added)).flatMap rewritten = tokens.flatMap rewritten :=
  List.flatMap_map _ _ _

theorem not_isMarker_of_region {t : Token} (hkind : t.kind = .quoted ∨ t.kind = .comment) :
    t.isMarker = false := by
  rw [isMarker]
  rcases hkind with hkind | hkind <;> rw [hkind] <;> rfl

theorem rewritten_of_region {t : Token} (hkind : t.kind = .quoted ∨ t.kind = .comment) :
    t.rewritten = t.text := by
  rw [rewritten, if_neg (by simp [not_isMarker_of_region hkind])]

/-- A region is its own source. -/
theorem source_of_region (s : Style) {t : Token} (hkind : t.kind = .quoted ∨ t.kind = .comment) :
    t.source s = t.text := by
  rw [source]
  rcases hkind with hkind | hkind <;> rw [hkind] <;> rfl

end Token

namespace Lexer

/-! ## The delimiters -/

/-- The characters with which a region begins whose inside is not looked at. -/
def delimiters : List (List Char) :=
  [['\''], ['"'], ['-', '-'], ['/', '*']]

/-- Whether both texts begin with the same delimiter. -/
def SameDelimiter (q q' : List Char) : Prop :=
  ∃ delimiter ∈ delimiters, delimiter <+: q ∧ delimiter <+: q'

theorem SameDelimiter.exists_cons {q q' : List Char} (hsame : SameDelimiter q q') :
    ∃ c ∈ ['\'', '"', '-', '/'], (∃ cs, q = c :: cs) ∧ ∃ cs', q' = c :: cs' := by
  obtain ⟨delimiter, hmem, ⟨rest, rfl⟩, ⟨rest', rfl⟩⟩ := hsame
  simp only [delimiters, List.mem_cons, List.not_mem_nil, or_false] at hmem
  rcases hmem with rfl | rfl | rfl | rfl
  · exact ⟨'\'', by simp, ⟨_, rfl⟩, ⟨_, rfl⟩⟩
  · exact ⟨'"', by simp, ⟨_, rfl⟩, ⟨_, rfl⟩⟩
  · exact ⟨'-', by simp, ⟨_, rfl⟩, ⟨_, rfl⟩⟩
  · exact ⟨'/', by simp, ⟨_, rfl⟩, ⟨_, rfl⟩⟩

theorem SameDelimiter.head? {q q' : List Char} (hsame : SameDelimiter q q') (after : List Char) :
    (q ++ after).head? = (q' ++ after).head? := by
  obtain ⟨c, -, ⟨cs, rfl⟩, ⟨cs', rfl⟩⟩ := hsame.exists_cons
  rfl

theorem SameDelimiter.opens {q q' : List Char} (hsame : SameDelimiter q q') (s : Style)
    (after : List Char) : Opens s (q' ++ after) := by
  obtain ⟨delimiter, hmem, -, hprefix⟩ := hsame
  refine ⟨delimiter, ?_, hprefix.trans (List.prefix_append _ _)⟩
  simp only [delimiters, List.mem_cons, List.not_mem_nil, or_false] at hmem
  rcases hmem with rfl | rfl | rfl | rfl <;> simp [openings]

/-- A name does not go on into a region. -/
theorem SameDelimiter.not_extendsName {q q' : List Char} (hsame : SameDelimiter q q')
    (after : List Char) : ¬ ExtendsName (q' ++ after) := by
  obtain ⟨c, hc, -, ⟨cs', rfl⟩⟩ := hsame.exists_cons
  have hmarks : ∀ c ∈ ['\'', '"', '-', '/'], isNameChar c = false ∧ c ≠ '.' := by
    simp only [List.forall_mem_cons, List.not_mem_nil, false_implies, implies_true, and_true]
    decide
  obtain ⟨hname, hdot⟩ := hmarks c hc
  rintro ⟨d, tail, hd, hwhole | hwhole⟩
  · obtain ⟨rfl, -⟩ := List.cons.inj hwhole
    rw [hname] at hd
    exact absurd hd (by decide)
  · exact hdot (List.cons.inj hwhole).1

/-- A region can take the place of another one of the same kind and delimiter. -/
theorem InClass.exchange {s : Style} {kind : TokenKind} {q q' after : List Char}
    (hkind : kind = .quoted ∨ kind = .comment) (hclass : InClass s kind q after)
    (hclass' : InClass s kind q' []) (hsame : SameDelimiter q q') : InClass s kind q' after := by
  cases hclass' with
  | quoted hquote hbody => exact .quoted hquote hbody
  | block hbody => exact .block hbody
  | line hinside =>
      -- What ends the new line comment is what ended the old one.
      have hhead := hsame.head? []
      cases hclass with
      | line _ hbehind => exact .line hinside hbehind
      | block => simp at hhead
  | _ => simp at hkind

/-- The tokens around a region stay in their classes when another one takes its place. -/
theorem InClasses.exchange {s : Style} {rest : List Char} {before after : List Token} {t u : Token}
    (hclasses : InClasses s rest (before ++ t :: after))
    (hkind : t.kind = .quoted ∨ t.kind = .comment) (hkind' : u.kind = t.kind)
    (hclass' : InClass s u.kind u.text []) (hsame : SameDelimiter t.text u.text) :
    InClasses s rest (before ++ u :: after) := by
  have hsources : ∀ v : Token, v.kind = t.kind →
      Token.sources s (v :: after) ++ rest = v.text ++ (Token.sources s after ++ rest) := by
    intro v hv
    rw [Token.sources_cons, Token.source_of_region s (by rwa [hv]), List.append_assoc]
  rw [inClasses_append, hsources t rfl] at hclasses
  rw [inClasses_append, hsources u hkind']
  obtain ⟨hbefore, hclass, hafter⟩ := hclasses
  refine ⟨hbefore.of_lookahead (hsame.head? _) (fun _ => hsame.opens s _) fun hextends => ?_, ?_⟩
  · exact absurd hextends (hsame.not_extendsName _)
  · rw [hkind'] at hclass'
    refine ⟨?_, hafter⟩
    rw [hkind']
    exact hclass.exchange hkind hclass' hsame

end Lexer

open Lexer (InClass InClasses SameDelimiter)
open Token (Unmixed)

/-- The tokens of a template that has another region in the place of one of its own. -/
theorem lex_exchange {s : Style} {a q q' b : String} {before after : List Token} {t t' u : Token}
    (hlex : lex s (a ++ q ++ b) = (before ++ t :: after).map .ok)
    (hkind : t.kind = .quoted ∨ t.kind = .comment) (htext : t.text = q.toList)
    (hoffset : t.offset = a.utf8ByteSize) (hone : lex s q' = [.ok t']) (hkind' : t'.kind = t.kind)
    (hsame : SameDelimiter q.toList q'.toList) (hukind : u.kind = t.kind)
    (hutext : u.text = q'.toList) (huoffset : u.offset = t.offset) :
    lex s (a ++ q' ++ b) =
      (before ++ u :: after.map (Token.moved q.utf8ByteSize q'.utf8ByteSize)).map .ok := by
  obtain ⟨hwhole, hclasses, hplace⟩ := lex_eq_tokens_iff.mp hlex
  obtain ⟨hwhole', ⟨hclass', -⟩, -⟩ := lex_eq_tokens_iff.mp (show lex s q' = [t'].map .ok from hone)
  have htext' : t'.text = q'.toList := by
    rw [hwhole', Token.sources_cons, Token.source_of_region s (by rwa [hkind'])]
    exact (List.append_nil _).symm
  have hsource : t.source s = q.toList := by rw [Token.source_of_region s hkind, htext]
  have husource : u.source s = q'.toList := by
    rw [Token.source_of_region s (by rwa [hukind]), hutext]
  have hclasses' : InClasses s [] (before ++ u :: after) := by
    refine hclasses.exchange hkind hukind ?_ (by rwa [htext, hutext])
    rw [hukind, ← hkind', hutext, ← htext']
    exact hclass'
  -- The region stands where its offset says, so the tokens before it are the text before it.
  have hfront : byteLength a.toList = byteLength (Token.sources s before) := by
    rw [byteLength_toList, ← hoffset, Token.offset_of_place hplace, Nat.zero_add]
  rw [String.toList_append, String.toList_append, Token.sources_append, Token.sources_cons, hsource,
    List.append_assoc] at hwhole
  obtain ⟨ha, hrest⟩ := append_inj_byteLength hwhole hfront
  have hb := List.append_cancel_left hrest
  have hnew : (a ++ q' ++ b).toList = Token.sources s (before ++ u :: after) := by
    rw [String.toList_append, String.toList_append, ha, hb, Token.sources_append,
      Token.sources_cons, husource, List.append_assoc]
  rw [lex_of_inClasses hnew hclasses', Token.place_exchange hplace huoffset, hsource, husource,
    byteLength_toList, byteLength_toList]

/-- What is inside a quoted literal or a comment influences nothing else. A template that has
another region of the same kind and delimiter in the place of one has the same tokens around it,
those behind it moved by the difference in length. So its query has the same parameters, and its SQL
differs in that region only; or both have the same fault. -/
theorem region_inert (s : Style) (a q q' b : String) (before after : List Token) (t t' : Token)
    (hlex : lex s (a ++ q ++ b) = (before ++ t :: after).map .ok)
    (hkind : t.kind = .quoted ∨ t.kind = .comment) (htext : t.text = q.toList)
    (hoffset : t.offset = a.utf8ByteSize) (hone : lex s q' = [.ok t']) (hkind' : t'.kind = t.kind)
    (hsame : SameDelimiter q.toList q'.toList) :
    lex s (a ++ q' ++ b) =
      (before ++ ⟨t.kind, q'.toList, t.offset⟩ ::
        after.map (Token.moved q.utf8ByteSize q'.utf8ByteSize)).map .ok ∧
    match Query.ofTemplate s (a ++ q ++ b), Query.ofTemplate s (a ++ q' ++ b) with
    | .ok query, .ok query' =>
      query'.parameters = query.parameters ∧
        query.sql.toList =
          before.flatMap Token.rewritten ++ q.toList ++ after.flatMap Token.rewritten ∧
        query'.sql.toList =
          before.flatMap Token.rewritten ++ q'.toList ++ after.flatMap Token.rewritten
    | .error e, .error e' => e'.fault = e.fault
    | _, _ => False := by
  obtain ⟨u, hu, hukind, hutext, huoffset⟩ : ∃ u : Token, ⟨t.kind, q'.toList, t.offset⟩ = u ∧
      u.kind = t.kind ∧ u.text = q'.toList ∧ u.offset = t.offset := ⟨_, rfl, rfl, rfl, rfl⟩
  have hlex' := lex_exchange hlex hkind htext hoffset hone hkind' hsame hukind hutext huoffset
  have hregion : u.kind = .quoted ∨ u.kind = .comment := by rwa [hukind]
  rw [hu]
  refine ⟨hlex', ?_⟩
  have hmarkers : Token.markers (before ++ u ::
      after.map (Token.moved q.utf8ByteSize q'.utf8ByteSize)) =
        Token.markers (before ++ t :: after) := by
    rw [Token.markers_append, Token.markers_append,
      Token.markers_cons_of_not (Token.not_isMarker_of_region hregion),
      Token.markers_cons_of_not (Token.not_isMarker_of_region hkind), Token.markers_moved]
  have hkeeps := Token.unmixed_congr hmarkers
  by_cases hunmixed : Unmixed (before ++ t :: after)
  · rw [Query.ofTemplate_of_tokens hlex hunmixed,
      Query.ofTemplate_of_tokens hlex' (hkeeps.mpr hunmixed)]
    refine ⟨Parameters.ofTokens_congr hmarkers, ?_, ?_⟩
    · rw [Query.ofTokens, String.toList_ofList, List.flatMap_append, List.flatMap_cons,
        Token.rewritten_of_region hkind, htext, List.append_assoc]
    · rw [Query.ofTokens, String.toList_ofList, List.flatMap_append, List.flatMap_cons,
        Token.rewritten_moved, Token.rewritten_of_region hregion, hutext, List.append_assoc]
  · obtain ⟨offset, hfailure⟩ := Query.ofTemplate_of_not_unmixed hlex hunmixed
    obtain ⟨offset', hfailure'⟩ :=
      Query.ofTemplate_of_not_unmixed hlex' fun h => hunmixed (hkeeps.mp h)
    rw [hfailure, hfailure']

/-- A literal gives way to one with a marker, the other quote, an escaped quote and a letter outside
ASCII. -/
theorem region_inert_literal :
    let before : List Token := [⟨.literal, ['a'], 0⟩, ⟨.named, ['b'], 1⟩, ⟨.literal, [' '], 3⟩]
    let after : List Token := [⟨.literal, ['/'], 7⟩, ⟨.named, ['c'], 8⟩]
    let q' := "':d\"é\\''"
    lex .colon ("a:b " ++ "'x'" ++ "/:c") =
      (before ++ ⟨.quoted, "'x'".toList, 4⟩ :: after).map .ok ∧
    lex .colon ("a:b " ++ q' ++ "/:c") =
      (before ++ ⟨.quoted, q'.toList, 4⟩ :: after.map (Token.moved 3 9)).map .ok ∧
    ∃ query query', Query.ofTemplate .colon ("a:b " ++ "'x'" ++ "/:c") = .ok query ∧
      Query.ofTemplate .colon ("a:b " ++ q' ++ "/:c") = .ok query' ∧
      query'.parameters = query.parameters ∧ query'.sql = "a? " ++ q' ++ "/?" := by
  intro before after q'
  have hlex : lex .colon ("a:b " ++ "'x'" ++ "/:c") =
      (before ++ ⟨.quoted, "'x'".toList, 4⟩ :: after).map .ok := by cbv
  have hone : lex .colon q' = [.ok ⟨.quoted, q'.toList, 0⟩] := by cbv
  have hsame : SameDelimiter "'x'".toList q'.toList := ⟨['\''], by decide, by decide, by decide⟩
  have hquery : Query.ofTemplate .colon ("a:b " ++ "'x'" ++ "/:c") =
      .ok ⟨"a? 'x'/?", .named ["b", "c"]⟩ := by cbv
  have hquery' : Query.ofTemplate .colon ("a:b " ++ q' ++ "/:c") =
      .ok ⟨"a? " ++ q' ++ "/?", .named ["b", "c"]⟩ := by cbv
  obtain ⟨hlex', hqueries⟩ := region_inert .colon "a:b " "'x'" q' "/:c" before after _ _ hlex
    (Or.inl rfl) rfl (by decide) hone rfl hsame
  rw [hquery, hquery'] at hqueries
  exact ⟨hlex, hlex', _, _, hquery, hquery', hqueries.1, rfl⟩

end SqlTemplate
