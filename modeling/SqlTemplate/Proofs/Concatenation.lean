import SqlTemplate.Proofs.AttributeRegions
import SqlTemplate.Proofs.ReadBack

/-!
# Texts one behind the other

A text that ends in plain text, with a character that nothing goes over, can be lexed apart from
what is written behind it. The tokens of the whole are those of both parts, except that the run at
the end of the first part takes up the run at the beginning of the second. The scan for attributes
keeps to the same cut.
-/

namespace SqlTemplate

open Lexer
open Attributes (pieces literalPieces Severs)

/-! ## Seams -/

/-- A character after which a text can be cut: it stands in plain text, no comment begins with it,
and it cannot be part of a name, of a marker or of a reference. -/
structure Seam (s : Style) (d : Char) : Prop where
  plain : d ∉ ['\'', '"', '\\', '?', s.sigil]
  uncommented : d ≠ '-' ∧ d ≠ '/'
  unnamed : isNameChar d = false ∧ d ≠ '.'
  unbracketed : d ≠ '<' ∧ d ≠ '>'

namespace Seam

variable {s : Style} {d : Char}

theorem plain_cons (hd : Seam s d) (cs : List Char) : Plain s d cs :=
  ⟨hd.plain, fun h => hd.uncommented.1 h.1, fun h => hd.uncommented.2 h.1⟩

theorem severs (hd : Seam s d) (cs : List Char) : Severs (d :: cs) := by
  intro c hc
  obtain rfl : d = c := by simpa using hc
  have hname := hd.unnamed.1
  simp only [isNameChar, Bool.or_eq_false_iff] at hname
  exact ⟨by simp [Attributes.isAttributeChar, hname, hd.unnamed.2], hd.unbracketed.2⟩

theorem not_mem_marks (hd : Seam s d) : d ∉ Attributes.marks := by
  have hplain := hd.plain
  simp only [List.mem_cons, List.not_mem_nil, or_false, not_or] at hplain
  simp [Attributes.marks, hplain, hd.uncommented, hd.unbracketed]

theorem not_extendsName (hd : Seam s d) (cs : List Char) : ¬ ExtendsName (d :: cs) := by
  rintro ⟨c, rest, hc, heq | heq⟩
  · obtain ⟨rfl, -⟩ := List.cons.inj heq
    rw [hd.unnamed.1] at hc
    exact absurd hc (by decide)
  · exact hd.unnamed.2 (List.cons.inj heq).1

/-- A run up to a seam stays one whatever is written behind it. -/
theorem plainRun (hd : Seam s d) {text after after' : List Char}
    (hrun : PlainRun s after (text ++ [d])) : PlainRun s after' (text ++ [d]) := by
  induction text with
  | nil => exact .cons (hd.plain_cons _) .nil
  | cons c text ih =>
      rw [List.cons_append] at hrun ⊢
      cases hrun with
      | cons hplain hrun =>
          refine .cons ?_ (ih hrun)
          -- What follows the character in the run is not empty.
          obtain ⟨hmarks, hline, hblock⟩ := hplain
          have hhead : (text ++ [d] ++ after').head? = (text ++ [d] ++ after).head? := by
            cases text <;> rfl
          rw [Plain, hhead]
          exact ⟨hmarks, hline, hblock⟩

end Seam

/-! ## Runs of plain text as tokens -/

namespace Lexer

theorem PlainRun.append {s : Style} {after front back : List Char}
    (hfront : PlainRun s (back ++ after) front) (hback : PlainRun s after back) :
    PlainRun s after (front ++ back) := by
  induction hfront with
  | nil => exact hback
  | @cons c cs hplain _ ih =>
      rw [← List.append_assoc] at hplain
      exact .cons hplain ih

theorem PlainRun.front {s : Style} {after front back : List Char}
    (hrun : PlainRun s after (front ++ back)) : PlainRun s (back ++ after) front := by
  induction front with
  | nil => exact .nil
  | cons c front ih =>
      rw [List.cons_append] at hrun
      cases hrun with
      | cons hplain hrun =>
          rw [List.append_assoc] at hplain
          exact .cons hplain (ih hrun)

theorem inClass_of_plainRun {s : Style} {after text : List Char} (hne : text ≠ [])
    (hrun : PlainRun s after text) (hafter : after = [] ∨ Opens s after) :
    InClass s .literal text after := by
  obtain ⟨hchars, hline, hblock⟩ := plainRun_iff.mp hrun
  exact .run hne hchars hline hblock hafter

theorem opens_sigil (s : Style) (cs : List Char) : Opens s (s.sigil :: cs) :=
  ⟨[s.sigil], by simp [openings], [s.sigil].prefix_append cs⟩

/-- A character that is a seam is a token of its own in front of a region. -/
theorem inClass_of_seam {s : Style} {d : Char} (hd : Seam s d) {after : List Char}
    (hafter : after = [] ∨ Opens s after) : InClass s .literal [d] after :=
  inClass_of_plainRun (List.cons_ne_nil d []) (.cons (hd.plain_cons _) .nil) hafter

/-- A literal token that ends in a seam is a run of plain text. -/
theorem InClass.plainRun_of_seam {s : Style} {d : Char} (hd : Seam s d) {text after : List Char}
    (hclass : InClass s .literal (text ++ [d]) after) : PlainRun s after (text ++ [d]) := by
  have hplain := hd.plain
  simp only [List.mem_cons, List.not_mem_nil, or_false, not_or] at hplain
  generalize htext : text ++ [d] = whole at hclass
  have hlast : whole.getLast? = some d := by rw [← htext, List.getLast?_concat]
  cases hclass with
  | run _ hchars hline hblock => exact plainRun_iff.mpr ⟨hchars, hline, hblock⟩
  | _ =>
      simp at hlast
      subst hlast
      simp at hplain

/-- A token at which no region begins is a run of plain text. -/
theorem InClass.plainRun_of_not_opens {s : Style} {kind : TokenKind} {text after : List Char}
    (hclass : InClass s kind text after)
    (hplain : ¬ Opens s (Token.sourceOf s kind text ++ after)) :
    kind = .literal ∧ PlainRun s after text ∧ (after = [] ∨ Opens s after) := by
  cases hclass with
  | run _ hchars hline hblock hafter =>
      exact ⟨rfl, plainRun_iff.mpr ⟨hchars, hline, hblock⟩, hafter⟩
  | quoted hquote =>
      rw [← startsRegion_iff_opens] at hplain
      rcases hquote with rfl | rfl <;> simp [Token.sourceOf, startsRegion] at hplain
  | named => exact absurd (opens_sigil s _) hplain
  | doubledSigil => exact absurd (opens_sigil s _) hplain
  | sigil => exact absurd (opens_sigil s _) hplain
  | _ =>
      rw [← startsRegion_iff_opens] at hplain
      simp [Token.sourceOf, startsRegion] at hplain

end Lexer

/-! ## Tokens at a seam -/

theorem Token.source_of_literal (s : Style) {t : Token} (hkind : t.kind = .literal) :
    t.source s = t.text := by
  rw [source, hkind]
  rfl

/-- Whether the last of the tokens, if there is one, is plain text that ends in a seam. -/
def EndsInSeam (s : Style) (tokens : List Token) : Prop :=
  tokens = [] ∨ ∃ front t text d, tokens = front ++ [t] ∧ t.kind = .literal ∧
    t.text = text ++ [d] ∧ Seam s d

/-- Whether two sequences of tokens stand for the same query. -/
structure Token.SameQuery (tokens tokens' : List Token) : Prop where
  rewritten : tokens.flatMap rewritten = tokens'.flatMap rewritten
  markers : markers tokens = markers tokens'

namespace Token.SameQuery

variable {tokens tokens' tokens'' : List Token}

theorem trans (hsame : SameQuery tokens tokens') (hsame' : SameQuery tokens' tokens'') :
    SameQuery tokens tokens'' :=
  ⟨hsame.rewritten.trans hsame'.rewritten, hsame.markers.trans hsame'.markers⟩

theorem append_left (hsame : SameQuery tokens tokens') (front : List Token) :
    SameQuery (front ++ tokens) (front ++ tokens') := by
  constructor
  · rw [List.flatMap_append, List.flatMap_append, hsame.rewritten]
  · rw [markers_append, markers_append, hsame.markers]

theorem ofTokens_eq (hsame : SameQuery tokens tokens') :
    Query.ofTokens tokens = Query.ofTokens tokens' := by
  rw [Query.ofTokens, Query.ofTokens, hsame.rewritten, Parameters.ofTokens_congr hsame.markers]

end Token.SameQuery

/-- The tokens of a text and of one behind it, as the tokens of the whole: side by side, or with the
literals at the seam as one. -/
inductive Glued : List Token → List Token → List Token → Prop
  | apart {tokens others : List Token} : Glued tokens others (tokens ++ others)
  | merged {front : List Token} {t u : Token} {others : List Token} :
      t.kind = .literal → u.kind = .literal →
      Glued (front ++ [t]) (u :: others) (front ++ { t with text := t.text ++ u.text } :: others)

namespace Glued

variable {tokens others joined : List Token}

theorem sources (hglued : Glued tokens others joined) (s : Style) :
    Token.sources s joined = Token.sources s tokens ++ Token.sources s others := by
  cases hglued with
  | apart => exact Token.sources_append s tokens others
  | @merged front t u others ht hu =>
      simp [Token.sources, Token.source_of_literal s, ht, hu]

theorem sameQuery (hglued : Glued tokens others joined) :
    Token.SameQuery joined (tokens ++ others) := by
  cases hglued with
  | apart => exact ⟨rfl, rfl⟩
  | @merged front t u others ht hu =>
      constructor
      · simp [Token.rewritten, Token.isMarker, ht, hu]
      · simp [Token.markers, Token.isMarker, ht, hu]

end Glued

namespace Lexer

/-- Tokens in front of a run that ends in a seam stay in their classes whatever is written behind
the run. -/
theorem InClasses.before_seam {s : Style} {d : Char} (hd : Seam s d) {text : List Char}
    {tokens : List Token} (hclasses : InClasses s (text ++ [d]) tokens) (after : List Char) :
    InClasses s (text ++ [d] ++ after) tokens := by
  refine hclasses.of_lookahead ?_ ?_ ?_
  · cases text <;> rfl
  · rintro ⟨opening, hmem, hopening⟩
    exact ⟨opening, hmem, hopening.trans (List.prefix_append _ _)⟩
  · intro hextends
    cases text with
    | nil => exact absurd hextends (hd.not_extendsName after)
    | cons c text =>
        have hhead : ([d] ++ after).head? = [d].head? := rfl
        rw [List.append_assoc] at hextends
        exact ExtendsName.of_append (List.cons_ne_nil c text) hhead hextends

/-- Two texts that are cut apart by a seam are lexed apart. -/
theorem exists_glued {s : Style} {tokens others : List Token} (hends : EndsInSeam s tokens)
    (htokens : InClasses s [] tokens) (hothers : InClasses s [] others) :
    ∃ joined, Glued tokens others joined ∧ InClasses s [] joined := by
  rcases hends with rfl | ⟨front, t, text, d, rfl, hkind, htext, hd⟩
  · exact ⟨others, .apart, hothers⟩
  · obtain ⟨hfront, ht, -⟩ := inClasses_append.mp htokens
    rw [hkind, htext] at ht
    have hrun := ht.plainRun_of_seam hd
    have hsource : Token.sources s [t] = text ++ [d] := by
      rw [Token.sources_cons, Token.source_of_literal s hkind, htext]
      exact List.append_nil _
    rw [hsource, List.append_nil] at hfront
    cases others with
    | nil => exact ⟨_, .apart, by rwa [List.append_nil]⟩
    | cons u others =>
        obtain ⟨hu, hothers⟩ := hothers
        by_cases hopens : Opens s (u.source s ++ (Token.sources s others ++ []))
        · -- A region begins behind the seam, so the run ends there.
          refine ⟨_, .apart, inClasses_append.mpr ⟨inClasses_append.mpr ⟨?_, ?_, trivial⟩, hu,
            hothers⟩⟩
          · rw [hsource]
            exact hfront.before_seam hd _
          · rw [hkind, htext]
            refine inClass_of_plainRun (by simp) (hd.plainRun hrun) (Or.inr ?_)
            rw [Token.sources_cons, List.append_assoc]
            exact hopens
        · -- Plain text goes on behind the seam, and the run with it.
          obtain ⟨hkind', hrun', hafter⟩ := hu.plainRun_of_not_opens hopens
          refine ⟨_, .merged hkind hkind', inClasses_append.mpr ⟨?_, ?_, hothers⟩⟩
          · rw [Token.sources_cons, Token.source_of_literal s (by exact hkind), htext,
              List.append_assoc, List.append_assoc]
            exact hfront.before_seam hd _
          · rw [hkind, htext]
            exact inClass_of_plainRun (by simp) ((hd.plainRun hrun).append hrun') hafter

end Lexer

/-! ## Templates at a seam -/

/-- The tokens of a template that goes on behind a seam. -/
theorem lex_append {s : Style} {front back : String} {tokens others : List Token}
    (hfront : lex s front = tokens.map .ok) (hback : lex s back = others.map .ok)
    (hends : EndsInSeam s tokens) :
    ∃ joined, Glued tokens others joined ∧
      lex s (front ++ back) = (Token.place s 0 joined).map .ok := by
  obtain ⟨hwhole, hclasses, -⟩ := lex_eq_tokens_iff.mp hfront
  obtain ⟨hwhole', hclasses', -⟩ := lex_eq_tokens_iff.mp hback
  obtain ⟨joined, hglued, hjoined⟩ := exists_glued hends hclasses hclasses'
  refine ⟨joined, hglued, lex_of_inClasses ?_ hjoined⟩
  rw [String.toList_append, hwhole, hwhole', hglued.sources]

namespace Attributes

/-- Tokens in their classes are cut into their own pieces, whatever is written behind them. -/
theorem pieces_of_inClasses {s : Style} (hopen : s.sigil ≠ '<') (hclose : s.sigil ≠ '>')
    {rest : List Char} {tokens : List Token} (hclasses : InClasses s rest tokens) :
    pieces (Token.sources s tokens ++ rest) = tokens.flatMap (Token.pieces s) ++ pieces rest := by
  induction tokens with
  | nil => rfl
  | cons t tokens ih =>
      obtain ⟨hclass, hclasses⟩ := hclasses
      rw [Token.sources_cons, List.append_assoc, List.flatMap_cons, List.append_assoc,
        ← ih hclasses]
      exact pieces_of_reads hopen hclose hclass.reads

/-- A text that ends in a seam is cut apart from what is written behind it. -/
theorem pieces_append {s : Style} (hopen : s.sigil ≠ '<') (hclose : s.sigil ≠ '>')
    {tokens : List Token} (hends : EndsInSeam s tokens) (hclasses : InClasses s [] tokens)
    (after : List Char) :
    pieces (Token.sources s tokens ++ after) =
      tokens.flatMap (Token.pieces s) ++ pieces after := by
  rcases hends with rfl | ⟨front, t, text, d, rfl, hkind, htext, hd⟩
  · rfl
  · obtain ⟨hfront, ht, -⟩ := inClasses_append.mp hclasses
    rw [hkind, htext] at ht
    have hrun := ht.plainRun_of_seam hd
    have hsource : Token.sources s [t] = text ++ [d] := by
      rw [Token.sources_cons, Token.source_of_literal s hkind, htext]
      exact List.append_nil _
    rw [hsource, List.append_nil] at hfront
    have hmark : ∀ c ∈ [d], c ∉ marks := by simpa using hd.not_mem_marks
    have hpieces : pieces (text ++ [d] ++ after) = literalPieces (text ++ [d]) ++ pieces after := by
      have hsevers : Severs ([d] ++ after) := hd.severs after
      rw [List.append_assoc, pieces_plainRun hsevers (hd.plainRun hrun).front,
        pieces_unmarked hmark, literalPieces_append (hd.severs []), literalPieces_unmarked hmark,
        List.append_assoc]
    rw [Token.sources_append, hsource, List.append_assoc,
      pieces_of_inClasses hopen hclose (hfront.before_seam hd after), hpieces, List.flatMap_append,
      List.append_assoc]
    simp [Token.pieces, hkind, htext, piecesOf]

end Attributes

namespace Query

/-- The query of a template that is written from tokens in their classes. -/
theorem ofTemplate_of_inClasses {s : Style} {template : String} {tokens tokens' : List Token}
    (hwhole : template.toList = Token.sources s tokens) (hclasses : Lexer.InClasses s [] tokens)
    (hsame : Token.SameQuery tokens tokens') (hunmixed : Token.Unmixed tokens') :
    ofTemplate s template = .ok (ofTokens tokens') := by
  have hmarkers := (Token.markers_place s 0 tokens).trans hsame.markers
  rw [ofTemplate_of_tokens (lex_of_inClasses hwhole hclasses)
    ((Token.unmixed_congr hmarkers).mpr hunmixed), ofTokens_place, hsame.ofTokens_eq]

/-- The query of a template that goes on behind a seam is that of the tokens of both parts. -/
theorem ofTemplate_append {s : Style} {front back : String} {tokens others : List Token}
    (hfront : lex s front = tokens.map .ok) (hback : lex s back = others.map .ok)
    (hends : EndsInSeam s tokens) (hunmixed : Token.Unmixed (tokens ++ others)) :
    ofTemplate s (front ++ back) = .ok (ofTokens (tokens ++ others)) := by
  obtain ⟨hwhole, hclasses, -⟩ := lex_eq_tokens_iff.mp hfront
  obtain ⟨hwhole', hclasses', -⟩ := lex_eq_tokens_iff.mp hback
  obtain ⟨joined, hglued, hjoined⟩ := exists_glued hends hclasses hclasses'
  refine ofTemplate_of_inClasses ?_ hjoined hglued.sameQuery hunmixed
  rw [String.toList_append, hwhole, hwhole', hglued.sources]

end Query

end SqlTemplate
