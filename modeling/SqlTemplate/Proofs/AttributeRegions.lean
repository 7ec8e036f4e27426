import SqlTemplate.Proofs.AttributeEdits
import SqlTemplate.Proofs.Lossless
import SqlTemplate.Session

/-!
# Rendering keeps to the regions of the lexer

The scan for references and the lexer take a template apart on their own. When the lexer comes to
the end of the template, the pieces that the scan finds are those of the tokens: references are
replaced in plain text only, and there every one of them is. The two could part company where a
reference runs over the end of a token, so the lemmas say first what can follow a reference that is
cut short.
-/

namespace SqlTemplate

namespace Attributes

open Lexer

/-! ## Steps of the scan -/

/-- What is seen is what a glance finds. -/
theorem Sees.glance_eq {c : Char} {cs after : List Char} {ps : List Piece}
    (hsees : Sees c cs ps after) : glance c cs = (ps, after) := by
  cases hsees with
  | line => rfl
  | block hblock => simp [glance, hblock]
  | bracket => rfl
  | escaped => simp [glance]
  | reference hfound => simp [glance, hfound]
  | quoted hquote hliteral =>
      rcases hquote with rfl | rfl <;> simp [glance, hliteral]
  | other hline hblock hslash hopen hsingle hdouble =>
      unfold glance
      split
      · simp at hline
      · simp at hblock
      · simp at hslash
      · simp at hslash
      · have hnone : reference? cs = none := by simpa using hopen
        rw [hnone]
      · simp [hsingle, hdouble]

theorem pieces_of_sees {c : Char} {cs after : List Char} {ps : List Piece}
    (hsees : Sees c cs ps after) : pieces (c :: cs) = ps ++ pieces after := by
  rw [pieces, hsees.glance_eq]

/-- The characters at which the scan does more than to copy them. -/
def marks : List Char :=
  ['-', '/', '\\', '<', '\'', '"']

theorem pieces_unmarked {text : List Char} (htext : ∀ c ∈ text, c ∉ marks) (after : List Char) :
    pieces (text ++ after) = text.map .copied ++ pieces after := by
  induction text with
  | nil => rfl
  | cons c text ih =>
      obtain ⟨hc, htext⟩ := List.forall_mem_cons.mp htext
      simp only [marks, List.mem_cons, List.not_mem_nil, or_false, not_or] at hc
      have hsees : Sees c (text ++ after) [.copied c] (text ++ after) := by
        refine .other ?_ ?_ ?_ ?_ hc.2.2.2.2.1 hc.2.2.2.2.2 <;> simp [hc]
      rw [List.cons_append, pieces_of_sees hsees, ih htext]
      rfl

/-! ## Plain text -/

/-- The pieces of plain text: references from left to right, and characters that stay. -/
def literalPieces : List Char → List Piece
  | [] => []
  | c :: rest =>
    match _ : if c = '<' then reference? rest else none with
    | some (name, after) => .reference name :: literalPieces after
    | none => .copied c :: literalPieces rest
termination_by cs => cs.length
decreasing_by
  all_goals simp_wf
  rename_i hfound
  split at hfound
  · obtain ⟨_, rfl⟩ := reference?_eq_some_iff.mp hfound
    simp
    omega
  · simp at hfound

theorem literalPieces_reference {name : List Char} (hname : AttributeName name)
    (after : List Char) :
    literalPieces ('<' :: name ++ '>' :: after) = .reference name :: literalPieces after := by
  have hfound : reference? (name ++ '>' :: after) = some (name, after) :=
    reference?_eq_some_iff.mpr ⟨hname, rfl⟩
  rw [List.cons_append, literalPieces]
  split
  · rename_i heq
    obtain ⟨rfl, rfl⟩ := Prod.mk.inj (Option.some.inj (hfound.symm.trans heq))
    rfl
  · rename_i heq
    exact absurd (hfound.symm.trans heq) (by simp)

theorem literalPieces_copied {c : Char} {cs : List Char}
    (hnone : c = '<' → reference? cs = none) :
    literalPieces (c :: cs) = .copied c :: literalPieces cs := by
  rw [literalPieces]
  split
  · rename_i heq
    split at heq
    · rename_i hc
      rw [hnone hc] at heq
      exact absurd heq (by simp)
    · exact absurd heq (by simp)
  · rfl

/-- Plain text is cut into its pieces without a loss. -/
theorem sources_literalPieces (cs : List Char) : Piece.sources (literalPieces cs) = cs := by
  fun_induction literalPieces cs with
  | case1 => rfl
  | case2 c rest name after hfound ih =>
      split at hfound
      · rename_i hc
        obtain ⟨_, rfl⟩ := reference?_eq_some_iff.mp hfound
        rw [Piece.sources_cons, ih, hc]
        simp [Piece.source]
      · simp at hfound
  | case3 c rest _ ih =>
      rw [Piece.sources_cons, ih]
      rfl

/-- A text whose front cannot carry on a reference that is not closed before it. -/
def Severs (after : List Char) : Prop :=
  ∀ d ∈ after.head?, isAttributeChar d = false ∧ d ≠ '>'

/-- No reference runs over a place where the text is severed. -/
theorem reference?_append {after : List Char} (hafter : Severs after) (cs : List Char) :
    reference? (cs ++ after) = (reference? cs).map fun (name, tail) => (name, tail ++ after) := by
  cases hfound : reference? cs with
  | some pair =>
      obtain ⟨name, tail⟩ := pair
      obtain ⟨hname, rfl⟩ := reference?_eq_some_iff.mp hfound
      exact reference?_eq_some_iff.mpr ⟨hname, by simp⟩
  | none =>
      rw [Option.map_none, Option.eq_none_iff_forall_ne_some]
      rintro ⟨name, tail⟩ hcut
      obtain ⟨hname, hwhole⟩ := reference?_eq_some_iff.mp hcut
      rcases List.append_eq_append_iff.mp hwhole with
        ⟨shared, hshared, hrest⟩ | ⟨shared, hshared, hrest⟩
      · -- The name reaches into the text behind.
        cases shared with
        | nil =>
            rw [List.nil_append] at hrest
            subst hrest
            exact (hafter '>' rfl).2 rfl
        | cons d shared =>
            rw [hrest] at hafter
            have hd : isAttributeChar d = true := hname.2 d (by rw [hshared]; simp)
            rw [(hafter d rfl).1] at hd
            exact absurd hd (by decide)
      · -- The name ends before it, where the bracket follows.
        cases shared with
        | nil =>
            rw [List.nil_append] at hrest
            subst hrest
            exact (hafter '>' rfl).2 rfl
        | cons d shared =>
            obtain ⟨rfl, rfl⟩ := List.cons.inj hrest
            rw [reference?_eq_some_iff.mpr ⟨hname, hshared⟩] at hfound
            exact absurd hfound (by simp)

/-- Plain text can be cut where it is severed. -/
theorem literalPieces_append {after : List Char} (hafter : Severs after) (cs : List Char) :
    literalPieces (cs ++ after) = literalPieces cs ++ literalPieces after := by
  fun_induction literalPieces cs with
  | case1 => rfl
  | case2 c rest name tail hfound ih =>
      split at hfound
      · rename_i hc
        subst hc
        obtain ⟨hname, rfl⟩ := reference?_eq_some_iff.mp hfound
        rw [show '<' :: (name ++ '>' :: tail) ++ after = '<' :: name ++ '>' :: (tail ++ after)
          from by simp, literalPieces_reference hname, ih, List.cons_append]
      · simp at hfound
  | case3 c rest hnone ih =>
      have hnone : c = '<' → reference? (rest ++ after) = none := by
        rintro rfl
        rw [reference?_append hafter, show reference? rest = none from hnone]
        rfl
      rw [List.cons_append, literalPieces_copied hnone, ih]
      rfl

/-! ## Runs of plain text -/

theorem isAttributeChar_sigil (s : Style) : isAttributeChar s.sigil = false := by
  have hname := s.sigil_not_nameChar
  have hdot : s.sigil ≠ '.' := s.sigil_ne_of_reserved (by decide)
  simp only [isNameChar, Bool.or_eq_false_iff] at hname
  simp [isAttributeChar, hname, hdot]

/-- Regions begin with characters that no reference goes on with. -/
theorem severs_of_startsRegion {s : Style} (hclose : s.sigil ≠ '>') {after : List Char}
    (hregion : after = [] ∨ startsRegion s after = true) : Severs after := by
  intro d hd
  obtain ⟨ds, rfl⟩ := List.head?_eq_some_iff.mp hd
  have hregion : startsRegion s (d :: ds) = true := by simpa using hregion
  by_contra hnot
  have hsigil := isAttributeChar_sigil s
  have hplain : Plain s d ds := by
    refine ⟨?_, ?_, ?_⟩
    · simp only [List.mem_cons, List.not_mem_nil, or_false]
      rintro (rfl | rfl | rfl | rfl | rfl)
      · exact hnot (by decide)
      · exact hnot (by decide)
      · exact hnot (by decide)
      · exact hnot (by decide)
      · exact hnot ⟨hsigil, hclose⟩
    · rintro ⟨rfl, _⟩
      exact hnot (by decide)
    · rintro ⟨rfl, _⟩
      exact hnot (by decide)
  rw [startsRegion_cons_eq_false_iff.mpr hplain] at hregion
  exact absurd hregion (by decide)

/-- The scan takes a run of plain text for what it is, whatever follows. -/
theorem pieces_plainRun {s : Style} {after text : List Char} (hafter : Severs after)
    (hrun : PlainRun s after text) :
    pieces (text ++ after) = literalPieces text ++ pieces after := by
  fun_induction literalPieces text with
  | case1 => rfl
  | case2 c rest name tail hfound ih =>
      split at hfound
      · rename_i hc
        subst hc
        have hwhole : reference? (rest ++ after) = some (name, tail ++ after) := by
          rw [reference?_append hafter, hfound]
          rfl
        obtain ⟨_, rfl⟩ := reference?_eq_some_iff.mp hfound
        have hsplit : '<' :: (name ++ '>' :: tail) = ('<' :: name ++ ['>']) ++ tail := by simp
        rw [hsplit] at hrun
        have htail : PlainRun s after tail := hrun.of_append
        rw [List.cons_append, pieces_of_sees (.reference hwhole), ih htail]
        rfl
      · simp at hfound
  | case3 c rest hnone ih =>
      cases hrun with
      | cons hplain hrun =>
          obtain ⟨hmarks, hline, hblock⟩ := hplain
          simp only [List.mem_cons, List.not_mem_nil, or_false, not_or] at hmarks
          -- A bracket that opens nothing in the run opens nothing in the whole text either.
          have hsees : Sees c (rest ++ after) [.copied c] (rest ++ after) := by
            refine .other hline hblock ?_ ?_ hmarks.1 hmarks.2.1
            · exact fun h => hmarks.2.2.1 h.1
            · rintro ⟨rfl, hfound⟩
              rw [reference?_append hafter, show reference? rest = none from hnone] at hfound
              exact hfound rfl
          rw [List.cons_append, pieces_of_sees hsees, ih hrun]
          rfl

/-! ## Tokens -/

/-- The pieces of a token of the given kind and text. -/
def piecesOf (s : Style) : TokenKind → List Char → List Piece
  | .literal, text => literalPieces text
  | .escaped, ['<'] => [.bracket]
  | kind, text => (Token.sourceOf s kind text).map .copied

theorem literalPieces_unmarked {text : List Char} (htext : ∀ c ∈ text, c ∉ marks) :
    literalPieces text = text.map .copied := by
  induction text with
  | nil => rw [literalPieces, List.map_nil]
  | cons c text ih =>
      obtain ⟨hc, htext⟩ := List.forall_mem_cons.mp htext
      have hopen : c ≠ '<' := by
        rintro rfl
        exact hc (by decide)
      rw [literalPieces_copied fun h => absurd h hopen, ih htext]
      rfl

/-- Nothing is found in a token without marks. -/
theorem pieces_unmarked_token (s : Style) (kind : TokenKind) (text : List Char)
    (hkind : kind ≠ .escaped) (hsource : ∀ c ∈ Token.sourceOf s kind text, c ∉ marks)
    (after : List Char) :
    pieces (Token.sourceOf s kind text ++ after) = piecesOf s kind text ++ pieces after := by
  rw [pieces_unmarked hsource]
  cases kind with
  | literal => exact congrArg (· ++ pieces after) (literalPieces_unmarked hsource).symm
  | escaped => exact absurd rfl hkind
  | quoted => rfl
  | comment => rfl
  | named => rfl
  | positional => rfl

theorem not_mem_marks_of_nameChar {c : Char} (hc : isNameChar c = true ∨ c = '.') :
    c ∉ marks := by
  intro hmark
  simp only [marks, List.mem_cons, List.not_mem_nil, or_false] at hmark
  rcases hmark with rfl | rfl | rfl | rfl | rfl | rfl <;> simp [isNameChar] at hc

theorem sigil_not_mem_marks {s : Style} (hopen : s.sigil ≠ '<') : s.sigil ∉ marks := by
  intro hmark
  simp only [marks, List.mem_cons, List.not_mem_nil, or_false] at hmark
  rcases hmark with h | h | h | h | h | h
  · exact s.sigil_ne_of_reserved (by decide) h
  · exact s.sigil_ne_of_reserved (by decide) h
  · exact s.sigil_ne_of_reserved (by decide) h
  · exact hopen h
  · exact s.sigil_ne_of_reserved (by decide) h
  · exact s.sigil_ne_of_reserved (by decide) h

theorem nameChar_of_mem_splitName (cs : List Char) :
    ∀ c ∈ (splitName cs).1, isNameChar c = true ∨ c = '.' := by
  fun_induction splitName cs with
  | case1 => simp
  | case2 d rest hd name after hsplit ih =>
      rw [hsplit] at ih
      exact List.forall_mem_cons.mpr ⟨Or.inl hd, ih⟩
  | case3 d rest hd name after hsplit _ ih =>
      rw [hsplit] at ih
      exact List.forall_mem_cons.mpr
        ⟨Or.inr rfl, List.forall_mem_cons.mpr ⟨Or.inl hd, ih⟩⟩
  | case4 => simp
  | case5 => simp

/-- What the lexer reads in one step, the scan sees in the same places. -/
theorem pieces_of_reads {s : Style} (hopen : s.sigil ≠ '<') (hclose : s.sigil ≠ '>')
    {cs : List Char} {f : Front} (hreads : Reads s cs f) :
    pieces cs = piecesOf s f.kind f.text ++ pieces f.after := by
  have hsigil := sigil_not_mem_marks hopen
  have hmark : '?' ∉ marks := by decide
  cases hreads with
  | line => exact pieces_of_sees .line
  | block hblock => exact pieces_of_sees (.block (by rw [hblock]; rfl))
  | quoted hquote hliteral => exact pieces_of_sees (.quoted hquote (by rw [hliteral]; rfl))
  | @escaped c after =>
      by_cases hc : c = '<'
      · subst hc
        exact pieces_of_sees .bracket
      · rw [pieces_of_sees (.escaped hc), piecesOf]
        · rfl
        · simp
        · simpa using hc
  | backslash =>
      have hsees : Sees '\\' [] [.copied '\\'] [] := by
        refine .other ?_ ?_ ?_ ?_ ?_ ?_ <;> simp
      rw [pieces_of_sees hsees, piecesOf, literalPieces_copied (by simp), literalPieces]
  | doubledMark =>
      exact pieces_unmarked_token s .literal ['?', '?'] (by simp)
        (by simp [Token.sourceOf, hmark]) _
  | mark =>
      exact pieces_unmarked_token s .positional ['?'] (by simp) (by simp [Token.sourceOf, hmark]) _
  | doubledSigil =>
      exact pieces_unmarked_token s .literal [s.sigil, s.sigil] (by simp)
        (by simp [Token.sourceOf, hsigil]) _
  | sigil =>
      exact pieces_unmarked_token s .literal [s.sigil] (by simp)
        (by simp [Token.sourceOf, hsigil]) _
  | @named c cs hc hafter =>
      have hsource : ∀ d ∈ Token.sourceOf s .named (splitName (c :: cs)).1, d ∉ marks :=
        List.forall_mem_cons.mpr ⟨hsigil, fun d hd =>
          not_mem_marks_of_nameChar (nameChar_of_mem_splitName (c :: cs) d hd)⟩
      have htoken := pieces_unmarked_token s .named _ (by simp) hsource (splitName (c :: cs)).2
      rwa [Token.sourceOf, List.cons_append, splitName_append] at htoken
  | @plain c cs hplain =>
      have hafter := severs_of_startsRegion hclose (splitPlain_stops s cs)
      have hrun : PlainRun s (splitPlain s cs).2 (c :: (splitPlain s cs).1) := by
        refine .cons ?_ (plainRun_splitPlain s cs)
        rwa [splitPlain_append]
      have hpieces := pieces_plainRun hafter hrun
      rwa [List.cons_append, splitPlain_append] at hpieces

end Attributes

namespace Token

open Attributes (Piece AttributeName literalPieces literalPieces_append literalPieces_reference)

/-- The pieces of a token. -/
def pieces (s : Style) (t : Token) : List Piece :=
  Attributes.piecesOf s t.kind t.text

theorem sources_pieces (s : Style) (t : Token) : Piece.sources (t.pieces s) = t.source s := by
  rw [pieces, source]
  generalize t.kind = kind, t.text = text
  fun_cases Attributes.piecesOf s kind text with
  | case1 => exact Attributes.sources_literalPieces text
  | case2 => rfl
  | case3 => exact Piece.sources_copied _

/-- References are found in plain text only. -/
theorem literal_of_reference_mem {s : Style} {t : Token} {name : List Char}
    (hmem : Piece.reference name ∈ t.pieces s) : t.kind = .literal := by
  rw [pieces] at hmem
  generalize t.kind = kind, t.text = text at hmem
  fun_cases Attributes.piecesOf s kind text with
  | case1 => rfl
  | case2 => simp [Attributes.piecesOf] at hmem
  | case3 =>
      rw [Attributes.piecesOf] at hmem
      · simp at hmem
      · assumption
      · assumption

/-- No reference in plain text is missed. -/
theorem pieces_reference {s : Style} {t : Token} (hkind : t.kind = .literal)
    {before name after : List Char} (hname : AttributeName name)
    (htext : t.text = before ++ '<' :: name ++ '>' :: after) :
    t.pieces s = literalPieces before ++ .reference name :: literalPieces after := by
  have hsevers : Attributes.Severs ('<' :: name ++ '>' :: after) := by
    rintro d hd
    obtain rfl : '<' = d := by simpa using hd
    decide
  rw [pieces, hkind, htext, Attributes.piecesOf, List.append_assoc,
    literalPieces_append hsevers, literalPieces_reference hname]

end Token

/-- The pieces of a template are those of its tokens when the lexer comes to its end. -/
theorem pieces_of_lexes {s : Style} (hopen : s.sigil ≠ '<') (hclose : s.sigil ≠ '>')
    {start : Nat} {cs : List Char} {items : List LexItem} (hrun : Lexer.Lexes s start cs items) :
    ∀ tokens : List Token, items = tokens.map .ok →
      Attributes.pieces cs = tokens.flatMap (Token.pieces s) := by
  induction hrun with
  | stop =>
      intro tokens hitems
      obtain rfl := List.map_eq_nil_iff.mp hitems.symm
      rw [Attributes.pieces, List.flatMap_nil]
  | failure =>
      -- A failure is no token, so this is not a run to the end.
      intro tokens hitems
      cases tokens <;> simp at hitems
  | @token start c cs f items hfront _ ih =>
      intro tokens hitems
      cases tokens with
      | nil => simp at hitems
      | cons t tokens =>
          obtain ⟨ht, htail⟩ := List.cons.inj hitems
          obtain rfl := Except.ok.inj ht
          have hreads := Lexer.answers_front s c cs
          rw [hfront] at hreads
          rw [Attributes.pieces_of_reads hopen hclose hreads, ih tokens htail]
          rfl

/-- Rendering and the lexer agree on what is plain text. When the lexer comes to the end of the
template, rendering fills the pieces of the tokens in their order, the first undefined attribute
being the failure. The pieces of a token are its source; references are found in plain text only,
and there none is missed. -/
theorem render_by_tokens (s : Style) (hopen : s.sigil ≠ '<') (hclose : s.sigil ≠ '>')
    (a : Attributes) (template : String) (tokens : List Token)
    (htokens : lex s template = tokens.map .ok) :
    (TemplateEngine.attributes.render a template =
      match a.fill (tokens.flatMap (Token.pieces s)) with
      | .ok rendered => pure (String.ofList rendered)
      | .error failure => failLoudly
          (.context ("Cannot render the template:\n" ++ Text.shortened template) failure)) ∧
    (∀ t ∈ tokens, Attributes.Piece.sources (t.pieces s) = t.source s) ∧
    (∀ t ∈ tokens, ∀ name, .reference name ∈ t.pieces s → t.kind = .literal) ∧
    (∀ t ∈ tokens, t.kind = .literal → ∀ before name after, Attributes.AttributeName name →
      t.text = before ++ '<' :: name ++ '>' :: after →
      ∃ ps qs, t.pieces s = ps ++ .reference name :: qs ∧
        Attributes.Piece.sources ps = before ∧ Attributes.Piece.sources qs = after) := by
  refine ⟨?_, fun t _ => t.sources_pieces s, fun t _ name => Token.literal_of_reference_mem, ?_⟩
  · have hrun := Lexer.lexes_lex s template
    rw [TemplateEngine.render, Attributes.substitute_eq_fill,
      pieces_of_lexes hopen hclose hrun tokens htokens]
    cases a.fill (tokens.flatMap (Token.pieces s)) <;> rfl
  · intro t _ hkind before name after hname htext
    exact ⟨_, _, Token.pieces_reference hkind hname htext,
      Attributes.sources_literalPieces before, Attributes.sources_literalPieces after⟩

/-- Brackets in a comment, behind a backslash and in a literal with an escaped quote stay, and the
one reference in plain text is replaced. -/
theorem render_by_tokens_mixed :
    TemplateEngine.attributes.render (Attributes.empty.define "t" "users")
        "/*<t>*/\\<\\é '\\'<t>'<t>:t.n -- <t>" =
      pure "/*<t>*/<\\é '\\'<t>'users:t.n -- <t>" := by
  have hrender := (render_by_tokens .colon (by decide) (by decide)
    (Attributes.empty.define "t" "users") "/*<t>*/\\<\\é '\\'<t>'<t>:t.n -- <t>"
    [⟨.comment, "/*<t>*/".toList, 0⟩, ⟨.escaped, ['<'], 7⟩, ⟨.escaped, ['é'], 9⟩,
      ⟨.literal, [' '], 12⟩, ⟨.quoted, "'\\'<t>'".toList, 13⟩, ⟨.literal, "<t>".toList, 20⟩,
      ⟨.named, "t.n".toList, 23⟩, ⟨.literal, [' '], 27⟩, ⟨.comment, "-- <t>".toList, 28⟩]
    (by cbv)).1
  rw [hrender]
  cbv

end SqlTemplate
