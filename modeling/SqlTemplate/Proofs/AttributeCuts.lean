import SqlTemplate.Proofs.AttributeRegions
import SqlTemplate.Proofs.StatementRun

/-!
# Rendering by the grammar of pieces

What rendering makes of a template, well formed for the lexer or not, is said here without a reader.
A template is cut from the left into regions that are copied, closed or reaching to the end, into
escaped brackets, references and other characters. There is one such cut, the scan of the bytes
edits at its seams, and rendering fills it.
-/

namespace SqlTemplate.Attributes

open Lexer (splitLine splitBlock? splitQuote? endsLine blockEnd QuoteBody)
open Text (byteLength isBoundary shortened)

/-! ## Cuts -/

/-- The regions that are copied in one go, and what follows them. A comment or a literal that is not
closed reaches to the end. -/
inductive Region : List Char → List Char → Prop
  | line {text after : List Char} :
      (∀ c ∈ text, c ≠ '\n' ∧ c ≠ '\r') → (∀ c ∈ after.head?, c = '\n' ∨ c = '\r') →
      Region ('-' :: '-' :: text) after
  | block {body after : List Char} :
      ¬ blockEnd <:+: body → Region ('/' :: '*' :: (body ++ blockEnd)) after
  | openBlock {text : List Char} : ¬ blockEnd <:+: text → Region ('/' :: '*' :: text) []
  | quoted {quote : Char} {body after : List Char} :
      quote = '\'' ∨ quote = '"' → QuoteBody quote body →
      Region (quote :: (body ++ [quote])) after
  | openQuote {quote : Char} {text : List Char} :
      quote = '\'' ∨ quote = '"' →
      (∀ body after, QuoteBody quote body → text ≠ body ++ quote :: after) →
      Region (quote :: text) []
  | backslash {c : Char} {after : List Char} : c ≠ '<' → Region ['\\', c] after

/-- Whether something begins a text that is more than a character of its own. -/
def Opens (cs : List Char) : Prop :=
  (∃ front after, Region front after ∧ cs = front ++ after) ∨
    (∃ after, cs = '\\' :: '<' :: after) ∨
    ∃ name after, AttributeName name ∧ cs = '<' :: name ++ '>' :: after

/-- A text cut into its pieces from the left. -/
inductive Cut : List Char → List Piece → Prop
  | nil : Cut [] []
  | region {front after : List Char} {ps : List Piece} :
      Region front after → Cut after ps → Cut (front ++ after) (front.map .copied ++ ps)
  | bracket {after : List Char} {ps : List Piece} :
      Cut after ps → Cut ('\\' :: '<' :: after) (.bracket :: ps)
  | reference {name after : List Char} {ps : List Piece} :
      AttributeName name → Cut after ps →
      Cut ('<' :: name ++ '>' :: after) (.reference name :: ps)
  | other {c : Char} {after : List Char} {ps : List Piece} :
      ¬ Opens (c :: after) → Cut after ps → Cut (c :: after) (.copied c :: ps)

/-! ## The readers find the regions -/

theorem region_line (cs : List Char) :
    Region (splitLine ('-' :: '-' :: cs)).1 (splitLine ('-' :: '-' :: cs)).2 := by
  have hline : splitLine ('-' :: '-' :: cs) =
      ('-' :: '-' :: (splitLine cs).1, (splitLine cs).2) := by
    simp [splitLine, endsLine]
  have hsplit : splitLine cs = ((splitLine cs).1, (splitLine cs).2) := rfl
  obtain ⟨-, htext, hafter⟩ := Lexer.splitLine_eq_iff.mp hsplit
  rw [hline]
  exact .line htext hafter

theorem region_block {body comment after : List Char}
    (hblock : (splitBlock? body).getD (body, []) = (comment, after)) :
    Region ('/' :: '*' :: comment) after := by
  cases hfound : splitBlock? body with
  | some pair =>
      obtain rfl : pair = (comment, after) := by rwa [hfound] at hblock
      obtain ⟨text, htext, rfl, -⟩ := Lexer.splitBlock?_eq_some_iff.mp hfound
      exact .block htext
  | none =>
      rw [hfound, Option.getD_none] at hblock
      obtain ⟨rfl, rfl⟩ := Prod.mk.inj hblock
      exact .openBlock (Lexer.splitBlock?_eq_none_iff.mp hfound)

theorem region_quote {quote : Char} {cs literal after : List Char}
    (hquote : quote = '\'' ∨ quote = '"')
    (hliteral : (splitQuote? quote false cs).getD (cs, []) = (literal, after)) :
    Region (quote :: literal) after := by
  cases hfound : splitQuote? quote false cs with
  | some pair =>
      obtain rfl : pair = (literal, after) := by rwa [hfound] at hliteral
      obtain ⟨body, hbody, rfl, -⟩ := Lexer.splitQuote?_eq_some_iff.mp hfound
      exact .quoted hquote hbody
  | none =>
      rw [hfound, Option.getD_none] at hliteral
      obtain ⟨rfl, rfl⟩ := Prod.mk.inj hliteral
      exact .openQuote hquote (Lexer.splitQuote?_eq_none_iff.mp hfound)

/-- What a glance copies in one go is a region, and it sees every region. -/
theorem Region.sees {front after : List Char} (hregion : Region front after) :
    ∃ c cs, front ++ after = c :: cs ∧ Sees c cs (front.map .copied) after := by
  cases hregion with
  | @line text after htext hafter =>
      have hline : splitLine ('-' :: '-' :: (text ++ after)) = ('-' :: '-' :: text, after) := by
        refine Lexer.splitLine_eq_iff.mpr ⟨rfl, ?_, hafter⟩
        intro c hc
        rcases List.mem_cons.mp hc with rfl | hc
        · decide
        · rcases List.mem_cons.mp hc with rfl | hc
          · decide
          · exact htext c hc
      have hsees := @Sees.line (text ++ after)
      rw [hline] at hsees
      exact ⟨_, _, rfl, hsees⟩
  | @block body after hbody =>
      have hfound : splitBlock? (body ++ blockEnd ++ after) = some (body ++ blockEnd, after) :=
        Lexer.splitBlock?_eq_some_iff.mpr ⟨body, hbody, rfl, rfl⟩
      refine ⟨'/', '*' :: (body ++ blockEnd ++ after), rfl, .block ?_⟩
      rw [hfound, Option.getD_some]
  | @openBlock text htext =>
      rw [List.append_nil]
      have hnone : splitBlock? text = none := Lexer.splitBlock?_eq_none_iff.mpr htext
      refine ⟨'/', '*' :: text, rfl, .block ?_⟩
      rw [hnone, Option.getD_none]
  | @quoted quote body after hquote hbody =>
      have hfound : splitQuote? quote false (body ++ [quote] ++ after) =
          some (body ++ [quote], after) :=
        Lexer.splitQuote?_eq_some_iff.mpr ⟨body, hbody, rfl, List.append_assoc _ _ _⟩
      refine ⟨quote, body ++ [quote] ++ after, rfl, .quoted hquote ?_⟩
      rw [hfound, Option.getD_some]
  | @openQuote quote text hquote hopen =>
      rw [List.append_nil]
      have hnone : splitQuote? quote false text = none := Lexer.splitQuote?_eq_none_iff.mpr hopen
      refine ⟨quote, text, rfl, .quoted hquote ?_⟩
      rw [hnone, Option.getD_none]
  | backslash hc => exact ⟨_, _, rfl, .escaped hc⟩

/-- The characters at which something opens. -/
theorem opens_iff {c : Char} {cs : List Char} :
    Opens (c :: cs) ↔
      (c = '-' ∧ cs.head? = some '-') ∨ (c = '/' ∧ cs.head? = some '*') ∨ (c = '\\' ∧ cs ≠ []) ∨
        (c = '<' ∧ reference? cs ≠ none) ∨ c = '\'' ∨ c = '"' := by
  constructor
  · rintro (⟨front, after, hregion, hcs⟩ | ⟨after, hcs⟩ | ⟨name, after, hname, hcs⟩)
    · cases hregion with
      | quoted hquote =>
          obtain ⟨rfl, -⟩ := List.cons.inj hcs
          tauto
      | openQuote hquote =>
          obtain ⟨rfl, -⟩ := List.cons.inj hcs
          tauto
      | _ =>
          obtain ⟨rfl, rfl⟩ := List.cons.inj hcs
          simp
    · obtain ⟨rfl, rfl⟩ := List.cons.inj hcs
      simp
    · obtain ⟨rfl, hrest⟩ := List.cons.inj hcs
      have hfound : reference? cs = some (name, after) :=
        reference?_eq_some_iff.mpr ⟨hname, hrest⟩
      simp [hfound]
  · have hopens : ∀ {front after : List Char}, Region front after → front ++ after = c :: cs →
        Opens (c :: cs) := fun hregion hcut => .inl ⟨_, _, hregion, hcut.symm⟩
    have hquote : c = '\'' ∨ c = '"' → Opens (c :: cs) := by
      intro hquote
      obtain ⟨literal, after, hliteral⟩ : ∃ literal after,
        (splitQuote? c false cs).getD (cs, []) = (literal, after) := ⟨_, _, rfl⟩
      refine hopens (region_quote hquote hliteral) ?_
      rw [List.cons_append, append_of_getD (fun _ _ => Lexer.splitQuote?_append) hliteral]
    rintro (⟨rfl, hhead⟩ | ⟨rfl, hhead⟩ | ⟨rfl, hne⟩ | ⟨rfl, hfound⟩ | hsingle | hdouble)
    · obtain ⟨tail, rfl⟩ := List.head?_eq_some_iff.mp hhead
      exact hopens (region_line tail) (Lexer.splitLine_append _)
    · obtain ⟨tail, rfl⟩ := List.head?_eq_some_iff.mp hhead
      obtain ⟨comment, after, hblock⟩ : ∃ comment after,
        (splitBlock? tail).getD (tail, []) = (comment, after) := ⟨_, _, rfl⟩
      refine hopens (region_block hblock) ?_
      rw [List.cons_append, List.cons_append,
        append_of_getD (fun _ _ => Lexer.splitBlock?_append) hblock]
    · obtain ⟨d, tail, rfl⟩ := List.exists_cons_of_ne_nil hne
      by_cases hd : d = '<'
      · exact .inr (.inl ⟨tail, by rw [hd]⟩)
      · have hregion : Region ['\\', d] tail := .backslash hd
        exact hopens hregion rfl
    · obtain ⟨⟨name, after⟩, hpair⟩ := Option.ne_none_iff_exists'.mp hfound
      obtain ⟨hname, rfl⟩ := reference?_eq_some_iff.mp hpair
      exact .inr (.inr ⟨name, after, hname, rfl⟩)
    · exact hquote (.inl hsingle)
    · exact hquote (.inr hdouble)

/-- What a glance sees in front of a cut belongs to a cut. -/
theorem Sees.cut {c : Char} {cs after : List Char} {ps qs : List Piece}
    (hsees : Sees c cs ps after) (hcut : Cut after qs) : Cut (c :: cs) (ps ++ qs) := by
  have hsources := hsees.sources
  -- A region is copied, so what it stands for is itself.
  have hcopied : ∀ {front : List Char}, Region front after →
      Piece.sources (front.map .copied) ++ after = c :: cs →
      Cut (c :: cs) (front.map .copied ++ qs) := by
    intro front hregion hwhole
    rw [Piece.sources_copied] at hwhole
    exact hwhole ▸ .region hregion hcut
  cases hsees with
  | line => exact hcopied (region_line _) hsources
  | block hblock => exact hcopied (region_block hblock) hsources
  | quoted hquote hliteral => exact hcopied (region_quote hquote hliteral) hsources
  | escaped hd => exact hcopied (.backslash hd) hsources
  | bracket => exact .bracket hcut
  | reference hfound =>
      obtain ⟨hname, rfl⟩ := reference?_eq_some_iff.mp hfound
      exact .reference hname hcut
  | other hline hblock hslash hopen hsingle hdouble =>
      refine .other ?_ hcut
      rw [opens_iff]
      tauto

/-- A template has one cut, which is that of the scan. -/
theorem cut_iff {cs : List Char} {ps : List Piece} : Cut cs ps ↔ ps = pieces cs := by
  constructor
  · intro hcut
    induction hcut with
    | nil => rw [pieces]
    | region hregion _ ih =>
        obtain ⟨c, cs, hwhole, hsees⟩ := hregion.sees
        rw [hwhole, pieces_of_sees hsees, ih]
    | bracket _ ih => rw [pieces_of_sees .bracket, ih, List.singleton_append]
    | @reference name after ps hname _ ih =>
        have hsees : Sees '<' (name ++ '>' :: after) [.reference name] after :=
          .reference (reference?_eq_some_iff.mpr ⟨hname, rfl⟩)
        rw [List.cons_append, pieces_of_sees hsees, ih, List.singleton_append]
    | @other c after ps hopens _ ih =>
        rw [opens_iff] at hopens
        simp only [not_or] at hopens
        obtain ⟨hline, hblock, hslash, hopen, hsingle, hdouble⟩ := hopens
        rw [pieces_of_sees (.other hline hblock hslash hopen hsingle hdouble), ih,
          List.singleton_append]
  · rintro rfl
    fun_induction pieces cs with
    | case1 => exact .nil
    | case2 c rest ih => exact (sees_glance c rest).cut ih

/-! ## Filling -/

section

variable {a b : Attributes} {ps : List Piece}

/-- Pieces are filled exactly when each has a filling. -/
theorem fill_eq_ok_iff {text : List Char} :
    a.fill ps = .ok text ↔
      ∃ fillings, List.Forall₂ (fun p cs => p.filling? a = some cs) ps fillings ∧
        text = fillings.flatten := by
  induction ps generalizing text with
  | nil => simp [fill, eq_comm]
  | cons p ps ih =>
      rw [fill_cons, Piece.filled]
      cases hp : p.filling? a with
      | none =>
          simp only [Except.bind, reduceCtorEq, false_iff, not_exists]
          rintro fillings ⟨hfillings, -⟩
          cases hfillings with
          | cons hp' _ => exact absurd (hp.symm.trans hp') (by simp)
      | some cs =>
          cases hps : a.fill ps with
          | error failure =>
              simp only [Except.bind, Except.map, reduceCtorEq, false_iff, not_exists]
              rintro fillings ⟨hfillings, -⟩
              cases hfillings with
              | cons _ hrest => simpa [hps] using ih.mpr ⟨_, hrest, rfl⟩
          | ok rest =>
              obtain ⟨fillings, hrest, rfl⟩ := ih.mp hps
              simp only [Except.bind, Except.map, Except.ok.injEq]
              constructor
              · rintro rfl
                exact ⟨cs :: fillings, .cons hp hrest, rfl⟩
              · rintro ⟨others, hothers, rfl⟩
                cases hothers with
                | cons hp' hrest' =>
                    have hsame := ih.mpr ⟨_, hrest', rfl⟩
                    rw [hps] at hsame
                    rw [List.flatten_cons, ← Except.ok.inj hsame,
                      Option.some.inj (hp.symm.trans hp')]

/-- A piece that cannot be filled is a reference. -/
theorem Piece.filling?_eq_none_iff {p : Piece} :
    p.filling? a = none ↔ ∃ name, p = .reference name ∧ a.get? (String.ofList name) = none := by
  cases p <;> simp [Piece.filling?]

/-- The first piece that cannot be filled is the first reference to an attribute that is not
defined. -/
theorem find?_unfilled_iff {p : Piece} :
    (ps.find? fun p => (p.filling? a).isNone) = some p ↔
      ∃ earlier name later, p = .reference name ∧ ps = earlier ++ .reference name :: later ∧
        (∀ other, .reference other ∈ earlier → a.get? (String.ofList other) ≠ none) ∧
        a.get? (String.ofList name) = none := by
  have hdefined : ∀ earlier : List Piece, (∀ p ∈ earlier, (!(p.filling? a).isNone) = true) ↔
      ∀ other, .reference other ∈ earlier → a.get? (String.ofList other) ≠ none := by
    intro earlier
    simp only [Bool.not_eq_true', Option.isNone_eq_false_iff, Option.isSome_iff_ne_none, ne_eq,
      Piece.filling?_eq_none_iff, not_exists, not_and]
    exact ⟨fun h other hmem => h _ hmem other rfl, fun h p hmem other hp => h other (hp ▸ hmem)⟩
  rw [List.find?_eq_some_iff_append, Option.isNone_iff_eq_none, Piece.filling?_eq_none_iff]
  constructor
  · rintro ⟨⟨name, rfl, hname⟩, earlier, later, rfl, hearlier⟩
    exact ⟨earlier, name, later, rfl, rfl, (hdefined earlier).mp hearlier, hname⟩
  · rintro ⟨earlier, name, later, rfl, rfl, hearlier, hname⟩
    exact ⟨⟨name, rfl, hname⟩, earlier, later, rfl, (hdefined earlier).mpr hearlier⟩

/-- Filling fails at the first reference to an attribute that is not defined. -/
theorem fill_eq_error_iff {failure : Failure} :
    a.fill ps = .error failure ↔
      ∃ earlier name later, ps = earlier ++ .reference name :: later ∧
        (∀ other, .reference other ∈ earlier → a.get? (String.ofList other) ≠ none) ∧
        a.get? (String.ofList name) = none ∧
        failure = .undefinedAttribute ("<" ++ String.ofList name ++ ">") := by
  have hsource : ∀ name, String.ofList (Piece.reference name).source =
      "<" ++ String.ofList name ++ ">" := by
    intro name
    rw [Piece.source, String.ofList_append, String.ofList_cons]
    rfl
  have hfill : a.fill ps = .error failure ↔
      ∃ p, (ps.find? fun p => (p.filling? a).isNone) = some p ∧
        failure = .undefinedAttribute (String.ofList p.source) := by
    unfold fill
    cases ps.find? fun p => (p.filling? a).isNone <;> simp [eq_comm]
  rw [hfill]
  constructor
  · rintro ⟨p, hfirst, rfl⟩
    obtain ⟨earlier, name, later, rfl, hps, hearlier, hname⟩ := find?_unfilled_iff.mp hfirst
    exact ⟨earlier, name, later, hps, hearlier, hname, by rw [hsource]⟩
  · rintro ⟨earlier, name, later, hps, hearlier, hname, rfl⟩
    exact ⟨.reference name,
      find?_unfilled_iff.mpr ⟨earlier, name, later, rfl, hps, hearlier, hname⟩, by rw [hsource]⟩

/-- Only the texts of attributes that are referred to matter. -/
theorem fill_congr
    (hagree : ∀ name, .reference name ∈ ps →
      a.get? (String.ofList name) = b.get? (String.ofList name)) : a.fill ps = b.fill ps := by
  induction ps with
  | nil => rfl
  | cons p ps ih =>
      have hp : p.filling? a = p.filling? b := by
        cases p with
        | reference name =>
            rw [Piece.filling?, Piece.filling?, hagree name List.mem_cons_self]
        | _ => rfl
      rw [fill_cons, fill_cons, Piece.filled, Piece.filled, hp,
        ih fun name hmem => hagree name (List.mem_cons_of_mem _ hmem)]

theorem fill_of_copied (hcopied : ∀ p ∈ ps, ∃ c, p = .copied c) :
    a.fill ps = .ok (Piece.sources ps) := by
  induction ps with
  | nil => rfl
  | cons p ps ih =>
      obtain ⟨⟨c, rfl⟩, hps⟩ := List.forall_mem_cons.mp hcopied
      rw [fill_cons, ih hps]
      rfl

end

/-- Edits start and stop between characters; `front` is what was passed over before them. -/
theorem isBoundary_of_mem_editsOf {front : List Char} {ps : List Piece} {e : Edit}
    (he : e ∈ editsOf (byteLength front) ps) :
    isBoundary (front ++ Piece.sources ps) e.start = true ∧
      isBoundary (front ++ Piece.sources ps) e.stop = true := by
  induction ps generalizing front with
  | nil => exact absurd he (by simp [editsOf])
  | cons p ps ih =>
      rw [Piece.sources_cons, ← List.append_assoc]
      rw [editsOf, ← Text.byteLength_append, List.mem_append] at he
      rcases he with he | he
      · have hends : e.start = byteLength front ∧ e.stop = byteLength (front ++ p.source) := by
          rw [Text.byteLength_append]
          cases p with
          | copied c => simp [Piece.edit?] at he
          | bracket =>
              obtain rfl : e = _ := by simpa [Piece.edit?] using he
              exact ⟨rfl, rfl⟩
          | reference name =>
              obtain rfl : e = _ := by simpa [Piece.edit?] using he
              rw [byteLength_reference]
              exact ⟨rfl, rfl⟩
        rw [hends.1, hends.2]
        refine ⟨?_, Text.isBoundary_byteLength _ _⟩
        rw [List.append_assoc]
        exact Text.isBoundary_byteLength _ _
      · exact ih he

end SqlTemplate.Attributes

namespace SqlTemplate

open Attributes
open Text (isBoundary shortened)

/-! ## Rendering -/

namespace TemplateEngine

variable {a : Attributes} {template : String}

theorem rendered_eq_ok_iff {text : String} :
    TemplateEngine.attributes.rendered a template = .ok text ↔
      a.fill (pieces template.toList) = .ok text.toList := by
  rw [rendered, substitute_eq_fill]
  cases a.fill (pieces template.toList) with
  | ok filled => simp [withContext, Except.map, ← String.toList_inj]
  | error cause => simp [withContext, Except.map]

theorem rendered_eq_error_iff {failure : Failure} :
    TemplateEngine.attributes.rendered a template = .error failure ↔
      ∃ cause, a.fill (pieces template.toList) = .error cause ∧
        failure = .context ("Cannot render the template:\n" ++ shortened template) cause := by
  rw [rendered, substitute_eq_fill]
  cases a.fill (pieces template.toList) with
  | ok filled => simp [withContext, Except.map]
  | error cause => simp [withContext, Except.map, eq_comm]

end TemplateEngine

/-- Rendering a template, whatever the parser thinks of it, fills the one cut that it has by the
grammar of pieces: regions, single characters and backslashed ones are copied, an escaped bracket
gives the bracket, a reference the text of its attribute. The bytes are cut between characters only.
It fails exactly when an attribute that is referred to is not defined, and names the first one; no
other attribute matters, and without references and escaped brackets the template stays as it is. -/
theorem render_by_characters (template : String) :
    ∃ ps, (∀ qs, Cut template.toList qs ↔ qs = ps) ∧
      (∀ e ∈ edits 0 (bytesOf template.toList),
        isBoundary template.toList e.start = true ∧ isBoundary template.toList e.stop = true) ∧
      ∀ (a : Attributes) (S : Session),
        let outcome := ((TemplateEngine.attributes.render a template).run S).1
        (∀ text, outcome = .ok text ↔
          ∃ fillings, List.Forall₂ (fun p cs => Piece.filling? a p = some cs) ps fillings ∧
            text = String.ofList fillings.flatten) ∧
        (∀ failure, outcome = .error failure ↔
          ∃ earlier name later, ps = earlier ++ .reference name :: later ∧
            (∀ other, .reference other ∈ earlier → a.get? (String.ofList other) ≠ none) ∧
            a.get? (String.ofList name) = none ∧
            failure = .context ("Cannot render the template:\n" ++ shortened template)
              (.undefinedAttribute ("<" ++ String.ofList name ++ ">"))) ∧
        (∀ b : Attributes,
          (∀ name, .reference name ∈ ps →
            a.get? (String.ofList name) = b.get? (String.ofList name)) →
          TemplateEngine.attributes.render b template =
            TemplateEngine.attributes.render a template) ∧
        ((∀ p ∈ ps, ∃ c, p = .copied c) → outcome = .ok template) := by
  refine ⟨pieces template.toList, fun qs => cut_iff, ?_, ?_⟩
  · intro e he
    rw [edits_bytesOf] at he
    have hends := @isBoundary_of_mem_editsOf [] _ _ he
    rwa [List.nil_append, sources_pieces] at hends
  · intro a S outcome
    have houtcome : outcome = TemplateEngine.attributes.rendered a template := by
      obtain ⟨records, hrun⟩ := TemplateEngine.attributes.render_run a template S
      exact congrArg Prod.fst hrun
    rw [houtcome]
    refine ⟨?_, ?_, ?_, ?_⟩
    · intro text
      rw [TemplateEngine.rendered_eq_ok_iff, fill_eq_ok_iff]
      simp only [← String.toList_inj, String.toList_ofList]
    · intro failure
      rw [TemplateEngine.rendered_eq_error_iff]
      constructor
      · rintro ⟨cause, hfill, rfl⟩
        obtain ⟨earlier, name, later, hps, hearlier, hname, rfl⟩ := fill_eq_error_iff.mp hfill
        exact ⟨earlier, name, later, hps, hearlier, hname, rfl⟩
      · rintro ⟨earlier, name, later, hps, hearlier, hname, rfl⟩
        exact ⟨_, fill_eq_error_iff.mpr ⟨earlier, name, later, hps, hearlier, hname, rfl⟩, rfl⟩
    · intro b hagree
      have hsubstitute : b.substitute template = a.substitute template := by
        rw [substitute_eq_fill, substitute_eq_fill, fill_congr hagree]
      rw [TemplateEngine.render, TemplateEngine.render, hsubstitute]
    · intro hcopied
      rw [TemplateEngine.rendered_eq_ok_iff, fill_of_copied hcopied, sources_pieces]

/-- A backslash takes a character of several bytes with it, and a literal that is not closed is
copied to the end. -/
example :
    (Attributes.empty.define "t" "<u>").substitute "\\é<t>\\<t> 'a\\'<t>" =
      .ok "\\é<u><t> 'a\\'<t>" := by
  cbv

end SqlTemplate
