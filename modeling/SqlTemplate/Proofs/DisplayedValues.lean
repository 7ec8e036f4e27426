import SqlTemplate.Proofs.ListMarkers
import SqlTemplate.Value.Text

/-!
# Displayed values as templates

The text of a string doubles its quotes, and the lexer ends a literal at the first quote. So a
displayed string is read as several literals side by side, cut where the string has a quote, and
nothing of it is lost. What a list puts around its items is plain text in every style whose sigil is
not among it, so that no marker is read in a displayed list either.
-/

namespace SqlTemplate

open Lexer (InClasses Plain QuoteBody)
open Text (doubledQuotes quoted)

/-! ## Literals side by side -/

namespace Text

/-- A body between single quotes. -/
def enclosed (body : List Char) : List Char :=
  '\'' :: body ++ ['\'']

theorem splitOn_quote (cs : List Char) :
    ('\'' :: cs).splitOn '\'' = [] :: cs.splitOn '\'' := by
  rw [List.splitOn_cons_eq_if_modifyHead, if_pos (by decide)]

/-- A character that is no quote goes into the first piece. -/
theorem splitOn_other {c : Char} (hc : c ≠ '\'') (cs : List Char) :
    ∃ body rest, cs.splitOn '\'' = body :: rest ∧
      (c :: cs).splitOn '\'' = (c :: body) :: rest := by
  obtain ⟨body, rest, hpieces⟩ := List.exists_cons_of_ne_nil (List.splitOn_ne_nil '\'' cs)
  refine ⟨body, rest, hpieces, ?_⟩
  rw [List.splitOn_cons_eq_if_modifyHead, if_neg (by simpa using hc), hpieces]
  rfl

/-- Doubled quotes close a literal and open the next. -/
theorem enclosed_doubledQuotes (cs : List Char) :
    enclosed (doubledQuotes cs) = (cs.splitOn '\'').flatMap enclosed := by
  induction cs with
  | nil => rfl
  | cons c cs ih =>
      by_cases hc : c = '\''
      · subst hc
        rw [splitOn_quote, List.flatMap_cons, ← ih, doubledQuotes, if_pos rfl]
        rfl
      · obtain ⟨body, rest, hpieces, hpieces'⟩ := splitOn_other hc cs
        rw [hpieces, List.flatMap_cons] at ih
        have htail := (List.cons.inj ih).2
        rw [hpieces', List.flatMap_cons, doubledQuotes, if_neg hc]
        exact congrArg (fun front => '\'' :: c :: front) htail

theorem toList_quoted (t : String) :
    (quoted t).toList = (t.toList.splitOn '\'').flatMap enclosed := by
  rw [quoted, String.toList_ofList, ← enclosed_doubledQuotes]
  rfl

/-- No piece has a quote, so without a backslash in the text each is the body of a literal. -/
theorem quoteBody_of_mem_splitOn {cs : List Char} (hslash : '\\' ∉ cs) :
    ∀ body ∈ cs.splitOn '\'', QuoteBody '\'' body := by
  induction cs with
  | nil => simpa using QuoteBody.nil
  | cons c cs ih =>
      obtain ⟨hc, hslash⟩ := not_or.mp (List.mem_cons.not.mp hslash)
      have hpieces := ih hslash
      by_cases hquote : c = '\''
      · subst hquote
        rw [splitOn_quote]
        exact List.forall_mem_cons.mpr ⟨.nil, hpieces⟩
      · obtain ⟨body, rest, hsplit, hsplit'⟩ := splitOn_other hquote cs
        rw [hsplit] at hpieces
        obtain ⟨hbody, hrest⟩ := List.forall_mem_cons.mp hpieces
        rw [hsplit']
        exact List.forall_mem_cons.mpr
          ⟨.plain hquote (fun h => hc h.2.symm) hbody, hrest⟩

end Text

open Text (enclosed)

namespace Token

theorem exists_of_mem_place {s : Style} {start : Nat} {tokens : List Token} {t : Token}
    (ht : t ∈ place s start tokens) : ∃ u ∈ tokens, u.kind = t.kind ∧ u.text = t.text := by
  have hview := List.mem_map_of_mem (f := fun u : Token => (u.kind, u.text)) ht
  rw [map_place s _ (fun _ _ => rfl)] at hview
  obtain ⟨u, hu, hsame⟩ := List.mem_map.mp hview
  exact ⟨u, hu, Prod.mk.inj hsame⟩

/-- The text of a literal without its quotes. -/
def body (t : Token) : List Char :=
  t.text.tail.dropLast

/-- The literals that a text between quotes is read as. -/
def literals (t : String) : List Token :=
  (t.toList.splitOn '\'').map fun body => ⟨.quoted, enclosed body, 0⟩

theorem sources_literals (s : Style) (t : String) :
    sources s (literals t) = (quoted t).toList := by
  rw [sources, literals, List.flatMap_map, Text.toList_quoted]
  rfl

theorem map_body_literals (t : String) : (literals t).map body = t.toList.splitOn '\'' := by
  rw [literals, List.map_map]
  refine List.map_id'' (fun piece => ?_) _
  simp [body, enclosed]

theorem enclosed_of_mem_literals {t : String} :
    ∀ k ∈ literals t, k.kind = .quoted ∧ k.text = enclosed k.body := by
  intro k hk
  obtain ⟨piece, -, rfl⟩ := List.mem_map.mp hk
  simp [body, enclosed]

end Token

namespace Lexer

/-- The pieces are literals whatever is written behind them. -/
theorem inClasses_literals (s : Style) {t : String} (hslash : '\\' ∉ t.toList)
    (rest : List Char) : InClasses s rest (Token.literals t) := by
  have hbodies := Text.quoteBody_of_mem_splitOn hslash
  rw [Token.literals]
  generalize t.toList.splitOn '\'' = pieces at hbodies
  induction pieces with
  | nil => trivial
  | cons piece pieces ih =>
      obtain ⟨hbody, hbodies⟩ := List.forall_mem_cons.mp hbodies
      exact ⟨.quoted (Or.inl rfl) hbody, ih hbodies⟩

end Lexer

theorem lex_quoted (s : Style) {t : String} (hslash : '\\' ∉ t.toList) :
    lex s (quoted t) = (Token.place s 0 (Token.literals t)).map .ok :=
  lex_of_inClasses (Token.sources_literals s t).symm (Lexer.inClasses_literals s hslash [])

/-! ## Texts without markers -/

namespace Lexer

/-- Plain text in front of tokens is a run of its own, or it goes into the run that they begin
with. -/
theorem InClasses.plain_cons {s : Style} {c : Char} {tokens : List Token}
    (hclasses : InClasses s [] tokens) (hplain : Plain s c (Token.sources s tokens)) :
    ∃ text others, Token.sources s (⟨.literal, text, 0⟩ :: others) = c :: Token.sources s tokens ∧
      InClasses s [] (⟨.literal, text, 0⟩ :: others) ∧ others ⊆ tokens := by
  by_cases hend : Token.sources s tokens = [] ∨ Opens s (Token.sources s tokens)
  · have hrun : PlainRun s (Token.sources s tokens) [c] := .cons hplain .nil
    refine ⟨[c], tokens, rfl, ⟨?_, hclasses⟩, List.Subset.refl tokens⟩
    rw [List.append_nil]
    exact inClass_of_plainRun (List.cons_ne_nil c []) hrun hend
  · obtain ⟨hne, hopens⟩ := not_or.mp hend
    cases tokens with
    | nil => exact absurd rfl hne
    | cons t others =>
        obtain ⟨hclass, hclasses⟩ := hclasses
        rw [List.append_nil] at hclass
        rw [Token.sources_cons] at hopens hplain
        obtain ⟨hkind, hrun, hafter⟩ := hclass.plainRun_of_not_opens hopens
        have hsource := Token.source_of_literal s hkind
        rw [hsource] at hplain
        refine ⟨c :: t.text, others, ?_, ⟨?_, hclasses⟩, List.subset_cons_self t others⟩
        · rw [Token.sources_cons, Token.sources_cons, hsource]
          rfl
        · rw [List.append_nil]
          exact inClass_of_plainRun (List.cons_ne_nil c _) (.cons hplain hrun) hafter

end Lexer

/-- The texts that are made of literals between single quotes and of plain text. -/
inductive Inert (s : Style) : List Char → Prop
  | nil : Inert s []
  | plain {c : Char} {cs : List Char} : Plain s c cs → Inert s cs → Inert s (c :: cs)
  | literal {body cs : List Char} :
      QuoteBody '\'' body → Inert s cs → Inert s (enclosed body ++ cs)

namespace Inert

variable {s : Style} {rest : List Char}

theorem nameChars (hrest : Inert s rest) {text : List Char}
    (htext : ∀ c ∈ text, isNameChar c = true) : Inert s (text ++ rest) := by
  induction text with
  | nil => exact hrest
  | cons c text ih =>
      obtain ⟨hc, htext⟩ := List.forall_mem_cons.mp htext
      exact .plain (Lexer.plain_of_nameChar s (Or.inl hc) _) (ih htext)

theorem word (hrest : Inert s rest) {text : String}
    (htext : text.toList.all isNameChar = true) : Inert s (text.toList ++ rest) :=
  hrest.nameChars (List.all_eq_true.mp htext)

theorem natural (hrest : Inert s rest) (n : Nat) : Inert s ((toString n).toList ++ rest) :=
  hrest.nameChars fun _ => Draft.isNameChar_digit

/-- The sign of a number begins no comment, for a digit follows it. -/
theorem integer (hrest : Inert s rest) (n : Int) : Inert s ((toString n).toList ++ rest) := by
  cases n with
  | ofNat n => exact hrest.natural n
  | negSucc n =>
      have htext : (toString (Int.negSucc n)).toList = '-' :: (toString (n + 1)).toList :=
        String.toList_append
      have hdigits : (toString (n + 1)).toList ≠ [] := by
        rw [show (toString (n + 1)).toList = Nat.toDigits 10 (n + 1) from Nat.toList_repr]
        exact Nat.toDigits_ne_nil
      have hdash : '-' ∉ (toString (n + 1)).toList := fun hmem =>
        absurd (Draft.isNameChar_digit hmem) (by decide)
      have hsigil : '-' ≠ s.sigil := (s.sigil_ne_of_reserved (by decide)).symm
      rw [htext, List.cons_append]
      refine .plain ⟨by simpa using hsigil, ?_, by simp⟩ (hrest.natural (n + 1))
      rintro ⟨-, hhead⟩
      obtain ⟨d, ds, hcons⟩ := List.exists_cons_of_ne_nil hdigits
      rw [hcons] at hhead hdash
      obtain rfl : d = '-' := by simpa using hhead
      exact hdash List.mem_cons_self

theorem quotedText (hrest : Inert s rest) {t : String} (hslash : '\\' ∉ t.toList) :
    Inert s ((quoted t).toList ++ rest) := by
  have hbodies := Text.quoteBody_of_mem_splitOn hslash
  rw [Text.toList_quoted]
  generalize t.toList.splitOn '\'' = pieces at hbodies
  induction pieces with
  | nil => exact hrest
  | cons piece pieces ih =>
      obtain ⟨hbody, hbodies⟩ := List.forall_mem_cons.mp hbodies
      rw [List.flatMap_cons, List.append_assoc]
      exact .literal hbody (ih hbodies)

/-- The tokens are made from the end of the text on, so that each run is as long as it can be. -/
theorem exists_tokens {cs : List Char} (hinert : Inert s cs) :
    ∃ tokens, Token.sources s tokens = cs ∧ InClasses s [] tokens ∧
      ∀ t ∈ tokens, t.kind = .literal ∨ t.kind = .quoted := by
  induction hinert with
  | nil => exact ⟨[], rfl, trivial, by simp⟩
  | @plain c cs hplain _ ih =>
      obtain ⟨tokens, rfl, hclasses, hkinds⟩ := ih
      obtain ⟨text, others, hsources, hclasses, hothers⟩ := hclasses.plain_cons hplain
      exact ⟨_, hsources, hclasses,
        List.forall_mem_cons.mpr ⟨Or.inl rfl, fun t ht => hkinds t (hothers ht)⟩⟩
  | @literal body cs hbody _ ih =>
      obtain ⟨tokens, rfl, hclasses, hkinds⟩ := ih
      exact ⟨⟨.quoted, enclosed body, 0⟩ :: tokens, rfl, ⟨.quoted (Or.inl rfl) hbody, hclasses⟩,
        List.forall_mem_cons.mpr ⟨Or.inr rfl, hkinds⟩⟩

end Inert

/-- A text of literals and plain text is read without a failure and without a marker. -/
theorem lex_inert {s : Style} {template : String} (hinert : Inert s template.toList) :
    ∃ tokens : List Token, lex s template = tokens.map .ok ∧
      ∀ t ∈ tokens, t.isMarker = false := by
  obtain ⟨tokens, hsources, hclasses, hkinds⟩ := hinert.exists_tokens
  refine ⟨Token.place s 0 tokens, lex_of_inClasses hsources.symm hclasses, fun t ht => ?_⟩
  obtain ⟨u, hu, hkind, -⟩ := Token.exists_of_mem_place ht
  rw [Token.isMarker, ← hkind]
  rcases hkinds u hu with hkind | hkind <;> rw [hkind] <;> decide

/-! ## Values -/

namespace Value

/-- The string of a text value or of a character. -/
def string? : Value → Option String
  | char c => c.map String.singleton
  | varchar c => c
  | _ => none

theorem text_of_string? {v : Value} {t : String} (ht : v.string? = some t) :
    v.text = quoted t := by
  cases v with
  | char c =>
      obtain ⟨a, rfl, rfl⟩ := Option.map_eq_some_iff.mp ht
      simp [text, literal]
  | varchar c =>
      obtain rfl : c = some t := ht
      simp [text, literal]
  | _ => exact absurd ht (by simp [string?])

theorem text_of_isNull {v : Value} (hnull : v.isNull = true) : v.text = "NULL" := by
  cases v with
  | null => rfl
  | integer k c =>
      obtain rfl : c = none := Option.isNone_iff_eq_none.mp hnull
      rfl
  | _ c =>
      obtain rfl : c = none := Option.isNone_iff_eq_none.mp hnull
      rfl

/-- The values that are made of nulls, booleans, integers and strings without a backslash. -/
inductive Unescaped : Value → Prop
  | null {v : Value} : v.isNull = true → Unescaped v
  | boolean (b : Bool) : Unescaped (boolean (some b))
  | integer {k : IntKind} (n : Integer k) : Unescaped (integer k (some n))
  | string {v : Value} {t : String} : v.string? = some t → '\\' ∉ t.toList → Unescaped v
  | list {items : List Value} {element : Value} :
      (∀ item ∈ items, Unescaped item) → Unescaped (list (some items) element)

theorem texts_eq_map (items : List Value) : texts items = items.map text := by
  induction items with
  | nil => rfl
  | cons item rest ih => rw [texts, ih, List.map_cons]

end Value

/-- The characters that a list is written with have no meaning in the style. -/
def Style.ListsPlain (s : Style) : Prop :=
  s.sigil ∉ ['[', ',', ']']

instance (s : Style) : Decidable s.ListsPlain :=
  inferInstanceAs (Decidable (s.sigil ∉ ['[', ',', ']']))

namespace Inert

variable {s : Style} {rest : List Char}

theorem mark (hlists : s.ListsPlain) (hrest : Inert s rest) {c : Char}
    (hc : c ∈ ['[', ',', ']']) : Inert s (c :: rest) := by
  have hsigil : c ≠ s.sigil := by
    rintro rfl
    exact hlists hc
  simp only [List.mem_cons, List.not_mem_nil, or_false] at hc
  refine .plain ?_ hrest
  rcases hc with rfl | rfl | rfl <;> exact ⟨by simpa using hsigil, by simp, by simp⟩

theorem items (hlists : s.ListsPlain) {values : List Value}
    (hvalues : ∀ v ∈ values, ∀ rest, Inert s rest → Inert s (v.text.toList ++ rest))
    (hrest : Inert s rest) :
    Inert s ((",".intercalate (values.map Value.text)).toList ++ rest) := by
  induction values with
  | nil => simpa using hrest
  | cons v values ih =>
      obtain ⟨hv, hvalues⟩ := List.forall_mem_cons.mp hvalues
      cases values with
      | nil => simpa using hv rest hrest
      | cons w values =>
          rw [List.map_cons, List.map_cons, String.intercalate_cons_cons, String.toList_append,
            String.toList_append, List.append_assoc, List.append_assoc]
          exact hv _ ((ih hvalues).mark hlists (by decide))

/-- An unescaped value is inert in front of whatever is. -/
theorem value (hlists : s.ListsPlain) {v : Value} (hv : v.Unescaped) :
    ∀ rest, Inert s rest → Inert s (v.text.toList ++ rest) := by
  induction hv with
  | null hnull =>
      intro rest hrest
      rw [Value.text_of_isNull hnull]
      exact hrest.word rfl
  | boolean b =>
      intro rest hrest
      cases b <;> exact hrest.word rfl
  | integer n => exact fun rest hrest => hrest.integer n.value
  | string ht hslash =>
      intro rest hrest
      rw [Value.text_of_string? ht]
      exact hrest.quotedText hslash
  | @list values element _ ih =>
      intro rest hrest
      rw [Value.text, Value.texts_eq_map, String.toList_append, String.toList_append,
        List.append_assoc, List.append_assoc]
      exact mark hlists (items hlists ih (mark hlists hrest (by decide))) (by decide)

end Inert

theorem lex_unescaped {s : Style} (hlists : s.ListsPlain) {v : Value} (hv : v.Unescaped) :
    ∃ tokens : List Token, lex s v.text = tokens.map .ok ∧ ∀ t ∈ tokens, t.isMarker = false := by
  have hinert := Inert.value hlists hv [] .nil
  rw [List.append_nil] at hinert
  exact lex_inert hinert

/-- A displayed string without a backslash is read as literals alone, and the string is their bodies
with a quote between any two. -/
theorem lex_text_of_string? (s : Style) {v : Value} {t : String} (ht : v.string? = some t)
    (hslash : '\\' ∉ t.toList) :
    ∃ tokens : List Token, lex s v.text = tokens.map .ok ∧
      (∀ k ∈ tokens, k.kind = .quoted ∧ k.text = enclosed k.body) ∧
      ['\''].intercalate (tokens.map Token.body) = t.toList := by
  rw [Value.text_of_string? ht]
  refine ⟨_, lex_quoted s hslash, fun k hk => ?_, ?_⟩
  · obtain ⟨u, hu, hkind, htext⟩ := Token.exists_of_mem_place hk
    have hliteral := Token.enclosed_of_mem_literals u hu
    rwa [Token.body, htext, hkind] at hliteral
  · rw [Token.map_place s Token.body (fun _ _ => rfl), Token.map_body_literals,
      List.intercalate_splitOn]

theorem string_eq_of_text_eq {v w : Value} {t u : String} (ht : v.string? = some t)
    (hu : w.string? = some u) (hslash : '\\' ∉ t.toList) (hslash' : '\\' ∉ u.toList)
    (hsame : v.text = w.text) : t = u := by
  obtain ⟨tokens, hlex, -, hbodies⟩ := lex_text_of_string? .colon ht hslash
  obtain ⟨tokens', hlex', -, hbodies'⟩ := lex_text_of_string? .colon hu hslash'
  rw [hsame] at hlex
  rw [tokens_unique hlex hlex', hbodies'] at hbodies
  exact String.toList_inj.mp hbodies.symm

/-- A displayed string without a backslash is read as quoted literals alone, whose bodies with a
quote between any two are the string again, so that its display determines it. In the named styles
no marker is read in a display, however deep the lists in it are nested. -/
theorem displayed_strings_read_back :
    (∀ (s : Style) (v : Value) (t : String), v.string? = some t → '\\' ∉ t.toList →
      ∃ tokens : List Token, lex s v.text = tokens.map .ok ∧
        (∀ k ∈ tokens, k.kind = .quoted ∧ k.text = enclosed k.body) ∧
        ['\''].intercalate (tokens.map Token.body) = t.toList) ∧
    (∀ (v w : Value) (t u : String), v.string? = some t → w.string? = some u →
      '\\' ∉ t.toList → '\\' ∉ u.toList → v.text = w.text → t = u) ∧
    ∀ s ∈ [Style.colon, Style.hash, Style.dollar], ∀ v : Value, v.Unescaped →
      ∃ tokens : List Token, lex s v.text = tokens.map .ok ∧
        ∀ k ∈ tokens, k.isMarker = false := by
  have hlists : ∀ s ∈ [Style.colon, Style.hash, Style.dollar], s.ListsPlain := by decide
  exact ⟨fun s _ _ ht hslash => lex_text_of_string? s ht hslash,
    fun _ _ _ _ ht hu hslash hslash' hsame => string_eq_of_text_eq ht hu hslash hslash' hsame,
    fun s hs _ hv => lex_unescaped (hlists s hs) hv⟩

/-- A list of a list, a negative number and a boolean, with marks and quotes in its strings. -/
def quotedMarks : Value :=
  .list (some [.list (some [.varchar (some "it's :x ?"), .char (some '\'')]) (.varchar none),
    .integer .int8 (some ⟨-1, by decide⟩), .boolean (some true)]) .null

theorem unescaped_quotedMarks : quotedMarks.Unescaped := by
  refine .list ?_
  simp only [List.forall_mem_cons, List.not_mem_nil, false_implies, implies_true, and_true]
  refine ⟨.list ?_, .integer _, .boolean true⟩
  simp only [List.forall_mem_cons, List.not_mem_nil, false_implies, implies_true, and_true]
  exact ⟨.string rfl (by decide), .string rfl (by decide)⟩

/-- A quote alone is read as two literals with nothing in them, and has one display as a character
and as a text. -/
theorem displayed_strings_read_back_quote :
    let v : Value := .char (some '\'')
    let w : Value := .varchar (some "'")
    (v.string? = some (String.singleton '\'') ∧ '\\' ∉ (String.singleton '\'').toList ∧
      ∃ tokens : List Token, lex .colon v.text = tokens.map .ok ∧
        ['\''].intercalate (tokens.map Token.body) = ['\'']) ∧
    (w.string? = some "'" ∧ '\\' ∉ "'".toList ∧ v.text = w.text ∧ String.singleton '\'' = "'") ∧
    quotedMarks.Unescaped ∧ quotedMarks.text = "[['it''s :x ?',''''],-1,true]" ∧
      ∃ tokens : List Token, lex .colon quotedMarks.text = tokens.map .ok ∧
        ∀ k ∈ tokens, k.isMarker = false := by
  intro v w
  have hslash : '\\' ∉ (String.singleton '\'').toList := by decide
  have hslash' : '\\' ∉ "'".toList := by decide
  obtain ⟨hstrings, hdetermined, hlists⟩ := displayed_strings_read_back
  obtain ⟨tokens, hlex, -, hbodies⟩ := hstrings .colon v _ rfl hslash
  refine ⟨⟨rfl, hslash, tokens, hlex, hbodies⟩, ⟨rfl, hslash', rfl, ?_⟩,
    unescaped_quotedMarks, rfl, hlists .colon (by decide) quotedMarks unescaped_quotedMarks⟩
  exact hdetermined v w _ _ rfl rfl hslash hslash' rfl

/-- A backslash takes the closing quote with it. -/
example : lex .colon (Value.varchar (some "\\")).text = [.error ⟨.unterminatedQuote, 0⟩] := by cbv

/-- Where the comma is the sigil, the second item of a list is a marker. -/
example : lex ⟨',', by decide⟩ "[1,2]" =
    [.ok ⟨.literal, "[1".toList, 0⟩, .ok ⟨.named, "2".toList, 2⟩,
      .ok ⟨.literal, "]".toList, 4⟩] := by cbv

end SqlTemplate
