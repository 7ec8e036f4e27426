import SqlTemplate.Proofs.QueryFold
import SqlTemplate.Proofs.TokenSequences

/-!
# Styles differ in their sigil only

No sigil has a meaning besides that of introducing names. When the sigils of two styles change
places all over a template, each reader of the lexer takes the same characters in the other style,
so a step in one style is a step in the other one, and with it every token, failure and query.
-/

namespace SqlTemplate

open Text (byteLength)
open Token (Unmixed)

namespace Style

/-- The character that stands for another when the sigils of two styles change places. -/
def exchange (p q : Style) : Char → Char :=
  Equiv.swap p.sigil q.sigil

/-- The text in which the sigils of two styles have changed places. -/
def exchanged (p q : Style) (text : String) : String :=
  String.ofList (text.toList.map (p.exchange q))

variable {p q : Style}

theorem exchange_eq_sigil_iff {c : Char} : p.exchange q c = q.sigil ↔ c = p.sigil := by
  rw [exchange, Equiv.swap_apply_eq_iff, Equiv.swap_apply_right]

/-- A character is exchanged for itself, or a sigil for a sigil. -/
theorem exchange_cases (p q : Style) (c : Char) :
    p.exchange q c = c ∨ ∃ s s' : Style, c = s.sigil ∧ p.exchange q c = s'.sigil := by
  by_cases hp : c = p.sigil
  · exact Or.inr ⟨p, q, hp, exchange_eq_sigil_iff.mpr hp⟩
  by_cases hq : c = q.sigil
  · exact Or.inr ⟨q, p, hq, by rw [exchange, hq, Equiv.swap_apply_right]⟩
  · exact Or.inl (Equiv.swap_apply_of_ne_of_ne hp hq)

/-- What holds of no sigil holds of the same characters as before. -/
theorem exchange_iff {P : Char → Prop} (hP : ∀ s : Style, ¬ P s.sigil) {c : Char} :
    P (p.exchange q c) ↔ P c := by
  rcases exchange_cases p q c with heq | ⟨s, s', hc, heq⟩
  · rw [heq]
  · rw [heq, hc]
    exact iff_of_false (hP s') (hP s)

theorem exchange_eq_iff {c d : Char} (hd : ∀ s : Style, s.sigil ≠ d) :
    p.exchange q c = d ↔ c = d :=
  exchange_iff (P := (· = d)) hd

theorem exchange_eq_reserved_iff {c d : Char} (hd : d ∈ reservedChars) :
    p.exchange q c = d ↔ c = d :=
  exchange_eq_iff fun s => s.sigil_ne_of_reserved hd

theorem exchange_reserved {c : Char} (hc : c ∈ reservedChars) : p.exchange q c = c :=
  (exchange_eq_reserved_iff hc).mpr rfl

theorem isNameChar_exchange (c : Char) : isNameChar (p.exchange q c) = isNameChar c := by
  rw [Bool.eq_iff_iff]
  exact exchange_iff (P := (isNameChar · = true)) fun s => by simp [s.sigil_not_nameChar]

theorem exchange_nameChar {c : Char} (hc : isNameChar c = true) : p.exchange q c = c := by
  refine (exchange_eq_iff fun s => ?_).mpr rfl
  rintro rfl
  rw [s.sigil_not_nameChar] at hc
  exact absurd hc (by decide)

theorem le_toNat_exchange_iff {c : Char} : 0x80 ≤ (p.exchange q c).toNat ↔ 0x80 ≤ c.toNat :=
  exchange_iff (P := (0x80 ≤ ·.toNat)) fun s => Nat.not_le.mpr s.sigil_lt

theorem utf8Size_exchange (c : Char) : (p.exchange q c).utf8Size = c.utf8Size := by
  rcases exchange_cases p q c with heq | ⟨s, s', hc, heq⟩
  · rw [heq]
  · rw [heq, hc, Text.utf8Size_of_lt s.sigil_lt, Text.utf8Size_of_lt s'.sigil_lt]

theorem byteLength_exchange (p q : Style) (cs : List Char) :
    byteLength (cs.map (p.exchange q)) = byteLength cs := by
  induction cs with
  | nil => rfl
  | cons c cs ih => rw [List.map_cons, Text.byteLength_cons, Text.byteLength_cons, ih,
      utf8Size_exchange]

end Style

open Style

/-! ## The readers -/

namespace Lexer

variable {p q : Style}

/-- A front and a rest in which the sigils have changed places. -/
def exchangedPair (p q : Style) : List Char × List Char → List Char × List Char :=
  Prod.map (List.map (p.exchange q)) (List.map (p.exchange q))

theorem head?_exchange_iff {cs : List Char} {d : Char} (hd : d ∈ reservedChars) :
    (cs.map (p.exchange q)).head? = some d ↔ cs.head? = some d := by
  cases cs with
  | nil => rfl
  | cons c cs => simp [exchange_eq_reserved_iff hd]

theorem exchange_lineBreak_iff {c d : Char} (hd : d = '\n' ∨ d = '\r') :
    p.exchange q c = d ↔ c = d := by
  refine exchange_eq_iff fun s hsigil => ?_
  have hadmitted := s.admitted
  rw [hsigil] at hadmitted
  rcases hd with rfl | rfl <;> exact absurd hadmitted (by decide)

theorem splitLine_exchange (p q : Style) (cs : List Char) :
    splitLine (cs.map (p.exchange q)) = exchangedPair p q (splitLine cs) := by
  have hends : (!endsLine ·) ∘ p.exchange q = (!endsLine ·) := by
    funext c
    have hline := exchange_lineBreak_iff (p := p) (q := q) (c := c) (Or.inl rfl)
    have hreturn := exchange_lineBreak_iff (p := p) (q := q) (c := c) (Or.inr rfl)
    rw [Function.comp_apply, Bool.eq_iff_iff]
    simp [endsLine, hline, hreturn]
  rw [splitLine, List.takeWhile_map, List.dropWhile_map, hends]
  rfl

theorem blockEnd_prefix_exchange_iff {cs : List Char} :
    blockEnd <+: cs.map (p.exchange q) ↔ blockEnd <+: cs := by
  have hstar : ∀ c, '*' = p.exchange q c ↔ '*' = c := fun c => by
    rw [eq_comm, exchange_eq_reserved_iff (by decide), eq_comm]
  have hslash : ∀ c, '/' = p.exchange q c ↔ '/' = c := fun c => by
    rw [eq_comm, exchange_eq_reserved_iff (by decide), eq_comm]
  match cs with
  | [] => rfl
  | [c] => simp [blockEnd]
  | c :: d :: cs => simp [blockEnd, hstar, hslash]

theorem splitBlock?_exchange (p q : Style) (cs : List Char) :
    splitBlock? (cs.map (p.exchange q)) = (splitBlock? cs).map (exchangedPair p q) := by
  induction cs with
  | nil => rfl
  | cons c cs ih =>
      by_cases hclose : blockEnd <+: c :: cs
      · obtain ⟨after, hafter⟩ := hclose
        have hstar : p.exchange q '*' = '*' := exchange_reserved (by decide)
        have hslash : p.exchange q '/' = '/' := exchange_reserved (by decide)
        rw [← hafter]
        simp [blockEnd, splitBlock?_closing, exchangedPair, hstar, hslash]
      · have hopen : ¬ blockEnd <+: p.exchange q c :: cs.map (p.exchange q) := by
          rwa [← List.map_cons, blockEnd_prefix_exchange_iff]
        rw [List.map_cons, splitBlock?_cons hopen, splitBlock?_cons hclose, ih, Option.map_map,
          Option.map_map]
        rfl

theorem splitQuote?_exchange (p q : Style) {quote : Char} (hquote : quote = '\'' ∨ quote = '"')
    (taken : Bool) (cs : List Char) :
    splitQuote? quote taken (cs.map (p.exchange q)) =
      (splitQuote? quote taken cs).map (exchangedPair p q) := by
  have hreserved : quote ∈ reservedChars := by rcases hquote with rfl | rfl <;> decide
  induction cs generalizing taken with
  | nil => rfl
  | cons c cs ih =>
      have hslash : (p.exchange q c == '\\') = (c == '\\') := by
        rw [Bool.eq_iff_iff, beq_iff_eq, beq_iff_eq]
        exact exchange_eq_reserved_iff (by decide)
      have hcloses : taken = false ∧ p.exchange q c = quote ↔ taken = false ∧ c = quote := by
        rw [exchange_eq_reserved_iff hreserved]
      rw [List.map_cons, splitQuote?, splitQuote?, hslash, ih]
      by_cases hclose : taken = false ∧ c = quote
      · rw [if_pos (hcloses.mpr hclose), if_pos hclose]
        rfl
      · rw [if_neg (fun h => hclose (hcloses.mp h)), if_neg hclose, Option.map_map, Option.map_map]
        rfl

/-- Names have no sigil in them. -/
theorem DottedName.exchange {name : List Char} (hname : DottedName name) :
    name.map (p.exchange q) = name := by
  have hdot : p.exchange q '.' = '.' := exchange_reserved (by decide)
  induction hname with
  | single hc => simp [exchange_nameChar hc]
  | letter hc _ ih => simp [exchange_nameChar hc, ih]
  | dot hc _ ih => simp [exchange_nameChar hc, hdot, ih]

theorem extendsName_of_exchange {cs : List Char} (hextends : ExtendsName (cs.map (p.exchange q))) :
    ExtendsName cs := by
  obtain ⟨c, rest, hc, heq | heq⟩ := hextends
  · obtain ⟨d, tail, rfl, rfl, -⟩ := List.map_eq_cons_iff.mp heq
    rw [isNameChar_exchange] at hc
    exact ⟨d, tail, hc, Or.inl rfl⟩
  · obtain ⟨e, tail, rfl, hdot, htail⟩ := List.map_eq_cons_iff.mp heq
    obtain ⟨d, tail, rfl, rfl, -⟩ := List.map_eq_cons_iff.mp htail
    rw [isNameChar_exchange] at hc
    rw [exchange_eq_reserved_iff (by decide)] at hdot
    exact ⟨d, tail, hc, Or.inr (by rw [hdot])⟩

theorem splitName_exchange (p q : Style) {c : Char} (hc : isNameChar c = true) (cs : List Char) :
    splitName ((c :: cs).map (p.exchange q)) = exchangedPair p q (splitName (c :: cs)) := by
  have hname := dottedName_splitName_cons hc cs
  have hend : ¬ ExtendsName ((splitName (c :: cs)).2.map (p.exchange q)) :=
    fun hextends => splitName_stops (c :: cs) (extendsName_of_exchange hextends)
  have hwhole := congrArg (List.map (p.exchange q)) (splitName_append (c :: cs))
  rw [List.map_append, hname.exchange] at hwhole
  rw [← hwhole, splitName_of_dottedName hname hend, exchangedPair, Prod.map, hname.exchange]

theorem plain_exchange_iff {c : Char} {cs : List Char} :
    Plain q (p.exchange q c) (cs.map (p.exchange q)) ↔ Plain p c cs := by
  have hreserved : ∀ d ∈ reservedChars, (p.exchange q c = d ↔ c = d) :=
    fun d hd => exchange_eq_reserved_iff hd
  simp only [reservedChars, List.forall_mem_cons] at hreserved
  simp only [Plain, List.mem_cons, List.not_mem_nil, or_false, hreserved, exchange_eq_sigil_iff,
    head?_exchange_iff (show '-' ∈ reservedChars by decide),
    head?_exchange_iff (show '*' ∈ reservedChars by decide)]

theorem startsRegion_exchange (p q : Style) (cs : List Char) :
    startsRegion q (cs.map (p.exchange q)) = startsRegion p cs := by
  cases cs with
  | nil => rfl
  | cons c cs =>
      rw [Bool.eq_iff_iff, ← not_iff_not, Bool.not_eq_true, Bool.not_eq_true, List.map_cons,
        startsRegion_cons_eq_false_iff, startsRegion_cons_eq_false_iff, plain_exchange_iff]

theorem splitPlain_exchange (p q : Style) (cs : List Char) :
    splitPlain q (cs.map (p.exchange q)) = exchangedPair p q (splitPlain p cs) := by
  induction cs with
  | nil => rfl
  | cons c cs ih =>
      rw [List.map_cons, splitPlain, ← List.map_cons, startsRegion_exchange, splitPlain, ih]
      split <;> rfl

/-! ## A step -/

/-- The front of a text in which the sigils have changed places. -/
def Front.exchanged (p q : Style) (f : Front) : Front where
  kind := f.kind
  text := f.text.map (p.exchange q)
  after := f.after.map (p.exchange q)

theorem foreignLetter_exchange_iff {c : Char} : ForeignLetter (p.exchange q c) ↔ ForeignLetter c :=
  exchange_iff fun s hforeign => by
    have hascii := s.sigil_lt
    have hhigh := hforeign.1
    omega

/-- What is asked of the next character is asked of the exchanged one. -/
theorem forall_head?_exchange {P P' : Char → Prop} {cs : List Char}
    (hP : ∀ c, P c → P' (p.exchange q c)) (hcs : ∀ c ∈ cs.head?, P c) :
    ∀ c ∈ (cs.map (p.exchange q)).head?, P' c := by
  cases cs with
  | nil => simp
  | cons c cs => simpa using hP c (hcs c rfl)

theorem exchange_quote {quote : Char} (hquote : quote = '\'' ∨ quote = '"') :
    p.exchange q quote = quote := by
  rcases hquote with rfl | rfl <;> exact exchange_reserved (by decide)

theorem exchange_sigil (p q : Style) : p.exchange q p.sigil = q.sigil :=
  exchange_eq_sigil_iff.mpr rfl

/-- The forms of a token are the same in all styles. -/
theorem Reads.exchanged {cs : List Char} {f : Front} (hreads : Reads p cs f) :
    Reads q (cs.map (p.exchange q)) (f.exchanged p q) := by
  have hreserved : ∀ c ∈ reservedChars, p.exchange q c = c := fun c => exchange_reserved
  simp only [reservedChars, List.forall_mem_cons] at hreserved
  obtain ⟨hmark, -, -, hback, hdash, hslash, hstar, -⟩ := hreserved
  cases hreads with
  | @line cs =>
      have hline := splitLine_exchange p q ('-' :: '-' :: cs)
      simp only [List.map_cons, hdash] at hline ⊢
      have hreads : Reads q ('-' :: '-' :: cs.map (p.exchange q)) _ := .line
      rwa [hline] at hreads
  | @block body inner after hblock =>
      have hblock' := splitBlock?_exchange p q body
      rw [hblock] at hblock'
      simp only [List.map_cons, Front.exchanged, hslash, hstar]
      exact .block hblock'
  | @quoted quote cs literal after hquote hliteral =>
      have hliteral' := splitQuote?_exchange p q hquote false cs
      rw [hliteral] at hliteral'
      simp only [List.map_cons, Front.exchanged, exchange_quote hquote]
      exact .quoted hquote hliteral'
  | escaped =>
      rw [List.map_cons, hback]
      exact .escaped
  | backslash =>
      simp only [List.map_cons, Front.exchanged, hback]
      exact .backslash
  | doubledMark =>
      simp only [List.map_cons, Front.exchanged, hmark]
      exact .doubledMark
  | mark hnext =>
      simp only [List.map_cons, Front.exchanged, hmark]
      exact .mark fun hhead => hnext ((head?_exchange_iff (by decide)).mp hhead)
  | doubledSigil =>
      simp only [List.map_cons, Front.exchanged, exchange_sigil]
      exact .doubledSigil
  | @named c cs hc hforeign =>
      have hname := splitName_exchange p q hc cs
      rw [List.map_cons, exchange_nameChar hc] at hname
      rw [List.map_cons, List.map_cons, exchange_sigil, exchange_nameChar hc]
      have hreads : Reads q (q.sigil :: c :: cs.map (p.exchange q)) _ := .named hc (by
        rw [hname]
        exact forall_head?_exchange (fun d hd => foreignLetter_exchange_iff.not.mpr hd) hforeign)
      rwa [hname] at hreads
  | sigil hnext =>
      simp only [List.map_cons, Front.exchanged, exchange_sigil]
      refine .sigil (forall_head?_exchange (fun c hc => ?_) hnext)
      rwa [Ne, exchange_eq_sigil_iff, isNameChar_exchange, ← Nat.not_le, le_toNat_exchange_iff,
        Nat.not_le]
  | @plain c cs hplain =>
      have hsplit := splitPlain_exchange p q cs
      have hplain' : Plain q (p.exchange q c) (cs.map (p.exchange q)) :=
        plain_exchange_iff.mpr hplain
      have hreads := Reads.plain hplain'
      rwa [hsplit] at hreads

/-- The faults are the same in all styles, and at the same places. -/
theorem Faults.exchanged {cs : List Char} {e : LexFailure} (hfaults : Faults p cs e) :
    Faults q (cs.map (p.exchange q)) e := by
  cases hfaults with
  | @quote quote cs hquote hopen =>
      rw [List.map_cons, exchange_quote hquote]
      exact .quote hquote (by rw [splitQuote?_exchange p q hquote, hopen]; rfl)
  | @block body hopen =>
      have hslash : p.exchange q '/' = '/' := exchange_reserved (by decide)
      have hstar : p.exchange q '*' = '*' := exchange_reserved (by decide)
      rw [List.map_cons, List.map_cons, hslash, hstar]
      exact .block (by rw [splitBlock?_exchange, hopen]; rfl)
  | @name c d cs after hc hafter hforeign =>
      have hname := splitName_exchange p q hc cs
      rw [List.map_cons, exchange_nameChar hc] at hname
      have hafter' : (splitName (c :: cs.map (p.exchange q))).2 =
          p.exchange q d :: after.map (p.exchange q) := by
        rw [hname]
        exact congrArg (List.map (p.exchange q)) hafter
      have hlength : byteLength (splitName (c :: cs.map (p.exchange q))).1 =
          byteLength (splitName (c :: cs)).1 := by
        rw [hname]
        exact byteLength_exchange p q _
      rw [List.map_cons, List.map_cons, exchange_sigil, exchange_nameChar hc, ← hlength]
      exact .name hc hafter' (foreignLetter_exchange_iff.mpr hforeign)
  | @sigil c cs hforeign =>
      rw [List.map_cons, List.map_cons, exchange_sigil]
      exact .sigil (le_toNat_exchange_iff.mpr hforeign)

theorem Answers.exchanged {cs : List Char} {answer : Except LexFailure Front}
    (hanswers : Answers p cs answer) :
    Answers q (cs.map (p.exchange q)) (answer.map (Front.exchanged p q)) := by
  cases answer with
  | ok f => exact Reads.exchanged hanswers
  | error e => exact Faults.exchanged hanswers

theorem front_exchange (c : Char) (cs : List Char) :
    front q (p.exchange q c) (cs.map (p.exchange q)) =
      (front p c cs).map (Front.exchanged p q) :=
  front_of_answers (answers_front p c cs).exchanged

end Lexer

/-! ## All steps -/

/-- The token of a text in which the sigils have changed places. -/
def Token.exchanged (p q : Style) (t : Token) : Token :=
  { t with text := t.text.map (p.exchange q) }

theorem Token.sourceOf_exchange (p q : Style) (kind : TokenKind) (text : List Char) :
    sourceOf q kind (text.map (p.exchange q)) = (sourceOf p kind text).map (p.exchange q) := by
  have hback : p.exchange q '\\' = '\\' := exchange_reserved (by decide)
  cases kind <;> simp [sourceOf, hback, Lexer.exchange_sigil]

theorem Lexer.Lexes.exchanged {p q : Style} {start : Nat} {cs : List Char} {items : List LexItem}
    (hrun : Lexes p start cs items) :
    Lexes q start (cs.map (p.exchange q)) (items.map (Except.map (Token.exchanged p q))) := by
  induction hrun with
  | stop => exact .stop
  | @token start c cs f items hfront _ ih =>
      have hfront' := front_exchange (p := p) (q := q) c cs
      rw [hfront] at hfront'
      refine .token hfront' ?_
      rwa [Front.exchanged, Token.sourceOf_exchange, byteLength_exchange]
  | @failure start c cs e hfront =>
      have hfront' := front_exchange (p := p) (q := q) c cs
      rw [hfront] at hfront'
      exact .failure hfront'

theorem lex_exchanged (p q : Style) (template : String) :
    lex q (p.exchanged q template) =
      (lex p template).map (Except.map (Token.exchanged p q)) := by
  rw [Lexer.lex_eq_iff_lexes, Style.exchanged, String.toList_ofList]
  exact (Lexer.lexes_lex p template).exchanged

/-! ## The query -/

namespace Token

variable {p q : Style}

theorem rewritten_exchanged (t : Token) :
    (t.exchanged p q).rewritten = t.rewritten.map (p.exchange q) := by
  have hmark : p.exchange q '?' = '?' := exchange_reserved (by decide)
  rw [rewritten, rewritten, show (t.exchanged p q).isMarker = t.isMarker from rfl]
  split
  · rw [List.map_singleton, hmark]
  · rfl

/-- Markers have no sigil in their text. -/
theorem exchanged_of_marker {t : Token} {after : List Char}
    (hclass : Lexer.InClass p t.kind t.text after) (hmarker : t.isMarker = true) :
    t.exchanged p q = t := by
  have hmark : p.exchange q '?' = '?' := exchange_reserved (by decide)
  obtain ⟨kind, text, offset⟩ := t
  cases hclass with
  | named hname => rw [exchanged, hname.exchange]
  | positional => rw [exchanged, List.map_singleton, hmark]
  | _ => simp [isMarker] at hmarker

theorem exchanged_of_mem_lex {template : String} {t : Token} (ht : .ok t ∈ lex p template)
    (hmarker : t.isMarker = true) : t.exchanged p q = t := by
  obtain ⟨-, after, -, -, hclass⟩ := (Lexer.lexes_lex p template).inClass ht
  exact exchanged_of_marker hclass hmarker

theorem markers_exchanged {tokens : List Token}
    (hfixed : ∀ t ∈ tokens, t.isMarker = true → t.exchanged p q = t) :
    markers (tokens.map (exchanged p q)) = markers tokens := by
  rw [markers, List.filter_map, List.map_map]
  refine List.map_congr_left fun t ht => ?_
  obtain ⟨ht, hmarker⟩ := List.mem_filter.mp ht
  rw [Function.comp_apply, hfixed t ht hmarker]

end Token

namespace Query

/-- The query of a template in which the sigils have changed places: they have in its SQL, and the
parameters stay. -/
def exchanged (p q : Style) (query : Query) : Query :=
  { query with sql := p.exchanged q query.sql }

theorem ofTokens_exchanged {p q : Style} {tokens : List Token}
    (hfixed : ∀ t ∈ tokens, t.isMarker = true → t.exchanged p q = t) :
    ofTokens (tokens.map (Token.exchanged p q)) = (ofTokens tokens).exchanged p q := by
  have hsql : (tokens.map (Token.exchanged p q)).flatMap Token.rewritten =
      (tokens.flatMap Token.rewritten).map (p.exchange q) := by
    rw [List.flatMap_map, List.map_flatMap]
    exact List.flatMap_congr fun t _ => t.rewritten_exchanged
  rw [ofTokens, hsql, Parameters.ofTokens_congr (Token.markers_exchanged hfixed), exchanged,
    ofTokens, Style.exchanged, String.toList_ofList]

theorem ofTemplate_exchanged (p q : Style) (template : String) :
    ofTemplate q (p.exchanged q template) = (ofTemplate p template).map (exchanged p q) := by
  have hkinds : ∀ t : Token, (t.exchanged p q).kind = t.kind := fun _ => rfl
  have hitems : ∀ tokens : List Token,
      (tokens.map .ok : List LexItem).map (Except.map (Token.exchanged p q)) =
        (tokens.map (Token.exchanged p q)).map .ok := by
    intro tokens
    rw [List.map_map, List.map_map]
    rfl
  have hlex' := lex_exchanged p q template
  rcases lex_cases p template with ⟨tokens, hlex, hunmixed⟩ | ⟨tokens, e, hlex, hunmixed⟩ |
    ⟨before, t, items, hlex, hunmixed, hmixes⟩
  · have hfixed : ∀ t ∈ tokens, t.isMarker = true → t.exchanged p q = t := fun t ht =>
      Token.exchanged_of_mem_lex (by rw [hlex]; exact List.mem_map_of_mem ht)
    rw [hlex, hitems] at hlex'
    rw [ofTemplate_of_tokens hlex hunmixed, ofTemplate_of_tokens hlex' (hunmixed.map hkinds),
      ofTokens_exchanged hfixed]
    rfl
  · rw [hlex, List.map_append, hitems] at hlex'
    rw [ofTemplate_of_failure hlex hunmixed, ofTemplate_of_failure hlex' (hunmixed.map hkinds)]
    rfl
  · rw [hlex, List.map_append, hitems] at hlex'
    rw [ofTemplate_of_mixes hlex hunmixed hmixes,
      ofTemplate_of_mixes hlex' (hunmixed.map hkinds) (hmixes.map hkinds)]
    rfl

end Query

/-- Styles differ in their sigil only. When the sigils of two styles change places all over a
template, it is read in the other style as the same tokens, of the same kinds and at the same
offsets, with the sigils exchanged in their texts, up to the same failure if there is one. Its query
has the same parameters and the SQL with the sigils exchanged, or it has the same failure. -/
theorem styles_differ_in_sigil (p q : Style) (template : String) :
    lex q (p.exchanged q template) = (lex p template).map (Except.map (Token.exchanged p q)) ∧
    Query.ofTemplate q (p.exchanged q template) =
      (Query.ofTemplate p template).map (Query.exchanged p q) :=
  ⟨lex_exchanged p q template, Query.ofTemplate_exchanged p q template⟩

end SqlTemplate
