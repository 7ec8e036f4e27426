import SqlTemplate.Proofs.Lossless

/-!
# The lexical class of a token

`InClass` is the grammar of single tokens: for each kind the texts that a token can have, and what
may follow its source. Nothing in it refers to how the lexer reads. A step of the lexer finds a
token exactly when the text has one of a class in front, so the classes exclude each other and each
of them goes as far as it can.
-/

namespace SqlTemplate

namespace Lexer

/-! ## Where regions begin -/

/-- The characters with which anything but plain text begins. -/
def openings (s : Style) : List (List Char) :=
  [['-', '-'], ['/', '*'], ['\''], ['"'], ['\\'], ['?'], [s.sigil]]

/-- Whether a region begins at the front of the text. -/
def Opens (s : Style) (cs : List Char) : Prop :=
  ∃ opening ∈ openings s, opening <+: cs

theorem plain_iff_not_opens {s : Style} {c : Char} {cs : List Char} :
    Plain s c cs ↔ ¬ Opens s (c :: cs) := by
  have hpair : ∀ d e : Char, [d, e] <+: c :: cs ↔ c = d ∧ cs.head? = some e := by
    intro d e
    cases cs with
    | nil => simp [List.cons_prefix_cons]
    | cons f cs => simp [List.cons_prefix_cons, eq_comm]
  have hsingle : ∀ d : Char, [d] <+: c :: cs ↔ c = d := by
    intro d
    simp [List.cons_prefix_cons, eq_comm]
  simp only [Plain, Opens, openings, List.mem_cons, List.not_mem_nil, or_false,
    exists_eq_or_imp, exists_eq_left, hpair, hsingle]
  tauto

theorem startsRegion_iff_opens {s : Style} {cs : List Char} :
    startsRegion s cs = true ↔ Opens s cs := by
  cases cs with
  | nil => simp [startsRegion, Opens, openings]
  | cons c cs =>
      rw [← not_iff_not, Bool.not_eq_true, startsRegion_cons_eq_false_iff, plain_iff_not_opens]

/-- A run of plain text has no character with a meaning of its own, and no comment begins in it. -/
theorem plainRun_iff {s : Style} {after text : List Char} :
    PlainRun s after text ↔
      (∀ c ∈ text, c ∉ ['\'', '"', '\\', '?', s.sigil]) ∧
        ¬ ['-', '-'] <:+: text ++ after.take 1 ∧ ¬ ['/', '*'] <:+: text ++ after.take 1 := by
  have hshort : ∀ d e : Char, ¬ [d, e] <:+: after.take 1 := by
    intro d e hinfix
    have hlength := hinfix.length_le
    simp only [List.length_cons, List.length_nil, List.length_take] at hlength
    omega
  have hpair : ∀ (c d e : Char) (cs : List Char),
      [d, e] <+: c :: (cs ++ after.take 1) ↔ c = d ∧ (cs ++ after).head? = some e := by
    intro c d e cs
    cases cs with
    | nil => cases after <;> simp [List.cons_prefix_cons, eq_comm]
    | cons f cs => simp [List.cons_prefix_cons, eq_comm]
  -- A comment that begins in the text begins at its first character or behind it.
  induction text with
  | nil => exact ⟨fun _ => ⟨by simp, hshort _ _, hshort _ _⟩, fun _ => .nil⟩
  | cons c text ih =>
      rw [List.cons_append, List.infix_cons_iff, List.infix_cons_iff, hpair, hpair,
        List.forall_mem_cons]
      constructor
      · intro hrun
        cases hrun with
        | cons hplain hrun =>
            obtain ⟨hchar, hline, hblock⟩ := hplain
            obtain ⟨htext, hlines, hblocks⟩ := ih.mp hrun
            exact ⟨⟨hchar, htext⟩, not_or.mpr ⟨hline, hlines⟩, not_or.mpr ⟨hblock, hblocks⟩⟩
      · rintro ⟨⟨hchar, htext⟩, hline, hblock⟩
        rw [not_or] at hline hblock
        exact .cons ⟨hchar, hline.1, hblock.1⟩ (ih.mpr ⟨htext, hline.2, hblock.2⟩)

/-! ## The classes -/

/-- The token of the kind with the text, `after` being what follows its source. -/
inductive InClass (s : Style) : TokenKind → List Char → List Char → Prop
  | quoted {quote : Char} {body after : List Char} :
      quote = '\'' ∨ quote = '"' → QuoteBody quote body →
      InClass s .quoted (quote :: body ++ [quote]) after
  | line {body after : List Char} :
      (∀ c ∈ body, c ≠ '\n' ∧ c ≠ '\r') → (∀ c ∈ after.head?, c = '\n' ∨ c = '\r') →
      InClass s .comment ('-' :: '-' :: body) after
  | block {body after : List Char} :
      ¬ ['*', '/'] <:+: body → InClass s .comment ('/' :: '*' :: body ++ ['*', '/']) after
  | escaped {c : Char} {after : List Char} : InClass s .escaped [c] after
  | named {name after : List Char} :
      DottedName name → ¬ ExtendsName after → (∀ c ∈ after.head?, ¬ ForeignLetter c) →
      InClass s .named name after
  | positional {after : List Char} : after.head? ≠ some '?' → InClass s .positional ['?'] after
  | doubledSigil {after : List Char} : InClass s .literal [s.sigil, s.sigil] after
  | doubledMark {after : List Char} : InClass s .literal ['?', '?'] after
  | sigil {after : List Char} :
      (∀ c ∈ after.head?, c.toNat < 0x80 ∧ isNameChar c = false ∧ c ≠ s.sigil) →
      InClass s .literal [s.sigil] after
  | backslash : InClass s .literal ['\\'] []
  | run {text after : List Char} :
      text ≠ [] → (∀ c ∈ text, c ∉ ['\'', '"', '\\', '?', s.sigil]) →
      ¬ ['-', '-'] <:+: text ++ after.take 1 → ¬ ['/', '*'] <:+: text ++ after.take 1 →
      after = [] ∨ Opens s after →
      InClass s .literal text after

/-- What a step reads is of a class. -/
theorem Reads.inClass {s : Style} {cs : List Char} {f : Front} (hreads : Reads s cs f) :
    InClass s f.kind f.text f.after := by
  cases hreads with
  | @line cs =>
      obtain ⟨-, hinside, hbehind⟩ := splitLine_eq_iff.mp (rfl : splitLine cs = (_, _))
      exact .line hinside hbehind
  | block hblock =>
      obtain ⟨body, hbody, rfl, -⟩ := splitBlock?_eq_some_iff.mp hblock
      exact .block hbody
  | quoted hquote hliteral =>
      obtain ⟨body, hbody, rfl, -⟩ := splitQuote?_eq_some_iff.mp hliteral
      exact .quoted hquote hbody
  | escaped => exact .escaped
  | backslash => exact .backslash
  | doubledMark => exact .doubledMark
  | mark hnext => exact .positional hnext
  | doubledSigil => exact .doubledSigil
  | @named c cs hc hforeign =>
      exact .named (dottedName_splitName_cons hc cs) (splitName_stops _) hforeign
  | sigil hnext =>
      refine .sigil fun c hc => ?_
      obtain ⟨hsigil, hname, hascii⟩ := hnext c hc
      exact ⟨hascii, hname, hsigil⟩
  | @plain c cs hplain =>
      have hrun : PlainRun s (splitPlain s cs).2 (c :: (splitPlain s cs).1) := by
        refine .cons ?_ (plainRun_splitPlain s cs)
        rwa [splitPlain_append]
      obtain ⟨hchars, hline, hblock⟩ := plainRun_iff.mp hrun
      refine .run (List.cons_ne_nil _ _) hchars hline hblock ?_
      rw [← startsRegion_iff_opens]
      exact splitPlain_stops s cs

/-- A text with a token of a class in front is read as that token. -/
theorem InClass.reads {s : Style} {kind : TokenKind} {text after : List Char}
    (hclass : InClass s kind text after) :
    Reads s (Token.sourceOf s kind text ++ after) ⟨kind, text, after⟩ := by
  cases hclass with
  | @quoted quote body after hquote hbody =>
      have hliteral := splitQuote?_of_body hbody after
      simpa [Token.sourceOf] using Reads.quoted (s := s) hquote hliteral
  | @line body after hinside hbehind =>
      have hsplit : splitLine ('-' :: '-' :: body ++ after) = ('-' :: '-' :: body, after) := by
        have hdash : '-' ≠ '\n' ∧ '-' ≠ '\r' := by decide
        refine splitLine_eq_iff.mpr ⟨rfl, ?_, hbehind⟩
        exact List.forall_mem_cons.mpr ⟨hdash, List.forall_mem_cons.mpr ⟨hdash, hinside⟩⟩
      have hreads : Reads s ('-' :: '-' :: (body ++ after))
          (.ofPair .comment (splitLine ('-' :: '-' :: body ++ after))) := .line
      rw [hsplit] at hreads
      exact hreads
  | @block body after hbody =>
      have hblock : splitBlock? (body ++ blockEnd ++ after) = some (body ++ blockEnd, after) :=
        splitBlock?_eq_some_iff.mpr ⟨body, hbody, rfl, rfl⟩
      exact .block hblock
  | escaped => exact .escaped
  | named hname hend hforeign =>
      obtain ⟨c, cs, hc, rfl⟩ := hname.exists_cons
      have hsplit := splitName_of_dottedName hname hend
      rw [List.cons_append] at hsplit
      have hreads : Reads s (s.sigil :: c :: (cs ++ after))
          (.ofPair .named (splitName (c :: (cs ++ after)))) :=
        .named hc (by rw [hsplit]; exact hforeign)
      rw [hsplit] at hreads
      exact hreads
  | positional hnext => exact .mark hnext
  | doubledSigil => exact .doubledSigil
  | doubledMark => exact .doubledMark
  | sigil hnext =>
      refine .sigil fun c hc => ?_
      obtain ⟨hascii, hname, hsigil⟩ := hnext c hc
      exact ⟨hsigil, hname, hascii⟩
  | backslash => exact .backslash
  | @run text after hne hchars hline hblock hbehind =>
      obtain ⟨c, cs, rfl⟩ := List.exists_cons_of_ne_nil hne
      cases plainRun_iff.mpr ⟨hchars, hline, hblock⟩ with
      | cons hplain hrun =>
          rw [← startsRegion_iff_opens] at hbehind
          have hreads := Reads.plain hplain
          rw [splitPlain_of_plainRun hrun hbehind] at hreads
          exact hreads

/-- A step finds a token exactly when one of its class stands in front of the text. -/
theorem front_eq_ok_iff {s : Style} {c : Char} {cs : List Char} {f : Front} :
    front s c cs = .ok f ↔
      Token.sourceOf s f.kind f.text ++ f.after = c :: cs ∧ InClass s f.kind f.text f.after := by
  constructor
  · intro hfront
    have hreads := answers_front s c cs
    rw [hfront] at hreads
    exact ⟨front_append hfront, hreads.inClass⟩
  · rintro ⟨hwhole, hclass⟩
    apply front_of_reads
    rw [← hwhole]
    exact hclass.reads

theorem InClass.source_ne_nil {s : Style} {kind : TokenKind} {text after : List Char}
    (hclass : InClass s kind text after) : Token.sourceOf s kind text ≠ [] := by
  cases hclass with
  | run hne => exact hne
  | _ => simp [Token.sourceOf]

/-- No other token stands where one of a class does. -/
theorem InClass.unique {s : Style} {kind kind' : TokenKind} {text text' after after' : List Char}
    (hclass : InClass s kind text after) (hclass' : InClass s kind' text' after')
    (hwhole : Token.sourceOf s kind text ++ after = Token.sourceOf s kind' text' ++ after') :
    kind = kind' ∧ text = text' ∧ after = after' := by
  obtain ⟨c, cs, hcs⟩ := List.exists_cons_of_ne_nil
    (List.append_ne_nil_of_left_ne_nil hclass.source_ne_nil after)
  have hfront : front s c cs = .ok ⟨kind, text, after⟩ := front_eq_ok_iff.mpr ⟨hcs, hclass⟩
  have hfront' : front s c cs = .ok ⟨kind', text', after'⟩ :=
    front_eq_ok_iff.mpr ⟨hwhole.symm.trans hcs, hclass'⟩
  rw [hfront] at hfront'
  obtain ⟨rfl, rfl, rfl⟩ := Front.mk.inj (Except.ok.inj hfront')
  exact ⟨rfl, rfl, rfl⟩

/-! ## What a class looks at -/

/-- A region that begins with a token is opened by characters of that token. -/
theorem InClass.opening {s : Style} {kind : TokenKind} {text after : List Char}
    (hclass : InClass s kind text after) (hopens : Opens s (Token.sourceOf s kind text ++ after)) :
    ∃ opening ∈ openings s, opening <+: Token.sourceOf s kind text := by
  cases hclass with
  | quoted hquote =>
      rcases hquote with rfl | rfl
      · exact ⟨['\''], by simp [openings], by simp [Token.sourceOf]⟩
      · exact ⟨['"'], by simp [openings], by simp [Token.sourceOf]⟩
  | line => exact ⟨['-', '-'], by simp [openings], by simp [Token.sourceOf]⟩
  | block => exact ⟨['/', '*'], by simp [openings], by simp [Token.sourceOf]⟩
  | escaped => exact ⟨['\\'], by simp [openings], by simp [Token.sourceOf]⟩
  | named => exact ⟨[s.sigil], by simp [openings], by simp [Token.sourceOf]⟩
  | positional => exact ⟨['?'], by simp [openings], by simp [Token.sourceOf]⟩
  | doubledSigil => exact ⟨[s.sigil], by simp [openings], by simp [Token.sourceOf]⟩
  | doubledMark => exact ⟨['?'], by simp [openings], by simp [Token.sourceOf]⟩
  | sigil => exact ⟨[s.sigil], by simp [openings], by simp [Token.sourceOf]⟩
  | backslash => exact ⟨['\\'], by simp [openings], by simp [Token.sourceOf]⟩
  | run hne hchars hline hblock =>
      obtain ⟨c, cs, rfl⟩ := List.exists_cons_of_ne_nil hne
      cases plainRun_iff.mpr ⟨hchars, hline, hblock⟩ with
      | cons hplain => exact absurd hopens (plain_iff_not_opens.mp hplain)

/-- Whether a region begins with a token does not depend on what follows it. -/
theorem InClass.opens_append {s : Style} {kind : TokenKind} {text after : List Char}
    (hclass : InClass s kind text after) (after' : List Char)
    (hopens : Opens s (Token.sourceOf s kind text ++ after)) :
    Opens s (Token.sourceOf s kind text ++ after') := by
  obtain ⟨opening, hmem, hopening⟩ := hclass.opening hopens
  exact ⟨opening, hmem, hopening.trans (List.prefix_append _ _)⟩

/-- A token stays one when what follows it is replaced by a text that looks the same to it: the next
character, whether a region begins there, and for a name whether it could go on. -/
theorem InClass.of_lookahead {s : Style} {kind : TokenKind} {text after after' : List Char}
    (hclass : InClass s kind text after) (hhead : after.head? = after'.head?)
    (hopens : Opens s after → Opens s after')
    (hname : kind = .named → ExtendsName after' → ExtendsName after) :
    InClass s kind text after' := by
  cases hclass with
  | quoted hquote hbody => exact .quoted hquote hbody
  | line hinside hbehind =>
      rw [hhead] at hbehind
      exact .line hinside hbehind
  | block hbody => exact .block hbody
  | escaped => exact .escaped
  | named hdotted hend hforeign =>
      rw [hhead] at hforeign
      exact .named hdotted (fun hextends => hend (hname rfl hextends)) hforeign
  | positional hnext =>
      rw [hhead] at hnext
      exact .positional hnext
  | doubledSigil => exact .doubledSigil
  | doubledMark => exact .doubledMark
  | sigil hnext =>
      rw [hhead] at hnext
      exact .sigil hnext
  | backslash =>
      obtain rfl : after' = [] := List.head?_eq_none_iff.mp hhead.symm
      exact .backslash
  | run hne hchars hline hblock hbehind =>
      have htake : after.take 1 = after'.take 1 := by rw [List.take_one, List.take_one, hhead]
      rw [htake] at hline hblock
      refine .run hne hchars hline hblock ?_
      rcases hbehind with rfl | hbehind
      · exact Or.inl (List.head?_eq_none_iff.mp hhead.symm)
      · exact Or.inr (hopens hbehind)

end Lexer

end SqlTemplate
