import SqlTemplate.Proofs.LexicalClasses

/-!
# What one step of the lexer can do

`Reads` lists the forms a token can have together with everything the lexer has checked before it
emits one, and `Faults` the three ways to fail. Together they are `front`: later proofs go through
the cases of these relations and never open the function itself.
-/

namespace SqlTemplate.Lexer

open SqlTemplate.Unicode (isAlphanumeric)

/-- Whether a parameter name cannot end before the character: it is a letter or number outside
ASCII. -/
def ForeignLetter (c : Char) : Prop :=
  0x80 ≤ c.toNat ∧ isAlphanumeric c = true

/-- The characters at which nothing but plain text begins, `cs` being what follows. -/
def Plain (s : Style) (c : Char) (cs : List Char) : Prop :=
  c ∉ ['\'', '"', '\\', '?', s.sigil] ∧ ¬ (c = '-' ∧ cs.head? = some '-') ∧
    ¬ (c = '/' ∧ cs.head? = some '*')

theorem startsRegion_cons_eq_false_iff {s : Style} {c : Char} {cs : List Char} :
    startsRegion s (c :: cs) = false ↔ Plain s c cs := by
  unfold startsRegion Plain
  split
  · rename_i heq
    obtain ⟨rfl, rfl⟩ := List.cons.inj heq
    simp
  · rename_i heq
    obtain ⟨rfl, rfl⟩ := List.cons.inj heq
    simp
  · rename_i d ds hdash hblock heq
    obtain ⟨rfl, rfl⟩ := List.cons.inj heq
    have hdash : ¬ (c = '-' ∧ cs.head? = some '-') := by
      rintro ⟨rfl, hhead⟩
      obtain ⟨tail, rfl⟩ := List.head?_eq_some_iff.mp hhead
      exact hdash tail rfl rfl
    have hblock : ¬ (c = '/' ∧ cs.head? = some '*') := by
      rintro ⟨rfl, hhead⟩
      obtain ⟨tail, rfl⟩ := List.head?_eq_some_iff.mp hhead
      exact hblock tail rfl rfl
    simp only [hdash, hblock, not_false_eq_true, and_true]
    simp [not_or, and_assoc]
  · simp_all

/-- A run of plain text with `after` behind it: no region begins inside the run. -/
inductive PlainRun (s : Style) (after : List Char) : List Char → Prop
  | nil : PlainRun s after []
  | cons {c : Char} {cs : List Char} :
      Plain s c (cs ++ after) → PlainRun s after cs → PlainRun s after (c :: cs)

theorem PlainRun.of_append {s : Style} {after front rest : List Char}
    (hrun : PlainRun s after (front ++ rest)) : PlainRun s after rest := by
  induction front with
  | nil => exact hrun
  | cons c front ih =>
      cases hrun with
      | cons _ hrun => exact ih hrun

/-- A run stays one unless a comment comes to begin with its last character. -/
theorem PlainRun.of_head {s : Style} {after after' text : List Char} (hrun : PlainRun s after text)
    (hdash : after'.head? ≠ some '-') (hstar : after'.head? ≠ some '*') :
    PlainRun s after' text := by
  induction hrun with
  | nil => exact .nil
  | @cons c cs hplain _ ih =>
      refine .cons ?_ ih
      cases cs with
      | nil => exact ⟨hplain.1, fun h => hdash h.2, fun h => hstar h.2⟩
      | cons d cs => exact hplain

/-- Plain text is read as one run. -/
theorem plainRun_splitPlain (s : Style) (cs : List Char) :
    PlainRun s (splitPlain s cs).2 (splitPlain s cs).1 := by
  fun_induction splitPlain s cs with
  | case1 => exact .nil
  | case2 => exact .nil
  | case3 c rest hplain front after hsplit ih =>
      rw [hsplit] at ih
      have hrest := splitPlain_append s rest
      rw [hsplit] at hrest
      refine .cons ?_ ih
      rw [show front ++ after = rest from hrest]
      exact startsRegion_cons_eq_false_iff.mp (by simpa using hplain)

/-- A run of plain text is read as far as it goes: up to a region or the end. -/
theorem splitPlain_stops (s : Style) (cs : List Char) :
    (splitPlain s cs).2 = [] ∨ startsRegion s (splitPlain s cs).2 = true := by
  fun_induction splitPlain s cs with
  | case1 => exact Or.inl rfl
  | case2 c rest hregion => exact Or.inr hregion
  | case3 c rest _ front after hsplit ih =>
      rw [hsplit] at ih
      exact ih

/-- A run of plain text is read as a whole when a region or the end follows it. -/
theorem splitPlain_of_plainRun {s : Style} {after text : List Char} (hrun : PlainRun s after text)
    (hafter : after = [] ∨ startsRegion s after = true) :
    splitPlain s (text ++ after) = (text, after) := by
  induction hrun with
  | nil =>
      cases after with
      | nil => rfl
      | cons c rest =>
          have hregion : startsRegion s (c :: rest) = true := by simpa using hafter
          rw [List.nil_append, splitPlain, if_pos hregion]
  | @cons c cs hplain _ ih =>
      have hregion : ¬ startsRegion s (c :: (cs ++ after)) = true := by
        rw [startsRegion_cons_eq_false_iff.mpr hplain]
        decide
      rw [List.cons_append, splitPlain, if_neg hregion, ih]

/-! ## The forms of a token -/

/-- The token at the front of a text that is not empty. -/
inductive Reads (s : Style) : List Char → Front → Prop
  | line {cs : List Char} :
      Reads s ('-' :: '-' :: cs) (.ofPair .comment (splitLine ('-' :: '-' :: cs)))
  | block {body inner after : List Char} :
      splitBlock? body = some (inner, after) →
      Reads s ('/' :: '*' :: body) ⟨.comment, '/' :: '*' :: inner, after⟩
  | quoted {quote : Char} {cs literal after : List Char} :
      quote = '\'' ∨ quote = '"' → splitQuote? quote false cs = some (literal, after) →
      Reads s (quote :: cs) ⟨.quoted, quote :: literal, after⟩
  | escaped {c : Char} {after : List Char} :
      Reads s ('\\' :: c :: after) ⟨.escaped, [c], after⟩
  | backslash : Reads s ['\\'] ⟨.literal, ['\\'], []⟩
  | doubledMark {after : List Char} :
      Reads s ('?' :: '?' :: after) ⟨.literal, ['?', '?'], after⟩
  | mark {after : List Char} :
      after.head? ≠ some '?' → Reads s ('?' :: after) ⟨.positional, ['?'], after⟩
  | doubledSigil {after : List Char} :
      Reads s (s.sigil :: s.sigil :: after) ⟨.literal, [s.sigil, s.sigil], after⟩
  | named {c : Char} {cs : List Char} :
      isNameChar c = true → (∀ d ∈ (splitName (c :: cs)).2.head?, ¬ ForeignLetter d) →
      Reads s (s.sigil :: c :: cs) (.ofPair .named (splitName (c :: cs)))
  | sigil {after : List Char} :
      (∀ c ∈ after.head?, c ≠ s.sigil ∧ isNameChar c = false ∧ c.toNat < 0x80) →
      Reads s (s.sigil :: after) ⟨.literal, [s.sigil], after⟩
  | plain {c : Char} {cs : List Char} :
      Plain s c cs →
      Reads s (c :: cs) ⟨.literal, c :: (splitPlain s cs).1, (splitPlain s cs).2⟩

/-- The failure at the front of a text. -/
inductive Faults (s : Style) : List Char → LexFailure → Prop
  | quote {quote : Char} {cs : List Char} :
      quote = '\'' ∨ quote = '"' → splitQuote? quote false cs = none →
      Faults s (quote :: cs) ⟨.unterminatedQuote, 0⟩
  | block {body : List Char} :
      splitBlock? body = none → Faults s ('/' :: '*' :: body) ⟨.unterminatedComment, 0⟩
  | name {c d : Char} {cs after : List Char} :
      isNameChar c = true → (splitName (c :: cs)).2 = d :: after → ForeignLetter d →
      Faults s (s.sigil :: c :: cs)
        ⟨.invalidParameterName, 1 + Text.byteLength (splitName (c :: cs)).1⟩
  | sigil {c : Char} {cs : List Char} :
      0x80 ≤ c.toNat → Faults s (s.sigil :: c :: cs) ⟨.invalidParameterName, 1⟩

/-- What a step may answer for the text `cs`. -/
def Answers (s : Style) (cs : List Char) : Except LexFailure Front → Prop
  | .ok f => Reads s cs f
  | .error e => Faults s cs e

theorem answers_namedFront (s : Style) {c : Char} (hc : isNameChar c = true) (cs : List Char) :
    Answers s (s.sigil :: c :: cs) (namedFront (c :: cs)) := by
  unfold namedFront
  split
  · rename_i name after hsplit
    split
    · rename_i d after
      split
      · rename_i hforeign
        rw [show name = (splitName (c :: cs)).1 from by rw [hsplit]]
        exact .name hc (congrArg Prod.snd hsplit) hforeign
      · rename_i hforeign
        rw [show (⟨.named, name, d :: after⟩ : Front) =
          .ofPair .named (splitName (c :: cs)) from by rw [hsplit]; rfl]
        exact .named hc (by rw [hsplit]; simpa [ForeignLetter] using hforeign)
    · rw [show (⟨.named, name, []⟩ : Front) =
        .ofPair .named (splitName (c :: cs)) from by rw [hsplit]; rfl]
      exact .named hc (by rw [hsplit]; simp)

theorem answers_sigilFront (s : Style) (cs : List Char) :
    Answers s (s.sigil :: cs) (sigilFront s cs) := by
  unfold sigilFront
  split
  · exact .sigil (by simp)
  · rename_i c rest
    split
    · rename_i hc
      subst hc
      exact .doubledSigil
    · rename_i hsigil
      split
      · rename_i hc
        exact answers_namedFront s hc rest
      · rename_i hc
        split
        · rename_i hforeign
          exact .sigil hforeign
        · rename_i hascii
          exact .sigil (by simpa [hsigil, hc] using hascii)

/-- A step answers by one of the forms. -/
theorem answers_front (s : Style) (c : Char) (cs : List Char) :
    Answers s (c :: cs) (front s c cs) := by
  unfold front
  split
  · exact .line
  · split
    · rename_i hblock
      exact .block hblock
    · rename_i hblock
      exact .block hblock
  · rename_i hline hblock
    split
    · rename_i hquote
      split
      · rename_i hclosed
        exact .quoted hquote hclosed
      · rename_i hopen
        exact .quote hquote hopen
    · rename_i hquote
      split
      · rename_i hslash
        subst hslash
        split
        · exact .escaped
        · exact .backslash
      · rename_i hslash
        split
        · rename_i hmark
          subst hmark
          split
          · exact .doubledMark
          · rename_i hnext
            refine .mark ?_
            intro hhead
            obtain ⟨tail, rfl⟩ := List.head?_eq_some_iff.mp hhead
            exact hnext tail rfl
        · rename_i hmark
          split
          · rename_i hsigil
            subst hsigil
            exact answers_sigilFront s cs
          · rename_i hsigil
            refine .plain ⟨?_, ?_, ?_⟩
            · simp only [not_or] at hquote
              simp [hquote, hslash, hmark, hsigil]
            · rintro ⟨rfl, hhead⟩
              obtain ⟨tail, rfl⟩ := List.head?_eq_some_iff.mp hhead
              exact hline tail rfl rfl
            · rintro ⟨rfl, hhead⟩
              obtain ⟨tail, rfl⟩ := List.head?_eq_some_iff.mp hhead
              exact hblock tail rfl rfl

theorem sigil_ne_reserved (s : Style) :
    s.sigil ≠ '-' ∧ s.sigil ≠ '/' ∧ s.sigil ≠ '\'' ∧ s.sigil ≠ '"' ∧ s.sigil ≠ '\\' ∧
      s.sigil ≠ '?' := by
  refine ⟨?_, ?_, ?_, ?_, ?_, ?_⟩ <;> exact s.sigil_ne_of_reserved (by decide)

/-- What a sigil begins is looked at when no other region begins with it. -/
theorem front_sigil (s : Style) (cs : List Char) : front s s.sigil cs = sigilFront s cs := by
  obtain ⟨hdash, hslash, hsingle, hdouble, hback, hmark⟩ := sigil_ne_reserved s
  unfold front
  split
  · contradiction
  · contradiction
  · simp [hsingle, hdouble, hback, hmark]

/-- Whatever has one of the forms is what the step answers. -/
theorem front_of_reads {s : Style} {c : Char} {cs : List Char} {f : Front}
    (hreads : Reads s (c :: cs) f) : front s c cs = .ok f := by
  cases hreads with
  | line => rfl
  | block hblock => simp [front, hblock]
  | quoted hquote hliteral =>
      rcases hquote with rfl | rfl <;> simp [front, hliteral]
  | escaped => simp [front]
  | backslash => simp [front]
  | doubledMark => simp [front]
  | mark hnext =>
      cases cs with
      | nil => simp [front]
      | cons d after =>
          have hd : d ≠ '?' := by simpa using hnext
          simp [front, hd]
  | doubledSigil => rw [front_sigil, sigilFront, if_pos rfl]
  | @named d ds hd hend =>
      have hsigil : d ≠ s.sigil := by
        rintro rfl
        rw [s.sigil_not_nameChar] at hd
        exact absurd hd (by decide)
      rw [front_sigil, sigilFront, if_neg hsigil, if_pos hd, namedFront]
      cases hafter : (splitName (d :: ds)).2 with
      | nil => simp [hafter, Front.ofPair]
      | cons e after =>
          rw [hafter] at hend
          have hforeign : ¬ ForeignLetter e := hend e rfl
          rw [ForeignLetter] at hforeign
          simp [hafter, hforeign, Front.ofPair]
  | sigil hnext =>
      rw [front_sigil]
      cases cs with
      | nil => rfl
      | cons d after =>
          obtain ⟨hsigil, hname, hascii⟩ := hnext d rfl
          have hforeign : ¬ 0x80 ≤ d.toNat := by omega
          simp [sigilFront, hsigil, hname, hforeign]
  | plain hplain =>
      obtain ⟨hmarks, hline, hblock⟩ := hplain
      simp only [List.mem_cons, List.not_mem_nil, or_false, not_or] at hmarks
      unfold front
      split
      · simp at hline
      · simp at hblock
      · simp [hmarks]

/-- Whatever has one of the faults is where the step fails. -/
theorem front_of_faults {s : Style} {c : Char} {cs : List Char} {e : LexFailure}
    (hfaults : Faults s (c :: cs) e) : front s c cs = .error e := by
  cases hfaults with
  | quote hquote hopen =>
      rcases hquote with rfl | rfl <;> simp [front, hopen]
  | block hopen => simp [front, hopen]
  | @name c d cs after hc hafter hforeign =>
      have hsigil : c ≠ s.sigil := by
        rintro rfl
        rw [s.sigil_not_nameChar] at hc
        exact absurd hc (by decide)
      rw [ForeignLetter] at hforeign
      rw [front_sigil, sigilFront, if_neg hsigil, if_pos hc, namedFront]
      simp [hafter, hforeign]
  | @sigil c cs hforeign =>
      have hsigil : c ≠ s.sigil := by
        rintro rfl
        have hascii := s.sigil_lt
        omega
      have hname : ¬ isNameChar c = true := fun hname => by
        have hascii := toNat_of_isNameChar hname
        omega
      rw [front_sigil, sigilFront, if_neg hsigil, if_neg hname, if_pos hforeign]

theorem front_of_answers {s : Style} {c : Char} {cs : List Char} {answer : Except LexFailure Front}
    (hanswers : Answers s (c :: cs) answer) : front s c cs = answer := by
  cases answer with
  | ok f => exact front_of_reads hanswers
  | error e => exact front_of_faults hanswers

end SqlTemplate.Lexer
