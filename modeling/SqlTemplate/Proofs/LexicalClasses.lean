import Mathlib.Data.List.Basic
import SqlTemplate.Lexer

/-!
# The lexical classes of a template

What the readers of the lexer accept, said without how they loop: the body of a quoted literal, the
line of a comment, the body of a block comment, and the dotted names of parameters. Each reader is
shown to find exactly the first end that its class allows, and to fail exactly when there is none.
-/

namespace SqlTemplate.Lexer

/-! ## Quoted literals -/

/-- What can stand between two quotes. Only in a single quoted literal does a backslash take the
next character with it, whatever that is. -/
inductive QuoteBody (quote : Char) : List Char → Prop
  | nil : QuoteBody quote []
  | plain {c : Char} {cs : List Char} :
      c ≠ quote → ¬ (quote = '\'' ∧ c = '\\') → QuoteBody quote cs → QuoteBody quote (c :: cs)
  | taken {c : Char} {cs : List Char} :
      quote = '\'' → QuoteBody quote cs → QuoteBody quote ('\\' :: c :: cs)

theorem splitQuote?_closing (quote : Char) (after : List Char) :
    splitQuote? quote false (quote :: after) = some ([quote], after) := by
  simp [splitQuote?]

theorem splitQuote?_taken (quote c : Char) (cs : List Char) :
    splitQuote? quote true (c :: cs) =
      (splitQuote? quote false cs).map fun (front, after) => (c :: front, after) := by
  simp [splitQuote?]

theorem splitQuote?_plain {quote c : Char} (hc : c ≠ quote)
    (hslash : ¬ (quote = '\'' ∧ c = '\\')) (cs : List Char) :
    splitQuote? quote false (c :: cs) =
      (splitQuote? quote false cs).map fun (front, after) => (c :: front, after) := by
  have hflag : (!false && c == '\\' && quote == '\'') = false := by
    simp only [Bool.not_false, Bool.true_and, Bool.and_eq_false_iff, beq_eq_false_iff_ne]
    tauto
  rw [splitQuote?, hflag, if_neg (fun h => hc h.2)]

theorem splitQuote?_backslash (cs : List Char) :
    splitQuote? '\'' false ('\\' :: cs) =
      (splitQuote? '\'' true cs).map fun (front, after) => ('\\' :: front, after) := by
  simp [splitQuote?]

/-- The reader passes over a body and stops at the quote behind it. -/
theorem splitQuote?_of_body {quote : Char} {body : List Char} (hbody : QuoteBody quote body)
    (after : List Char) :
    splitQuote? quote false (body ++ quote :: after) = some (body ++ [quote], after) := by
  induction hbody with
  | nil => exact splitQuote?_closing quote after
  | plain hc hslash _ ih =>
      rw [List.cons_append, splitQuote?_plain hc hslash, ih]
      rfl
  | taken hquote _ ih =>
      subst hquote
      rw [List.cons_append, List.cons_append, splitQuote?_backslash, splitQuote?_taken, ih]
      rfl

/-- Whatever the reader finds is a body and the first quote that closes it. The character after a
backslash is the only one that is read without being looked at. -/
theorem body_of_splitQuote? {quote : Char} : ∀ {taken : Bool} {cs front after : List Char},
    splitQuote? quote taken cs = some (front, after) → (taken = true → quote = '\'') →
      ∃ body, front = body ++ [quote] ∧
        if taken then ∃ c body', body = c :: body' ∧ QuoteBody quote body' else QuoteBody quote body
  | taken, [], front, after, hfound, _ => by simp [splitQuote?] at hfound
  | true, c :: cs, front, after, hfound, hquote => by
      rw [splitQuote?_taken] at hfound
      obtain ⟨⟨f, a⟩, hinner, hpair⟩ := Option.map_eq_some_iff.mp hfound
      obtain ⟨rfl, rfl⟩ := Prod.mk.inj hpair
      obtain ⟨body, rfl, hbody⟩ := body_of_splitQuote? hinner (by simp)
      exact ⟨c :: body, rfl, c, body, rfl, hbody⟩
  | false, c :: cs, front, after, hfound, _ => by
      by_cases hc : c = quote
      · subst hc
        rw [splitQuote?_closing] at hfound
        obtain ⟨rfl, rfl⟩ := Prod.mk.inj (Option.some.inj hfound)
        exact ⟨[], rfl, .nil⟩
      · by_cases hslash : quote = '\'' ∧ c = '\\'
        · obtain ⟨rfl, rfl⟩ := hslash
          rw [splitQuote?_backslash] at hfound
          obtain ⟨⟨f, a⟩, hinner, hpair⟩ := Option.map_eq_some_iff.mp hfound
          obtain ⟨rfl, rfl⟩ := Prod.mk.inj hpair
          obtain ⟨_, rfl, d, body, rfl, hbody⟩ := body_of_splitQuote? hinner (fun _ => rfl)
          exact ⟨'\\' :: d :: body, rfl, .taken rfl hbody⟩
        · rw [splitQuote?_plain hc hslash] at hfound
          obtain ⟨⟨f, a⟩, hinner, hpair⟩ := Option.map_eq_some_iff.mp hfound
          obtain ⟨rfl, rfl⟩ := Prod.mk.inj hpair
          obtain ⟨body, rfl, hbody⟩ := body_of_splitQuote? hinner (by simp)
          exact ⟨c :: body, rfl, .plain hc hslash hbody⟩

/-- A literal is read exactly through the first quote behind a body. -/
theorem splitQuote?_eq_some_iff {quote : Char} {cs front after : List Char} :
    splitQuote? quote false cs = some (front, after) ↔
      ∃ body, QuoteBody quote body ∧ front = body ++ [quote] ∧ cs = body ++ quote :: after := by
  constructor
  · intro hfound
    obtain ⟨body, rfl, hbody⟩ := body_of_splitQuote? hfound (by simp)
    refine ⟨body, hbody, rfl, ?_⟩
    simpa using (splitQuote?_append hfound).symm
  · rintro ⟨body, hbody, rfl, rfl⟩
    exact splitQuote?_of_body hbody after

/-- A literal is not closed exactly when no quote stands behind a body. -/
theorem splitQuote?_eq_none_iff {quote : Char} {cs : List Char} :
    splitQuote? quote false cs = none ↔
      ∀ body after, QuoteBody quote body → cs ≠ body ++ quote :: after := by
  constructor
  · rintro hnone body after hbody rfl
    rw [splitQuote?_of_body hbody] at hnone
    simp at hnone
  · intro hopen
    cases hfound : splitQuote? quote false cs with
    | none => rfl
    | some pair =>
        obtain ⟨body, hbody, _, hcs⟩ := splitQuote?_eq_some_iff.mp hfound
        exact absurd hcs (hopen body pair.2 hbody)

/-! ## Line comments -/

/-- A line comment is read exactly up to the first line break. -/
theorem splitLine_eq_iff {cs front after : List Char} :
    splitLine cs = (front, after) ↔
      cs = front ++ after ∧ (∀ c ∈ front, c ≠ '\n' ∧ c ≠ '\r') ∧
        ∀ c ∈ after.head?, c = '\n' ∨ c = '\r' := by
  constructor
  · intro hsplit
    have hwhole := splitLine_append cs
    obtain ⟨rfl, rfl⟩ := Prod.mk.inj hsplit
    refine ⟨hwhole.symm, ?_, ?_⟩
    · intro c hc
      have hopen := List.all_eq_true.mp List.all_takeWhile c hc
      simpa [endsLine] using hopen
    · intro c hc
      have hend := List.head?_dropWhile_not (!endsLine ·) cs
      rw [Option.mem_def.mp hc] at hend
      simpa [endsLine, or_iff_not_imp_left] using hend
  · rintro ⟨rfl, hfront, hafter⟩
    have hopen : ∀ c ∈ front, (!endsLine c) = true := by
      intro c hc
      simpa [endsLine] using hfront c hc
    have hstop : after.takeWhile (!endsLine ·) = [] ∧ after.dropWhile (!endsLine ·) = after := by
      cases after with
      | nil => simp
      | cons c after =>
          have hc : endsLine c = true := by simpa [endsLine] using hafter c rfl
          simp [hc]
    rw [splitLine, List.takeWhile_append_of_pos hopen, List.dropWhile_append_of_pos hopen,
      hstop.1, hstop.2, List.append_nil]

/-! ## Block comments -/

/-- The characters that close a block comment. -/
def blockEnd : List Char := ['*', '/']

theorem splitBlock?_closing (after : List Char) :
    splitBlock? ('*' :: '/' :: after) = some (blockEnd, after) := by
  simp [splitBlock?, blockEnd]

theorem splitBlock?_cons {c : Char} {cs : List Char} (hopen : ¬ blockEnd <+: c :: cs) :
    splitBlock? (c :: cs) =
      (splitBlock? cs).map fun (front, after) => (c :: front, after) := by
  rw [splitBlock?]
  rintro after rfl rfl
  exact hopen ⟨after, rfl⟩

/-- A block comment is not closed exactly when `*/` occurs nowhere in the text. -/
theorem splitBlock?_eq_none_iff {cs : List Char} :
    splitBlock? cs = none ↔ ¬ blockEnd <:+: cs := by
  induction cs with
  | nil => simp [splitBlock?, blockEnd]
  | cons c cs ih =>
      rw [List.infix_cons_iff, not_or]
      by_cases hclose : blockEnd <+: c :: cs
      · obtain ⟨after, hafter⟩ := hclose
        rw [← hafter]
        simp [blockEnd, splitBlock?_closing]
      · rw [splitBlock?_cons hclose, Option.map_eq_none_iff, ih]
        exact ⟨fun h => ⟨hclose, h⟩, And.right⟩

/-- A block comment is read exactly through the `*/` behind a body that has none. -/
theorem splitBlock?_eq_some_iff {cs front after : List Char} :
    splitBlock? cs = some (front, after) ↔
      ∃ body, ¬ blockEnd <:+: body ∧ front = body ++ blockEnd ∧ cs = body ++ blockEnd ++ after := by
  constructor
  · intro hfound
    have hwhole := splitBlock?_append hfound
    suffices h : ∃ body, ¬ blockEnd <:+: body ∧ front = body ++ blockEnd by
      obtain ⟨body, hbody, rfl⟩ := h
      exact ⟨body, hbody, rfl, hwhole.symm⟩
    clear hwhole
    induction cs generalizing front with
    | nil => simp [splitBlock?] at hfound
    | cons c cs ih =>
        by_cases hclose : blockEnd <+: c :: cs
        · obtain ⟨rest, hrest⟩ := hclose
          rw [← hrest, blockEnd, List.cons_append, List.cons_append, List.nil_append,
            splitBlock?_closing] at hfound
          obtain ⟨rfl, rfl⟩ := Prod.mk.inj (Option.some.inj hfound)
          exact ⟨[], by simp [blockEnd], rfl⟩
        · rw [splitBlock?_cons hclose] at hfound
          obtain ⟨⟨f, a⟩, hinner, hpair⟩ := Option.map_eq_some_iff.mp hfound
          obtain ⟨rfl, rfl⟩ := Prod.mk.inj hpair
          have hwhole := splitBlock?_append hinner
          obtain ⟨body, hbody, rfl⟩ := ih hinner
          refine ⟨c :: body, ?_, rfl⟩
          rw [List.infix_cons_iff, not_or]
          refine ⟨fun hprefix => hclose ?_, hbody⟩
          rw [← hwhole, List.append_assoc]
          exact hprefix.trans (List.prefix_append (c :: body) _)
  · rintro ⟨body, hbody, rfl, rfl⟩
    induction body with
    | nil => exact splitBlock?_closing after
    | cons c body ih =>
        rw [List.infix_cons_iff, not_or] at hbody
        have hopen : ¬ blockEnd <+: c :: (body ++ blockEnd ++ after) := by
          rintro ⟨rest, hrest⟩
          obtain ⟨rfl, htail⟩ := List.cons.inj hrest
          cases body with
          | nil => simp [blockEnd] at htail
          | cons d body =>
              obtain ⟨rfl, -⟩ := List.cons.inj htail
              exact hbody.1 ⟨body, rfl⟩
        rw [List.cons_append, List.cons_append, splitBlock?_cons hopen, ih hbody.2]
        rfl

/-! ## Names -/

/-- Name characters are ASCII characters behind the blank. -/
theorem toNat_of_isNameChar {c : Char} (hc : isNameChar c = true) :
    0x20 < c.toNat ∧ c.toNat < 0x80 := by
  have hbounds : '0'.val.toNat = 0x30 ∧ '9'.val.toNat = 0x39 ∧ 'A'.val.toNat = 0x41 ∧
      'Z'.val.toNat = 0x5A ∧ 'a'.val.toNat = 0x61 ∧ 'z'.val.toNat = 0x7A := by decide
  -- The library has no lemmas that say which ranges of characters these are.
  delta isNameChar Char.isAlphanum Char.isAlpha Char.isUpper Char.isLower Char.isDigit at hc
  simp only [Bool.or_eq_true, Bool.and_eq_true, decide_eq_true_eq, beq_iff_eq,
    UInt32.le_iff_toNat_le, ge_iff_le] at hc
  rw [← Char.toNat_val]
  rcases hc with hc | rfl
  · omega
  · decide

/-- Segments of name characters with single dots between them. -/
inductive DottedName : List Char → Prop
  | single {c : Char} : isNameChar c = true → DottedName [c]
  | letter {c : Char} {cs : List Char} :
      isNameChar c = true → DottedName cs → DottedName (c :: cs)
  | dot {c : Char} {cs : List Char} :
      isNameChar c = true → DottedName cs → DottedName (c :: '.' :: cs)

theorem DottedName.exists_cons {name : List Char} (hname : DottedName name) :
    ∃ c cs, isNameChar c = true ∧ name = c :: cs := by
  cases hname with
  | single hc => exact ⟨_, _, hc, rfl⟩
  | letter hc _ => exact ⟨_, _, hc, rfl⟩
  | dot hc _ => exact ⟨_, _, hc, rfl⟩

/-- A name character and the name that is read after it make up a dotted name. -/
theorem dottedName_splitName (cs : List Char) :
    ∀ c, isNameChar c = true → DottedName (c :: (splitName cs).1) := by
  fun_induction splitName cs with
  | case1 => exact fun c hc => .single hc
  | case2 d rest hd name after hsplit ih =>
      intro c hc
      have hname := ih d hd
      rw [hsplit] at hname
      exact .letter hc hname
  | case3 d rest hd name after hsplit _ ih =>
      intro c hc
      have hname := ih d hd
      rw [hsplit] at hname
      exact .dot hc hname
  | case4 => exact fun c hc => .single hc
  | case5 => exact fun c hc => .single hc

theorem splitName_of_nameChar {c : Char} (hc : isNameChar c = true) (cs : List Char) :
    splitName (c :: cs) = (c :: (splitName cs).1, (splitName cs).2) := by
  rw [splitName.eq_def]
  simp [hc]

theorem dottedName_splitName_cons {c : Char} (hc : isNameChar c = true) (cs : List Char) :
    DottedName (splitName (c :: cs)).1 := by
  rw [splitName_of_nameChar hc]
  exact dottedName_splitName cs c hc

theorem splitName_dot {c : Char} (hc : isNameChar c = true) (cs : List Char) :
    splitName ('.' :: c :: cs) =
      ('.' :: (splitName (c :: cs)).1, (splitName (c :: cs)).2) := by
  have hdot : isNameChar '.' = false := by decide
  rw [splitName_of_nameChar hc, splitName.eq_def]
  simp [hdot, hc]

/-- Whether a name that ends in front of the text could go on with it. -/
def ExtendsName (cs : List Char) : Prop :=
  ∃ c rest, isNameChar c = true ∧ (cs = c :: rest ∨ cs = '.' :: c :: rest)

/-- Of what follows a text only the next character can matter to a name before both. -/
theorem ExtendsName.of_append {cs after after' : List Char} (hne : cs ≠ [])
    (hhead : after.head? = after'.head?) (hextends : ExtendsName (cs ++ after)) :
    ExtendsName (cs ++ after') := by
  obtain ⟨d, ds, rfl⟩ := List.exists_cons_of_ne_nil hne
  obtain ⟨c, rest, hc, heq | heq⟩ := hextends
  · obtain ⟨rfl, -⟩ := List.cons.inj heq
    exact ⟨d, ds ++ after', hc, Or.inl rfl⟩
  · obtain ⟨rfl, htail⟩ := List.cons.inj heq
    have hnext : (ds ++ after').head? = some c := by
      rw [List.head?_append, ← hhead, ← List.head?_append]
      exact congrArg List.head? htail
    obtain ⟨rest', hrest'⟩ := List.head?_eq_some_iff.mp hnext
    exact ⟨c, rest', hc, Or.inr (congrArg ('.' :: ·) hrest')⟩

/-- A name is read as far as it goes. -/
theorem splitName_stops (cs : List Char) : ¬ ExtendsName (splitName cs).2 := by
  fun_induction splitName cs with
  | case1 => simp [ExtendsName]
  | case2 d rest hd name after hsplit ih =>
      rw [hsplit] at ih
      exact ih
  | case3 d rest hd name after hsplit _ ih =>
      rw [hsplit] at ih
      exact ih
  | case4 d rest hd hdot =>
      rintro ⟨c, tail, hc, heq | heq⟩
      · obtain ⟨rfl, -⟩ := List.cons.inj heq
        exact hdot hc
      · obtain ⟨rfl, -⟩ := List.cons.inj (List.cons.inj heq).2
        exact hd hc
  | case5 d rest hd hdot =>
      rintro ⟨c, tail, hc, heq | heq⟩
      · obtain ⟨rfl, -⟩ := List.cons.inj heq
        exact hd hc
      · obtain ⟨rfl, rfl⟩ := List.cons.inj heq
        exact hdot c tail rfl rfl

theorem splitName_eq_nil {cs : List Char} (hend : ¬ ExtendsName cs) : splitName cs = ([], cs) := by
  fun_cases splitName cs with
  | case1 => rfl
  | case2 c rest hc => exact absurd ⟨c, rest, hc, Or.inl rfl⟩ hend
  | case3 c rest hc => exact absurd ⟨c, rest, hc, Or.inr rfl⟩ hend
  | case4 => rfl
  | case5 => rfl

/-- A dotted name is read as a whole when nothing behind it could belong to it. -/
theorem splitName_of_dottedName {name after : List Char} (hname : DottedName name)
    (hend : ¬ ExtendsName after) : splitName (name ++ after) = (name, after) := by
  induction hname with
  | single hc =>
      rw [List.singleton_append, splitName_of_nameChar hc, splitName_eq_nil hend]
  | letter hc _ ih =>
      rw [List.cons_append, splitName_of_nameChar hc, ih]
  | @dot c cs hc hcs ih =>
      obtain ⟨d, tail, hd, rfl⟩ := hcs.exists_cons
      rw [List.cons_append, List.cons_append, splitName_of_nameChar hc, List.cons_append,
        splitName_dot hd, ← List.cons_append, ih]

end SqlTemplate.Lexer
