import SqlTemplate.Proofs.LexerStep

/-!
# Tokenizing is lossless and ends

`Lexes` is a whole run of the lexer as a derivation, one rule for each way to go on. By induction on
it the sources of the tokens are the template, or everything before the failure that ends the run,
and that failure is one of three faults of the text that is left.
-/

namespace SqlTemplate

open Text (byteLength isBoundary isBoundary_byteLength byteLength_toList length_le_byteLength)

namespace Lexer

/-! ## A run of the lexer -/

/-- The items of the text `cs`, which begins at the byte `start` of the template. -/
inductive Lexes (s : Style) : Nat → List Char → List LexItem → Prop
  | stop {start : Nat} : Lexes s start [] []
  | token {start : Nat} {c : Char} {cs : List Char} {f : Front} {items : List LexItem} :
      front s c cs = .ok f →
      Lexes s (start + byteLength (Token.sourceOf s f.kind f.text)) f.after items →
      Lexes s start (c :: cs) (.ok ⟨f.kind, f.text, start⟩ :: items)
  | failure {start : Nat} {c : Char} {cs : List Char} {e : LexFailure} :
      front s c cs = .error e →
      Lexes s start (c :: cs) [.error ⟨e.fault, start + e.offset⟩]

theorem drain_of_next_none {l : Lexer} (h : l.next = none) : l.drain = ([], l) := by
  rw [drain]
  split
  · rfl
  · simp_all

theorem drain_of_next_some {l l' : Lexer} {item : LexItem} (h : l.next = some (item, l')) :
    l.drain = (item :: l'.drain.1, l'.drain.2) := by
  rw [drain]
  split
  · simp_all
  · rename_i heq
    rw [h] at heq
    obtain ⟨rfl, rfl⟩ := Prod.mk.inj (Option.some.inj heq)
    rfl

theorem lexes_drain (s : Style) (start : Nat) (cs : List Char) :
    Lexes s start cs (Lexer.mk s cs start).drain.1 := by
  cases cs with
  | nil =>
      rw [drain_of_next_none rfl]
      exact .stop
  | cons c cs =>
      cases hfront : front s c cs with
      | error e =>
          -- A failure leaves nothing of the text, so the call after it finds the end.
          have hnext : (Lexer.mk s (c :: cs) start).next =
              some (.error ⟨e.fault, start + e.offset⟩, ⟨s, [], start⟩) := by
            simp [next, hfront]
          rw [drain_of_next_some hnext, drain_of_next_none rfl]
          exact .failure hfront
      | ok f =>
          have hnext : (Lexer.mk s (c :: cs) start).next =
              some (.ok ⟨f.kind, f.text, start⟩,
                ⟨s, f.after, start + byteLength (Token.sourceOf s f.kind f.text)⟩) := by
            simp [next, hfront, Token.source]
          have hshorter := next_shorter hnext
          rw [drain_of_next_some hnext]
          exact .token hfront (lexes_drain s _ f.after)
termination_by cs.length
decreasing_by exact hshorter

/-- The items of a template are a run from its first byte. -/
theorem lexes_lex (s : Style) (template : String) :
    Lexes s 0 template.toList (lex s template) :=
  lexes_drain s 0 template.toList

/-! ## Calling the lexer again and again -/

/-- The lexer after a call of `next`; at the end it stays as it is. -/
def advance (l : Lexer) : Lexer :=
  match l.next with
  | none => l
  | some (_, l') => l'

/-- The answer to a call of `next` after `n` earlier calls. -/
def call (l : Lexer) : Nat → Option LexItem
  | 0 => l.next.map Prod.fst
  | n + 1 => l.advance.call n

theorem call_eq_getElem? (l : Lexer) (n : Nat) : l.call n = l.drain.1[n]? := by
  induction n generalizing l with
  | zero =>
      cases hnext : l.next with
      | none => simp [call, hnext, drain_of_next_none hnext]
      | some pair =>
          obtain ⟨item, l'⟩ := pair
          simp [call, hnext, drain_of_next_some hnext]
  | succ n ih =>
      rw [call, ih, advance]
      cases hnext : l.next with
      | none => simp [drain_of_next_none hnext]
      | some pair =>
          obtain ⟨item, l'⟩ := pair
          simp [drain_of_next_some hnext]

end Lexer

/-! ## What the tokens cover -/

namespace Token

/-- The text that a sequence of tokens stands for. -/
def sources (s : Style) (tokens : List Token) : List Char :=
  tokens.flatMap (source s)

/-- The byte behind the source of the token. -/
def stop (s : Style) (t : Token) : Nat :=
  t.offset + byteLength (t.source s)

end Token

namespace Lexer

/-- The fault of a text `cs` that begins at the byte `start` of the template. -/
inductive Faulty (s : Style) (start : Nat) (cs : List Char) : LexFailure → Prop
  | unterminatedQuote {quote : Char} {body : List Char} :
      quote = '\'' ∨ quote = '"' → cs = quote :: body →
      (∀ inside after, QuoteBody quote inside → body ≠ inside ++ quote :: after) →
      Faulty s start cs ⟨.unterminatedQuote, start⟩
  | unterminatedComment {body : List Char} :
      cs = '/' :: '*' :: body → ¬ ['*', '/'] <:+: body →
      Faulty s start cs ⟨.unterminatedComment, start⟩
  | invalidParameterName {name after : List Char} {c : Char} :
      cs = s.sigil :: name ++ c :: after → name = [] ∨ DottedName name → 0x80 ≤ c.toNat →
      Faulty s start cs ⟨.invalidParameterName, start + byteLength (s.sigil :: name)⟩

theorem byteLength_sigil_cons (s : Style) (cs : List Char) :
    byteLength (s.sigil :: cs) = 1 + byteLength cs := by
  rw [Text.byteLength_cons, Text.utf8Size_of_lt s.sigil_lt]

/-- A failing step finds one of the faults. -/
theorem faulty_of_front {s : Style} {start : Nat} {c : Char} {cs : List Char} {e : LexFailure}
    (hfront : front s c cs = .error e) :
    Faulty s start (c :: cs) ⟨e.fault, start + e.offset⟩ := by
  have hanswers := answers_front s c cs
  rw [hfront] at hanswers
  cases hanswers with
  | quote hquote hopen =>
      exact .unterminatedQuote hquote rfl
        fun inside after hinside => splitQuote?_eq_none_iff.mp hopen inside after hinside
  | block hopen => exact .unterminatedComment rfl (splitBlock?_eq_none_iff.mp hopen)
  | @name c d cs after hc hafter hforeign =>
      have hwhole := splitName_append (c :: cs)
      rw [hafter] at hwhole
      have hname := dottedName_splitName_cons hc cs
      rw [← byteLength_sigil_cons s]
      exact .invalidParameterName (congrArg (s.sigil :: ·) hwhole.symm) (Or.inr hname) hforeign.1
  | @sigil c cs hforeign =>
      rw [show 1 = byteLength (s.sigil :: []) from (byteLength_sigil_cons s []).symm]
      exact .invalidParameterName rfl (Or.inl rfl) hforeign

/-- What the items of the text `cs`, which begins at the byte `start`, say about it: tokens that lie
side by side, and behind them the end of the text or the only failure. -/
def Covers (s : Style) (start : Nat) (cs : List Char) (items : List LexItem) : Prop :=
  ∃ tokens : List Token,
    (∀ t ∈ tokens, t.source s ≠ []) ∧
    (∀ before t after, tokens = before ++ t :: after →
      t.offset = start + byteLength (Token.sources s before)) ∧
    (items = tokens.map .ok ∧ cs = Token.sources s tokens ∨
      ∃ rest e, items = tokens.map .ok ++ [.error e] ∧ cs = Token.sources s tokens ++ rest ∧
        Faulty s (start + byteLength (Token.sources s tokens)) rest e)

/-- One more token in front of a covered text. -/
theorem Covers.token {s : Style} {start : Nat} {t : Token} {cs : List Char}
    {items : List LexItem} (hoffset : t.offset = start) (hsource : t.source s ≠ [])
    (hcovers : Covers s (start + byteLength (t.source s)) cs items) :
    Covers s start (t.source s ++ cs) (.ok t :: items) := by
  obtain ⟨tokens, hnonempty, hoffsets, hend⟩ := hcovers
  have hsources : Token.sources s (t :: tokens) = t.source s ++ Token.sources s tokens := rfl
  refine ⟨t :: tokens, List.forall_mem_cons.mpr ⟨hsource, hnonempty⟩, ?_, ?_⟩
  · intro before u after heq
    cases before with
    | nil =>
        obtain ⟨rfl, rfl⟩ := List.cons.inj heq
        simpa [Token.sources] using hoffset
    | cons t' before =>
        obtain ⟨rfl, htail⟩ := List.cons.inj heq
        rw [hoffsets before u after htail, show Token.sources s (t :: before) =
          t.source s ++ Token.sources s before from rfl, Text.byteLength_append]
        omega
  · rw [hsources, Text.byteLength_append, ← Nat.add_assoc]
    rcases hend with ⟨rfl, rfl⟩ | ⟨rest, e, rfl, rfl, hfaulty⟩
    · exact Or.inl ⟨rfl, rfl⟩
    · exact Or.inr ⟨rest, e, rfl, (List.append_assoc _ _ _).symm, hfaulty⟩

/-- A run covers its text. -/
theorem Lexes.covers {s : Style} {start : Nat} {cs : List Char} {items : List LexItem}
    (hrun : Lexes s start cs items) : Covers s start cs items := by
  induction hrun with
  | stop => exact ⟨[], by simp, by simp, Or.inl ⟨rfl, rfl⟩⟩
  | failure hfront =>
      exact ⟨[], by simp, by simp, Or.inr ⟨_, _, rfl, rfl, faulty_of_front hfront⟩⟩
  | @token start c cs f items hfront _ ih =>
      rw [← front_append hfront]
      exact Covers.token (t := ⟨f.kind, f.text, start⟩) rfl (front_source_ne_nil hfront) ih

/-- Every item takes at least one character. -/
theorem Lexes.length_le {s : Style} {start : Nat} {cs : List Char} {items : List LexItem}
    (hrun : Lexes s start cs items) : items.length ≤ cs.length := by
  induction hrun with
  | stop => simp
  | failure => simp
  | token hfront _ ih =>
      have htaken := List.length_pos_iff.mpr (front_source_ne_nil hfront)
      have hlength := congrArg List.length (front_append hfront)
      rw [List.length_append] at hlength
      simp only [List.length_cons] at hlength ⊢
      omega

/-! ## Boundaries -/

theorem isBoundary_of_tokens {s : Style} {tokens : List Token} {rest : List Char}
    (hoffsets : ∀ before t after, tokens = before ++ t :: after →
      t.offset = byteLength (Token.sources s before))
    {t : Token} (ht : t ∈ tokens) :
    isBoundary (Token.sources s tokens ++ rest) t.offset = true ∧
      isBoundary (Token.sources s tokens ++ rest) (t.stop s) = true := by
  obtain ⟨before, after, rfl⟩ := List.append_of_mem ht
  have hcut : Token.sources s (before ++ t :: after) =
      Token.sources s before ++ (t.source s ++ Token.sources s after) := by
    simp [Token.sources]
  rw [Token.stop, hoffsets before t after rfl, hcut, ← Text.byteLength_append]
  constructor
  · rw [List.append_assoc]
    exact isBoundary_byteLength _ _
  · rw [← List.append_assoc, List.append_assoc]
    exact isBoundary_byteLength _ _

theorem Faulty.isBoundary {s : Style} {front rest : List Char} {e : LexFailure}
    (hfaulty : Faulty s (byteLength front) rest e) :
    Text.isBoundary (front ++ rest) e.offset = true := by
  cases hfaulty with
  | unterminatedQuote => exact isBoundary_byteLength _ _
  | unterminatedComment => exact isBoundary_byteLength _ _
  | @invalidParameterName name after c hrest =>
      have hcut : front ++ rest = (front ++ s.sigil :: name) ++ c :: after := by
        simp [hrest]
      rw [hcut, ← Text.byteLength_append]
      exact isBoundary_byteLength _ _

end Lexer

/-- Tokenizing loses nothing and ends. Calls of the lexer give the items of the template, at most
one for each byte, and nothing from then on. The tokens are not empty and lie side by side from the
first byte on, their ends are character boundaries, and together they are the template or all of it
in front of the failure that comes last. -/
theorem lex_lossless (s : Style) (template : String) :
    (lex s template).length ≤ template.utf8ByteSize ∧
    (∀ n, (Lexer.ofString s template).call n = (lex s template)[n]?) ∧
    ∃ tokens : List Token,
      (∀ t ∈ tokens, t.source s ≠ [] ∧ isBoundary template.toList t.offset = true ∧
        isBoundary template.toList (t.stop s) = true) ∧
      (∀ before t after, tokens = before ++ t :: after →
        t.offset = byteLength (Token.sources s before)) ∧
      (lex s template = tokens.map .ok ∧ template.toList = Token.sources s tokens ∨
        ∃ rest e, lex s template = tokens.map .ok ++ [.error e] ∧
          template.toList = Token.sources s tokens ++ rest ∧
          isBoundary template.toList e.offset = true ∧
          Lexer.Faulty s (byteLength (Token.sources s tokens)) rest e) := by
  have hrun := Lexer.lexes_lex s template
  refine ⟨?_, Lexer.call_eq_getElem? _, ?_⟩
  · rw [← byteLength_toList]
    exact Nat.le_trans hrun.length_le (length_le_byteLength _)
  · obtain ⟨tokens, hnonempty, hoffsets, hend⟩ := hrun.covers
    simp only [Nat.zero_add] at hoffsets hend
    have hboundary : ∀ rest, template.toList = Token.sources s tokens ++ rest →
        ∀ t ∈ tokens, t.source s ≠ [] ∧ isBoundary template.toList t.offset = true ∧
          isBoundary template.toList (t.stop s) = true := by
      intro rest hcut t ht
      rw [hcut]
      exact ⟨hnonempty t ht, Lexer.isBoundary_of_tokens hoffsets ht⟩
    rcases hend with ⟨hitems, hcut⟩ | ⟨rest, e, hitems, hcut, hfaulty⟩
    · exact ⟨tokens, hboundary [] (by simpa using hcut), hoffsets, Or.inl ⟨hitems, hcut⟩⟩
    · refine ⟨tokens, hboundary rest hcut, hoffsets, Or.inr ⟨rest, e, hitems, hcut, ?_, hfaulty⟩⟩
      rw [hcut]
      exact hfaulty.isBoundary

end SqlTemplate
