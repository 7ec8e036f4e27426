import SqlTemplate.Token
import SqlTemplate.Unicode.Alphanumeric

/-!
# Splitting a template into tokens

Regions are recognised in a fixed order: comments, quoted literals, escapes, positional markers,
named markers, plain text. Nothing inside a quoted literal or a comment is looked at. A doubled
sigil and a doubled question mark are plain text.

Each function of the first section takes a text apart at its front and says by its lemma that
nothing is lost; `next` is one step of the lexer, and `items` all of its steps.
-/

namespace SqlTemplate

namespace Lexer

/-! ## Fronts of a text -/

/-- Whether a line comment ends before the character. -/
def endsLine (c : Char) : Bool :=
  c == '\n' || c == '\r'

/-- A line comment without its end, and what follows. -/
def splitLine (cs : List Char) : List Char × List Char :=
  (cs.takeWhile (!endsLine ·), cs.dropWhile (!endsLine ·))

/-- The text through the first `*/`, and what follows; none when there is no `*/`. -/
def splitBlock? : List Char → Option (List Char × List Char)
  | [] => none
  | c :: rest =>
    match c, rest with
    | '*', '/' :: rest => some (['*', '/'], rest)
    | _, _ => (splitBlock? rest).map fun (front, after) => (c :: front, after)

/-- The text through the quote that closes a literal, and what follows; none when it is not closed.
In a single quoted literal a backslash takes the next character with it; `taken` says that the first
character is such a one. -/
def splitQuote? (quote : Char) (taken : Bool) : List Char → Option (List Char × List Char)
  | [] => none
  | c :: rest =>
    if taken = false ∧ c = quote then some ([c], rest)
    else
      (splitQuote? quote (!taken && c == '\\' && quote == '\'') rest).map
        fun (front, after) => (c :: front, after)

/-- The longest name at the front, and what follows. A dot belongs to the name when a name
character follows it. -/
def splitName : List Char → List Char × List Char
  | [] => ([], [])
  | c :: rest =>
    if isNameChar c then
      let (name, after) := splitName rest
      (c :: name, after)
    else
      match c, rest with
      | '.', d :: rest' =>
        if isNameChar d then
          let (name, after) := splitName rest'
          (c :: d :: name, after)
        else ([], c :: rest)
      | _, _ => ([], c :: rest)

/-- Whether anything but plain text begins at the front. -/
def startsRegion (s : Style) : List Char → Bool
  | '-' :: '-' :: _ => true
  | '/' :: '*' :: _ => true
  | c :: _ => c == '\'' || c == '"' || c == '\\' || c == '?' || c == s.sigil
  | [] => false

/-- The text before the next region, and what follows. -/
def splitPlain (s : Style) : List Char → List Char × List Char
  | [] => ([], [])
  | c :: rest =>
    if startsRegion s (c :: rest) then ([], c :: rest)
    else
      let (front, after) := splitPlain s rest
      (c :: front, after)

theorem splitLine_append (cs : List Char) : (splitLine cs).1 ++ (splitLine cs).2 = cs :=
  List.takeWhile_append_dropWhile

theorem splitBlock?_append {cs front after : List Char}
    (found : splitBlock? cs = some (front, after)) : front ++ after = cs := by
  fun_induction splitBlock? cs generalizing front after with
  | case1 => simp at found
  | case2 rest =>
    obtain ⟨rfl, rfl⟩ := Prod.mk.inj (Option.some.inj found)
    rfl
  | case3 c rest _ ih =>
    obtain ⟨⟨f, a⟩, inner, pair⟩ := Option.map_eq_some_iff.mp found
    obtain ⟨rfl, rfl⟩ := Prod.mk.inj pair
    simp [ih inner]

theorem splitQuote?_append {quote : Char} {taken : Bool} {cs front after : List Char}
    (found : splitQuote? quote taken cs = some (front, after)) : front ++ after = cs := by
  fun_induction splitQuote? quote taken cs generalizing front after with
  | case1 => simp at found
  | case2 =>
    obtain ⟨rfl, rfl⟩ := Prod.mk.inj (Option.some.inj found)
    rfl
  | case3 taken c rest _ ih =>
    obtain ⟨⟨f, a⟩, inner, pair⟩ := Option.map_eq_some_iff.mp found
    obtain ⟨rfl, rfl⟩ := Prod.mk.inj pair
    simp [ih inner]

theorem splitName_append (cs : List Char) : (splitName cs).1 ++ (splitName cs).2 = cs := by
  fun_induction splitName cs <;> simp_all

theorem splitPlain_append (s : Style) (cs : List Char) :
    (splitPlain s cs).1 ++ (splitPlain s cs).2 = cs := by
  fun_induction splitPlain s cs <;> simp_all

/-! ## One token -/

/-- The token at the front of a text, and what follows. -/
structure Front where
  kind : TokenKind
  text : List Char
  after : List Char

/-- The token that a pair of front and rest stands for. -/
def Front.ofPair (kind : TokenKind) (pair : List Char × List Char) : Front :=
  ⟨kind, pair.1, pair.2⟩

/-- The named marker whose sigil stands in front of the text. Its name must not run into a letter
or number outside ASCII; the offset of such a one is counted from the sigil. -/
def namedFront (cs : List Char) : Except LexFailure Front :=
  let (name, after) := splitName cs
  match after with
  | c :: _ =>
    if 0x80 ≤ c.toNat ∧ Unicode.isAlphanumeric c then
      .error ⟨.invalidParameterName, 1 + Text.byteLength name⟩
    else .ok ⟨.named, name, after⟩
  | [] => .ok ⟨.named, name, after⟩

/-- What a sigil begins that stands in front of the text. -/
def sigilFront (s : Style) (cs : List Char) : Except LexFailure Front :=
  match cs with
  | [] => .ok ⟨.literal, [s.sigil], []⟩
  | c :: rest =>
    if c = s.sigil then .ok ⟨.literal, [s.sigil, c], rest⟩
    else if isNameChar c then namedFront (c :: rest)
    else if 0x80 ≤ c.toNat then .error ⟨.invalidParameterName, 1⟩
    else .ok ⟨.literal, [s.sigil], c :: rest⟩

/-- The token at the front of the text `c :: rest`, or the fault there; its offset is counted from
the front. -/
def front (s : Style) (c : Char) (rest : List Char) : Except LexFailure Front :=
  match c, rest with
  | '-', '-' :: _ => .ok (.ofPair .comment (splitLine (c :: rest)))
  | '/', '*' :: body =>
    match splitBlock? body with
    | some (comment, after) => .ok ⟨.comment, '/' :: '*' :: comment, after⟩
    | none => .error ⟨.unterminatedComment, 0⟩
  | _, _ =>
    if c = '\'' ∨ c = '"' then
      match splitQuote? c false rest with
      | some (literal, after) => .ok ⟨.quoted, c :: literal, after⟩
      | none => .error ⟨.unterminatedQuote, 0⟩
    else if c = '\\' then
      match rest with
      | d :: after => .ok ⟨.escaped, [d], after⟩
      | [] => .ok ⟨.literal, [c], []⟩
    else if c = '?' then
      match rest with
      | '?' :: after => .ok ⟨.literal, ['?', '?'], after⟩
      | _ => .ok ⟨.positional, [c], rest⟩
    else if c = s.sigil then sigilFront s rest
    else
      let (text, after) := splitPlain s rest
      .ok ⟨.literal, c :: text, after⟩

theorem namedFront_append {s : Style} {cs : List Char} {f : Front} (found : namedFront cs = .ok f) :
    Token.sourceOf s f.kind f.text ++ f.after = s.sigil :: cs := by
  have whole := splitName_append cs
  unfold namedFront at found
  split at found
  rename_i name after split_
  rw [split_] at whole
  split at found
  · split at found
    · simp at found
    · cases found
      simpa [Token.sourceOf] using whole
  · cases found
    simpa [Token.sourceOf] using whole

theorem sigilFront_append {s : Style} {cs : List Char} {f : Front}
    (found : sigilFront s cs = .ok f) :
    Token.sourceOf s f.kind f.text ++ f.after = s.sigil :: cs := by
  unfold sigilFront at found
  split at found
  · cases found
    rfl
  · split at found
    · cases found
      rfl
    · split at found
      · exact namedFront_append found
      · split at found
        · simp at found
        · cases found
          rfl

/-- Nothing is lost: the source of a token and what follows it are the text. -/
theorem front_append {s : Style} {c : Char} {rest : List Char} {f : Front}
    (found : front s c rest = .ok f) :
    Token.sourceOf s f.kind f.text ++ f.after = c :: rest := by
  unfold front at found
  split at found
  · cases found
    exact splitLine_append _
  · split at found
    · rename_i h
      cases found
      simpa [Token.sourceOf] using splitBlock?_append h
    · simp at found
  · split at found
    · split at found
      · rename_i h
        cases found
        simpa [Token.sourceOf] using splitQuote?_append h
      · simp at found
    · split at found
      · rename_i h
        split at found <;> cases found <;> simp [Token.sourceOf, h]
      · split at found
        · rename_i h
          split at found <;> cases found <;> simp [Token.sourceOf, h]
        · split at found
          · rename_i h
            rw [sigilFront_append found, h]
          · have whole := splitPlain_append s rest
            split at found
            rename_i h
            rw [h] at whole
            cases found
            simpa [Token.sourceOf] using whole

theorem sigilFront_source_ne_nil {s : Style} {cs : List Char} {f : Front}
    (found : sigilFront s cs = .ok f) : Token.sourceOf s f.kind f.text ≠ [] := by
  unfold sigilFront namedFront at found
  grind [Token.sourceOf]

/-- A token stands for at least one character. -/
theorem front_source_ne_nil {s : Style} {c : Char} {rest : List Char} {f : Front}
    (found : front s c rest = .ok f) : Token.sourceOf s f.kind f.text ≠ [] := by
  unfold front at found
  split at found
  · cases found
    simp [Front.ofPair, splitLine, endsLine, Token.sourceOf]
  · split at found <;> cases found
    simp [Token.sourceOf]
  · split at found
    · split at found <;> cases found
      simp [Token.sourceOf]
    · split at found
      · split at found <;> cases found <;> simp [Token.sourceOf]
      · split at found
        · split at found <;> cases found <;> simp [Token.sourceOf]
        · split at found
          · exact sigilFront_source_ne_nil found
          · cases found
            simp [Token.sourceOf]

end Lexer

/-! ## All tokens -/

/-- A lexer between two tokens: what is left of the template, and where that begins. -/
structure Lexer where
  style : Style
  rest : List Char
  offset : Nat

/-- One step of a lexer: a token, or the failure after which there are no more. -/
abbrev LexItem := Except LexFailure Token

namespace Lexer

/-- The lexer at the beginning of a template. -/
def ofString (s : Style) (template : String) : Lexer :=
  ⟨s, template.toList, 0⟩

/-- The next item and the lexer after it, none at the end. -/
def next (l : Lexer) : Option (LexItem × Lexer) :=
  match l.rest with
  | [] => none
  | c :: rest =>
    match front l.style c rest with
    | .error e => some (.error ⟨e.fault, l.offset + e.offset⟩, { l with rest := [] })
    | .ok f =>
      let token : Token := ⟨f.kind, f.text, l.offset⟩
      let stop := l.offset + Text.byteLength (token.source l.style)
      some (.ok token, { l with rest := f.after, offset := stop })

theorem next_shorter {l l' : Lexer} {item : LexItem} (step : l.next = some (item, l')) :
    l'.rest.length < l.rest.length := by
  unfold next at step
  split at step
  · simp at step
  · rename_i c rest whole
    rw [whole]
    split at step
    · obtain ⟨rfl, rfl⟩ := Prod.mk.inj (Option.some.inj step)
      simp
    · rename_i f found
      obtain ⟨rfl, rfl⟩ := Prod.mk.inj (Option.some.inj step)
      have lengths := congrArg List.length (front_append found)
      have taken := List.length_pos_iff.mpr (front_source_ne_nil found)
      simp only [List.length_append] at lengths
      show f.after.length < (c :: rest).length
      omega

/-- All items that are left, and the lexer after the last of them. -/
def drain (l : Lexer) : List LexItem × Lexer :=
  match _ : l.next with
  | none => ([], l)
  | some (item, l') =>
    let (items, last) := l'.drain
    (item :: items, last)
termination_by l.rest.length
decreasing_by exact next_shorter (by assumption)

end Lexer

/-- The tokens of a template in order; a failure is the last item. -/
def lex (s : Style) (template : String) : List LexItem :=
  (Lexer.ofString s template).drain.1

end SqlTemplate
