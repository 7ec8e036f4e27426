import SqlTemplate.Proofs.Encoding
import SqlTemplate.Proofs.LexicalClasses

/-!
# Rendering, character by character

A template is cut into pieces: characters that are copied, escaped brackets and references. The cut
goes by characters and by the same readers of comments and literals that the lexer has, whatever is
not closed reaching to the end. The scan of the bytes finds the edits that the pieces ask for, and
carrying these out fills the pieces, so rendering never splits a character.
-/

namespace SqlTemplate.Attributes

open Lexer (splitLine splitBlock? splitQuote? endsLine)
open Text (byteLength splitAtByte splitAtByte_byteLength)

/-! ## References -/

/-- The characters that attribute names are made of. -/
def isAttributeChar (c : Char) : Bool :=
  c.isAlphanum || c == '_' || c == '.'

/-- The name in the reference whose opening bracket stands in front of the text, and what follows
the closing one; none when no reference begins there. -/
def reference? (cs : List Char) : Option (List Char × List Char) :=
  match cs.takeWhile isAttributeChar, cs.dropWhile isAttributeChar with
  | c :: name, '>' :: after => some (c :: name, after)
  | _, _ => none

/-- What an attribute can be called in a template. -/
def AttributeName (name : List Char) : Prop :=
  name ≠ [] ∧ ∀ c ∈ name, isAttributeChar c = true

theorem takeWhile_attributeChar {name : List Char}
    (hname : ∀ c ∈ name, isAttributeChar c = true) (after : List Char) :
    (name ++ '>' :: after).takeWhile isAttributeChar = name ∧
      (name ++ '>' :: after).dropWhile isAttributeChar = '>' :: after := by
  constructor
  · rw [List.takeWhile_append_of_pos hname]
    simp [isAttributeChar]
  · rw [List.dropWhile_append_of_pos hname]
    simp [isAttributeChar]

theorem reference?_eq_some_iff {cs name after : List Char} :
    reference? cs = some (name, after) ↔ AttributeName name ∧ cs = name ++ '>' :: after := by
  constructor
  · intro hfound
    unfold reference? at hfound
    split at hfound
    · rename_i c name' after' htake hdrop
      obtain ⟨rfl, rfl⟩ := Prod.mk.inj (Option.some.inj hfound)
      have hname : ∀ d ∈ c :: name', isAttributeChar d = true := by
        rw [← htake]
        exact List.all_eq_true.mp List.all_takeWhile
      refine ⟨⟨List.cons_ne_nil _ _, hname⟩, ?_⟩
      rw [← htake, ← hdrop, List.takeWhile_append_dropWhile]
    · simp at hfound
  · rintro ⟨⟨hne, hname⟩, rfl⟩
    obtain ⟨htake, hdrop⟩ := takeWhile_attributeChar hname after
    obtain ⟨c, name, rfl⟩ := List.exists_cons_of_ne_nil hne
    simp only [reference?, htake, hdrop]

/-! ## Pieces -/

/-- A piece of a template. -/
inductive Piece where
  /-- A character that stays. -/
  | copied (c : Char)
  /-- A backslash with an opening bracket. -/
  | bracket
  /-- A name between brackets. -/
  | reference (name : List Char)

namespace Piece

/-- The characters of the template that the piece stands for. -/
def source : Piece → List Char
  | copied c => [c]
  | bracket => ['\\', '<']
  | reference name => '<' :: name ++ ['>']

/-- What comes in place of the piece; none for an attribute that is not defined. -/
def filling? (a : Attributes) : Piece → Option (List Char)
  | copied c => some [c]
  | bracket => some ['<']
  | reference name => (a.get? (String.ofList name)).map String.toList

/-- The characters of the template that a sequence of pieces stands for. -/
def sources (ps : List Piece) : List Char :=
  ps.flatMap source

@[simp] theorem sources_cons (p : Piece) (ps : List Piece) :
    sources (p :: ps) = p.source ++ sources ps := rfl

@[simp] theorem sources_append (ps qs : List Piece) :
    sources (ps ++ qs) = sources ps ++ sources qs := by
  simp [sources]

@[simp] theorem sources_copied (cs : List Char) : sources (cs.map copied) = cs := by
  induction cs with
  | nil => rfl
  | cons c cs ih => simp [source, ih]

end Piece

/-- The pieces filled, or the first reference to an attribute that is not defined. -/
def fill (a : Attributes) (ps : List Piece) : Except Failure (List Char) :=
  match ps.find? fun p => (p.filling? a).isNone with
  | some p => .error (.undefinedAttribute (String.ofList p.source))
  | none => .ok (ps.flatMap fun p => (p.filling? a).getD [])

/-- One piece filled. -/
def Piece.filled (a : Attributes) (p : Piece) : Except Failure (List Char) :=
  match p.filling? a with
  | some cs => .ok cs
  | none => .error (.undefinedAttribute (String.ofList p.source))

theorem fill_cons (a : Attributes) (p : Piece) (ps : List Piece) :
    a.fill (p :: ps) = (p.filled a).bind fun cs => (a.fill ps).map (cs ++ ·) := by
  rw [fill, List.find?_cons, Piece.filled, List.flatMap_cons]
  cases p.filling? a with
  | none => rfl
  | some cs =>
      rw [fill]
      cases ps.find? fun p => (p.filling? a).isNone <;> rfl

/-! ## The scan -/

/-- The pieces that begin with the character `c`, and what follows them. -/
def glance (c : Char) (rest : List Char) : List Piece × List Char :=
  match c, rest with
  | '-', '-' :: _ =>
    let (line, after) := splitLine (c :: rest)
    (line.map .copied, after)
  | '/', '*' :: body =>
    let (comment, after) := (splitBlock? body).getD (body, [])
    (('/' :: '*' :: comment).map .copied, after)
  | '\\', '<' :: after => ([.bracket], after)
  | '\\', d :: after => ([.copied '\\', .copied d], after)
  | '<', _ =>
    match reference? rest with
    | some (name, after) => ([.reference name], after)
    | none => ([.copied '<'], rest)
  | _, _ =>
    if c = '\'' ∨ c = '"' then
      let (literal, after) := (splitQuote? c false rest).getD (rest, [])
      ((c :: literal).map .copied, after)
    else ([.copied c], rest)

/-- What a glance can see. -/
inductive Sees : Char → List Char → List Piece → List Char → Prop
  | line {cs : List Char} :
      Sees '-' ('-' :: cs) ((splitLine ('-' :: '-' :: cs)).1.map .copied)
        (splitLine ('-' :: '-' :: cs)).2
  | block {body comment after : List Char} :
      (splitBlock? body).getD (body, []) = (comment, after) →
      Sees '/' ('*' :: body) (('/' :: '*' :: comment).map .copied) after
  | bracket {after : List Char} : Sees '\\' ('<' :: after) [.bracket] after
  | escaped {d : Char} {after : List Char} :
      d ≠ '<' → Sees '\\' (d :: after) [.copied '\\', .copied d] after
  | reference {cs name after : List Char} :
      reference? cs = some (name, after) → Sees '<' cs [.reference name] after
  | quoted {c : Char} {cs literal after : List Char} :
      c = '\'' ∨ c = '"' → (splitQuote? c false cs).getD (cs, []) = (literal, after) →
      Sees c cs ((c :: literal).map .copied) after
  | other {c : Char} {cs : List Char} :
      ¬ (c = '-' ∧ cs.head? = some '-') → ¬ (c = '/' ∧ cs.head? = some '*') →
      ¬ (c = '\\' ∧ cs ≠ []) → ¬ (c = '<' ∧ reference? cs ≠ none) → c ≠ '\'' → c ≠ '"' →
      Sees c cs [.copied c] cs

theorem sees_glance (c : Char) (rest : List Char) :
    Sees c rest (glance c rest).1 (glance c rest).2 := by
  unfold glance
  split
  · exact .line
  · exact .block rfl
  · exact .bracket
  · rename_i hbracket
    exact .escaped hbracket
  · split
    · rename_i hfound
      exact .reference hfound
    · rename_i hnone
      exact .other (by simp) (by simp) (by simp) (by simp [hnone]) (by simp) (by simp)
  · rename_i hopen hline hblock _ hescaped
    split
    · rename_i hquote
      exact .quoted hquote rfl
    · rename_i hquote
      rw [not_or] at hquote
      refine .other ?_ ?_ ?_ ?_ hquote.1 hquote.2
      · rintro ⟨rfl, hhead⟩
        obtain ⟨tail, rfl⟩ := List.head?_eq_some_iff.mp hhead
        exact hline tail rfl rfl
      · rintro ⟨rfl, hhead⟩
        obtain ⟨tail, rfl⟩ := List.head?_eq_some_iff.mp hhead
        exact hblock tail rfl rfl
      · rintro ⟨rfl, hne⟩
        obtain ⟨d, tail, rfl⟩ := List.exists_cons_of_ne_nil hne
        exact hescaped d tail rfl rfl
      · rintro ⟨rfl, _⟩
        exact hopen rfl

/-- A reader that loses nothing does so too when it takes the whole text for want of an end. -/
theorem append_of_getD {found : Option (List Char × List Char)} {cs front after : List Char}
    (happend : ∀ f a, found = some (f, a) → f ++ a = cs)
    (hfront : found.getD (cs, []) = (front, after)) : front ++ after = cs := by
  cases found with
  | none =>
      obtain ⟨rfl, rfl⟩ := Prod.mk.inj hfront
      exact List.append_nil cs
  | some pair => exact happend front after (congrArg some hfront)

/-- Nothing is lost by a glance. -/
theorem Sees.sources {c : Char} {cs after : List Char} {ps : List Piece}
    (hsees : Sees c cs ps after) : Piece.sources ps ++ after = c :: cs := by
  cases hsees with
  | line => simpa using Lexer.splitLine_append _
  | block hblock =>
      rw [Piece.sources_copied, List.cons_append, List.cons_append,
        append_of_getD (fun _ _ => Lexer.splitBlock?_append) hblock]
  | bracket => rfl
  | escaped => rfl
  | reference hfound =>
      obtain ⟨_, rfl⟩ := reference?_eq_some_iff.mp hfound
      simp [Piece.sources, Piece.source]
  | quoted _ hquote =>
      rw [Piece.sources_copied, List.cons_append,
        append_of_getD (fun _ _ => Lexer.splitQuote?_append) hquote]
  | other => rfl

/-- A glance takes at least one character. -/
theorem Sees.shorter {c : Char} {cs after : List Char} {ps : List Piece}
    (hsees : Sees c cs ps after) : after.length < (c :: cs).length := by
  have htaken : Piece.sources ps ≠ [] := by
    cases hsees <;> simp [splitLine, endsLine, Piece.sources, Piece.source]
  have hlength := congrArg List.length hsees.sources
  have hpos := List.length_pos_iff.mpr htaken
  rw [List.length_append] at hlength
  omega

/-- The pieces of a text. -/
def pieces : List Char → List Piece
  | [] => []
  | c :: rest => (glance c rest).1 ++ pieces (glance c rest).2
termination_by cs => cs.length
decreasing_by exact (sees_glance c rest).shorter

/-- The pieces are the text. -/
theorem sources_pieces (cs : List Char) : Piece.sources (pieces cs) = cs := by
  fun_induction pieces cs with
  | case1 => rfl
  | case2 c rest ih =>
      rw [Piece.sources_append, ih]
      exact (sees_glance c rest).sources

end SqlTemplate.Attributes
