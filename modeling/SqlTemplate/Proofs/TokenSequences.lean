import Mathlib
import SqlTemplate.Proofs.TokenClasses

/-!
# The token sequence of a template

A sequence of tokens is the lexer's answer for a template exactly when the sources of the tokens are
the template and every token is in its class in front of what follows. So the classes are the whole
grammar of templates, and each template has one sequence of tokens.
-/

namespace SqlTemplate

open Text (byteLength byteLength_append)

namespace Token

theorem sources_cons (s : Style) (t : Token) (tokens : List Token) :
    sources s (t :: tokens) = t.source s ++ sources s tokens := rfl

theorem sources_append (s : Style) (tokens others : List Token) :
    sources s (tokens ++ others) = sources s tokens ++ sources s others :=
  List.flatMap_append

/-- The tokens with the offsets that they have side by side from the byte `start` on. -/
def place (s : Style) : Nat → List Token → List Token
  | _, [] => []
  | start, t :: tokens =>
    { t with offset := start } :: place s (start + byteLength (t.source s)) tokens

theorem place_append (s : Style) (start : Nat) (tokens others : List Token) :
    place s start (tokens ++ others) =
      place s start tokens ++ place s (start + byteLength (sources s tokens)) others := by
  induction tokens generalizing start with
  | nil => rfl
  | cons t tokens ih =>
      rw [List.cons_append, place, ih, place, sources_cons, byteLength_append, Nat.add_assoc]
      rfl

theorem map_place {α : Type} (s : Style) (view : Token → α)
    (hview : ∀ (t : Token) (offset : Nat), view { t with offset := offset } = view t) (start : Nat)
    (tokens : List Token) : (place s start tokens).map view = tokens.map view := by
  induction tokens generalizing start with
  | nil => rfl
  | cons t tokens ih => rw [place, List.map_cons, List.map_cons, hview, ih]

theorem length_place (s : Style) (start : Nat) (tokens : List Token) :
    (place s start tokens).length = tokens.length := by
  induction tokens generalizing start with
  | nil => rfl
  | cons t tokens ih => rw [place, List.length_cons, List.length_cons, ih]

theorem sources_place (s : Style) (start : Nat) (tokens : List Token) :
    sources s (place s start tokens) = sources s tokens := by
  rw [sources, sources, List.flatMap_def, List.flatMap_def,
    map_place s (source s) (fun _ _ => rfl)]

/-- A token that is in its place begins where the tokens before it end. -/
theorem offset_of_place {s : Style} {start : Nat} {before after : List Token} {t : Token}
    (hplace : place s start (before ++ t :: after) = before ++ t :: after) :
    t.offset = start + byteLength (sources s before) := by
  rw [place_append] at hplace
  obtain ⟨-, hrest⟩ := List.append_inj hplace (length_place s start before)
  exact (congrArg offset (List.cons.inj hrest).1).symm

theorem place_place (s : Style) (start : Nat) (tokens : List Token) :
    place s start (place s start tokens) = place s start tokens := by
  induction tokens generalizing start with
  | nil => rfl
  | cons t tokens ih =>
      rw [place, place]
      exact congrArg (_ :: ·) (ih _)

end Token

namespace Lexer

/-- Every token is in its class in front of what follows it, `rest` being the text behind all. -/
def InClasses (s : Style) (rest : List Char) : List Token → Prop
  | [] => True
  | t :: tokens =>
    InClass s t.kind t.text (Token.sources s tokens ++ rest) ∧ InClasses s rest tokens

theorem inClasses_append {s : Style} {rest : List Char} {tokens others : List Token} :
    InClasses s rest (tokens ++ others) ↔
      InClasses s (Token.sources s others ++ rest) tokens ∧ InClasses s rest others := by
  induction tokens with
  | nil => simp [InClasses]
  | cons t tokens ih =>
      rw [List.cons_append, InClasses, ih, InClasses, Token.sources_append, List.append_assoc,
        and_assoc]

theorem inClasses_place {s : Style} {rest : List Char} {start : Nat} {tokens : List Token} :
    InClasses s rest (Token.place s start tokens) ↔ InClasses s rest tokens := by
  induction tokens generalizing start with
  | nil => exact Iff.rfl
  | cons t tokens ih => rw [Token.place, InClasses, InClasses, Token.sources_place, ih]

/-- Tokens stay in their classes when what follows them is replaced by a text that looks the same to
the last of them. -/
theorem InClasses.of_lookahead {s : Style} {rest rest' : List Char} {tokens : List Token}
    (hclasses : InClasses s rest tokens) (hhead : rest.head? = rest'.head?)
    (hopens : Opens s rest → Opens s rest') (hname : ExtendsName rest' → ExtendsName rest) :
    InClasses s rest' tokens := by
  induction tokens with
  | nil => trivial
  | cons t tokens ih =>
      obtain ⟨hclass, hclasses⟩ := hclasses
      refine ⟨hclass.of_lookahead ?_ ?_ fun _ => ?_, ih hclasses⟩
      · rw [List.head?_append, List.head?_append, hhead]
      · cases tokens with
        | nil => exact hopens
        | cons u tokens =>
            rw [Token.sources_cons, List.append_assoc, List.append_assoc]
            exact hclasses.1.opens_append _
      · cases tokens with
        | nil => exact hname
        | cons u tokens =>
            apply ExtendsName.of_append _ hhead.symm
            exact List.append_ne_nil_of_left_ne_nil hclasses.1.source_ne_nil _

/-! ## Runs of the lexer -/

theorem Lexes.unique {s : Style} {start : Nat} {cs : List Char} {items items' : List LexItem}
    (hrun : Lexes s start cs items) (hrun' : Lexes s start cs items') : items = items' := by
  induction hrun generalizing items' with
  | stop =>
      cases hrun'
      rfl
  | token hfront _ ih =>
      cases hrun' with
      | token hfront' hrest' =>
          rw [hfront] at hfront'
          obtain rfl := Except.ok.inj hfront'
          rw [ih hrest']
      | failure hfront' =>
          rw [hfront] at hfront'
          exact absurd hfront' (by simp)
  | failure hfront =>
      cases hrun' with
      | token hfront' =>
          rw [hfront] at hfront'
          exact absurd hfront' (by simp)
      | failure hfront' =>
          rw [hfront] at hfront'
          obtain rfl := Except.error.inj hfront'
          rfl

theorem lex_eq_iff_lexes {s : Style} {template : String} {items : List LexItem} :
    lex s template = items ↔ Lexes s 0 template.toList items := by
  constructor
  · rintro rfl
    exact lexes_lex s template
  · exact (lexes_lex s template).unique

/-- A token of the run stands in the text where its offset says, in its class. -/
theorem Lexes.inClass {s : Style} {start : Nat} {cs : List Char} {items : List LexItem} {t : Token}
    (hrun : Lexes s start cs items) (ht : .ok t ∈ items) :
    ∃ front after, cs = front ++ t.source s ++ after ∧ t.offset = start + byteLength front ∧
      InClass s t.kind t.text after := by
  induction hrun with
  | stop => simp at ht
  | failure => simp at ht
  | @token start c cs f items hfront _ ih =>
      obtain ⟨hwhole, hclass⟩ := front_eq_ok_iff.mp hfront
      rcases List.mem_cons.mp ht with heq | ht
      · obtain rfl := Except.ok.inj heq
        exact ⟨[], f.after, hwhole.symm, rfl, hclass⟩
      · obtain ⟨front, after, hafter, hoffset, hclass⟩ := ih ht
        refine ⟨Token.sourceOf s f.kind f.text ++ front, after, ?_, ?_, hclass⟩
        · rw [← hwhole, hafter, List.append_assoc, List.append_assoc, List.append_assoc]
        · rw [hoffset, byteLength_append, Nat.add_assoc]

/-- A run begins with tokens exactly when these stand in their classes in front of the text that is
left, from which the run goes on. -/
theorem lexes_append_iff {s : Style} {start : Nat} {cs : List Char} {tokens : List Token}
    {items : List LexItem} :
    Lexes s start cs (tokens.map .ok ++ items) ↔
      ∃ rest, cs = Token.sources s tokens ++ rest ∧ InClasses s rest tokens ∧
        Token.place s start tokens = tokens ∧
        Lexes s (start + byteLength (Token.sources s tokens)) rest items := by
  induction tokens generalizing start cs with
  | nil =>
      constructor
      · intro hrun
        exact ⟨cs, rfl, trivial, rfl, hrun⟩
      · rintro ⟨rest, rfl, -, -, hrun⟩
        exact hrun
  | cons t tokens ih =>
      rw [Token.sources_cons, byteLength_append, ← Nat.add_assoc]
      constructor
      · intro hrun
        cases hrun with
        | @token _ c cs f _ hfront hrest =>
            obtain ⟨hwhole, hclass⟩ := front_eq_ok_iff.mp hfront
            obtain ⟨rest, hafter, hclasses, hplace, hrest⟩ := ih.mp hrest
            rw [hafter] at hwhole hclass
            refine ⟨rest, ?_, ⟨hclass, hclasses⟩, congrArg (_ :: ·) hplace, hrest⟩
            rw [List.append_assoc]
            exact hwhole.symm
      · rintro ⟨rest, rfl, ⟨hclass, hclasses⟩, hplace, hrest⟩
        obtain ⟨hoffset, hplace⟩ := List.cons.inj hplace
        obtain ⟨c, cs, hcs⟩ := List.exists_cons_of_ne_nil
          (List.append_ne_nil_of_left_ne_nil hclass.source_ne_nil (Token.sources s tokens ++ rest))
        have hfront : front s c cs = .ok ⟨t.kind, t.text, Token.sources s tokens ++ rest⟩ :=
          front_eq_ok_iff.mpr ⟨hcs, hclass⟩
        have hrun := Lexes.token hfront (ih.mpr ⟨rest, rfl, hclasses, hplace, hrest⟩)
        rw [List.append_assoc, show t.source s = Token.sourceOf s t.kind t.text from rfl, hcs,
          List.map_cons, List.cons_append, ← hoffset]
        exact hrun

end Lexer

open Lexer (InClass InClasses Lexes)

/-- The tokens of a template that has no failure are those that make it up in their classes. -/
theorem lex_eq_tokens_iff {s : Style} {template : String} {tokens : List Token} :
    lex s template = tokens.map .ok ↔
      template.toList = Token.sources s tokens ∧ InClasses s [] tokens ∧
        Token.place s 0 tokens = tokens := by
  have hend : ∀ start rest, Lexes s start rest [] ↔ rest = [] := by
    intro start rest
    constructor
    · rintro ⟨⟩
      rfl
    · rintro rfl
      exact .stop
  have hitems : (tokens.map .ok : List LexItem) = tokens.map .ok ++ [] := (List.append_nil _).symm
  rw [Lexer.lex_eq_iff_lexes, hitems, Lexer.lexes_append_iff]
  simp only [hend]
  constructor
  · rintro ⟨rest, hwhole, hclasses, hplace, rfl⟩
    exact ⟨by rw [hwhole, List.append_nil], hclasses, hplace⟩
  · rintro ⟨hwhole, hclasses, hplace⟩
    exact ⟨[], by rw [hwhole, List.append_nil], hclasses, hplace, rfl⟩

theorem tokens_unique {s : Style} {template : String} {tokens tokens' : List Token}
    (hlex : lex s template = tokens.map .ok) (hlex' : lex s template = tokens'.map .ok) :
    tokens = tokens' :=
  List.map_injective_iff.mpr (fun _ _ => Except.ok.inj) (hlex.symm.trans hlex')

/-- Tokens in their classes are what their sources are read as. -/
theorem lex_of_inClasses {s : Style} {template : String} {tokens : List Token}
    (hwhole : template.toList = Token.sources s tokens) (hclasses : InClasses s [] tokens) :
    lex s template = (Token.place s 0 tokens).map .ok := by
  refine lex_eq_tokens_iff.mpr ⟨?_, Lexer.inClasses_place.mpr hclasses, Token.place_place s 0 _⟩
  rw [hwhole, Token.sources_place]

/-- Every token is in the lexical class of its kind, also in front of a failure: it stands in the
template at its offset, the class admits its text in front of what follows, and no class admits any
other token there. -/
theorem lex_token_inClass (s : Style) (template : String) (t : Token)
    (ht : .ok t ∈ lex s template) :
    ∃ front after, template.toList = front ++ t.source s ++ after ∧ t.offset = byteLength front ∧
      InClass s t.kind t.text after ∧
      ∀ kind text behind, InClass s kind text behind →
        Token.sourceOf s kind text ++ behind = t.source s ++ after →
        kind = t.kind ∧ text = t.text := by
  obtain ⟨front, after, hwhole, hoffset, hclass⟩ := (Lexer.lexes_lex s template).inClass ht
  refine ⟨front, after, hwhole, by rw [hoffset, Nat.zero_add], hclass, ?_⟩
  intro kind text behind hother hsame
  obtain ⟨hkind, htext, -⟩ := hother.unique hclass hsame
  exact ⟨hkind, htext⟩

/-- A name in front of an open literal ends before the dot that no name character follows. -/
theorem lex_token_inClass_named :
    .ok ⟨.named, "b.c".toList, 2⟩ ∈ lex .colon "a :b.c. '" ∧
      ∃ front after, "a :b.c. '".toList = front ++ ":b.c".toList ++ after ∧
        byteLength front = 2 ∧ InClass .colon .named "b.c".toList after := by
  have hlex : lex .colon "a :b.c. '" =
      [.ok ⟨.literal, "a ".toList, 0⟩, .ok ⟨.named, "b.c".toList, 2⟩,
        .ok ⟨.literal, ". ".toList, 6⟩, .error ⟨.unterminatedQuote, 8⟩] := by cbv
  have ht : .ok ⟨.named, "b.c".toList, 2⟩ ∈ lex .colon "a :b.c. '" := by
    rw [hlex]
    simp
  obtain ⟨front, after, hwhole, hoffset, hclass, -⟩ := lex_token_inClass .colon "a :b.c. '" _ ht
  exact ⟨ht, front, after, hwhole, hoffset.symm, hclass⟩

end SqlTemplate
