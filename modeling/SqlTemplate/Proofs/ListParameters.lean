import SqlTemplate.Proofs.Concatenation
import SqlTemplate.Proofs.JoinedTexts

/-!
# The parameters of a list

The key of a list makes names for its parameters, and these have to come back from the text of the
markers. A key may begin or end with a dot, so the names are dotted names only for what is put
around the key. Between brackets the markers are lexed as they were written, with a comma between
any two.
-/

namespace SqlTemplate

open Lexer (DottedName InClass InClasses Opens)

namespace Draft

/-! ## Names -/

theorem isListKey_iff {key : String} :
    isListKey key = true ↔ key.toList ≠ [] ∧ hasDoubleDot key.toList = false ∧
      ∀ c ∈ key.toList, isNameChar c = true ∨ c = '.' := by
  simp [isListKey, List.all_eq_true, and_assoc]

theorem hasDoubleDot_iff {cs : List Char} : hasDoubleDot cs = true ↔ ['.', '.'] <:+: cs := by
  fun_induction hasDoubleDot cs with
  | case1 rest => exact iff_of_true rfl ⟨[], rest, rfl⟩
  | case2 c rest hsplit ih =>
      rw [ih, List.infix_cons_iff, or_iff_right]
      rintro ⟨rest', hrest⟩
      obtain ⟨rfl, rfl⟩ := List.cons.inj hrest
      exact hsplit rest' rfl rfl
  | case3 => exact iff_of_false Bool.false_ne_true (by simp)

/-- What can be the key of a list: letters, digits, underscores and dots, at least one of them, and
no two dots in a row. -/
def FormsNames (key : String) : Prop :=
  key ≠ "" ∧ ¬ ['.', '.'] <:+: key.toList ∧
    ∀ c ∈ key.toList, c.isAlphanum = true ∨ c = '_' ∨ c = '.'

instance : DecidablePred FormsNames := fun key =>
  have : Decidable (∀ c ∈ key.toList, c.isAlphanum = true ∨ c = '_' ∨ c = '.') :=
    List.decidableBAll ..
  inferInstanceAs (Decidable (_ ∧ _ ∧ _))

theorem isListKey_iff_formsNames {key : String} : isListKey key = true ↔ FormsNames key := by
  have hdots : hasDoubleDot key.toList = false ↔ ¬ ['.', '.'] <:+: key.toList := by
    rw [← hasDoubleDot_iff, Bool.not_eq_true]
  have hempty : key.toList ≠ [] ↔ key ≠ "" := not_congr String.toList_eq_nil_iff
  simp only [isListKey_iff, FormsNames, hdots, hempty, isNameChar, Bool.or_eq_true, beq_iff_eq,
    or_assoc]

/-- A list key is an attribute name, so a template can refer to it. -/
theorem attributeName_of_isListKey {key : String} (hkey : isListKey key = true) :
    Attributes.AttributeName key.toList := by
  obtain ⟨hne, -, hchars⟩ := isListKey_iff.mp hkey
  refine ⟨hne, fun c hc => ?_⟩
  rcases hchars c hc with hname | rfl
  · rw [isNameChar] at hname
    rw [Attributes.isAttributeChar, hname, Bool.true_or]
  · decide

theorem isDigit_of_mem_digits {n : Nat} {c : Char} (hc : c ∈ (toString n).toList) :
    c.isDigit = true := by
  have hdigits : (toString n).toList = Nat.toDigits 10 n := Nat.toList_repr
  rw [hdigits] at hc
  exact Nat.isDigit_of_mem_toDigits (by decide) (by decide) hc

theorem isNameChar_digit {n : Nat} {c : Char} (hc : c ∈ (toString n).toList) :
    isNameChar c = true := by
  simp [isNameChar, Char.isAlphanum, isDigit_of_mem_digits hc]

/-- Name characters in a row are a name. -/
theorem dottedName_of_nameChars {c : Char} {cs : List Char} (hc : isNameChar c = true)
    (hcs : ∀ d ∈ cs, isNameChar d = true) : DottedName (c :: cs) := by
  induction cs generalizing c with
  | nil => exact .single hc
  | cons d cs ih =>
      obtain ⟨hd, hcs⟩ := List.forall_mem_cons.mp hcs
      exact .letter hc (ih hd hcs)

theorem hasDoubleDot_cons {c : Char} {cs : List Char} (hdots : hasDoubleDot (c :: cs) = false) :
    ¬ (c = '.' ∧ cs.head? = some '.') ∧ hasDoubleDot cs = false := by
  rw [hasDoubleDot.eq_def] at hdots
  split at hdots
  · exact absurd hdots (by decide)
  · rename_i hsplit heq
    obtain ⟨rfl, rfl⟩ := List.cons.inj heq
    refine ⟨?_, hdots⟩
    rintro ⟨rfl, hhead⟩
    obtain ⟨rest, rfl⟩ := List.head?_eq_some_iff.mp hhead
    exact hsplit rest rfl rfl
  · rename_i heq
    exact absurd heq (by simp)

/-- What stands in front of name characters is part of a dotted name when a name character stands
before it. It may begin or end with a dot; only when it does not begin with one it is a name of its
own. -/
theorem dottedName_key {cs back : List Char} (hdots : hasDoubleDot cs = false)
    (hcs : ∀ c ∈ cs, isNameChar c = true ∨ c = '.') (hback : ∀ c ∈ back, isNameChar c = true)
    (hne : back ≠ []) :
    (∀ c, isNameChar c = true → DottedName (c :: (cs ++ back))) ∧
      (cs.head? ≠ some '.' → DottedName (cs ++ back)) := by
  induction cs with
  | nil =>
      obtain ⟨d, ds, rfl⟩ := List.exists_cons_of_ne_nil hne
      obtain ⟨hd, hds⟩ := List.forall_mem_cons.mp hback
      exact ⟨fun c hc => dottedName_of_nameChars hc hback, fun _ => dottedName_of_nameChars hd hds⟩
  | cons d cs ih =>
      obtain ⟨hdot, hdots⟩ := hasDoubleDot_cons hdots
      obtain ⟨hd, hcs⟩ := List.forall_mem_cons.mp hcs
      obtain ⟨hafter, halone⟩ := ih hdots hcs
      constructor
      · intro c hc
        rcases hd with hd | rfl
        · exact .letter hc (hafter d hd)
        · exact .dot hc (halone fun hhead => hdot ⟨rfl, hhead⟩)
      · intro hhead
        rcases hd with hd | rfl
        · exact hafter d hd
        · exact absurd rfl hhead

theorem toList_listParameter (key : String) (index : Nat) :
    (listParameter key index).toList =
      '_' :: ('_' :: (key.toList ++ '_' :: (toString index).toList)) := by
  simp [listParameter]

/-- Every parameter of a list has a name that is read back as one. -/
theorem dottedName_listParameter {key : String} (hkey : isListKey key = true) (index : Nat) :
    DottedName (listParameter key index).toList := by
  obtain ⟨-, hdots, hchars⟩ := isListKey_iff.mp hkey
  have hline : isNameChar '_' = true := by decide
  have hback : ∀ c ∈ '_' :: (toString index).toList, isNameChar c = true :=
    List.forall_mem_cons.mpr ⟨hline, fun c => isNameChar_digit⟩
  obtain ⟨hafter, -⟩ := dottedName_key hdots hchars hback (List.cons_ne_nil _ _)
  rw [toList_listParameter]
  exact .letter hline (hafter '_' hline)

/-- The last character of its kind divides a text in one way. -/
theorem split_at_last {c : Char} {front front' back back' : List Char} (hback : c ∉ back)
    (hback' : c ∉ back') (heq : front ++ c :: back = front' ++ c :: back') :
    front = front' ∧ back = back' := by
  have hnext : ∀ {middle as bs : List Char}, c ∉ as → c :: as = middle ++ c :: bs →
      middle = [] ∧ as = bs := by
    intro middle as bs has hcons
    cases middle with
    | nil => exact ⟨rfl, (List.cons.inj hcons).2⟩
    | cons d middle =>
        rw [(List.cons.inj hcons).2] at has
        exact absurd (by simp) has
  rcases List.append_eq_append_iff.mp heq with ⟨middle, rfl, hmiddle⟩ | ⟨middle, rfl, hmiddle⟩
  · obtain ⟨rfl, rfl⟩ := hnext hback hmiddle
    simp
  · obtain ⟨rfl, rfl⟩ := hnext hback' hmiddle
    simp

/-- The name of a parameter has its key and its index in it. The key may end as a name with an index
does, but digits alone stand behind the last underscore. -/
theorem listParameter_inj {key key' : String} {index index' : Nat} :
    listParameter key index = listParameter key' index' ↔ key = key' ∧ index = index' := by
  refine ⟨fun heq => ?_, fun ⟨hkey, hindex⟩ => by rw [hkey, hindex]⟩
  have hdigits : ∀ n : Nat, '_' ∉ (toString n).toList := fun n hmem =>
    absurd (isDigit_of_mem_digits hmem) (by decide)
  have hchars := congrArg String.toList heq
  rw [toList_listParameter, toList_listParameter, List.cons.injEq, List.cons.injEq] at hchars
  obtain ⟨hkey, hindex⟩ := split_at_last (hdigits index) (hdigits index') hchars.2.2
  exact ⟨String.toList_inj.mp hkey, Nat.repr_inj.mp (String.toList_inj.mp hindex)⟩

theorem listParameter_injective (key : String) : Function.Injective (listParameter key) :=
  fun _ _ heq => (listParameter_inj.mp heq).2

/-! ## Markers -/

/-- The tokens of named markers with commas between them. -/
def markerTokens : List String → List Token
  | [] => []
  | [name] => [⟨.named, name.toList, 0⟩]
  | name :: next :: rest =>
    ⟨.named, name.toList, 0⟩ :: ⟨.literal, [','], 0⟩ :: markerTokens (next :: rest)

/-- The tokens of a list of markers between round brackets. -/
def enclosedTokens (names : List String) : List Token :=
  ⟨.literal, ['('], 0⟩ :: (markerTokens names ++ [⟨.literal, [')'], 0⟩])

theorem sources_markerTokens (s : Style) (names : List String) :
    Token.sources s (markerTokens names) = (",".intercalate (names.map s.marker)).toList := by
  induction names with
  | nil => rfl
  | cons name rest ih =>
      cases rest with
      | nil => simp [markerTokens, Token.sources, Token.source, Token.sourceOf, Style.marker]
      | cons next rest =>
          simp only [List.map_cons] at ih ⊢
          rw [markerTokens, Token.sources_cons, Token.sources_cons, ih,
            String.intercalate_cons_cons]
          simp [Token.source, Token.sourceOf, Style.marker]

theorem listMarkers_eq (s : Style) (key : String) (count : Nat) :
    listMarkers s key count =
      ",".intercalate (((List.range count).map (listParameter key)).map s.marker) := by
  rw [listMarkers, Text.joined_eq_intercalate, List.map_map]
  · rfl
  · intro hempty
    obtain ⟨index, -, hmarker⟩ := List.mem_map.mp (List.dropLast_subset _ hempty)
    rw [Style.marker, ← String.toList_inj] at hmarker
    simp at hmarker

theorem rewritten_markerTokens (names : List String) :
    (markerTokens names).flatMap Token.rewritten =
      (",".intercalate (names.map fun _ => "?")).toList := by
  induction names with
  | nil => rfl
  | cons name rest ih =>
      cases rest with
      | nil => simp [markerTokens, Token.rewritten, Token.isMarker]
      | cons next rest =>
          simp only [List.map_cons] at ih ⊢
          rw [markerTokens, List.flatMap_cons, List.flatMap_cons, ih,
            String.intercalate_cons_cons]
          simp [Token.rewritten, Token.isMarker]

theorem namesOf_markerTokens (names : List String) :
    Parameters.namesOf (markerTokens names) = names := by
  induction names with
  | nil => rfl
  | cons name rest ih =>
      cases rest with
      | nil => simp [Parameters.namesOf, markerTokens]
      | cons next rest =>
          simp only [Parameters.namesOf] at ih
          simp [Parameters.namesOf, markerTokens, ih]

theorem ne_positional_markerTokens {names : List String} :
    ∀ t ∈ markerTokens names, t.kind ≠ .positional := by
  induction names with
  | nil => simp [markerTokens]
  | cons name rest ih =>
      cases rest with
      | nil => simp [markerTokens]
      | cons next rest => simpa [markerTokens] using ih

/-- The characters that stand around and between markers, unless one of them is the sigil. -/
theorem seam_of_separator {s : Style} {c : Char} (hc : c ∈ [',', '(', ')']) (hsigil : s.sigil ≠ c) :
    Seam s c := by
  simp only [List.mem_cons, List.not_mem_nil, or_false] at hc
  rcases hc with rfl | rfl | rfl
  all_goals exact ⟨by simp [hsigil.symm], by decide, by decide, by decide⟩

/-- A name ends in front of a comma or a bracket, and at the end of the text. -/
theorem inClass_named {s : Style} {name : String} (hname : DottedName name.toList)
    {after : List Char} (hafter : ∀ c ∈ after.head?, c = ',' ∨ c = ')') :
    InClass s .named name.toList after := by
  refine .named hname ?_ fun c hc hforeign => ?_
  · rintro ⟨c, rest, hc, rfl | rfl⟩
    · rcases hafter c rfl with rfl | rfl <;> exact absurd hc (by decide)
    · exact absurd (hafter '.' rfl) (by decide)
  · rcases hafter c hc with rfl | rfl <;> exact absurd hforeign.1 (by decide)

section

variable {s : Style} {names : List String}

theorem opens_markerTokens (hne : names ≠ []) (after : List Char) :
    Opens s (Token.sources s (markerTokens names) ++ after) := by
  obtain ⟨name, rest, rfl⟩ := List.exists_cons_of_ne_nil hne
  cases rest with
  | nil => exact Lexer.opens_sigil s _
  | cons next rest => exact Lexer.opens_sigil s _

/-- Markers are read back as written. -/
theorem inClasses_markerTokens (hcomma : s.sigil ≠ ',')
    (hnames : ∀ name ∈ names, DottedName name.toList) {after : List Char}
    (hafter : ∀ c ∈ after.head?, c = ',' ∨ c = ')') :
    InClasses s after (markerTokens names) := by
  induction names with
  | nil => trivial
  | cons name rest ih =>
      obtain ⟨hname, hrest⟩ := List.forall_mem_cons.mp hnames
      cases rest with
      | nil => exact ⟨inClass_named hname hafter, trivial⟩
      | cons next rest =>
          refine ⟨inClass_named hname fun c hc => Or.inl (Option.some.inj hc).symm, ?_, ih hrest⟩
          exact Lexer.inClass_of_seam (seam_of_separator (by decide) hcomma)
            (Or.inr (opens_markerTokens (List.cons_ne_nil next rest) _))

/-- Markers between brackets are read back as written. -/
theorem inClasses_enclosedTokens (hseparators : s.sigil ∉ [',', '(', ')']) (hne : names ≠ [])
    (hnames : ∀ name ∈ names, DottedName name.toList) :
    InClasses s [] (enclosedTokens names) := by
  simp only [List.mem_cons, List.not_mem_nil, or_false, not_or] at hseparators
  obtain ⟨hcomma, hopen, hclose⟩ := hseparators
  have hmarkers : InClasses s [')'] (markerTokens names) :=
    inClasses_markerTokens hcomma hnames fun c hc => Or.inr (Option.some.inj hc).symm
  refine ⟨?_, Lexer.inClasses_append.mpr ⟨hmarkers, ?_, trivial⟩⟩
  · rw [Token.sources_append, List.append_assoc]
    exact Lexer.inClass_of_seam (seam_of_separator (by decide) hopen)
      (Or.inr (opens_markerTokens hne _))
  · exact Lexer.inClass_of_seam (seam_of_separator (by decide) hclose) (Or.inl rfl)

theorem endsInSeam_enclosedTokens (hclose : s.sigil ≠ ')') :
    EndsInSeam s (enclosedTokens names) :=
  Or.inr ⟨⟨.literal, ['('], 0⟩ :: markerTokens names, ⟨.literal, [')'], 0⟩, [], ')', rfl, rfl, rfl,
    seam_of_separator (by decide) hclose⟩

end

theorem sources_enclosedTokens (s : Style) (names : List String) :
    Token.sources s (enclosedTokens names) =
      '(' :: ((",".intercalate (names.map s.marker)).toList ++ [')']) := by
  rw [enclosedTokens, Token.sources_cons, Token.sources_append, sources_markerTokens]
  rfl

theorem rewritten_enclosedTokens (names : List String) :
    (enclosedTokens names).flatMap Token.rewritten =
      ("(" ++ ",".intercalate (names.map fun _ => "?") ++ ")").toList := by
  rw [enclosedTokens, List.flatMap_cons, List.flatMap_append, rewritten_markerTokens]
  simp [Token.rewritten, Token.isMarker]

theorem namesOf_enclosedTokens (names : List String) :
    Parameters.namesOf (enclosedTokens names) = names := by
  have hnames := namesOf_markerTokens names
  rw [Parameters.namesOf] at hnames ⊢
  simp [enclosedTokens, hnames]

theorem ne_positional_enclosedTokens {names : List String} :
    ∀ t ∈ enclosedTokens names, t.kind ≠ .positional := by
  simpa [enclosedTokens, or_imp, forall_and] using @ne_positional_markerTokens names

end Draft

end SqlTemplate
