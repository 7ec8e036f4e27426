import SqlTemplate.Proofs.ListStatement

/-!
# The markers of a list

The attribute of a list holds the markers of its parameters with commas between them, and is read as
a template of its own: it has a placeholder for each value and the names in their order. In the
style of the comma it is not so. There a comma and the sigil behind it are a doubled sigil, which is
plain text, and the name behind them is plain text too, so that only the first value is left.
-/

namespace SqlTemplate

open Lexer (DottedName InClass InClasses Opens PlainRun)

/-! ## Names in plain text -/

namespace Lexer

theorem DottedName.characters {name : List Char} (hname : DottedName name) :
    ∀ c ∈ name, isNameChar c = true ∨ c = '.' := by
  induction hname with
  | single hc => simpa using Or.inl hc
  | letter hc _ ih => exact List.forall_mem_cons.mpr ⟨Or.inl hc, ih⟩
  | dot hc _ ih =>
      exact List.forall_mem_cons.mpr ⟨Or.inl hc, List.forall_mem_cons.mpr ⟨Or.inr rfl, ih⟩⟩

/-- What names are made of has no meaning unless a sigil stands in front. -/
theorem plain_of_nameChar (s : Style) {c : Char} (hc : isNameChar c = true ∨ c = '.')
    (cs : List Char) : Plain s c cs := by
  have hother : ∀ d, isNameChar d = false → d ≠ '.' → c ≠ d := by
    rintro d hname hdot rfl
    rcases hc with hc | hc
    · rw [hname] at hc
      exact absurd hc (by decide)
    · exact hdot hc
  have hsigil := hother s.sigil s.sigil_not_nameChar (s.sigil_ne_of_reserved (by decide))
  refine ⟨?_, fun h => hother '-' (by decide) (by decide) h.1,
    fun h => hother '/' (by decide) (by decide) h.1⟩
  simp only [List.mem_cons, List.not_mem_nil, or_false, not_or]
  exact ⟨hother _ (by decide) (by decide), hother _ (by decide) (by decide),
    hother _ (by decide) (by decide), hother _ (by decide) (by decide), hsigil⟩

theorem plainRun_of_nameChars (s : Style) {text : List Char}
    (htext : ∀ c ∈ text, isNameChar c = true ∨ c = '.') (after : List Char) :
    PlainRun s after text := by
  induction text with
  | nil => exact .nil
  | cons c text ih =>
      obtain ⟨hc, htext⟩ := List.forall_mem_cons.mp htext
      exact .cons (plain_of_nameChar s hc _) (ih htext)

/-- A name without a sigil in front is plain text. -/
theorem DottedName.inClass_literal (s : Style) {name : List Char} (hname : DottedName name)
    {after : List Char} (hafter : after = [] ∨ Opens s after) : InClass s .literal name after := by
  obtain ⟨c, cs, -, rfl⟩ := hname.exists_cons
  have hrun := plainRun_of_nameChars s hname.characters after
  exact inClass_of_plainRun (List.cons_ne_nil c cs) hrun hafter

end Lexer

theorem toList_intercalate_cons (separator first : String) (rest : List String) :
    (separator.intercalate (first :: rest)).toList =
      first.toList ++ rest.flatMap fun item => separator.toList ++ item.toList := by
  induction rest generalizing first with
  | nil => simp
  | cons next rest ih =>
      rw [String.intercalate_cons_cons, String.toList_append, ih, String.toList_append,
        List.flatMap_cons, List.append_assoc, List.append_assoc]

/-! ## Markers in the style of the comma -/

namespace Draft

/-- The tokens of names behind doubled commas. -/
def plainTokens (names : List String) : List Token :=
  names.flatMap fun name => [⟨.literal, [',', ','], 0⟩, ⟨.literal, name.toList, 0⟩]

/-- The tokens of named markers with commas between them where the comma is the sigil. -/
def commaTokens (name : String) (rest : List String) : List Token :=
  ⟨.named, name.toList, 0⟩ :: plainTokens rest

theorem kind_of_mem_plainTokens {names : List String} {t : Token} (ht : t ∈ plainTokens names) :
    t.kind = .literal := by
  obtain ⟨name, -, ht⟩ := List.mem_flatMap.mp ht
  simp only [List.mem_cons, List.not_mem_nil, or_false] at ht
  rcases ht with rfl | rfl <;> rfl

theorem sources_plainTokens (s : Style) (names : List String) :
    Token.sources s (plainTokens names) =
      names.flatMap fun name => ",,".toList ++ name.toList := by
  rw [Token.sources, plainTokens, List.flatMap_assoc]
  simp [Token.source, Token.sourceOf]

theorem rewritten_plainTokens (names : List String) :
    (plainTokens names).flatMap Token.rewritten =
      names.flatMap fun name => ",,".toList ++ name.toList := by
  rw [plainTokens, List.flatMap_assoc]
  simp [Token.rewritten, Token.isMarker]

theorem sources_commaTokens {s : Style} (hcomma : s.sigil = ',') (name : String)
    (rest : List String) :
    Token.sources s (commaTokens name rest) =
      (",".intercalate ((name :: rest).map s.marker)).toList := by
  rw [commaTokens, Token.sources_cons, sources_plainTokens, List.map_cons, toList_intercalate_cons,
    List.flatMap_map]
  simp [Token.source, Token.sourceOf, Style.marker, hcomma]

theorem rewritten_commaTokens (name : String) (rest : List String) :
    (commaTokens name rest).flatMap Token.rewritten = (",,".intercalate ("?" :: rest)).toList := by
  rw [commaTokens, List.flatMap_cons, rewritten_plainTokens, toList_intercalate_cons]
  rfl

theorem namesOf_commaTokens (name : String) (rest : List String) :
    Parameters.namesOf (commaTokens name rest) = [name] := by
  have hplain : Parameters.namesOf (plainTokens rest) = [] :=
    Parameters.namesOf_eq_nil_iff.mpr fun t ht hnamed => by
      rw [kind_of_mem_plainTokens ht] at hnamed
      exact absurd hnamed (by decide)
  have hnames := Parameters.namesOf_append [⟨.named, name.toList, 0⟩] (plainTokens rest)
  rw [hplain] at hnames
  simpa [commaTokens, Parameters.namesOf] using hnames

theorem ne_positional_commaTokens {name : String} {rest : List String} :
    ∀ t ∈ commaTokens name rest, t.kind ≠ .positional := by
  refine List.forall_mem_cons.mpr ⟨nofun, fun t ht => ?_⟩
  rw [kind_of_mem_plainTokens ht]
  decide

section

variable {s : Style}

theorem opens_plainTokens (hcomma : s.sigil = ',') {names : List String} (hne : names ≠ [])
    (after : List Char) : Opens s (Token.sources s (plainTokens names) ++ after) := by
  obtain ⟨name, rest, rfl⟩ := List.exists_cons_of_ne_nil hne
  have hopens := Lexer.opens_sigil s
  rw [hcomma] at hopens
  exact hopens _

/-- Behind a doubled comma nothing is left of a marker but its name. -/
theorem inClasses_plainTokens (hcomma : s.sigil = ',') {names : List String}
    (hnames : ∀ name ∈ names, DottedName name.toList) : InClasses s [] (plainTokens names) := by
  have hdoubled : ∀ after, InClass s .literal [',', ','] after := by
    intro after
    rw [← hcomma]
    exact .doubledSigil
  induction names with
  | nil => trivial
  | cons name rest ih =>
      obtain ⟨hname, hrest⟩ := List.forall_mem_cons.mp hnames
      refine ⟨hdoubled _, hname.inClass_literal s ?_, ih hrest⟩
      cases rest with
      | nil => exact Or.inl rfl
      | cons next rest => exact Or.inr (opens_plainTokens hcomma (List.cons_ne_nil next rest) _)

/-- In the style of the comma only the first marker is read back as one. -/
theorem inClasses_commaTokens (hcomma : s.sigil = ',') {name : String} {rest : List String}
    (hname : DottedName name.toList) (hrest : ∀ name ∈ rest, DottedName name.toList) :
    InClasses s [] (commaTokens name rest) := by
  refine ⟨inClass_named hname ?_, inClasses_plainTokens hcomma hrest⟩
  cases rest with
  | nil => simp [plainTokens, Token.sources]
  | cons next rest => exact fun c hc => Or.inl (Option.some.inj hc).symm

end

end Draft

/-! ## The queries -/

namespace Query

/-- The query of the markers of a list alone. -/
def ofMarkers (key : String) (count : Nat) : Query where
  sql := ",".intercalate (List.replicate count "?")
  parameters := .named ((List.range count).map (Draft.listParameter key))

/-- The query of the markers of a list in the style of the comma. -/
def ofCommaMarkers (key : String) (count : Nat) : Query where
  sql := ",,".intercalate
    ("?" :: (List.range (count - 1)).map fun index => Draft.listParameter key (index + 1))
  parameters := .named [Draft.listParameter key 0]

theorem ofCommaMarkers_eq_iff (key : String) (count : Nat) :
    ofCommaMarkers key count = ofMarkers key count ↔ count = 1 := by
  constructor
  · intro heq
    have hnames := Parameters.named.inj (congrArg Query.parameters heq)
    simpa using (congrArg List.length hnames).symm
  · rintro rfl
    rfl

section

variable {s : Style}

/-- The query of a template that is written from tokens in their classes, some of them named markers
and none of them positional ones. -/
theorem ofTemplate_of_named {template : String} {tokens : List Token}
    (hwhole : template.toList = Token.sources s tokens) (hclasses : InClasses s [] tokens)
    (hnamed : ∀ t ∈ tokens, t.kind ≠ .positional) (hne : Parameters.namesOf tokens ≠ []) :
    ofTemplate s template =
      .ok ⟨String.ofList (tokens.flatMap Token.rewritten), .named (Parameters.namesOf tokens)⟩ := by
  rw [ofTemplate_of_inClasses hwhole hclasses ⟨rfl, rfl⟩ (Token.unmixed_of_ne_positional hnamed),
    ofTokens, Parameters.ofTokens_of_namesOf_ne_nil hne]

theorem ofTemplate_listMarkers {key : String} (hkey : Draft.isListKey key = true) {count : Nat}
    (hcount : count ≠ 0) (hcomma : s.sigil ≠ ',') :
    ofTemplate s (Draft.listMarkers s key count) = .ok (ofMarkers key count) := by
  have hnames : ∀ name ∈ (List.range count).map (Draft.listParameter key),
      DottedName name.toList :=
    List.forall_mem_map.mpr fun i _ => Draft.dottedName_listParameter hkey i
  have hclasses : InClasses s [] (Draft.markerTokens ((List.range count).map
      (Draft.listParameter key))) := Draft.inClasses_markerTokens hcomma hnames (by simp)
  rw [Draft.listMarkers_eq, ofTemplate_of_named (Draft.sources_markerTokens s _).symm hclasses
    Draft.ne_positional_markerTokens, Draft.namesOf_markerTokens, Draft.rewritten_markerTokens,
    String.ofList_toList]
  · rw [ofMarkers, List.map_map]
    simp only [Function.comp_def, List.map_const', List.length_range]
  · simpa [Draft.namesOf_markerTokens] using hcount

theorem ofTemplate_listMarkers_comma {key : String} (hkey : Draft.isListKey key = true)
    {count : Nat} (hcount : count ≠ 0) (hcomma : s.sigil = ',') :
    ofTemplate s (Draft.listMarkers s key count) = .ok (ofCommaMarkers key count) := by
  obtain ⟨count, rfl⟩ := Nat.exists_eq_succ_of_ne_zero hcount
  have hrange : (List.range (count + 1)).map (Draft.listParameter key) =
      Draft.listParameter key 0 ::
        (List.range count).map fun index => Draft.listParameter key (index + 1) := by
    rw [List.range_succ_eq_map, List.map_cons, List.map_map]
    rfl
  have hrest : ∀ name ∈ (List.range count).map fun index => Draft.listParameter key (index + 1),
      DottedName name.toList :=
    List.forall_mem_map.mpr fun i _ => Draft.dottedName_listParameter hkey (i + 1)
  have hclasses := Draft.inClasses_commaTokens hcomma (Draft.dottedName_listParameter hkey 0) hrest
  rw [Draft.listMarkers_eq, hrange, ofTemplate_of_named (Draft.sources_commaTokens hcomma _ _).symm
    hclasses Draft.ne_positional_commaTokens, Draft.namesOf_commaTokens,
    Draft.rewritten_commaTokens, String.ofList_toList]
  · rfl
  · simp [Draft.namesOf_commaTokens]

end

end Query

/-- Whether the parser of a configuration reads a text as a query, whatever it has read before. -/
def Config.ReadsAs (c : Config) (text : String) (query : Query) : Prop :=
  ∀ S : Session, S.Faithful c →
    ∃ entry S', (c.parse text).run S = (.ok entry, S') ∧ entry.query = query

theorem Config.readsAs_of_ofTemplate {c : Config} {text : String} {query : Query}
    (hquery : Query.ofTemplate c.style text = .ok query) : c.ReadsAs text query := by
  intro S hS
  have hparse := c.parse_run text hS
  rw [queryOf, hquery] at hparse
  obtain ⟨entry, hentry, hrun⟩ := hparse
  exact ⟨entry, _, hrun, hentry⟩

/-- The attribute of a list has a query of its own: a placeholder for each value with commas between
them, and the names of the list in their order. There is one exception, the style of the comma with
more values than one, where only the first value has a placeholder. -/
theorem list_markers_read_back (st : Statement) {key : String} {values : List Value}
    (hkey : Draft.isListKey key = true) (hvalues : values ≠ []) :
    ∃ st' text query, st.apply (.list key values) = .ok st' ∧
      st'.draft.attributes.get? key = some text ∧ st.config.ReadsAs text query ∧
      (query = .ofMarkers key values.length ↔
        st.config.style.sigil ≠ ',' ∨ values.length = 1) ∧
      (st.config.style.sigil = ',' → query = .ofCommaMarkers key values.length) := by
  have hcount : values.length ≠ 0 := mt List.eq_nil_of_length_eq_zero hvalues
  have hattribute := st.draft.attributes.get?_define_self key
    (Draft.listMarkers st.config.style key values.length)
  by_cases hcomma : st.config.style.sigil = ','
  · refine ⟨_, _, .ofCommaMarkers key values.length, st.apply_list hkey hvalues, hattribute,
      Config.readsAs_of_ofTemplate (Query.ofTemplate_listMarkers_comma hkey hcount hcomma), ?_,
      fun _ => rfl⟩
    simpa [hcomma] using Query.ofCommaMarkers_eq_iff key values.length
  · exact ⟨_, _, .ofMarkers key values.length, st.apply_list hkey hvalues, hattribute,
      Config.readsAs_of_ofTemplate (Query.ofTemplate_listMarkers hkey hcount hcomma),
      iff_of_true rfl (Or.inl hcomma), fun h => absurd h hcomma⟩

/-- A statement that is nothing but a list, in a style of its own. -/
def listAlone (s : Style) : Statement :=
  Statement.create { Config.standard 0 with style := s } "<ids>"

/-- Names after a vertical bar. -/
def Style.bar : Style := ⟨'|', by decide⟩

/-- Names after a comma. -/
def Style.comma : Style := ⟨',', by decide⟩

/-- Two values after vertical bars, the key being one that begins with a dot. -/
theorem list_markers_read_back_bar :
    let values : List Value := [.varchar (some "1"), .varchar (some "2")]
    Draft.isListKey ".a" = true ∧ values ≠ [] ∧
    ∃ st' text, (listAlone .bar).apply (.list ".a" values) = .ok st' ∧
      st'.draft.attributes.get? ".a" = some text ∧
      (listAlone .bar).config.ReadsAs text ⟨"?,?", .named ["__.a_0", "__.a_1"]⟩ := by
  intro values
  have hkey : Draft.isListKey ".a" = true := by decide
  have hvalues : values ≠ [] := by simp [values]
  obtain ⟨st', text, query, happly, htext, hreads, hfull, -⟩ :=
    list_markers_read_back (listAlone .bar) hkey hvalues
  obtain rfl := hfull.mpr (Or.inl (by decide))
  exact ⟨hkey, hvalues, st', text, happly, htext, hreads⟩

/-- The comma is the sigil of a style, and there the second of two values is lost. -/
theorem list_markers_comma_lost :
    Style.ofChar? ',' = some .comma ∧ Draft.isListKey "ids" = true ∧
    ∃ st', (listAlone .comma).apply
        (.list "ids" [.varchar (some "1"), .varchar (some "2")]) = .ok st' ∧
      st'.draft.attributes.get? "ids" = some ",__ids_0,,__ids_1" ∧
      Query.ofTemplate .comma ",__ids_0,,__ids_1" = .ok ⟨"?,,__ids_1", .named ["__ids_0"]⟩ ∧
      ⟨"?,,__ids_1", .named ["__ids_0"]⟩ ≠ Query.ofMarkers "ids" 2 :=
  ⟨rfl, by decide, _, rfl, by decide, by cbv, by decide⟩

end SqlTemplate
