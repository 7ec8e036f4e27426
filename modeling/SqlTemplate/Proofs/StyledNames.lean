import Mathlib.Data.List.Basic
import SqlTemplate.Record.CaseStyle

/-!
# Names in a case style

What the case styles make of a name of small words with underscores between them. In printable ASCII
text every character is a cluster of its own, so the tables of Unicode have no say in where the
words of such a name end: they end at its underscores.
-/

namespace SqlTemplate

namespace Unicode

/-! ## Clusters of plain text -/

/-- The printable characters of ASCII. -/
def IsPlain (c : Char) : Prop :=
  0x20 ≤ c.toNat ∧ c.toNat < 0x7F

instance : DecidablePred IsPlain :=
  fun _ => inferInstanceAs (Decidable (_ ∧ _))

namespace IsPlain

variable {a b c : Char}

/-- A table has no plain character if each of its ranges ends before them or begins after them. -/
theorem not_inRanges (hc : IsPlain c) {ranges : Array (Nat × Nat)}
    (hranges : (ranges.toList.all fun (low, high) => high < 0x20 || 0x7F ≤ low) = true) :
    inRanges ranges c = false := by
  obtain ⟨hlow, hhigh⟩ := hc
  rw [inRanges, ← Array.any_toList, List.any_eq_false]
  intro range hmem
  have hrange := List.all_eq_true.mp hranges range hmem
  simp only [Bool.or_eq_true, decide_eq_true_eq, Bool.and_eq_true] at hrange ⊢
  omega

theorem not_joiner (hc : IsPlain c) : (c == joiner) = false := by
  rw [beq_eq_false_iff_ne]
  rintro rfl
  exact absurd hc (by decide)

theorem not_attaches (hc : IsPlain c) : attaches c = false := by
  have hextending : isExtending c = false := hc.not_inRanges (by decide +kernel)
  have hspacing : inRanges spacingRanges c = false := hc.not_inRanges (by decide +kernel)
  have htone : isSkinTone c = false := by
    rw [isSkinTone, Bool.and_eq_false_iff, decide_eq_false_iff_not]
    exact Or.inl fun h => absurd hc.2 (by omega)
  rw [attaches, hextending, htone, hc.not_joiner, hspacing]
  rfl

theorem not_shareSyllable (ha : IsPlain a) : shareSyllable a b = false := by
  have hsyllable : isSyllable a = false := by
    rw [isSyllable, Bool.and_eq_false_iff, decide_eq_false_iff_not]
    exact Or.inl fun h => absurd ha.2 (by omega)
  have hleading : inRanges leadingRanges a = false := ha.not_inRanges (by decide)
  have hvowel : inRanges vowelRanges a = false := ha.not_inRanges (by decide)
  have htrailing : inRanges trailingRanges a = false := ha.not_inRanges (by decide)
  simp [shareSyllable, endsInVowel, endsInTrailing, isOpenSyllable, hsyllable, hleading, hvowel,
    htrailing]

/-- A cluster ends between two plain characters, whatever stands before them. -/
theorem not_staysTogether (ha : IsPlain a) (hb : IsPlain b) (before : List Char) :
    staysTogether before a b = false := by
  have hcontrol {c : Char} (hc : IsPlain c) : inRanges controlRanges c = false :=
    hc.not_inRanges (by decide +kernel)
  have hprepended : inRanges prependedRanges a = false := ha.not_inRanges (by decide +kernel)
  have hconsonant : inRanges consonantRanges b = false := hb.not_inRanges (by decide +kernel)
  have hregion : isRegionalIndicator b = false := by
    rw [isRegionalIndicator, Bool.and_eq_false_iff, decide_eq_false_iff_not]
    exact Or.inl fun h => absurd hb.2 (by omega)
  simp [staysTogether, hcontrol ha, hcontrol hb, hb.not_attaches, hprepended, ha.not_shareSyllable,
    inConjunct, hconsonant, isLinkedPictograph, ha.not_joiner, endsRegion, hregion]

end IsPlain

theorem clustersAfter_of_plain {cs : List Char} (hcs : ∀ c ∈ cs, IsPlain c) (before : List Char) :
    clustersAfter before cs = cs.map ([·]) := by
  induction cs generalizing before with
  | nil => rfl
  | cons c rest ih =>
      obtain ⟨hc, hrest⟩ := List.forall_mem_cons.mp hcs
      rw [clustersAfter.eq_def]
      cases rest with
      | nil => rfl
      | cons next rest =>
          simp [ih hrest, hc.not_staysTogether (hrest next List.mem_cons_self)]

end Unicode

open Unicode (IsPlain)

namespace Text

/-- The words of plain text are made of its characters. -/
theorem words_of_plain {s : String} (hs : ∀ c ∈ s.toList, IsPlain c) :
    words s = (splitWords [] (s.toList.map ([·]))).filter (!·.isEmpty) := by
  rw [words, Unicode.clusters, Unicode.clustersAfter_of_plain hs]

/-! ## Small letters -/

/-- What holds of each of the small letters of ASCII. -/
@[elab_as_elim]
theorem forall_small {motive : Char → Prop} {c : Char} (hc : c.isLower = true)
    (h : ∀ n < 26, motive (Char.ofNat (0x61 + n))) : motive c := by
  have hrange : (decide (97 ≤ c.val) && decide (c.val ≤ 122)) = true := hc
  have hbounds : 97 ≤ c.toNat ∧ c.toNat ≤ 122 := by
    simpa [UInt32.le_iff_toNat_le, ← Char.toNat_val] using hrange
  have hletter := h (c.toNat - 0x61) (by omega)
  rwa [Nat.add_sub_cancel' hbounds.1, Char.ofNat_toNat] at hletter

theorem isPlain_of_small {c : Char} (hc : c.isLower = true) : IsPlain c :=
  forall_small hc (by decide)

theorem lower_of_small {cs : List Char} (hcs : ∀ c ∈ cs, c.isLower = true) : lower cs = cs := by
  have hafter : ∀ before, lowerAfter before cs = cs := by
    induction cs with
    | nil => exact fun _ => rfl
    | cons c cs ih =>
        obtain ⟨hc, hcs⟩ := List.forall_mem_cons.mp hcs
        have hform : c ≠ 'Σ' ∧ Unicode.lowerForm c = [c] := forall_small hc (by decide)
        intro before
        rw [lowerAfter, if_neg hform.1, hform.2, ih hcs]
        rfl
  exact hafter []

theorem upper_of_small {cs : List Char} (hcs : ∀ c ∈ cs, c.isLower = true) :
    upper cs = cs.map Char.toUpper := by
  have hform : ∀ c ∈ cs, Unicode.upperForm c = [c.toUpper] := fun c hc =>
    forall_small (hcs c hc) (by decide)
  rw [upper, List.flatMap_congr hform, List.map_eq_flatMap]

/-! ## Words between underscores -/

/-- A word does not end after a small letter that no capital letter and no digit follows. -/
theorem endsWord_small {c : Char} (hc : c.isLower = true) {rest : List Cluster}
    (hrest : ∀ g ∈ rest.head?, isUpperCluster g = false ∧ isDigitCluster g = false) :
    endsWord [c] rest = false := by
  have hletter : isUpperCluster [c] = false ∧ isDigitCluster [c] = false :=
    forall_small hc (by decide)
  cases rest with
  | nil => rfl
  | cons g rest =>
      obtain ⟨hupper, hdigit⟩ := hrest g rfl
      simp [endsWord, hletter, hupper, hdigit]

/-- Small letters all come into one word, which ends where the text or an underscore is. -/
theorem splitWords_small {cs : List Char} (hcs : ∀ c ∈ cs, c.isLower = true)
    {rest : List Cluster} (hrest : ∀ g ∈ rest.head?, g = ['_']) (word : List Cluster) :
    splitWords word (cs.map ([·]) ++ rest) = splitWords (word ++ cs.map ([·])) rest := by
  induction cs generalizing word with
  | nil => simp
  | cons c cs ih =>
      obtain ⟨hc, hcs⟩ := List.forall_mem_cons.mp hcs
      have hseparator : isSeparator [c] = false := forall_small hc (by decide)
      have hnext : ∀ g ∈ (cs.map ([·]) ++ rest).head?,
          isUpperCluster g = false ∧ isDigitCluster g = false := by
        cases cs with
        | nil =>
            intro g hg
            obtain rfl := hrest g hg
            decide
        | cons d cs =>
            rintro _ ⟨⟩
            exact forall_small (hcs d List.mem_cons_self) (by decide)
      rw [List.map_cons, List.cons_append, splitWords, hseparator, endsWord_small hc hnext,
        if_neg Bool.false_ne_true, if_neg Bool.false_ne_true, ih hcs, List.append_assoc]
      rfl

/-- The words of a text are what stands between its underscores. -/
theorem splitWords_snake {words : List (List Char)} (hne : words ≠ [])
    (hsmall : ∀ w ∈ words, ∀ c ∈ w, c.isLower = true) :
    splitWords [] ((List.intercalate ['_'] words).map ([·])) = words.map (·.map ([·])) := by
  induction words with
  | nil => exact absurd rfl hne
  | cons w words ih =>
      obtain ⟨hw, hsmall⟩ := List.forall_mem_cons.mp hsmall
      cases words with
      | nil =>
          have hlast : splitWords [] (w.map ([·]) ++ []) = splitWords ([] ++ w.map ([·])) [] :=
            splitWords_small hw (by simp) []
          simpa [splitWords] using hlast
      | cons w' words =>
          rw [List.intercalate_cons_cons, List.append_assoc, List.map_append,
            splitWords_small hw (by simp), List.nil_append, List.singleton_append, List.map_cons,
            splitWords, if_pos (by decide), ih (List.cons_ne_nil _ _) hsmall]
          rfl

/-- A word of small letters. -/
def SmallWord (w : String) : Prop :=
  w ≠ "" ∧ ∀ c ∈ w.toList, c.isLower = true

instance : DecidablePred SmallWord := fun w =>
  have : Decidable (∀ c ∈ w.toList, c.isLower = true) := List.decidableBAll ..
  inferInstanceAs (Decidable (_ ∧ _))

theorem isPlain_of_mem_intercalate {words : List (List Char)}
    (hsmall : ∀ w ∈ words, ∀ c ∈ w, c.isLower = true) :
    ∀ c ∈ List.intercalate ['_'] words, IsPlain c := by
  induction words with
  | nil => simp
  | cons w words ih =>
      obtain ⟨hw, hsmall⟩ := List.forall_mem_cons.mp hsmall
      cases words with
      | nil => simpa using fun c hc => isPlain_of_small (hw c hc)
      | cons w' words =>
          rw [List.intercalate_cons_cons, List.append_assoc]
          intro c hc
          rcases List.mem_append.mp hc with hc | hc
          · exact isPlain_of_small (hw c hc)
          · rcases List.mem_cons.mp hc with rfl | hc
            · decide
            · exact ih hsmall c hc

/-- A name of small words with underscores between them has just these words. -/
theorem words_snake {names : List String} (hnames : ∀ w ∈ names, SmallWord w) :
    words ("_".intercalate names) = names.map fun w => w.toList.map ([·]) := by
  have hsmall : ∀ w ∈ names.map String.toList, ∀ c ∈ w, c.isLower = true :=
    List.forall_mem_map.mpr fun w hw => (hnames w hw).2
  have htext : ("_".intercalate names).toList =
      List.intercalate ['_'] (names.map String.toList) := String.toList_intercalate
  rw [words_of_plain (htext ▸ isPlain_of_mem_intercalate hsmall), htext]
  cases names with
  | nil => rfl
  | cons w names =>
      rw [splitWords_snake (by simp) hsmall, List.map_map, List.filter_eq_self.mpr]
      · rfl
      · refine List.forall_mem_map.mpr fun v hv => ?_
        simpa using (hnames v hv).1

end Text

open Text (SmallWord)

namespace CaseStyle

/-! ## Names of small words -/

/-- A word with a capital in front. -/
def capitalized (w : String) : String :=
  match w.toList with
  | [] => ""
  | c :: cs => String.ofList (c.toUpper :: cs)

/-- Words of small letters written together in a style. -/
def joinSmall (style : CaseStyle) (words : List String) : String :=
  match style with
  | flat => "".intercalate words
  | upperFlat => "".intercalate (words.map String.toUpper)
  | camel => "".intercalate (words.take 1 ++ (words.drop 1).map capitalized)
  | pascal => "".intercalate (words.map capitalized)
  | snake => "_".intercalate words
  | upperSnake => "_".intercalate (words.map String.toUpper)
  | kebab => "-".intercalate words

theorem flatten_singletons (cs : List Char) : (cs.map ([·])).flatten = cs := by
  rw [← List.flatMap_def, List.flatMap_singleton']

section

variable {w : String} (hw : SmallWord w)
include hw

theorem lowerWord_of_small : String.ofList (Text.lowerWord (w.toList.map ([·]))) = w := by
  rw [Text.lowerWord, flatten_singletons, Text.lower_of_small hw.2, String.ofList_toList]

theorem upperWord_of_small :
    String.ofList (Text.upperWord (w.toList.map ([·]))) = w.toUpper := by
  rw [Text.upperWord, flatten_singletons, Text.upper_of_small hw.2, String.toUpper,
    ← String.toList_map, String.ofList_toList]

theorem capitalWord_of_small :
    String.ofList (Text.capitalWord (w.toList.map ([·]))) = capitalized w := by
  obtain ⟨-, hsmall⟩ := hw
  rw [capitalized]
  cases hcs : w.toList with
  | nil => rfl
  | cons c cs =>
      rw [hcs] at hsmall
      obtain ⟨hc, hcs⟩ := List.forall_mem_cons.mp hsmall
      have hupper : Text.upper [c] = [c.toUpper] :=
        Text.upper_of_small (List.forall_mem_singleton.mpr hc)
      rw [List.map_cons, Text.capitalWord, hupper, flatten_singletons, Text.lower_of_small hcs]
      rfl

end

/-- A name of small words with underscores between them is written in a style word by word. -/
theorem apply_snake (style : CaseStyle) (words : List String)
    (hwords : ∀ w ∈ words, SmallWord w) :
    style.apply ("_".intercalate words) = style.joinSmall words := by
  have hlower : ∀ w ∈ words, String.ofList (Text.lowerWord (w.toList.map ([·]))) = w :=
    fun w hw => lowerWord_of_small (hwords w hw)
  have hupper : ∀ w ∈ words, String.ofList (Text.upperWord (w.toList.map ([·]))) = w.toUpper :=
    fun w hw => upperWord_of_small (hwords w hw)
  have hcapital : ∀ w ∈ words,
      String.ofList (Text.capitalWord (w.toList.map ([·]))) = capitalized w :=
    fun w hw => capitalWord_of_small (hwords w hw)
  rw [apply, Text.words_snake hwords]
  cases style with
  | flat | snake | kebab =>
      refine congrArg (String.intercalate _) ?_
      rw [styledWords, List.map_map, List.map_map]
      exact (List.map_congr_left hlower).trans (List.map_id words)
  | upperFlat | upperSnake =>
      refine congrArg (String.intercalate _) ?_
      rw [styledWords, List.map_map, List.map_map]
      exact List.map_congr_left hupper
  | pascal =>
      refine congrArg (String.intercalate _) ?_
      rw [styledWords, List.map_map, List.map_map]
      exact List.map_congr_left hcapital
  | camel =>
      cases words with
      | nil => rfl
      | cons w words =>
          obtain ⟨-, hrest⟩ := List.forall_mem_cons.mp hcapital
          rw [List.map_cons, styledWords, List.map_cons, List.map_map, List.map_map,
            hlower w List.mem_cons_self]
          exact congrArg (fun rest => "".intercalate (w :: rest)) (List.map_congr_left hrest)

end CaseStyle

end SqlTemplate
