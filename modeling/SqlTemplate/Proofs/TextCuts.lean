import SqlTemplate.Text.Shortened

/-!
# Cutting a text at a byte count

A long text is cut at the last character boundary that its limit allows. No character has more than
four bytes, so at most three bytes of the limit are given away, and a cut at a boundary cannot fail.
What a message quotes is the front of the text without the white space at its end, and it never has
more bytes than the limit and the three dots.
-/

namespace SqlTemplate.Text

open SqlTemplate.Unicode (isBlank)

/-! ## Boundaries -/

/-- A text is cut after a number of bytes just where characters with that many bytes end. -/
theorem splitAtByte_eq_some_iff {n : Nat} {cs front rest : List Char} :
    splitAtByte n cs = some (front, rest) ↔ cs = front ++ rest ∧ byteLength front = n := by
  constructor
  · intro hsplit
    fun_induction splitAtByte n cs generalizing front rest with
    | case1 =>
        obtain ⟨rfl, rfl⟩ := Prod.mk.inj (Option.some.inj hsplit)
        exact ⟨rfl, rfl⟩
    | case2 => simp at hsplit
    | case3 n c cs hfits ih =>
        obtain ⟨⟨front', rest'⟩, hinner, hpair⟩ := Option.map_eq_some_iff.mp hsplit
        obtain ⟨rfl, rfl⟩ := Prod.mk.inj hpair
        obtain ⟨rfl, hlength⟩ := ih hinner
        refine ⟨rfl, ?_⟩
        rw [byteLength_cons, hlength]
        omega
    | case4 => simp at hsplit
  · rintro ⟨rfl, rfl⟩
    exact splitAtByte_byteLength front rest

theorem isBoundary_iff {cs : List Char} {n : Nat} :
    isBoundary cs n = true ↔ ∃ front rest, cs = front ++ rest ∧ byteLength front = n := by
  rw [isBoundary, Option.isSome_iff_exists]
  constructor
  · rintro ⟨⟨front, rest⟩, hsplit⟩
    exact ⟨front, rest, splitAtByte_eq_some_iff.mp hsplit⟩
  · rintro ⟨front, rest, hcut⟩
    exact ⟨(front, rest), splitAtByte_eq_some_iff.mpr hcut⟩

/-- The boundaries of a text are the valid positions of its encoding. -/
theorem isBoundary_toList_iff {s : String} {p : String.Pos.Raw} :
    isBoundary s.toList p.byteIdx = true ↔ p.IsValid s := by
  rw [isBoundary_iff, String.Pos.Raw.isValid_iff_exists_append]
  constructor
  · rintro ⟨front, rest, hwhole, hlength⟩
    refine ⟨String.ofList front, String.ofList rest, ?_, ?_⟩
    · rw [← String.ofList_append, ← hwhole, String.ofList_toList]
    · ext
      rw [← hlength, String.byteIdx_rawEndPos, ← byteLength_toList, String.toList_ofList]
  · rintro ⟨front, rest, rfl, rfl⟩
    exact ⟨front.toList, rest.toList, String.toList_append, byteLength_toList front⟩

/-- A boundary is never far: of any four offsets in a row that a text has, one is a boundary. -/
theorem exists_boundary_near {cs : List Char} {n : Nat} (hn : n ≤ byteLength cs) :
    ∃ k ≤ n, isBoundary cs k = true ∧ n < k + 4 := by
  induction cs generalizing n with
  | nil => exact ⟨0, Nat.zero_le n, rfl, by simp at hn; omega⟩
  | cons c cs ih =>
      by_cases hinside : n < c.utf8Size
      · exact ⟨0, Nat.zero_le n, rfl, by have := c.utf8Size_le_four; omega⟩
      · rw [byteLength_cons] at hn
        obtain ⟨k, hle, hboundary, hnear⟩ := @ih (n - c.utf8Size) (by omega)
        obtain ⟨front, rest, rfl, rfl⟩ := isBoundary_iff.mp hboundary
        refine ⟨byteLength (c :: front), ?_, isBoundary_byteLength (c :: front) rest, ?_⟩ <;>
          rw [byteLength_cons] <;> omega

theorem isBoundary_lastBoundary (cs : List Char) (n : Nat) :
    isBoundary cs (lastBoundary cs n) = true := by
  fun_induction lastBoundary cs n with
  | case1 => exact isBoundary_byteLength [] cs
  | case2 n hboundary => exact hboundary
  | case3 n _ ih => exact ih

theorem lastBoundary_le (cs : List Char) (n : Nat) : lastBoundary cs n ≤ n := by
  fun_induction lastBoundary cs n with
  | case1 => exact Nat.le_refl 0
  | case2 n => exact Nat.le_refl (n + 1)
  | case3 n _ ih => exact Nat.le_succ_of_le ih

theorem le_lastBoundary {cs : List Char} {k n : Nat} (hboundary : isBoundary cs k = true)
    (hle : k ≤ n) : k ≤ lastBoundary cs n := by
  fun_induction lastBoundary cs n with
  | case1 => exact hle
  | case2 n => exact hle
  | case3 n hinside ih =>
      have hne : k ≠ n + 1 := by
        rintro rfl
        exact hinside hboundary
      exact ih (by omega)

/-- Where the text goes on behind the limit, the last boundary that the limit allows; otherwise the
end of the text. -/
theorem boundaryBefore_eq (s : String) (limit : Nat) :
    boundaryBefore s limit = lastBoundary s.toList (min limit s.utf8ByteSize) := by
  rw [boundaryBefore]
  split
  · rename_i hshort
    rw [Nat.min_eq_right hshort]
    have hend : isBoundary s.toList s.utf8ByteSize = true := by
      rw [← byteLength_toList]
      simpa using isBoundary_byteLength s.toList []
    exact Nat.le_antisymm (le_lastBoundary hend (Nat.le_refl _)) (lastBoundary_le _ _)
  · rename_i hlong
    rw [Nat.min_eq_left (by omega)]

theorem lt_boundaryBefore (s : String) (limit : Nat) :
    min limit s.utf8ByteSize < boundaryBefore s limit + 4 := by
  have hsize : min limit s.utf8ByteSize ≤ byteLength s.toList := by
    rw [byteLength_toList]
    exact Nat.min_le_right _ _
  obtain ⟨k, hle, hboundary, hnear⟩ := exists_boundary_near hsize
  have hlast := le_lastBoundary hboundary hle
  rw [boundaryBefore_eq]
  omega

/-- The cut at the boundary cannot fail, and what is kept has as many bytes. -/
theorem exists_split_boundaryBefore (s : String) (limit : Nat) :
    ∃ kept rest, splitAtByte (boundaryBefore s limit) s.toList = some (kept, rest) ∧
      s.toList = kept ++ rest ∧ byteLength kept = boundaryBefore s limit := by
  have hboundary := isBoundary_lastBoundary s.toList (min limit s.utf8ByteSize)
  rw [← boundaryBefore_eq] at hboundary
  obtain ⟨kept, rest, hcut⟩ := isBoundary_iff.mp hboundary
  exact ⟨kept, rest, splitAtByte_eq_some_iff.mpr hcut, hcut⟩

/-! ## White space at the end -/

/-- `front` is the text `cs` without the white space at its end. -/
def Trims (cs front : List Char) : Prop :=
  ∃ blanks, cs = front ++ blanks ∧ (∀ c ∈ blanks, isBlank c = true) ∧
    ∀ c ∈ front.getLast?, isBlank c = false

theorem trims_trimmedEnd (cs : List Char) : Trims cs (trimmedEnd cs) := by
  refine ⟨(cs.reverse.takeWhile isBlank).reverse, ?_, ?_, ?_⟩
  · rw [trimmedEnd, ← List.reverse_append, List.takeWhile_append_dropWhile, List.reverse_reverse]
  · intro c hc
    exact List.all_eq_true.mp List.all_takeWhile c (List.mem_reverse.mp hc)
  · intro c hc
    have hstop := List.head?_dropWhile_not isBlank cs.reverse
    rw [trimmedEnd, List.getLast?_reverse] at hc
    rwa [hc] at hstop

theorem Trims.byteLength_le {cs front : List Char} (htrims : Trims cs front) :
    byteLength front ≤ byteLength cs := by
  obtain ⟨blanks, rfl, -⟩ := htrims
  rw [byteLength_append]
  exact Nat.le_add_right _ _

/-! ## Shortened text -/

/-- A text that a message quotes is cut at a boundary, trimmed, and marked where something is left
out. -/
theorem exists_shortened (s : String) :
    ∃ kept rest front, s.toList = kept ++ rest ∧ byteLength kept = boundaryBefore s quotedBytes ∧
      Trims kept front ∧
      shortened s = String.ofList front ++ if quotedBytes < s.utf8ByteSize then "..." else "" := by
  obtain ⟨kept, rest, hsplit, hwhole, hlength⟩ := exists_split_boundaryBefore s quotedBytes
  refine ⟨kept, rest, trimmedEnd kept, hwhole, hlength, trims_trimmedEnd kept, ?_⟩
  rw [shortened, hsplit]
  rfl

/-- A text is cut at its last boundary within the limit, less than four bytes before it, so no
character is split. A shortened text takes at most 500 bytes. It is the text itself without the
white space at its end when that has at most 497 bytes, and otherwise the front up to the boundary
without the white space at its end, and three dots. -/
theorem shortened_splits_no_character (s : String) :
    (∀ limit, (⟨boundaryBefore s limit⟩ : String.Pos.Raw).IsValid s ∧
      boundaryBefore s limit ≤ min limit s.utf8ByteSize ∧
      (∀ p : String.Pos.Raw, p.IsValid s → p.byteIdx ≤ min limit s.utf8ByteSize →
        p.byteIdx ≤ boundaryBefore s limit) ∧
      min limit s.utf8ByteSize < boundaryBefore s limit + 4) ∧
    (splitAtByte (boundaryBefore s 497) s.toList).isSome = true ∧
    (shortened s).utf8ByteSize ≤ 500 ∧
    (s.utf8ByteSize ≤ 497 → Trims s.toList (shortened s).toList) ∧
    (497 < s.utf8ByteSize → ∃ kept rest front, s.toList = kept ++ rest ∧
      byteLength kept = boundaryBefore s 497 ∧ Trims kept front ∧
      shortened s = String.ofList front ++ "...") := by
  have hvalid : ∀ limit, isBoundary s.toList (boundaryBefore s limit) = true := by
    intro limit
    rw [boundaryBefore_eq]
    exact isBoundary_lastBoundary _ _
  have hle : ∀ limit, boundaryBefore s limit ≤ min limit s.utf8ByteSize := by
    intro limit
    rw [boundaryBefore_eq]
    exact lastBoundary_le _ _
  obtain ⟨kept, rest, front, hwhole, hlength, htrims, hshortened⟩ := exists_shortened s
  rw [quotedBytes] at hlength hshortened
  have hkept : byteLength kept ≤ 497 := by
    rw [hlength]
    exact Nat.le_trans (hle 497) (Nat.min_le_left _ _)
  refine ⟨fun limit => ⟨isBoundary_toList_iff.mp (hvalid limit), hle limit, ?_,
    lt_boundaryBefore s limit⟩, hvalid 497, ?_, ?_, ?_⟩
  · intro p hp hbelow
    rw [boundaryBefore_eq]
    exact le_lastBoundary (isBoundary_toList_iff.mpr hp) hbelow
  · have hdots : (if 497 < s.utf8ByteSize then "..." else "").utf8ByteSize ≤ 3 := by
      split <;> decide
    have hfront := htrims.byteLength_le
    rw [hshortened, String.utf8ByteSize_append, ← byteLength_toList, String.toList_ofList]
    omega
  · intro hshort
    have hall : boundaryBefore s 497 = s.utf8ByteSize := if_pos hshort
    rw [hall, ← byteLength_toList] at hlength
    obtain ⟨rfl, -⟩ := append_inj_byteLength (hwhole.symm.trans (List.append_nil _).symm) hlength
    rw [hshortened, if_neg (Nat.not_lt.mpr hshort)]
    simpa using htrims
  · intro hlong
    rw [if_pos hlong] at hshortened
    exact ⟨kept, rest, front, hwhole, hlength, htrims, hshortened⟩

/-- Signs of three bytes, the last two of them white space. -/
def wideText : String :=
  String.ofList (List.replicate 164 '€' ++ List.replicate 2 '\u3000')

/-- The limit is inside the last sign, so the cut is two bytes before it. A letter and white space
behind it are short enough to lose nothing but the white space. -/
theorem shortened_splits_no_character_wide :
    (⟨495⟩ : String.Pos.Raw).IsValid wideText ∧ 495 ≤ min 497 wideText.utf8ByteSize ∧
    495 ≤ boundaryBefore wideText 497 ∧
    497 < wideText.utf8ByteSize ∧
    (∃ kept rest front, wideText.toList = kept ++ rest ∧
      byteLength kept = boundaryBefore wideText 497 ∧ Trims kept front ∧
      shortened wideText = String.ofList front ++ "...") ∧
    "a \n".utf8ByteSize ≤ 497 ∧ Trims "a \n".toList (shortened "a \n").toList := by
  have hlist : wideText.toList = List.replicate 164 '€' ++ List.replicate 2 '\u3000' :=
    String.toList_ofList
  have hsize : wideText.utf8ByteSize = 498 := by
    rw [← byteLength_toList, hlist]
    decide +kernel
  have hvalid : (⟨495⟩ : String.Pos.Raw).IsValid wideText := by
    rw [← isBoundary_toList_iff, hlist]
    decide +kernel
  have hbelow : 495 ≤ min 497 wideText.utf8ByteSize := by omega
  have hlong : 497 < wideText.utf8ByteSize := by omega
  have hshort : "a \n".utf8ByteSize ≤ 497 := by decide
  obtain ⟨hcuts, -, -, -, hfront⟩ := shortened_splits_no_character wideText
  obtain ⟨-, -, hlast, -⟩ := hcuts 497
  obtain ⟨-, -, -, hall, -⟩ := shortened_splits_no_character "a \n"
  exact ⟨hvalid, hbelow, hlast _ hvalid hbelow, hlong, hfront hlong, hshort, hall hshort⟩

end SqlTemplate.Text
