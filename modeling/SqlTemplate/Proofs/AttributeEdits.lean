import Mathlib
import SqlTemplate.Proofs.AttributeScan

/-!
# The scan of the bytes finds the pieces

The edits found among the bytes of a template are those that its pieces ask for, at the offsets of
the pieces. A scan that goes on by bytes can land inside a character only behind a backslash or
inside a copied character, and from there it runs over bytes that mean nothing up to the next
character.
-/

namespace SqlTemplate.Attributes

open Lexer (splitLine splitBlock? splitQuote? endsLine blockEnd)
open Text (byteLength splitAtByte splitAtByte_byteLength)

/-! ## Bytes above ASCII -/

theorem ne_byte_of_le {b : UInt8} (hb : 0x80 ≤ b.toNat) {mark : Char} (hmark : mark.toNat < 0x80) :
    b ≠ byte mark := by
  rintro rfl
  rw [toNat_byte hmark] at hb
  omega

theorem single_byte {c : Char} (hc : c.toNat < 0x80) {b : UInt8} {others : List UInt8}
    (hb : b ∈ String.utf8EncodeChar c) (hsize : 1 + others.length = c.utf8Size) :
    b = byte c ∧ others = [] := by
  rw [Text.utf8Size_of_lt hc] at hsize
  exact ⟨(eq_byte_iff hc hb).mpr rfl, List.eq_nil_of_length_eq_zero (by omega)⟩

/-- The first byte of a text and its successor are two ASCII marks exactly when the first two
characters are. -/
theorem first_two_iff {c mark mark' : Char} {cs : List Char} {b : UInt8} {others : List UInt8}
    (hmark : mark.toNat < 0x80) (hmark' : mark'.toNat < 0x80)
    (hb : b ∈ String.utf8EncodeChar c) (hsize : 1 + others.length = c.utf8Size) :
    b = byte mark ∧ (others ++ bytesOf cs).head? = some (byte mark') ↔
      c = mark ∧ cs.head? = some mark' := by
  rw [eq_byte_iff hmark hb]
  refine and_congr_right ?_
  rintro rfl
  obtain ⟨_, rfl⟩ := single_byte hmark hb hsize
  exact head?_bytesOf hmark' cs

/-! ## Lengths of regions -/

theorem blockLength_skip {high : List UInt8} (hhigh : ∀ b ∈ high, 0x80 ≤ b.toNat)
    (tail : List UInt8) : blockLength (high ++ tail) = high.length + blockLength tail := by
  induction high with
  | nil => simp
  | cons b high ih =>
      obtain ⟨hb, hrest⟩ := List.forall_mem_cons.mp hhigh
      have hstar : b ≠ byte '*' := ne_byte_of_le hb (by decide)
      rw [List.cons_append, blockLength, if_neg (fun h => hstar h.1), ih hrest, List.length_cons]
      omega

theorem quoteLength_skip (quote : Char) (hquote : quote.toNat < 0x80) {high : List UInt8}
    (hhigh : ∀ b ∈ high, 0x80 ≤ b.toNat) (tail : List UInt8) :
    quoteLength (byte quote) false (high ++ tail) =
      high.length + quoteLength (byte quote) false tail := by
  induction high with
  | nil => simp
  | cons b high ih =>
      obtain ⟨hb, hrest⟩ := List.forall_mem_cons.mp hhigh
      have hclose : b ≠ byte quote := ne_byte_of_le hb hquote
      have hslash : (b == byte '\\') = false :=
        beq_eq_false_iff_ne.mpr (ne_byte_of_le hb (by decide))
      rw [List.cons_append, quoteLength, if_neg (fun h => hclose h.2), hslash, Bool.and_false,
        Bool.false_and, ih hrest, List.length_cons]
      omega

theorem quoteLength_others {quote c : Char} (hquote : quote.toNat < 0x80) {others : List UInt8}
    (hothers : ∀ o ∈ others, 0x80 ≤ o.toNat) (hsize : 1 + others.length = c.utf8Size)
    (taken : Bool) (tail : List UInt8) :
    quoteLength (byte quote) (!taken && c == '\\' && quote == '\'') (others ++ tail) =
      others.length +
        quoteLength (byte quote) (!taken && c == '\\' && quote == '\'') tail := by
  cases others with
  | nil => simp
  | cons o others =>
      -- More than one byte, so the character is no backslash and takes nothing with it.
      have hc : (c == '\\') = false := by
        rw [beq_eq_false_iff_ne]
        rintro rfl
        simp [Text.utf8Size_of_lt (show '\\'.toNat < 0x80 by decide)] at hsize
      rw [hc, Bool.and_false, Bool.false_and]
      exact quoteLength_skip quote hquote hothers tail

/-- The bytes of a block comment are those of its characters. -/
theorem blockLength_bytesOf (cs : List Char) :
    blockLength (bytesOf cs) = byteLength ((splitBlock? cs).getD (cs, [])).1 := by
  induction cs with
  | nil => rfl
  | cons c cs ih =>
      by_cases hclose : blockEnd <+: c :: cs
      · obtain ⟨after, hafter⟩ := hclose
        rw [← hafter]
        rw [show blockEnd ++ after = '*' :: '/' :: after from rfl, Lexer.splitBlock?_closing,
          bytesOf_cons_of_lt (by decide), bytesOf_cons_of_lt (by decide), blockLength,
          if_pos ⟨rfl, rfl⟩]
        rfl
      · obtain ⟨b, others, hb, hothers, hsize, hcut⟩ := bytesOf_cons_eq c cs
        have hopen : ¬ (b = byte '*' ∧ (others ++ bytesOf cs).head? = some (byte '/')) := by
          rw [first_two_iff (by decide) (by decide) hb hsize]
          rintro ⟨rfl, hhead⟩
          obtain ⟨tail, rfl⟩ := List.head?_eq_some_iff.mp hhead
          exact hclose ⟨tail, rfl⟩
        rw [hcut, blockLength, if_neg hopen, blockLength_skip hothers, ih,
          Lexer.splitBlock?_cons hclose, ← Nat.add_assoc, hsize]
        cases splitBlock? cs <;> rfl

/-- The bytes of a quoted literal are those of its characters. -/
theorem quoteLength_bytesOf {quote : Char} (hquote : quote.toNat < 0x80) (taken : Bool)
    (cs : List Char) :
    quoteLength (byte quote) taken (bytesOf cs) =
      byteLength ((splitQuote? quote taken cs).getD (cs, [])).1 := by
  induction cs generalizing taken with
  | nil => rfl
  | cons c cs ih =>
      obtain ⟨b, others, hb, hothers, hsize, hcut⟩ := bytesOf_cons_eq c cs
      have hslash : (b == byte '\\') = (c == '\\') := by
        rw [Bool.eq_iff_iff, beq_iff_eq, beq_iff_eq]
        exact eq_byte_iff (by decide) hb
      have hsingle : (byte quote == byte '\'') = (quote == '\'') := by
        rw [Bool.eq_iff_iff, beq_iff_eq, beq_iff_eq]
        refine eq_byte_iff (by decide) ?_
        rw [utf8EncodeChar_of_lt hquote]
        exact List.mem_singleton_self _
      rw [hcut, quoteLength, splitQuote?, hslash, hsingle]
      -- Whatever the character does, its other bytes are passed over one by one.
      by_cases hclose : taken = false ∧ c = quote
      · obtain ⟨rfl, rfl⟩ := hclose
        rw [if_pos ⟨rfl, (eq_byte_iff hquote hb).mpr rfl⟩, if_pos ⟨rfl, rfl⟩]
        simp [Text.utf8Size_of_lt hquote]
      · have hopen : ¬ (taken = false ∧ b = byte quote) := by
          rwa [eq_byte_iff hquote hb]
        rw [if_neg hclose, if_neg hopen]
        rw [quoteLength_others hquote hothers hsize, ih, ← Nat.add_assoc, hsize]
        cases splitQuote? quote (!taken && c == '\\' && quote == '\'') cs <;> rfl

/-- The bytes of a line comment are those of its characters. -/
theorem lineLength_bytesOf (cs : List Char) :
    ((bytesOf cs).takeWhile fun b => b != byte '\n' && b != byte '\r').length =
      byteLength (splitLine cs).1 := by
  rw [takeWhile_bytesOf (q := (!endsLine ·)), length_bytesOf, splitLine]
  intro c b hb
  rw [Bool.eq_iff_iff]
  simp [endsLine, eq_byte_iff _ hb]

theorem lt_of_isAttributeChar {c : Char} (hc : isAttributeChar c = true) : c.toNat < 0x80 := by
  rw [isAttributeChar, ← isNameChar, Bool.or_eq_true, beq_iff_eq] at hc
  rcases hc with hc | rfl
  · exact (Lexer.toNat_of_isNameChar hc).2
  · decide

theorem isAttributeByte_eq (c : Char) (b : UInt8) (hb : b ∈ String.utf8EncodeChar c) :
    isAttributeByte b = isAttributeChar c := by
  change isAttributeChar (Char.ofNat b.toNat) = isAttributeChar c
  rcases Nat.lt_or_ge c.toNat 0x80 with hc | hc
  · rw [utf8EncodeChar_of_lt hc, List.mem_singleton] at hb
    rw [hb, toNat_byte hc, Char.ofNat_toNat]
  · have hhigh := le_of_mem_utf8EncodeChar hc hb
    have hvalue : (Char.ofNat b.toNat).toNat = b.toNat := by
      have hvalid : b.toNat.isValidChar := Or.inl (by have := b.toNat_lt; omega)
      rw [Char.ofNat, dif_pos hvalid]
      rfl
    have hbyte : isAttributeChar (Char.ofNat b.toNat) = false := by
      rw [← Bool.not_eq_true]
      intro hattr
      have := lt_of_isAttributeChar hattr
      omega
    have hchar : isAttributeChar c = false := by
      rw [← Bool.not_eq_true]
      intro hattr
      have := lt_of_isAttributeChar hattr
      omega
    rw [hbyte, hchar]

/-- The bytes of a reference are those of its characters. -/
theorem referenceLength?_bytesOf (cs : List Char) :
    referenceLength? (bytesOf cs) =
      (reference? cs).map fun (name, _) => byteLength name + 2 := by
  have hname := takeWhile_bytesOf isAttributeByte_eq cs
  have hnext : (bytesOf cs)[byteLength (cs.takeWhile isAttributeChar)]? =
      (bytesOf (cs.dropWhile isAttributeChar)).head? := by
    have hdrop := drop_bytesOf (cs.takeWhile isAttributeChar) (cs.dropWhile isAttributeChar)
    rw [List.takeWhile_append_dropWhile] at hdrop
    rw [← hdrop, List.head?_drop]
  simp only [referenceLength?, hname, length_bytesOf, hnext,
    head?_bytesOf (show '>'.toNat < 0x80 by decide)]
  cases hfound : reference? cs with
  | some pair =>
      obtain ⟨name, after⟩ := pair
      obtain ⟨⟨hne, hattr⟩, rfl⟩ := reference?_eq_some_iff.mp hfound
      obtain ⟨htake, hdrop⟩ := takeWhile_attributeChar hattr after
      rw [htake, hdrop, if_pos ⟨fun h => hne (bytesOf_eq_nil_iff.mp h), rfl⟩]
      rfl
  | none =>
      refine if_neg ?_
      rintro ⟨hne, hhead⟩
      obtain ⟨after, hdrop⟩ := List.head?_eq_some_iff.mp hhead
      have hname : AttributeName (cs.takeWhile isAttributeChar) :=
        ⟨fun h => hne (bytesOf_eq_nil_iff.mpr h), List.all_eq_true.mp List.all_takeWhile⟩
      have hcut : cs = cs.takeWhile isAttributeChar ++ '>' :: after := by
        rw [← hdrop, List.takeWhile_append_dropWhile]
      rw [reference?_eq_some_iff.mpr ⟨hname, hcut⟩] at hfound
      simp at hfound

/-! ## Sights -/

theorem sight_line (cs : List Char) :
    sight (byte '-') (bytesOf ('-' :: cs)) =
      .copied (byteLength (splitLine ('-' :: '-' :: cs)).1) := by
  have hline : (splitLine ('-' :: '-' :: cs)).1 = '-' :: (splitLine ('-' :: cs)).1 := by
    simp [splitLine, endsLine]
  have hnext : (bytesOf ('-' :: cs)).head? = some (byte '-') :=
    (head?_bytesOf (by decide) _).mpr rfl
  rw [sight, if_pos ⟨rfl, hnext⟩, lineLength_bytesOf, hline, Text.byteLength_cons,
    Text.utf8Size_of_lt (by decide)]

theorem sight_block (body : List Char) :
    sight (byte '/') (bytesOf ('*' :: body)) =
      .copied (byteLength ('/' :: '*' :: ((splitBlock? body).getD (body, [])).1)) := by
  have hnext : (bytesOf ('*' :: body)).head? = some (byte '*') :=
    (head?_bytesOf (by decide) _).mpr rfl
  have hdrop : (bytesOf ('*' :: body)).drop 1 = bytesOf body := by
    rw [bytesOf_cons_of_lt (by decide)]
    rfl
  rw [sight, if_neg (fun h => absurd h.1 (by decide)), if_pos ⟨rfl, hnext⟩, hdrop,
    blockLength_bytesOf, Text.byteLength_cons, Text.byteLength_cons,
    Text.utf8Size_of_lt (by decide), Text.utf8Size_of_lt (by decide), ← Nat.add_assoc]

theorem sight_quote {c : Char} (hc : c = '\'' ∨ c = '"') (cs : List Char) :
    sight (byte c) (bytesOf cs) =
      .copied (byteLength (c :: ((splitQuote? c false cs).getD (cs, [])).1)) := by
  have hascii : c.toNat < 0x80 := by rcases hc with rfl | rfl <;> decide
  have hline : ¬ byte c = byte '-' := by rcases hc with rfl | rfl <;> decide
  have hblock : ¬ byte c = byte '/' := by rcases hc with rfl | rfl <;> decide
  have hquote : byte c = byte '\'' ∨ byte c = byte '"' := by
    rcases hc with rfl | rfl <;> decide
  rw [sight, if_neg (fun h => hline h.1), if_neg (fun h => hblock h.1), if_pos hquote,
    quoteLength_bytesOf hascii, Text.byteLength_cons, Text.utf8Size_of_lt hascii]

theorem sight_backslash (rest : List UInt8) :
    sight (byte '\\') rest =
      if rest.head? = some (byte '<') then .bracket else .copied (1 + (rest.take 1).length) := by
  rw [sight, if_neg (fun h => absurd h.1 (by decide)), if_neg (fun h => absurd h.1 (by decide)),
    if_neg (by decide), if_pos rfl]

theorem sight_open (rest : List UInt8) :
    sight (byte '<') rest =
      ((referenceLength? rest).map Sight.reference).getD (.copied 1) := by
  rw [sight, if_neg (fun h => absurd h.1 (by decide)), if_neg (fun h => absurd h.1 (by decide)),
    if_neg (by decide), if_neg (by decide), if_pos rfl]
  cases referenceLength? rest <;> rfl

theorem sight_bracket (cs : List Char) : sight (byte '\\') (bytesOf ('<' :: cs)) = .bracket := by
  have hnext : (bytesOf ('<' :: cs)).head? = some (byte '<') :=
    (head?_bytesOf (by decide) _).mpr rfl
  rw [sight_backslash, if_pos hnext]

theorem sight_escaped {d : Char} (hd : d ≠ '<') (cs : List Char) :
    sight (byte '\\') (bytesOf (d :: cs)) = .copied 2 := by
  have hnext : ¬ (bytesOf (d :: cs)).head? = some (byte '<') := by
    rw [head?_bytesOf (by decide)]
    simpa using hd
  obtain ⟨b, others, _, _, _, hcut⟩ := bytesOf_cons_eq d cs
  rw [sight_backslash, if_neg hnext, hcut]
  rfl

theorem sight_reference {cs name after : List Char} (hfound : reference? cs = some (name, after)) :
    sight (byte '<') (bytesOf cs) = .reference (byteLength name + 2) := by
  rw [sight_open, referenceLength?_bytesOf, hfound]
  rfl

theorem sight_high {b : UInt8} (hb : 0x80 ≤ b.toNat) (rest : List UInt8) :
    sight b rest = .copied 1 := by
  have hne : ∀ mark : Char, mark.toNat < 0x80 → b ≠ byte mark := fun _ => ne_byte_of_le hb
  rw [sight, if_neg (fun h => hne '-' (by decide) h.1), if_neg (fun h => hne '/' (by decide) h.1),
    if_neg (not_or.mpr ⟨hne '\'' (by decide), hne '"' (by decide)⟩), if_neg (hne '\\' (by decide)),
    if_neg (hne '<' (by decide))]

/-- Where nothing of the other forms begins, a single byte is copied. -/
theorem sight_other {c : Char} {cs : List Char} {b : UInt8} {others : List UInt8}
    (hline : ¬ (c = '-' ∧ cs.head? = some '-')) (hblock : ¬ (c = '/' ∧ cs.head? = some '*'))
    (hslash : ¬ (c = '\\' ∧ cs ≠ [])) (hopen : ¬ (c = '<' ∧ reference? cs ≠ none))
    (hsingle : c ≠ '\'') (hdouble : c ≠ '"')
    (hb : b ∈ String.utf8EncodeChar c) (hsize : 1 + others.length = c.utf8Size) :
    sight b (others ++ bytesOf cs) = .copied 1 := by
  by_cases hlone : c = '\\'
  · subst hlone
    obtain ⟨rfl, rfl⟩ := single_byte (by decide) hb hsize
    obtain rfl : cs = [] := by_contra fun hne => hslash ⟨rfl, hne⟩
    exact sight_backslash []
  · by_cases hangle : c = '<'
    · subst hangle
      obtain ⟨rfl, rfl⟩ := single_byte (by decide) hb hsize
      have hnone : reference? cs = none := by_contra fun hne => hopen ⟨rfl, hne⟩
      rw [List.nil_append, sight_open, referenceLength?_bytesOf, hnone]
      rfl
    · have hne : ∀ mark : Char, mark.toNat < 0x80 → c ≠ mark → b ≠ byte mark :=
        fun mark hmark hc => mt (eq_byte_iff hmark hb).mp hc
      rw [sight, if_neg (mt (first_two_iff (by decide) (by decide) hb hsize).mp hline),
        if_neg (mt (first_two_iff (by decide) (by decide) hb hsize).mp hblock),
        if_neg (not_or.mpr ⟨hne '\'' (by decide) hsingle, hne '"' (by decide) hdouble⟩),
        if_neg (hne '\\' (by decide) hlone), if_neg (hne '<' (by decide) hangle)]

/-! ## Edits -/

theorem edits_cons (start : Nat) (b : UInt8) (rest : List UInt8) :
    edits start (b :: rest) =
      ((sight b rest).edit? start).toList ++
        edits (start + (sight b rest).length) ((b :: rest).drop (sight b rest).length) := by
  rw [edits]

theorem edits_skip {high : List UInt8} (hhigh : ∀ b ∈ high, 0x80 ≤ b.toNat) (start : Nat)
    (tail : List UInt8) : edits start (high ++ tail) = edits (start + high.length) tail := by
  induction high generalizing start with
  | nil => rfl
  | cons b high ih =>
      obtain ⟨hb, hrest⟩ := List.forall_mem_cons.mp hhigh
      rw [List.cons_append, edits_cons, sight_high hb]
      change edits (start + 1) (high ++ tail) = _
      rw [ih hrest, List.length_cons]
      congr 1
      omega

/-- The edit that a piece at the byte `start` asks for. -/
def Piece.edit? (start : Nat) : Piece → Option Edit
  | copied _ => none
  | bracket => some ⟨.bracket, start, start + 2⟩
  | reference name => some ⟨.reference, start, start + (byteLength name + 2)⟩

/-- The edits that pieces ask for, the first piece being at the byte `start`. -/
def editsOf (start : Nat) : List Piece → List Edit
  | [] => []
  | p :: ps => (p.edit? start).toList ++ editsOf (start + byteLength p.source) ps

theorem editsOf_append (start : Nat) (ps qs : List Piece) :
    editsOf start (ps ++ qs) =
      editsOf start ps ++ editsOf (start + byteLength (Piece.sources ps)) qs := by
  induction ps generalizing start with
  | nil => rfl
  | cons p ps ih =>
      rw [List.cons_append, editsOf, editsOf, ih, List.append_assoc, Piece.sources_cons,
        Text.byteLength_append, Nat.add_assoc]

theorem editsOf_copied (start : Nat) (cs : List Char) : editsOf start (cs.map .copied) = [] := by
  induction cs generalizing start with
  | nil => rfl
  | cons c cs ih => exact ih _

/-- Over a region that is copied in one go the scan goes on behind its characters. -/
theorem edits_region {c : Char} {cs front after : List Char} (hcut : front ++ after = c :: cs)
    (hc : c.toNat < 0x80) (hsight : sight (byte c) (bytesOf cs) = .copied (byteLength front))
    (start : Nat) :
    edits start (bytesOf (c :: cs)) =
      editsOf start (front.map .copied) ++
        edits (start + byteLength (Piece.sources (front.map .copied))) (bytesOf after) := by
  have hdrop : (byte c :: bytesOf cs).drop (byteLength front) = bytesOf after := by
    rw [← bytesOf_cons_of_lt hc, ← hcut, drop_bytesOf]
  rw [bytesOf_cons_of_lt hc, edits_cons, hsight, editsOf_copied, Piece.sources_copied]
  change edits (start + byteLength front) ((byte c :: bytesOf cs).drop (byteLength front)) = _
  rw [hdrop, List.nil_append]

theorem byteLength_reference (name : List Char) :
    byteLength (Piece.reference name).source = byteLength name + 2 := by
  simp [Piece.source, Text.utf8Size_of_lt (show '<'.toNat < 0x80 by decide),
    Text.utf8Size_of_lt (show '>'.toNat < 0x80 by decide)]
  omega

/-- The scan finds what a glance sees, and goes on behind it. -/
theorem edits_sees {c : Char} {cs after : List Char} {ps : List Piece}
    (hsees : Sees c cs ps after) (start : Nat) :
    edits start (bytesOf (c :: cs)) =
      editsOf start ps ++ edits (start + byteLength (Piece.sources ps)) (bytesOf after) := by
  have hsources := hsees.sources
  cases hsees with
  | line =>
      rw [Piece.sources_copied] at hsources
      exact edits_region hsources (by decide) (sight_line _) start
  | @block body comment after hblock =>
      rw [Piece.sources_copied] at hsources
      have hsight := sight_block body
      rw [hblock] at hsight
      exact edits_region hsources (by decide) hsight start
  | @quoted c cs literal after hc hquote =>
      rw [Piece.sources_copied] at hsources
      have hsight := sight_quote hc cs
      rw [hquote] at hsight
      exact edits_region hsources (by rcases hc with rfl | rfl <;> decide) hsight start
  | bracket =>
      rw [bytesOf_cons_of_lt (by decide), edits_cons, sight_bracket,
        bytesOf_cons_of_lt (by decide)]
      rfl
  | @escaped d after hd =>
      -- The scan steps over two bytes, which may be in the middle of the character.
      obtain ⟨b, others, _, hothers, hsize, hcut⟩ := bytesOf_cons_eq d after
      rw [bytesOf_cons_of_lt (by decide), edits_cons, sight_escaped hd, hcut]
      change edits (start + 2) (others ++ bytesOf after) =
        edits (start + byteLength ['\\', d]) (bytesOf after)
      rw [edits_skip hothers, Text.byteLength_cons, Text.byteLength_cons,
        Text.byteLength_nil, Text.utf8Size_of_lt (by decide), ← hsize]
      congr 1
      omega
  | @reference cs name after hfound =>
      have hdrop := drop_bytesOf (Piece.reference name).source after
      rw [show (Piece.reference name).source ++ after = '<' :: cs from
        by simpa [Piece.sources] using hsources, byteLength_reference] at hdrop
      have hsize : byteLength (Piece.sources [.reference name]) = byteLength name + 2 := by
        rw [Piece.sources_cons, Text.byteLength_append, byteLength_reference]
        rfl
      rw [bytesOf_cons_of_lt (by decide), edits_cons, sight_reference hfound,
        ← bytesOf_cons_of_lt (by decide), hsize, ← hdrop]
      rfl
  | @other c cs hline hblock hslash hopen hsingle hdouble =>
      obtain ⟨b, others, hb, hothers, hsize, hcut⟩ := bytesOf_cons_eq c cs
      rw [hcut, edits_cons, sight_other hline hblock hslash hopen hsingle hdouble hb hsize]
      change edits (start + 1) (others ++ bytesOf cs) =
        edits (start + byteLength [c]) (bytesOf cs)
      rw [edits_skip hothers, Text.byteLength_cons, Text.byteLength_nil, ← hsize]
      congr 1
      omega

/-- The scan of the bytes finds the edits that the pieces ask for. -/
theorem edits_bytesOf (start : Nat) (cs : List Char) :
    edits start (bytesOf cs) = editsOf start (pieces cs) := by
  fun_induction pieces cs generalizing start with
  | case1 => rw [bytesOf_nil, edits]; rfl
  | case2 c rest ih => rw [edits_sees (sees_glance c rest), editsOf_append, ih]

/-! ## Carrying the edits out -/

/-- An edit whose ends are boundaries is carried out there. -/
theorem applyEdits_cons (a : Attributes) (kind : EditKind) (start : Nat)
    (front token rest : List Char) (others : List Edit) :
    a.applyEdits start (front ++ (token ++ rest))
        (⟨kind, start + byteLength front, start + byteLength front + byteLength token⟩ :: others) =
      (a.replacement kind token).bind fun inserted =>
        (a.applyEdits (start + byteLength front + byteLength token) rest others).map
          (front ++ inserted ++ ·) := by
  have hfront : start + byteLength front - start = byteLength front := by omega
  have htoken : start + byteLength front + byteLength token - (start + byteLength front) =
      byteLength token := by omega
  simp only [applyEdits, hfront, htoken, splitAtByte_byteLength]
  cases a.replacement kind token with
  | error failure => rfl
  | ok inserted =>
      cases a.applyEdits (start + byteLength front + byteLength token) rest others <;>
        simp [Except.bind, Except.map]

theorem replacement_reference (a : Attributes) (name : List Char) :
    a.replacement .reference (Piece.reference name).source = (Piece.reference name).filled a := by
  have hname : referredName (Piece.reference name).source = String.ofList name := by
    simp [referredName, Piece.source]
  rw [replacement, hname, Piece.filled, Piece.filling?]
  cases a.get? (String.ofList name) <;> rfl

/-- Carrying out what pieces ask for fills them; `front` is what was passed over before them. -/
theorem applyEdits_editsOf (a : Attributes) (start : Nat) (front : List Char) (ps : List Piece) :
    a.applyEdits start (front ++ Piece.sources ps) (editsOf (start + byteLength front) ps) =
      (a.fill ps).map (front ++ ·) := by
  induction ps generalizing start front with
  | nil => rfl
  | cons p ps ih =>
      -- A piece with an edit is cut out between what was passed over and the other pieces.
      have hedited : ∀ kind : EditKind,
          (∀ n, p.edit? n = some ⟨kind, n, n + byteLength p.source⟩) →
          a.replacement kind p.source = p.filled a →
          a.applyEdits start (front ++ Piece.sources (p :: ps))
            (editsOf (start + byteLength front) (p :: ps)) =
              (a.fill (p :: ps)).map (front ++ ·) := by
        intro kind hedit hreplacement
        have htail := ih (start + byteLength front + byteLength p.source) []
        rw [Text.byteLength_nil, Nat.add_zero, List.nil_append] at htail
        rw [editsOf, hedit, Piece.sources_cons, Option.toList_some, List.singleton_append,
          applyEdits_cons, hreplacement, htail, fill_cons]
        cases p.filled a with
        | error failure => rfl
        | ok cs => cases a.fill ps <;> simp [Except.bind, Except.map]
      cases p with
      | copied c =>
          have hpassed := ih start (front ++ [c])
          rw [Text.byteLength_append, ← Nat.add_assoc, List.append_assoc] at hpassed
          refine hpassed.trans ?_
          rw [fill_cons]
          cases a.fill ps <;> simp [Piece.filled, Piece.filling?, Except.bind, Except.map]
      | bracket => exact hedited .bracket (fun n => rfl) rfl
      | reference name =>
          refine hedited .reference (fun n => ?_) (replacement_reference a name)
          rw [byteLength_reference]
          rfl

/-- Rendering fills the pieces of the template. It never splits a character. -/
theorem substitute_eq_fill (a : Attributes) (template : String) :
    a.substitute template = (a.fill (pieces template.toList)).map String.ofList := by
  have hfilled := applyEdits_editsOf a 0 [] (pieces template.toList)
  rw [Text.byteLength_nil, List.nil_append, sources_pieces] at hfilled
  rw [substitute, edits_bytesOf, hfilled]
  cases a.fill (pieces template.toList) <;> rfl

end SqlTemplate.Attributes
