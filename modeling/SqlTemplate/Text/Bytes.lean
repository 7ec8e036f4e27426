/-!
# Byte offsets in text

Lengths and offsets count the bytes of the UTF-8 encoding, characters being never split: an offset
is a boundary when it falls between two characters or at an end. `splitAtByte` is the one place
where a text is cut, and it cuts at boundaries only.
-/

namespace SqlTemplate.Text

/-- The number of bytes of the characters `cs`. -/
def byteLength : List Char → Nat
  | [] => 0
  | c :: cs => c.utf8Size + byteLength cs

@[simp] theorem byteLength_nil : byteLength [] = 0 := rfl

@[simp] theorem byteLength_cons (c : Char) (cs : List Char) :
    byteLength (c :: cs) = c.utf8Size + byteLength cs := rfl

@[simp] theorem byteLength_append (cs ds : List Char) :
    byteLength (cs ++ ds) = byteLength cs + byteLength ds := by
  induction cs with
  | nil => simp
  | cons c cs ih => simp [ih, Nat.add_assoc]

theorem utf8Size_of_lt {c : Char} (ascii : c.toNat < 0x80) : c.utf8Size = 1 :=
  Char.utf8Size_eq_one_iff.mpr (UInt32.le_iff_toNat_le.mpr (Nat.le_of_lt_succ ascii))

/-- The length of a text is that of its UTF-8 encoding. -/
theorem byteLength_toList (s : String) : byteLength s.toList = s.utf8ByteSize := by
  suffices h : ∀ cs, byteLength cs = (String.ofList cs).utf8ByteSize by
    rw [h, String.ofList_toList]
  intro cs
  induction cs with
  | nil => simp
  | cons c cs ih =>
    rw [String.ofList_cons, String.utf8ByteSize_append, String.utf8ByteSize_singleton, ← ih]
    rfl

theorem length_le_byteLength (cs : List Char) : cs.length ≤ byteLength cs := by
  induction cs with
  | nil => simp
  | cons c cs ih =>
    have := c.utf8Size_pos
    simp only [List.length_cons, byteLength_cons]
    omega

/-- The first `n` bytes of a text and the rest of it; none when byte `n` is inside a character or
past the end. -/
def splitAtByte : Nat → List Char → Option (List Char × List Char)
  | 0, cs => some ([], cs)
  | _ + 1, [] => none
  | n + 1, c :: cs =>
    if c.utf8Size ≤ n + 1 then
      (splitAtByte (n + 1 - c.utf8Size) cs).map fun (front, rest) => (c :: front, rest)
    else
      none

theorem splitAtByte_byteLength (front rest : List Char) :
    splitAtByte (byteLength front) (front ++ rest) = some (front, rest) := by
  induction front with
  | nil => simp [splitAtByte]
  | cons c front ih =>
    obtain ⟨n, size⟩ : ∃ n, c.utf8Size + byteLength front = n + 1 :=
      ⟨_, (Nat.succ_pred_eq_of_pos (by have := c.utf8Size_pos; omega)).symm⟩
    rw [byteLength_cons, size, List.cons_append, splitAtByte, if_pos (by omega),
      show n + 1 - c.utf8Size = byteLength front by omega, ih]
    rfl

/-- A text is cut at one place by a number of bytes. -/
theorem append_inj_byteLength {front front' rest rest' : List Char}
    (whole : front ++ rest = front' ++ rest') (bytes : byteLength front = byteLength front') :
    front = front' ∧ rest = rest' := by
  have cut := splitAtByte_byteLength front rest
  rw [whole, bytes, splitAtByte_byteLength] at cut
  obtain ⟨hfront, hrest⟩ := Prod.mk.inj (Option.some.inj cut)
  exact ⟨hfront.symm, hrest.symm⟩

/-- Whether the offset `n` falls between two characters or at an end. -/
def isBoundary (cs : List Char) (n : Nat) : Bool :=
  (splitAtByte n cs).isSome

theorem isBoundary_byteLength (front rest : List Char) :
    isBoundary (front ++ rest) (byteLength front) = true := by
  rw [isBoundary, splitAtByte_byteLength]
  rfl

/-- The greatest boundary that is at most `n`. -/
def lastBoundary (cs : List Char) : Nat → Nat
  | 0 => 0
  | n + 1 => if isBoundary cs (n + 1) then n + 1 else lastBoundary cs n

/-- The greatest boundary of `s` that is not past `limit`. -/
def boundaryBefore (s : String) (limit : Nat) : Nat :=
  if s.utf8ByteSize ≤ limit then s.utf8ByteSize else lastBoundary s.toList limit

end SqlTemplate.Text
