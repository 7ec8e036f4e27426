import Mathlib.Data.List.Basic
import SqlTemplate.Attributes

/-!
# Looking for ASCII characters among bytes

A scan that knows only ASCII bytes sees the same marks in the UTF-8 encoding of a text as in its
characters: the byte of an ASCII character stands for that character only, and every byte of
another character is above all of them.
-/

namespace SqlTemplate.Attributes

open Text (byteLength)

@[simp] theorem bytesOf_nil : bytesOf [] = [] := rfl

theorem bytesOf_cons (c : Char) (cs : List Char) :
    bytesOf (c :: cs) = String.utf8EncodeChar c ++ bytesOf cs := rfl

theorem bytesOf_append (cs ds : List Char) : bytesOf (cs ++ ds) = bytesOf cs ++ bytesOf ds := by
  simp [bytesOf]

@[simp] theorem length_bytesOf (cs : List Char) : (bytesOf cs).length = byteLength cs := by
  induction cs with
  | nil => rfl
  | cons c cs ih => rw [bytesOf_cons, List.length_append, ih]; simp

theorem drop_bytesOf (front rest : List Char) :
    (bytesOf (front ++ rest)).drop (byteLength front) = bytesOf rest := by
  rw [bytesOf_append, ← length_bytesOf front, List.drop_left]

theorem utf8EncodeChar_of_lt {c : Char} (hc : c.toNat < 0x80) :
    String.utf8EncodeChar c = [byte c] := by
  have hval : c.val.toNat ≤ 0x7f := Nat.le_of_lt_succ hc
  simp only [String.utf8EncodeChar, if_pos hval]
  rfl

theorem bytesOf_cons_of_lt {c : Char} (hc : c.toNat < 0x80) (cs : List Char) :
    bytesOf (c :: cs) = byte c :: bytesOf cs := by
  rw [bytesOf_cons, utf8EncodeChar_of_lt hc]
  rfl

theorem toNat_byte {c : Char} (hc : c.toNat < 0x80) : (byte c).toNat = c.toNat := by
  simp only [byte, UInt8.toNat_ofNat']
  omega

/-- All bytes of a character outside ASCII are above those of ASCII. -/
theorem le_of_mem_utf8EncodeChar {c : Char} (hc : 0x80 ≤ c.toNat) {b : UInt8}
    (hb : b ∈ String.utf8EncodeChar c) : 0x80 ≤ b.toNat := by
  have hval : ¬ c.val.toNat ≤ 0x7f := Nat.not_le_of_lt hc
  simp only [String.utf8EncodeChar, if_neg hval] at hb
  split at hb
  · simp only [List.mem_cons, List.not_mem_nil, or_false] at hb
    rcases hb with rfl | rfl <;> rw [UInt8.toNat_ofNat'] <;> omega
  · split at hb
    · simp only [List.mem_cons, List.not_mem_nil, or_false] at hb
      rcases hb with rfl | rfl | rfl <;> rw [UInt8.toNat_ofNat'] <;> omega
    · simp only [List.mem_cons, List.not_mem_nil, or_false] at hb
      rcases hb with rfl | rfl | rfl | rfl <;> rw [UInt8.toNat_ofNat'] <;> omega

/-- Among the bytes of a character the byte of an ASCII mark stands for that mark. -/
theorem eq_byte_iff {c mark : Char} (hmark : mark.toNat < 0x80) {b : UInt8}
    (hb : b ∈ String.utf8EncodeChar c) : b = byte mark ↔ c = mark := by
  rcases Nat.lt_or_ge c.toNat 0x80 with hc | hc
  · rw [utf8EncodeChar_of_lt hc, List.mem_singleton] at hb
    subst hb
    rw [← UInt8.toNat_inj, toNat_byte hc, toNat_byte hmark, Char.toNat_inj]
  · have hhigh := le_of_mem_utf8EncodeChar hc hb
    constructor
    · rintro rfl
      rw [toNat_byte hmark] at hhigh
      omega
    · rintro rfl
      omega

/-- The bytes at the front of a text, that of the first character coming first. -/
theorem bytesOf_cons_eq (c : Char) (cs : List Char) :
    ∃ b others, b ∈ String.utf8EncodeChar c ∧ (∀ o ∈ others, 0x80 ≤ o.toNat) ∧
      1 + others.length = c.utf8Size ∧ bytesOf (c :: cs) = b :: (others ++ bytesOf cs) := by
  cases hbytes : String.utf8EncodeChar c with
  | nil => exact absurd hbytes String.utf8EncodeChar_ne_nil
  | cons b others =>
      refine ⟨b, others, List.mem_cons_self, ?_, ?_, ?_⟩
      · intro o ho
        rcases Nat.lt_or_ge c.toNat 0x80 with hc | hc
        · rw [utf8EncodeChar_of_lt hc] at hbytes
          obtain ⟨_, rfl⟩ := List.cons.inj hbytes
          exact absurd ho List.not_mem_nil
        · exact le_of_mem_utf8EncodeChar hc (hbytes ▸ List.mem_cons_of_mem b ho)
      · rw [← String.length_utf8EncodeChar, hbytes, List.length_cons, Nat.add_comm]
      · rw [bytesOf_cons, hbytes]
        rfl

theorem bytesOf_eq_nil_iff {cs : List Char} : bytesOf cs = [] ↔ cs = [] := by
  cases cs with
  | nil => simp
  | cons c cs =>
      obtain ⟨b, others, _, _, _, hcut⟩ := bytesOf_cons_eq c cs
      simp [hcut]

theorem head?_bytesOf {mark : Char} (hmark : mark.toNat < 0x80) (cs : List Char) :
    (bytesOf cs).head? = some (byte mark) ↔ cs.head? = some mark := by
  cases cs with
  | nil => simp
  | cons c cs =>
      obtain ⟨b, others, hb, _, _, hcut⟩ := bytesOf_cons_eq c cs
      rw [hcut]
      simpa using eq_byte_iff hmark hb

/-- A property that all bytes of a character share with it holds as far in the bytes as in the
characters. -/
theorem takeWhile_bytesOf {p : UInt8 → Bool} {q : Char → Bool}
    (hpq : ∀ c, ∀ b ∈ String.utf8EncodeChar c, p b = q c) (cs : List Char) :
    (bytesOf cs).takeWhile p = bytesOf (cs.takeWhile q) := by
  induction cs with
  | nil => rfl
  | cons c cs ih =>
      rw [bytesOf_cons, List.takeWhile_cons]
      cases hq : q c with
      | true =>
          rw [List.takeWhile_append_of_pos fun b hb => (hpq c b hb).trans hq, ih]
          rfl
      | false =>
          obtain ⟨b, others, hb, _, _, hcut⟩ := bytesOf_cons_eq c cs
          rw [← bytesOf_cons, hcut, List.takeWhile_cons, hpq c b hb, hq]
          rfl

end SqlTemplate.Attributes
