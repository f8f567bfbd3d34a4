import BuzzerScript.Token.Cursor

/-!
# Stepping over a text by its bytes

The lengths of lexemes are counted in bytes, and a cursor steps over bytes.  Where the bytes
are those of the text in front of the cursor, it steps over exactly that text.
-/

namespace BuzzerScript

@[simp] theorem utf8Length_nil : utf8Length [] = 0 := rfl

@[simp] theorem utf8Length_cons (c : Char) (text : List Char) :
    utf8Length (c :: text) = c.utf8Size + utf8Length text := rfl

theorem utf8Length_append (text rest : List Char) :
    utf8Length (text ++ rest) = utf8Length text + utf8Length rest := by
  induction text with
  | nil => simp
  | cons c text ih =>
    rw [List.cons_append, utf8Length_cons, utf8Length_cons, ih, Nat.add_assoc]

/-- A text of ASCII characters has as many bytes as characters. -/
theorem utf8Length_eq_length {text : List Char} (h : ∀ c ∈ text, c.toNat < 128) :
    utf8Length text = text.length := by
  induction text with
  | nil => rfl
  | cons c text ih =>
    have hc : c.utf8Size = 1 := Char.utf8Size_eq_one_iff.mpr <| by
      have := h c (by simp)
      rw [UInt32.le_iff_toNat_le]
      exact Nat.le_of_lt_succ this
    rw [utf8Length_cons, hc, ih fun d hd => h d (by simp [hd]), List.length_cons, Nat.add_comm]

/-- The bytes of a character and of what follows it, as a successor. -/
theorem exists_utf8Length_cons (c : Char) (text : List Char) :
    ∃ n, utf8Length (c :: text) = n + 1 ∧ n + 1 - c.utf8Size = utf8Length text := by
  have hpos := c.utf8Size_pos
  rw [utf8Length_cons]
  exact ⟨c.utf8Size + utf8Length text - 1, by omega, by omega⟩

theorem takeBytes_append (text rest : List Char) :
    takeBytes (utf8Length text) (text ++ rest) = text := by
  induction text with
  | nil => simp [takeBytes]
  | cons c text ih =>
    obtain ⟨n, hn, hrest⟩ := exists_utf8Length_cons c text
    rw [hn, List.cons_append, takeBytes, hrest, ih]

/-- A cursor steps over the text that stands in front of it. -/
theorem Cursor.advanceBytes_append (text rest : List Char) (offset : Nat)
    (position : Position) :
    (Cursor.mk offset position (text ++ rest)).advanceBytes (utf8Length text) =
      ⟨offset + utf8Length text, text.foldl Position.after position, rest⟩ := by
  induction text generalizing offset position with
  | nil => exact advanceBytes_zero _
  | cons c text ih =>
    obtain ⟨n, hn, hrest⟩ := exists_utf8Length_cons c text
    rw [hn, advanceBytes, dif_neg (by omega)]
    simp only [List.cons_append, advance, hrest]
    rw [ih, ← hn, utf8Length_cons, Nat.add_assoc, List.foldl_cons]

end BuzzerScript
