import BuzzerScript.Error

/-!
# Cursors

A cursor stands between two characters of a text.  It knows the byte offset of its place in the
UTF-8 form of the text, the position for error messages, and the text that is still to come.

## Main definitions

* `Cursor.advance`: step over one character.
* `Cursor.advanceBytes n`: step over the characters that the next `n` bytes belong to.
* `takeBytes n`: the characters that the first `n` bytes of a text belong to.

## Main statements

* `Cursor.rest_advanceBytes`: what stepping over bytes leaves is what taking them leaves.
* `Cursor.length_advanceBytes_lt`: stepping over at least one byte shortens the rest.
-/

namespace BuzzerScript

/-- The length of a text in bytes of UTF-8. -/
def utf8Length : List Char → Nat
  | [] => 0
  | c :: tail => c.utf8Size + utf8Length tail

/-- The characters that the first `n` bytes of a text belong to. -/
def takeBytes : Nat → List Char → List Char
  | 0, _ => []
  | _, [] => []
  | n + 1, c :: tail => c :: takeBytes (n + 1 - c.utf8Size) tail

/-- What `takeBytes n` leaves of a text. -/
def dropBytes : Nat → List Char → List Char
  | 0, text => text
  | _, [] => []
  | n + 1, c :: tail => dropBytes (n + 1 - c.utf8Size) tail

/-- The position after a character that stands at `p`. -/
def Position.after (p : Position) (c : Char) : Position :=
  if c = '\n' then ⟨p.line + 1, 1⟩ else ⟨p.line, p.column + 1⟩

/-- A place in a text. -/
structure Cursor where
  /-- The bytes of UTF-8 before the cursor. -/
  offset : Nat
  position : Position
  /-- The text after the cursor. -/
  rest : List Char
  deriving DecidableEq

namespace Cursor

/-- The start of a text. -/
def start (text : List Char) : Cursor := ⟨0, ⟨1, 1⟩, text⟩

/-- Step over one character, unless the text is used up. -/
def advance (cursor : Cursor) : Cursor :=
  match cursor.rest with
  | [] => cursor
  | c :: tail => ⟨cursor.offset + c.utf8Size, cursor.position.after c, tail⟩

/-- Step over the characters that the next `n` bytes belong to. -/
def advanceBytes (n : Nat) (cursor : Cursor) : Cursor :=
  if _h : n = 0 then cursor
  else
    match cursor.rest with
    | [] => cursor
    | c :: _ => advanceBytes (n - c.utf8Size) cursor.advance
termination_by n
decreasing_by have := c.utf8Size_pos; omega

theorem advanceBytes_zero (cursor : Cursor) : cursor.advanceBytes 0 = cursor := by
  rw [advanceBytes]; rfl

theorem rest_advanceBytes (n : Nat) (cursor : Cursor) :
    (cursor.advanceBytes n).rest = dropBytes n cursor.rest := by
  fun_induction advanceBytes n cursor with
  | case1 => simp [dropBytes]
  | case2 n cursor hn hrest =>
    obtain ⟨n, rfl⟩ : ∃ m, n = m + 1 := ⟨n - 1, by omega⟩
    simp [hrest, dropBytes]
  | case3 n cursor hn c tail hrest ih =>
    obtain ⟨n, rfl⟩ : ∃ m, n = m + 1 := ⟨n - 1, by omega⟩
    rw [ih]
    simp [hrest, advance, dropBytes]

end Cursor

theorem length_dropBytes_le (n : Nat) (text : List Char) :
    (dropBytes n text).length ≤ text.length := by
  fun_induction dropBytes n text with
  | case1 => simp
  | case2 => simp
  | case3 n c tail ih => simp; omega

theorem Cursor.length_advanceBytes_lt {n : Nat} {cursor : Cursor} (hn : n ≠ 0)
    (hrest : cursor.rest ≠ []) :
    (cursor.advanceBytes n).rest.length < cursor.rest.length := by
  rw [Cursor.rest_advanceBytes]
  obtain ⟨n, rfl⟩ : ∃ m, n = m + 1 := ⟨n - 1, by omega⟩
  cases h : cursor.rest with
  | nil => exact absurd h hrest
  | cons c tail =>
    have := length_dropBytes_le (n + 1 - c.utf8Size) tail
    simp only [dropBytes, List.length_cons]
    omega

end BuzzerScript
