import BuzzerScript.Error

/-!
# Tokens

What a script consists of once blanks and comments are dropped.  Line ends are tokens, since
the grammar is line oriented.
-/

namespace BuzzerScript

/-- A token.  Notes and identifiers keep the text they were written with. -/
inductive Token where
  | identifier (text : String)
  | number (value : Binary64)
  | note (text : String)
  | track
  | equal
  | bar
  | newline
  deriving DecidableEq

/-- A token and the position of its first character. -/
structure LocatedToken where
  token : Token
  position : Position
  deriving DecidableEq

end BuzzerScript
