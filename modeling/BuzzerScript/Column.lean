/-!
# Columns of text

Text set into a column of fixed width.  A text that is wider than its column is not cut.
-/

namespace BuzzerScript

/-- Where a text stands in its column. -/
inductive Alignment where
  | left | right | centre
  deriving DecidableEq, Repr

/-- Fill a text with blanks up to a width in characters.  When an odd number of blanks is
shared between both sides, the odd one stands after the text. -/
def Alignment.fill (alignment : Alignment) (width : Nat) (text : String) : String :=
  let blanks := width - text.length
  let before :=
    match alignment with
    | .left => 0
    | .right => blanks
    | .centre => blanks / 2
  String.ofList
    (List.replicate before ' ' ++ text.toList ++ List.replicate (blanks - before) ' ')

end BuzzerScript
