/-
  Putting some texts in the place of others.
-/

namespace Interposition.Text

/-- A text with the first of every pair replaced by the second, pair after pair. -/
def substitute (pairs : List (String × String)) (source : String) : String :=
  pairs.foldl (fun text (old, new) => text.replace old new) source

end Interposition.Text
