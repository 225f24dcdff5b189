/-
  Names of variants: written `like_this`, shown `LikeThis`.
-/

namespace Interposition.Text

/-- A name written with underscores, each word capitalised and the underscores gone. -/
def camelCase (name : String) : String :=
  String.join ((name.splitOn "_").map String.capitalize)

end Interposition.Text
