import WebCompat.Text.CaseFold.Table

/-!
Simple case folding: the map on characters under which two texts are equal when they
differ in case only.
-/

namespace WebCompat.Text

/-- The simple case folding of a character. -/
def foldCase (c : Char) : Char :=
  if c.toNat < 0x80 then c.toLower
  else ((CaseRow.image? caseFoldRows c.toNat).map Char.ofNat).getD c

end WebCompat.Text
