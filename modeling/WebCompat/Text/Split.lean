/-!
Splitting a sequence at every occurrence of one element, and putting such parts together
again.
-/

namespace WebCompat.Text

variable {α : Type}

/-- The parts of a sequence between the occurrences of a separator. There is always one part
more than there are separators. -/
def splitAt [DecidableEq α] (separator : α) : List α → List (List α)
  | [] => [[]]
  | a :: rest =>
      match splitAt separator rest with
      | first :: others =>
          if a = separator then [] :: first :: others else (a :: first) :: others
      | [] => [[a]]

/-- Parts with a separator between each two. -/
def joinWith (separator : List α) : List (List α) → List α
  | [] => []
  | [part] => part
  | part :: others => part ++ separator ++ joinWith separator others

end WebCompat.Text
