/-!
Splitting a text at separators. There is always a part, be it empty.
-/

namespace HearingSync.Text

def splitOn (isSeparator : Char → Bool) : List Char → List (List Char)
  | [] => [[]]
  | c :: cs =>
    let parts := splitOn isSeparator cs
    if isSeparator c then [] :: parts
    else
      match parts with
      | [] => [[c]]
      | part :: rest => (c :: part) :: rest

theorem splitOn_ne_nil (isSeparator : Char → Bool) (cs : List Char) :
    splitOn isSeparator cs ≠ [] := by
  cases cs with
  | nil => simp [splitOn]
  | cons c cs =>
    by_cases h : isSeparator c
    · simp [splitOn, h]
    · cases hs : splitOn isSeparator cs <;> simp [splitOn, h, hs]

end HearingSync.Text
