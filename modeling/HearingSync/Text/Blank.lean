/-!
White space by Unicode's White_Space property, and texts without white space at either end.
Main statement: a trimmed text is left as it is by a second trimming.
-/

namespace HearingSync.Text

/-- The 25 characters of the White_Space property. -/
def isBlank (c : Char) : Bool :=
  let n := c.toNat
  (9 ≤ n && n ≤ 13) || n == 0x20 || n == 0x85 || n == 0xA0 || n == 0x1680 ||
    (0x2000 ≤ n && n ≤ 0x200A) || n == 0x2028 || n == 0x2029 || n == 0x202F || n == 0x205F ||
    n == 0x3000

def dropBlanks (cs : List Char) : List Char :=
  cs.dropWhile isBlank

def dropTrailingBlanks : List Char → List Char
  | [] => []
  | c :: cs =>
    match dropTrailingBlanks cs with
    | [] => if isBlank c then [] else [c]
    | rest => c :: rest

def trimChars (cs : List Char) : List Char :=
  dropTrailingBlanks (dropBlanks cs)

def trim (s : String) : String :=
  String.ofList (trimChars s.toList)

def isAllBlank (s : String) : Bool :=
  s.toList.all isBlank

def asciiUpper (s : String) : String :=
  String.ofList (s.toList.map Char.toUpper)

def asciiLower (s : String) : String :=
  String.ofList (s.toList.map Char.toLower)

@[simp] theorem toList_trim (s : String) : (trim s).toList = trimChars s.toList := by
  simp [trim]

theorem dropBlanks_idem (cs : List Char) : dropBlanks (dropBlanks cs) = dropBlanks cs := by
  induction cs with
  | nil => rfl
  | cons c cs ih =>
    by_cases h : isBlank c
    · simpa [dropBlanks, List.dropWhile_cons, h] using ih
    · simp [dropBlanks, h]

theorem dropTrailingBlanks_idem (cs : List Char) :
    dropTrailingBlanks (dropTrailingBlanks cs) = dropTrailingBlanks cs := by
  induction cs with
  | nil => rfl
  | cons c cs ih =>
    cases h : dropTrailingBlanks cs with
    | nil => by_cases hc : isBlank c <;> simp [dropTrailingBlanks, h, hc]
    | cons d ds =>
      rw [h] at ih
      simp [dropTrailingBlanks, h] at ih ⊢
      simp [ih]

/-- Dropping at the end leaves a first character in place unless nothing is left. -/
theorem dropBlanks_dropTrailingBlanks {cs : List Char} (h : dropBlanks cs = cs) :
    dropBlanks (dropTrailingBlanks cs) = dropTrailingBlanks cs := by
  cases cs with
  | nil => rfl
  | cons c cs =>
    have hc : isBlank c = false := by
      cases hb : isBlank c with
      | false => rfl
      | true =>
        have hl := congrArg List.length h
        have := (List.dropWhile_sublist (p := isBlank) (l := cs)).length_le
        simp [dropBlanks, hb] at hl
        omega
    cases hd : dropTrailingBlanks cs <;>
      simp [dropTrailingBlanks, dropBlanks, hd, hc]

theorem trimChars_idem (cs : List Char) : trimChars (trimChars cs) = trimChars cs := by
  simp only [trimChars]
  rw [dropBlanks_dropTrailingBlanks (dropBlanks_idem cs), dropTrailingBlanks_idem]

theorem trim_idem (s : String) : trim (trim s) = trim s := by
  simp [trim, trimChars_idem]

end HearingSync.Text
