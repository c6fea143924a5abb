/-!
Association lists with one entry for each key. Filing under a key replaces its entry in place, or
adds one at the end. Main statements: what was filed last under a key is what is found there, and
the other keys keep what they had.
-/

namespace HearingSync

abbrev Filing (κ α : Type) := List (κ × α)

namespace Filing

variable {κ α : Type} [DecidableEq κ]

def get? (f : Filing κ α) (k : κ) : Option α :=
  (f.find? fun entry => entry.1 = k).map (·.2)

def put (k : κ) (a : α) : Filing κ α → Filing κ α
  | [] => [(k, a)]
  | entry :: rest => if entry.1 = k then (k, a) :: rest else entry :: put k a rest

@[simp] theorem get?_nil (k : κ) : get? ([] : Filing κ α) k = none := rfl

theorem get?_cons (entry : κ × α) (rest : Filing κ α) (k : κ) :
    get? (entry :: rest) k = if entry.1 = k then some entry.2 else get? rest k := by
  simp only [get?, List.find?_cons]
  split <;> simp_all

@[simp] theorem get?_put_self (k : κ) (a : α) (f : Filing κ α) : get? (put k a f) k = some a := by
  induction f with
  | nil => simp [put, get?_cons]
  | cons entry rest ih =>
    simp only [put]
    split
    · simp [get?_cons]
    · rename_i h
      simp [get?_cons, h, ih]

theorem get?_put_ne {k l : κ} (h : l ≠ k) (a : α) (f : Filing κ α) :
    get? (put k a f) l = get? f l := by
  induction f with
  | nil => simp [put, get?_cons, Ne.symm h]
  | cons entry rest ih =>
    simp only [put]
    split
    · rename_i he
      simp [get?_cons, he, Ne.symm h]
    · simp [get?_cons, ih]

end Filing

end HearingSync
