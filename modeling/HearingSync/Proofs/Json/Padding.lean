import HearingSync.Proofs.Json.Reading
import HearingSync.Proofs.Text.Trimming
import Mathlib.Data.List.Forall2
import Mathlib.Data.Option.Basic
/-!
Documents with white space around the texts that stand for ids. A reader overlooks what a function
on documents takes away, if it reads the same with and without it, the same error where it fails.
Main statements: identifiers are read without the white space around them, and lists and records
overlook in each of their parts what the readers of these parts overlook.
-/

namespace HearingSync

variable {α β : Type}

namespace Json

/-- Both fail with the same error, or they give what is the same in the sense of `S`. -/
inductive Agree (S : α → α → Prop) : Except DecodeError α → Except DecodeError α → Prop where
  | ok {a b : α} : S a b → Agree S (.ok a) (.ok b)
  | error (e : DecodeError) : Agree S (.error e) (.error e)

namespace Agree

variable {S T : α → α → Prop} {x y : Except DecodeError α}

theorem refl (h : ∀ a, S a a) (x : Except DecodeError α) : Agree S x x := by
  cases x with
  | error e => exact .error e
  | ok a => exact .ok (h a)

theorem mono (h : Agree S x y) (hST : ∀ a b, S a b → T a b) : Agree T x y := by
  cases h with
  | error e => exact .error e
  | ok hS => exact .ok (hST _ _ hS)

theorem eq (h : Agree Eq x y) : x = y := by
  cases h with
  | error e => rfl
  | ok hab => rw [hab]

theorem bind {U : β → β → Prop} {f g : α → Except DecodeError β} (h : Agree S x y)
    (hf : ∀ a b, S a b → Agree U (f a) (g b)) : Agree U (x >>= f) (y >>= g) := by
  cases h with
  | error e => exact .error e
  | ok hab => exact hf _ _ hab

theorem map {U : β → β → Prop} {f g : α → β} (h : Agree S x y)
    (hf : ∀ a b, S a b → U (f a) (g b)) : Agree U (x.map f) (y.map g) := by
  cases h with
  | error e => exact .error e
  | ok hab => exact .ok (hf _ _ hab)

end Agree

/-- What is made of both is the same, if nothing more is asked of them. -/
theorem Agree.map_eq {f : α → β} {x y : Except DecodeError α}
    (h : Agree (fun a b => f a = f b) x y) : x.map f = y.map f := (h.map fun _ _ => id).eq

def unpad : Json → Json
  | .string s => .string (Text.trim s)
  | j => j

def unpadEach (f : Json → Json) : Json → Json
  | .array items => .array (items.map f)
  | j => j

/-- The reader overlooks what `f` takes away, and `f` makes nothing null or unreadable. -/
structure Overlooks (S : α → α → Prop) (decode : Decoder α) (f : Json → Json) : Prop where
  agree : ∀ j, Agree S (decode (f j)) (decode j)
  null : ∀ j, f j = .null ↔ j = .null
  fault : ∀ j e, f j = .fault e ↔ j = .fault e

namespace Overlooks

variable {S T : α → α → Prop} {decode : Decoder α} {f : Json → Json}

theorem nothing : Overlooks Eq decode id where
  agree j := .refl (fun _ => rfl) (decode j)
  null _ := Iff.rfl
  fault _ _ := Iff.rfl

theorem mono (h : Overlooks S decode f) (hST : ∀ a b, S a b → T a b) : Overlooks T decode f :=
  ⟨fun j => (h.agree j).mono hST, h.null, h.fault⟩

theorem decode_congr (h : Overlooks Eq decode f) {j j' : Json} (hj : f j = f j') :
    decode j = decode j' := by
  rw [← (h.agree j).eq, hj, (h.agree j').eq]

/-- What is made of a document is the same with and without what the reader overlooks. -/
theorem map_congr {view : α → β} (h : Overlooks (fun a b => view a = view b) decode f)
    {j j' : Json} (hj : f j = f j') : (decode j).map view = (decode j').map view := by
  rw [← (h.agree j).map_eq, hj, (h.agree j').map_eq]

theorem identifier {k : IdentifierKind} : Overlooks Eq (decodeIdentifier k) unpad where
  agree j := by
    cases j with
    | string s =>
      simp only [unpad, decodeIdentifier, Identifier.ofText?_congr (Text.trim_idem s)]
      exact .refl (fun _ => rfl) _
    | _ => exact .error .malformed
  null j := by cases j <;> simp [unpad]
  fault j e := by cases j <;> simp [unpad]

theorem string : Overlooks (fun s t => Text.trim s = Text.trim t) decodeString unpad where
  agree j := by
    cases j with
    | string s => exact .ok (Text.trim_idem s)
    | _ => exact .error .malformed
  null j := by cases j <;> simp [unpad]
  fault j e := by cases j <;> simp [unpad]

theorem items (h : Overlooks S decode f) (js : List Json) :
    Agree (List.Forall₂ S) (decodeItems decode (js.map f)) (decodeItems decode js) := by
  induction js with
  | nil => exact .ok .nil
  | cons j js ih =>
    refine (h.agree j).bind fun a b hab => ?_
    refine ih.bind fun as bs habs => ?_
    exact .ok (.cons hab habs)

theorem list (h : Overlooks S decode f) :
    Overlooks (List.Forall₂ S) (decodeList decode) (unpadEach f) where
  agree j := by
    cases j with
    | array js => exact h.items js
    | _ => exact .error .malformed
  null j := by cases j <;> simp [unpadEach]
  fault j e := by cases j <;> simp [unpadEach]

theorem list_eq (h : Overlooks Eq decode f) : Overlooks Eq (decodeList decode) (unpadEach f) :=
  h.list.mono fun as bs hab => by rwa [List.forall₂_eq_eq_eq] at hab

theorem decodeOption_of_ne {j : Json} (h : j ≠ .null) :
    decodeOption decode j = (decode j).map some := by
  cases j with
  | null => exact absurd rfl h
  | _ => rfl

theorem option (h : Overlooks S decode f) :
    Overlooks (Option.Rel S) (decodeOption decode) f where
  agree j := by
    by_cases hj : j = .null
    · rw [(h.null j).mpr hj, hj]
      exact .ok .none
    · rw [decodeOption_of_ne hj, decodeOption_of_ne (mt (h.null j).mp hj)]
      exact (h.agree j).map fun a b => .some
  null := h.null
  fault := h.fault

theorem option_eq (h : Overlooks Eq decode f) : Overlooks Eq (decodeOption decode) f :=
  h.option.mono fun a b hab => by
    cases hab with
    | none => rfl
    | some hab => rw [hab]

end Overlooks

end Json

namespace Record

open Json (Agree)

def partOf (parts : List (String × (Json → Json))) (name : String) : Json → Json :=
  ((parts.find? (·.1 == name)).map (·.2)).getD id

def unpadItems (part : String → Json → Json) : List String → List Json → List Json
  | name :: names, j :: items => part name j :: unpadItems part names items
  | _, items => items

/-- The document with its fields unpadded, which are known by their names or by their places. -/
def unpad (r : Record α) (parts : List (String × (Json → Json))) : Json → Json
  | .object members => .object (members.map fun m => (m.1, partOf parts m.1 m.2))
  | .array items => .array (unpadItems (partOf parts) (r.fields.map (·.1)) items)
  | j => j

structure Overlooks (part : String → Json → Json) (S : α → α → Prop) (r : Record α) : Prop where
  checks : ∀ field ∈ r.fields, ∀ j, field.2 (part field.1 j) = field.2 j
  faults : ∀ field ∈ r.fields, ∀ j e, part field.1 j = .fault e ↔ j = .fault e
  build : ∀ look look', (∀ name, look' name = (look name).map (part name)) →
    Agree S (r.build look') (r.build look)

namespace Overlooks

variable {part : String → Json → Json} {S : α → α → Prop} {r : Record α} {name : String}
  {decode : Decoder α}

theorem const {a : α} (h : S a a) : (const a).Overlooks part S where
  checks _ hfield := by cases hfield
  faults _ hfield := by cases hfield
  build _ _ _ := .ok h

theorem app {f : Record (α → β)} {x : Record α} {T : β → β → Prop} (hx : x.Overlooks part S)
    (hf : f.Overlooks part fun g g' => ∀ a a', S a a' → T (g a) (g' a')) :
    (f.app x).Overlooks part T where
  checks field hfield := by
    rcases List.mem_append.mp hfield with hfield | hfield
    · exact hf.checks field hfield
    · exact hx.checks field hfield
  faults field hfield := by
    rcases List.mem_append.mp hfield with hfield | hfield
    · exact hf.faults field hfield
    · exact hx.faults field hfield
  build look look' hlook := by
    refine (hf.build look look' hlook).bind fun g g' hg => ?_
    refine (hx.build look look' hlook).bind fun a a' ha => ?_
    exact .ok (hg a a' ha)

theorem app_eq {f : Record (α → β)} {x : Record α} (hx : x.Overlooks part Eq)
    (hf : f.Overlooks part Eq) : (f.app x).Overlooks part Eq := by
  refine app hx ⟨hf.checks, hf.faults, fun look look' hlook => ?_⟩
  exact (hf.build look look' hlook).mono fun _ _ hg _ _ ha => congr hg ha

section Fields

variable (h : Json.Overlooks S decode (part name))
include h

theorem checks_of_field {field : String × Decoder Unit}
    (hfield : field ∈ [(name, Json.check decode)]) (j : Json) :
    field.2 (part field.1 j) = field.2 j := by
  obtain rfl := List.mem_singleton.mp hfield
  have hcheck : Agree Eq (Json.check decode (part name j)) (Json.check decode j) :=
    (h.agree j).map fun _ _ _ => rfl
  exact hcheck.eq

theorem faults_of_field {field : String × Decoder Unit}
    (hfield : field ∈ [(name, Json.check decode)]) (j : Json) (e : Json.Fault) :
    part field.1 j = .fault e ↔ j = .fault e := by
  obtain rfl := List.mem_singleton.mp hfield
  exact h.fault j e

theorem required : (required name decode).Overlooks part S where
  checks _ := checks_of_field h
  faults _ := faults_of_field h
  build look look' hlook := by
    dsimp only [Record.required]
    rw [hlook name]
    cases look name with
    | none => exact .error .malformed
    | some j => exact h.agree j

theorem defaulted {default : α} (hdefault : S default default) :
    (defaulted name decode default).Overlooks part S where
  checks _ := checks_of_field h
  faults _ := faults_of_field h
  build look look' hlook := by
    dsimp only [Record.defaulted]
    rw [hlook name]
    cases look name with
    | none => exact .ok hdefault
    | some j => exact h.agree j

end Fields

theorem optional (h : Json.Overlooks Eq decode (part name)) :
    (optional name decode).Overlooks part Eq := defaulted h.option_eq rfl

theorem nullable (h : Json.Overlooks Eq decode (part name)) :
    (nullable name decode).Overlooks part Eq :=
  ⟨(optional h).checks, (optional h).faults, (optional h).build⟩

section Decode

variable {fields : List (String × Decoder Unit)} {seen : List String}

theorem checkMembers_eq (hchecks : ∀ field ∈ fields, ∀ j, field.2 (part field.1 j) = field.2 j)
    (hfaults : ∀ field ∈ fields, ∀ j e, part field.1 j = .fault e ↔ j = .fault e)
    (hother : ∀ name, name ∉ fields.map (·.1) → part name = id) (members : List (String × Json)) :
    checkMembers fields seen (members.map fun m => (m.1, part m.1 m.2)) =
      checkMembers fields seen members := by
  induction members generalizing seen with
  | nil => rfl
  | cons m members ih =>
    have hfault (e : Json.Fault) : part m.1 m.2 = .fault e ↔ m.2 = .fault e := by
      by_cases hname : m.1 ∈ fields.map (·.1)
      · obtain ⟨field, hfield, heq⟩ := List.mem_map.mp hname
        exact heq ▸ hfaults field hfield m.2 e
      · rw [hother m.1 hname]
        rfl
    by_cases hkeyed : m.2 = .fault .loneSurrogateKey
    · have hpart := (hfault _).mpr hkeyed
      obtain ⟨key, j⟩ := m
      obtain rfl : j = _ := hkeyed
      rw [List.map_cons, hpart]
      simp only [checkMembers]
    · rw [List.map_cons, checkMembers.eq_3 fields seen m.1 _ _ (mt (hfault _).mp hkeyed),
        checkMembers.eq_3 fields seen m.1 m.2 members hkeyed]
      cases hcheck : fieldCheck? fields m.1 with
      | none =>
        have hname : m.1 ∉ fields.map (·.1) := by
          intro hname
          obtain ⟨field, hfield, heq⟩ := List.mem_map.mp hname
          have hnone := List.find?_eq_none.mp (Option.map_eq_none_iff.mp hcheck) field hfield
          exact hnone (by simpa using heq)
        simp only [hother m.1 hname, id, ih]
      | some check =>
        have hsame : check (part m.1 m.2) = check m.2 :=
          hchecks (m.1, check) (mem_of_find? hcheck) m.2
        simp only [hsame, ih]

theorem checkItems_eq (hchecks : ∀ field ∈ fields, ∀ j, field.2 (part field.1 j) = field.2 j)
    (minimum : Nat) (items : List Json) :
    checkItems minimum fields (unpadItems part (fields.map (·.1)) items) =
      checkItems minimum fields items := by
  induction fields generalizing minimum items with
  | nil => cases items <;> rfl
  | cons field fields ih =>
    cases items with
    | nil => rfl
    | cons j items =>
      have hrest := ih (fun g hg => hchecks g (List.mem_cons_of_mem field hg)) (minimum - 1) items
      simp only [List.map_cons, unpadItems, checkItems, hchecks field List.mem_cons_self, hrest]

theorem lookup_members (members : List (String × Json)) (name : String) :
    lookup (members.map fun m => (m.1, part m.1 m.2)) name =
      (lookup members name).map (part name) := by
  unfold lookup
  induction members with
  | nil => rfl
  | cons m members ih =>
    by_cases hname : m.1 = name
    · subst hname
      simp
    · simpa [hname] using ih

theorem lookup_items (names : List String) (items : List Json) (name : String) :
    lookup (names.zip (unpadItems part names items)) name =
      (lookup (names.zip items) name).map (part name) := by
  unfold lookup
  induction names generalizing items with
  | nil => rfl
  | cons own names ih =>
    cases items with
    | nil => rfl
    | cons j items =>
      by_cases hname : own = name
      · subst hname
        simp [unpadItems]
      · simpa [unpadItems, hname] using ih items

end Decode

theorem partOf_of_not_mem {parts : List (String × (Json → Json))}
    (h : name ∉ parts.map (·.1)) : partOf parts name = id := by
  unfold partOf
  rw [List.find?_eq_none.mpr]
  · rfl
  · intro p hp hname
    exact h (List.mem_map.mpr ⟨p, hp, by simpa using hname⟩)

/-- A record overlooks what each of its fields does. -/
theorem decoder {parts : List (String × (Json → Json))}
    (hparts : ∀ name ∈ parts.map (·.1), name ∈ r.fields.map (·.1))
    (h : r.Overlooks (partOf parts) S) : Json.Overlooks S r.decode (r.unpad parts) where
  agree j := by
    have hother (name : String) (hname : name ∉ r.fields.map (·.1)) : partOf parts name = id :=
      partOf_of_not_mem (mt (hparts name) hname)
    cases j with
    | object members =>
      simp only [Record.decode, Record.unpad, checkMembers_eq h.checks h.faults hother]
      refine Agree.bind (.refl (S := Eq) (fun _ => rfl) _) fun _ _ _ => ?_
      exact h.build _ _ (lookup_members members)
    | array items =>
      simp only [Record.decode, Record.unpad, checkItems_eq h.checks]
      refine Agree.bind (.refl (S := Eq) (fun _ => rfl) _) fun _ _ _ => ?_
      exact h.build _ _ (lookup_items _ items)
    | _ => exact .error .malformed
  null j := by cases j <;> simp [Record.unpad]
  fault j e := by cases j <;> simp [Record.unpad]

end Overlooks

end Record

end HearingSync
