import HearingSync.Case
/-!
The hearings of a case. A change goes to the first hearing of an id, in place, or adds a hearing at
the end where there is none; later hearings of the id stay as they are. Main statements: what is
found under each id after a change, which ids there are and where, and that two changes of one id
are one.
-/

namespace HearingSync.Hearing

def KeepsId (f : Hearing → Hearing) : Prop := ∀ h, (f h).hearingId = h.hearingId

def ids (hearings : List Hearing) : List HearingId := hearings.map hearingId

/-- The ids of a list of hearings after one more was listed. -/
def withId (known : List HearingId) (id : HearingId) : List HearingId :=
  if id ∈ known then known else known ++ [id]

/-- The place of the first hearing of that id, or the end of the list. -/
def place (hearings : List Hearing) (id : HearingId) : Nat :=
  hearings.findIdx fun h => h.hearingId = id

variable {f g : Hearing → Hearing} {id l : HearingId} {hearings : List Hearing} {k : Nat}

theorem find?_cons (h : Hearing) (rest : List Hearing) (id : HearingId) :
    find? (h :: rest) id = if h.hearingId = id then some h else find? rest id := by
  simp only [find?, List.find?_cons]
  split <;> simp_all

theorem find?_eq_none_of_not_mem (h : id ∉ ids hearings) : find? hearings id = none := by
  unfold find?
  rw [List.find?_eq_none]
  intro hearing hmem
  have hne : hearing.hearingId ≠ id := by
    rintro rfl
    exact h (List.mem_map_of_mem hmem)
  simp [hne]

theorem find?_append_new (h : id ∉ ids hearings) (new : Hearing) (l : HearingId)
    (hnew : new.hearingId = id) :
    find? (hearings ++ [new]) l = if l = id then some new else find? hearings l := by
  by_cases hl : l = id
  · subst hl
    have hnone : hearings.find? (fun h => h.hearingId = l) = none := find?_eq_none_of_not_mem h
    rw [if_pos rfl, find?, List.find?_append, hnone]
    simp [hnew]
  · rw [if_neg hl, find?, List.find?_append]
    have hne : new.hearingId ≠ l := by
      rw [hnew]
      exact Ne.symm hl
    simp [find?, hne]

theorem KeepsId.comp (hf : KeepsId f) (hg : KeepsId g) : KeepsId (f ∘ g) := by
  intro h
  exact (hf (g h)).trans (hg h)

section WithId

theorem mem_withId (known : List HearingId) (id : HearingId) : id ∈ withId known id := by
  unfold withId
  by_cases h : id ∈ known
  · rw [if_pos h]
    exact h
  · rw [if_neg h]
    exact List.mem_append_right known (List.mem_singleton_self id)

theorem nodup_withId {known : List HearingId} (h : known.Nodup) (id : HearingId) :
    (withId known id).Nodup := by
  unfold withId
  by_cases hid : id ∈ known
  · rw [if_pos hid]
    exact h
  · rw [if_neg hid]
    refine List.nodup_append.mpr ⟨h, by simp, ?_⟩
    rintro a ha b hb rfl
    exact hid (List.mem_singleton.mp hb ▸ ha)

theorem nodup_foldl_withId {known : List HearingId} (h : known.Nodup) (listed : List HearingId) :
    (listed.foldl withId known).Nodup := by
  induction listed generalizing known with
  | nil => exact h
  | cons id rest ih => exact ih (nodup_withId h id)

/-- Those that are new come behind, each where it was listed first. -/
theorem foldl_withId (known listed : List HearingId) :
    listed.foldl withId known = known ++ (listed.filter (· ∉ known)).eraseDups := by
  induction listed generalizing known with
  | nil => simp
  | cons id rest ih =>
    rw [List.foldl_cons, ih]
    by_cases hid : id ∈ known
    · rw [withId, if_pos hid, List.filter_cons_of_neg (by simp [hid])]
    · have hrest : rest.filter (· ∉ known ++ [id]) =
          (rest.filter (· ∉ known)).filter (fun l => !l == id) := by
        rw [List.filter_filter]
        refine List.filter_congr fun l _ => ?_
        by_cases hl : l = id <;> simp [hl]
      rw [withId, if_neg hid, List.filter_cons_of_pos (by simp [hid]), List.eraseDups_cons, hrest,
        List.append_assoc, List.singleton_append]

end WithId

section ModifyFirst

theorem find?_modifyFirst (hf : KeepsId f) :
    find? (modifyFirst id f hearings) l =
      if l = id then (find? hearings id).map f else find? hearings l := by
  induction hearings with
  | nil => simp [modifyFirst, find?]
  | cons h rest ih =>
    rw [modifyFirst]
    by_cases hid : h.hearingId = id
    · rw [if_pos hid, find?_cons, find?_cons, hf h, hid, if_pos rfl]
      by_cases hl : l = id
      · simp [hl]
      · simp [hl, Ne.symm hl, find?_cons, hid]
    · rw [if_neg hid, find?_cons, find?_cons, find?_cons, ih, if_neg hid]
      by_cases hl : l = id
      · simp [hl, hid]
      · simp [hl]

@[simp] theorem ids_modifyFirst (hf : KeepsId f) :
    ids (modifyFirst id f hearings) = ids hearings := by
  induction hearings with
  | nil => rfl
  | cons h rest ih =>
    rw [modifyFirst]
    split
    · simp [ids, hf h]
    · simpa [ids] using ih

theorem getElem?_modifyFirst (hk : k ≠ place hearings id) :
    (modifyFirst id f hearings)[k]? = hearings[k]? := by
  induction hearings generalizing k with
  | nil => rfl
  | cons h rest ih =>
    rw [modifyFirst]
    by_cases hid : h.hearingId = id
    · rw [if_pos hid]
      cases k with
      | zero => simp [place, List.findIdx_cons, hid] at hk
      | succ k => rfl
    · rw [if_neg hid]
      cases k with
      | zero => rfl
      | succ k =>
        have hk' : k ≠ place rest id := by
          rintro rfl
          simp [place, List.findIdx_cons, hid] at hk
        exact ih hk'

theorem modifyFirst_modifyFirst (hg : KeepsId g) :
    modifyFirst id f (modifyFirst id g hearings) = modifyFirst id (f ∘ g) hearings := by
  induction hearings with
  | nil => rfl
  | cons h rest ih =>
    by_cases hid : h.hearingId = id
    · simp [modifyFirst, hid, hg h]
    · simp [modifyFirst, hid, ih]

/-- What holds of all entries still does after a change that keeps it. -/
theorem forall_mem_modifyFirst {P : Hearing → Prop} (hf : ∀ h, P h → P (f h))
    (h : ∀ a ∈ hearings, P a) : ∀ a ∈ modifyFirst id f hearings, P a := by
  induction hearings with
  | nil => exact h
  | cons a rest ih =>
    have hrest := ih fun b hb => h b (List.mem_cons_of_mem a hb)
    rw [modifyFirst]
    split
    · exact List.forall_mem_cons.mpr ⟨hf a (h a List.mem_cons_self),
        fun b hb => h b (List.mem_cons_of_mem a hb)⟩
    · exact List.forall_mem_cons.mpr ⟨h a List.mem_cons_self, hrest⟩

theorem modifyFirst_self : modifyFirst id (fun h => h) hearings = hearings := by
  induction hearings with
  | nil => rfl
  | cons h rest ih => simp [modifyFirst, ih]

end ModifyFirst

section Upsert

theorem upsert_of_mem (h : id ∈ ids hearings) :
    upsert id f hearings = modifyFirst id f hearings := by
  induction hearings with
  | nil => cases h
  | cons a rest ih =>
    by_cases hid : a.hearingId = id
    · simp [upsert, modifyFirst, hid]
    · have hrest : id ∈ ids rest := by simpa [ids, Ne.symm hid] using h
      simp [upsert, modifyFirst, hid, ih hrest]

theorem upsert_of_not_mem (h : id ∉ ids hearings) :
    upsert id f hearings = hearings ++ [f { hearingId := id }] := by
  induction hearings with
  | nil => rfl
  | cons a rest ih =>
    have hne : id ≠ a.hearingId ∧ id ∉ ids rest := by simpa [ids] using h
    simp [upsert, Ne.symm hne.1, ih hne.2]

theorem find?_upsert (hf : KeepsId f) :
    find? (upsert id f hearings) l =
      if l = id then some (f ((find? hearings id).getD { hearingId := id }))
      else find? hearings l := by
  by_cases h : id ∈ ids hearings
  · obtain ⟨a, ha⟩ : ∃ a, find? hearings id = some a := by
      obtain ⟨a, hmem, haid⟩ := List.mem_map.mp h
      exact Option.isSome_iff_exists.mp (List.find?_isSome.mpr ⟨a, hmem, by simp [haid]⟩)
    rw [upsert_of_mem h, find?_modifyFirst hf, ha]
    rfl
  · rw [upsert_of_not_mem h, find?_append_new h _ l (hf _), find?_eq_none_of_not_mem h]
    rfl

theorem ids_upsert (hf : KeepsId f) : ids (upsert id f hearings) = withId (ids hearings) id := by
  unfold withId
  by_cases h : id ∈ ids hearings
  · rw [if_pos h, upsert_of_mem h, ids_modifyFirst hf]
  · have hnew : (f { hearingId := id }).hearingId = id := hf { hearingId := id }
    rw [if_neg h, upsert_of_not_mem h]
    simp [ids, hnew]

theorem getElem?_upsert (hk : k ≠ place hearings id) :
    (upsert id f hearings)[k]? = hearings[k]? := by
  by_cases h : id ∈ ids hearings
  · rw [upsert_of_mem h, getElem?_modifyFirst hk]
  · have hend : place hearings id = hearings.length := by
      refine List.findIdx_eq_length.mpr ?_
      intro a ha
      have hne : a.hearingId ≠ id := by
        rintro rfl
        exact h (List.mem_map_of_mem ha)
      simp [hne]
    rw [upsert_of_not_mem h]
    rcases Nat.lt_or_gt_of_ne (hend ▸ hk) with hlt | hgt
    · rw [List.getElem?_append_left hlt]
    · rw [List.getElem?_eq_none (by simp; omega), List.getElem?_eq_none (by omega)]

theorem modifyFirst_upsert (hg : KeepsId g) :
    modifyFirst id f (upsert id g hearings) = upsert id (f ∘ g) hearings := by
  induction hearings with
  | nil => simp [upsert, modifyFirst, hg { hearingId := id }]
  | cons h rest ih =>
    by_cases hid : h.hearingId = id
    · simp [upsert, modifyFirst, hid, hg h]
    · simp [upsert, modifyFirst, hid, ih]

theorem upsert_upsert (hg : KeepsId g) :
    upsert id f (upsert id g hearings) = upsert id (f ∘ g) hearings := by
  have hmem : id ∈ ids (upsert id g hearings) := by
    rw [ids_upsert hg]
    exact mem_withId (ids hearings) id
  rw [upsert_of_mem hmem, modifyFirst_upsert hg]

theorem forall_mem_upsert {P : Hearing → Prop} (hf : ∀ h, P h → P (f h))
    (hnew : P { hearingId := id }) (h : ∀ a ∈ hearings, P a) :
    ∀ a ∈ upsert id f hearings, P a := by
  by_cases hmem : id ∈ ids hearings
  · rw [upsert_of_mem hmem]
    exact forall_mem_modifyFirst hf h
  · rw [upsert_of_not_mem hmem]
    exact List.forall_mem_append.mpr ⟨h, List.forall_mem_singleton.mpr (hf _ hnew)⟩

end Upsert

def stamped (status : Option HearingStatus) (h : Hearing) : Hearing :=
  { h with status := status.orElse fun _ => h.status }

theorem stamped_keepsId (status : Option HearingStatus) : KeepsId (stamped status) := fun _ => rfl

theorem setStatus_eq_modifyFirst (status : Option HearingStatus) :
    setStatus hearings id status = modifyFirst id (stamped status) hearings := by
  cases status with
  | none => exact modifyFirst_self.symm
  | some s => rfl

end HearingSync.Hearing
