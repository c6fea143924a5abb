import HearingSync.VenueTable
import Mathlib.Data.Finset.Card
/-!
What a table of venues resolves. Main statement: a code is resolved exactly where an open row has
it, blanks around it aside, and the last of these rows tells the venue; the table has one entry for
each such code, and a row that is closed or has no code leaves no trace.
-/

namespace HearingSync

namespace Filing

variable {κ α : Type} [DecidableEq κ] {k : κ} {a : α} {f : Filing κ α}

def keys (f : Filing κ α) : List κ := f.map Prod.fst

theorem keys_put : keys (put k a f) = if k ∈ keys f then keys f else keys f ++ [k] := by
  induction f with
  | nil => simp [put, keys]
  | cons entry rest ih =>
    rw [put]
    by_cases h : entry.1 = k
    · simp [keys, h]
    · rw [if_neg h]
      change entry.1 :: keys (put k a rest) = _
      rw [ih]
      by_cases hk : k ∈ keys rest
      · simp_all [keys]
      · simp_all [keys, Ne.symm h]

theorem nodup_keys_put (h : (keys f).Nodup) : (keys (put k a f)).Nodup := by
  rw [keys_put]
  by_cases hk : k ∈ keys f
  · rwa [if_pos hk]
  · rw [if_neg hk]
    exact h.append (List.nodup_singleton k) (by simpa using hk)

theorem mem_keys_iff : k ∈ keys f ↔ ∃ a, f.get? k = some a := by
  induction f with
  | nil => simp [keys]
  | cons entry rest ih =>
    rw [get?_cons]
    by_cases h : entry.1 = k
    · simp [keys, h]
    · simpa [keys, h, Ne.symm h] using ih

end Filing

namespace VenueRecord

def Serves (r : VenueRecord) (code : VenueCode) : Prop :=
  r.active = true ∧ Text.trim r.code = code.text

instance (r : VenueRecord) (code : VenueCode) : Decidable (r.Serves code) :=
  inferInstanceAs (Decidable (_ ∧ _))

def IsDropped (r : VenueRecord) : Prop := r.active = false ∨ Text.trim r.code = ""

theorem entry?_of_isDropped {r : VenueRecord} (h : r.IsDropped) : r.entry? = none := by
  rcases h with h | h
  · simp [ entry?, h]
  · have hcode : (Identifier.ofText? r.code : Option VenueCode) = none :=
      Identifier.ofText?_eq_none_iff.mpr h
    simp [ entry?, hcode]

theorem entry?_eq_some_iff {r : VenueRecord} {code : VenueCode} {venue : Venue} :
    r.entry? = some (code, venue) ↔ r.Serves code ∧ r.venue = venue := by
  unfold entry? Serves
  by_cases h : r.active = true
  · have hcode : (Identifier.ofText? r.code : Option VenueCode) = some code ↔
        Text.trim r.code = code.text := Identifier.ofText?_eq_some_iff
    simp [h, ← hcode]
  · simp [h]

end VenueRecord

namespace VenueTable

variable {t : VenueTable} {r : VenueRecord} {records : List VenueRecord} {code : VenueCode}
  {venue : Venue}

theorem add_of_isDropped (h : r.IsDropped) : t.add r = t := by
  rw [add, VenueRecord.entry?_of_isDropped h]

theorem find?_add :
    (t.add r).find? code = if r.Serves code then some r.venue else t.find? code := by
  unfold add find?
  cases hr : r.entry? with
  | none =>
    have hnot : ¬ r.Serves code := by
      intro hs
      have hsome : r.entry? = some (code, r.venue) := VenueRecord.entry?_eq_some_iff.mpr ⟨hs, rfl⟩
      rw [hr] at hsome
      cases hsome
    rw [if_neg hnot]
  | some entry =>
    obtain ⟨own, venue⟩ := entry
    obtain ⟨hs, rfl⟩ := VenueRecord.entry?_eq_some_iff.mp hr
    by_cases hcode : code = own
    · subst hcode
      rw [if_pos hs]
      exact Filing.get?_put_self code r.venue t.venues
    · have hnot : ¬ r.Serves code := by
        intro h
        exact hcode (Identifier.ext (h.2.symm.trans hs.2))
      rw [if_neg hnot]
      exact Filing.get?_put_ne hcode r.venue t.venues

theorem ofRecords_append (before after : List VenueRecord) :
    ofRecords (before ++ after) = after.foldl add (ofRecords before) := List.foldl_append

theorem ofRecords_concat : ofRecords (records ++ [r]) = (ofRecords records).add r :=
  ofRecords_append records [r]

theorem ofRecords_of_isDropped (before after : List VenueRecord) (h : r.IsDropped) :
    ofRecords (before ++ r :: after) = ofRecords (before ++ after) := by
  rw [ofRecords_append, ofRecords_append, List.foldl_cons, add_of_isDropped h]

def IsLastFor (code : VenueCode) (r : VenueRecord) (records : List VenueRecord) : Prop :=
  ∃ before after, records = before ++ r :: after ∧ r.Serves code ∧ ∀ s ∈ after, ¬ s.Serves code

theorem isLastFor_concat_iff {s : VenueRecord} : IsLastFor code s (records ++ [r]) ↔
    if r.Serves code then s = r else IsLastFor code s records := by
  unfold IsLastFor
  by_cases hr : r.Serves code
  · rw [if_pos hr]
    constructor
    · rintro ⟨before, after, hsplit, -, hafter⟩
      rcases List.eq_nil_or_concat after with rfl | ⟨after, last, rfl⟩
      · exact (List.head_eq_of_cons_eq (List.append_inj' hsplit rfl).2).symm
      · have hlast : r = last := by
          have hsplit : records ++ [r] = (before ++ s :: after) ++ [last] := by simpa using hsplit
          exact List.head_eq_of_cons_eq (List.append_inj' hsplit rfl).2
        exact absurd hr (hafter r (by simp [hlast]))
    · rintro rfl
      exact ⟨records, [], rfl, hr, by simp⟩
  · rw [if_neg hr]
    constructor
    · rintro ⟨before, after, hsplit, hs, hafter⟩
      rcases List.eq_nil_or_concat after with rfl | ⟨after, last, rfl⟩
      · have hsr : r = s := List.head_eq_of_cons_eq (List.append_inj' hsplit rfl).2
        exact absurd (hsr ▸ hs) hr
      · have hsplit : records ++ [r] = (before ++ s :: after) ++ [last] := by simpa using hsplit
        exact ⟨before, after, (List.append_inj' hsplit rfl).1, hs,
          fun q hq => hafter q (by simp [hq])⟩
    · rintro ⟨before, after, rfl, hs, hafter⟩
      refine ⟨before, after ++ [r], by simp, hs, ?_⟩
      intro q hq
      rcases List.mem_append.mp hq with hq | hq
      · exact hafter q hq
      · rwa [List.mem_singleton.mp hq]

theorem find?_ofRecords_eq_some_iff : (ofRecords records).find? code = some venue ↔
    ∃ r, IsLastFor code r records ∧ r.venue = venue := by
  induction records using List.reverseRecOn with
  | nil =>
    constructor
    · intro h
      cases h
    · rintro ⟨r, ⟨before, after, hsplit, -⟩, -⟩
      simp at hsplit
  | append_singleton records r ih =>
    simp only [ofRecords_concat, find?_add, isLastFor_concat_iff]
    by_cases hr : r.Serves code
    · simp [hr]
    · simpa [hr] using ih

theorem exists_isLastFor_iff : (∃ r, IsLastFor code r records) ↔ ∃ r ∈ records, r.Serves code := by
  induction records using List.reverseRecOn with
  | nil => simp [IsLastFor]
  | append_singleton records r ih =>
    simp only [isLastFor_concat_iff]
    by_cases hr : r.Serves code
    · simp [hr]
    · simp [hr, ih]

theorem nodup_keys_add (h : t.venues.keys.Nodup) : (t.add r).venues.keys.Nodup := by
  unfold add
  cases r.entry? with
  | none => exact h
  | some entry => exact Filing.nodup_keys_put h

theorem nodup_keys_ofRecords (records : List VenueRecord) :
    (ofRecords records).venues.keys.Nodup := by
  induction records using List.reverseRecOn with
  | nil => exact List.nodup_nil
  | append_singleton records r ih =>
    rw [ofRecords_concat]
    exact nodup_keys_add ih

def openCodes (records : List VenueRecord) : List String :=
  ((records.filter VenueRecord.active).map fun r => Text.trim r.code).filter (· ≠ "")

theorem mem_openCodes_iff {text : String} : text ∈ openCodes records ↔
    ∃ code : VenueCode, code.text = text ∧ ∃ r ∈ records, r.Serves code := by
  constructor
  · intro h
    obtain ⟨h, hne⟩ := List.mem_filter.mp h
    obtain ⟨r, hr, rfl⟩ := List.mem_map.mp h
    obtain ⟨hr, hopen⟩ := List.mem_filter.mp hr
    exact ⟨⟨Text.trim r.code, Text.trim_idem r.code, by simpa using hne⟩, rfl, r, hr, hopen, rfl⟩
  · rintro ⟨code, rfl, r, hr, hopen, hcode⟩
    refine List.mem_filter.mpr ⟨List.mem_map.mpr ⟨r, List.mem_filter.mpr ⟨hr, hopen⟩, hcode⟩, ?_⟩
    simpa using code.nonempty

theorem mem_keys_ofRecords_iff :
    code ∈ (ofRecords records).venues.keys ↔ ∃ r ∈ records, r.Serves code := by
  rw [Filing.mem_keys_iff, ← exists_isLastFor_iff]
  constructor
  · rintro ⟨venue, h⟩
    obtain ⟨r, hr, -⟩ := find?_ofRecords_eq_some_iff.mp h
    exact ⟨r, hr⟩
  · rintro ⟨r, hr⟩
    exact ⟨r.venue, find?_ofRecords_eq_some_iff.mpr ⟨r, hr, rfl⟩⟩

theorem size_ofRecords (records : List VenueRecord) :
    (ofRecords records).size = (openCodes records).toFinset.card := by
  have htexts : ((ofRecords records).venues.keys.map Identifier.text).Nodup :=
    (nodup_keys_ofRecords records).map fun _ _ => Identifier.ext
  have hsame : ((ofRecords records).venues.keys.map Identifier.text).toFinset =
      (openCodes records).toFinset := by
    ext text
    simp only [List.mem_toFinset, List.mem_map, mem_openCodes_iff, mem_keys_ofRecords_iff]
    exact exists_congr fun _ => and_comm
  calc (ofRecords records).size
      = ((ofRecords records).venues.keys.map Identifier.text).length := by simp [size, Filing.keys]
    _ = ((ofRecords records).venues.keys.map Identifier.text).toFinset.card :=
      (List.toFinset_card_of_nodup htexts).symm
    _ = (openCodes records).toFinset.card := by rw [hsame]

/-- A code is resolved exactly where an open row has it, and as the venue of the last of these rows.
A row that is closed or has no code may be left out, wherever it stands. The table has as many
entries as there are codes of open rows. One more row changes what its own code resolves to and
nothing else. -/
theorem venues_resolved (records : List VenueRecord) :
    (∀ code, (∃ venue, (ofRecords records).find? code = some venue) ↔
      ∃ r ∈ records, r.Serves code) ∧
    (∀ code venue, (ofRecords records).find? code = some venue ↔
      ∃ r, IsLastFor code r records ∧ r.venue = venue) ∧
    (∀ before r after, records = before ++ r :: after → r.IsDropped →
      ofRecords records = ofRecords (before ++ after)) ∧
    (ofRecords records).size = (openCodes records).toFinset.card ∧
    ∀ r code, (ofRecords (records ++ [r])).find? code =
      if r.Serves code then some r.venue else (ofRecords records).find? code := by
  refine ⟨?_, fun code venue => find?_ofRecords_eq_some_iff, ?_, size_ofRecords records, ?_⟩
  · intro code
    rw [← mem_keys_ofRecords_iff, Filing.mem_keys_iff]
    rfl
  · rintro before r after rfl hr
    exact ofRecords_of_isDropped before after hr
  · intro r code
    rw [ofRecords_concat]
    exact find?_add

section Reissued

def leeds : VenueCode := ⟨"408721", by decide, by decide⟩

def closedAnnex : VenueRecord := ⟨"408721", "90", "Annex", none, false⟩

def foxCourt : VenueRecord := ⟨"408721\u00a0", "68", "Fox Court", some "London", true⟩

/-- An export in which a code stands in three rows, the last of them closed. -/
def reissuedRows : List VenueRecord :=
  [⟨" 408721", "12", "Leeds", none, true⟩, ⟨" \t", "7", "Nowhere", none, true⟩, foxCourt,
    ⟨"111111", "3", "York", none, true⟩, closedAnnex, ⟨"111111 ", "4", "York", none, false⟩]

theorem venues_resolved_reissued :
    (ofRecords reissuedRows).find? leeds = some foxCourt.venue ∧
    closedAnnex.IsDropped ∧ ofRecords reissuedRows = ofRecords (reissuedRows.eraseIdx 4) ∧
    (ofRecords reissuedRows).size = 2 := by
  obtain ⟨-, hlast, hdropped, hsize, -⟩ := venues_resolved reissuedRows
  have hannex : closedAnnex.IsDropped := .inl rfl
  refine ⟨(hlast leeds _).mpr ⟨foxCourt, ?_, rfl⟩, hannex, ?_, ?_⟩
  · exact ⟨reissuedRows.take 2, reissuedRows.drop 3, rfl, by decide, by decide⟩
  · exact hdropped (reissuedRows.take 4) closedAnnex (reissuedRows.drop 5) rfl hannex
  · rw [hsize]
    decide

end Reissued

end VenueTable

end HearingSync
