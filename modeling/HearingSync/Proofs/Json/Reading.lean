import HearingSync.Json.Decode
/-!
Reading an object as a record, whatever else it holds. Main statements: where every field that is
there can be read and none that is needed is missing, the record is read; and where one field that
is there cannot be read, the record is not.
-/

namespace HearingSync

variable {α β : Type}

theorem exists_of_bind_eq_ok {ε : Type} {x : Except ε α} {f : α → Except ε β} {b : β}
    (h : x >>= f = .ok b) : ∃ a, x = .ok a ∧ f a = .ok b := by
  cases x with
  | error e => cases h
  | ok a => exact ⟨a, rfl, h⟩

theorem exists_of_map_eq_ok {ε : Type} {x : Except ε α} {f : α → β} {b : β}
    (h : x.map f = .ok b) : ∃ a, x = .ok a ∧ f a = b := by
  cases x with
  | error e => cases h
  | ok a => exact ⟨a, rfl, Except.ok.inj h⟩

namespace Json

theorem check_eq_ok_iff {decode : Decoder α} {j : Json} :
    check decode j = .ok () ↔ ∃ a, decode j = .ok a := by
  unfold check
  cases decode j <;> simp [Except.map]

section Items

variable {decode : Decoder α} {js : List Json} {as : List α}

theorem exists_decodeItems_iff :
    (∃ as, decodeItems decode js = .ok as) ↔ ∀ j ∈ js, ∃ a, decode j = .ok a := by
  induction js with
  | nil => exact ⟨fun _ => by simp, fun _ => ⟨[], rfl⟩⟩
  | cons j js ih =>
    rw [List.forall_mem_cons, ← ih]
    constructor
    · rintro ⟨as, h⟩
      obtain ⟨a, ha, h⟩ := exists_of_bind_eq_ok h
      obtain ⟨rest, hrest, -⟩ := exists_of_bind_eq_ok h
      exact ⟨⟨a, ha⟩, rest, hrest⟩
    · rintro ⟨⟨a, ha⟩, rest, hrest⟩
      exact ⟨a :: rest, by rw [decodeItems, ha, hrest]; rfl⟩

theorem length_of_decodeItems (h : decodeItems decode js = .ok as) : as.length = js.length := by
  induction js generalizing as with
  | nil =>
    cases h
    rfl
  | cons j js ih =>
    obtain ⟨a, -, h⟩ := exists_of_bind_eq_ok h
    obtain ⟨rest, hrest, h⟩ := exists_of_bind_eq_ok h
    cases h
    exact congrArg (· + 1) (ih hrest)

end Items

theorem isWhole_of_mem_array {items : List Json} (h : (array items).isWhole = true) {j : Json}
    (hj : j ∈ items) : j.isWhole = true := by
  induction items with
  | nil => cases hj
  | cons i items ih =>
    simp only [isWhole, areWhole, Bool.and_eq_true] at h ih
    rcases List.mem_cons.mp hj with rfl | hj
    · exact h.1
    · exact ih h.2 hj

theorem isWhole_of_mem_object {members : List (String × Json)}
    (h : (object members).isWhole = true) {m : String × Json} (hm : m ∈ members) :
    m.2.isWhole = true := by
  induction members with
  | nil => cases hm
  | cons n members ih =>
    simp only [isWhole, membersAreWhole, Bool.and_eq_true] at h ih
    rcases List.mem_cons.mp hm with rfl | hm
    · exact h.1
    · exact ih h.2 hm

theorem readDocument_of_read {s : String} {j : Json} (h : read? s = some j) :
    readDocument s = { value := j, trailing := false } ∧ j.isWhole = true := by
  obtain ⟨⟨htrailing, hwhole⟩, rfl⟩ : ((readDocument s).trailing = false ∧
      (readDocument s).value.isWhole = true) ∧ (readDocument s).value = j := by
    simpa [read?] using h
  exact ⟨by rw [← htrailing], hwhole⟩

/-- A text that is one JSON value is read as that value is. -/
theorem decodeText_of_read {s : String} {j : Json} (h : read? s = some j) (decode : Decoder α) :
    decodeText decode s = decode j := by
  unfold decodeText
  rw [(readDocument_of_read h).1]
  change (decode j >>= fun a => pure a) = decode j
  cases decode j <;> rfl

end Json

namespace Record

/-- Every key was read, and no field of the record is among the members twice. -/
structure Tidy (r : Record α) (members : List (String × Json)) : Prop where
  keyed : ∀ m ∈ members, m.2 ≠ .fault .loneSurrogateKey
  once : ((members.map Prod.fst).filter (· ∈ r.fields.map Prod.fst)).Nodup

theorem Tidy.of_nodup {r : Record α} {members : List (String × Json)}
    (hkeyed : ∀ m ∈ members, m.2 ≠ .fault .loneSurrogateKey)
    (h : (members.map Prod.fst).Nodup) : r.Tidy members := ⟨hkeyed, h.filter _⟩

/-- Whatever is there for the fields can be read, and this is built of it. -/
structure Reads (r : Record α) (look : String → Option Json) (a : α) : Prop where
  passes : ∀ f ∈ r.fields, ∀ j, look f.1 = some j → f.2 j = .ok ()
  built : r.build look = .ok a

section Fields

variable {look : String → Option Json} {name : String} {decode : Decoder α} {a : α}

theorem exists_of_app_build {f : Record (α → β)} {x : Record α} {b : β}
    (h : (f.app x).build look = .ok b) :
    ∃ g a, f.build look = .ok g ∧ x.build look = .ok a ∧ g a = b := by
  obtain ⟨g, hg, h⟩ := exists_of_bind_eq_ok h
  obtain ⟨a, ha, h⟩ := exists_of_bind_eq_ok h
  exact ⟨g, a, hg, ha, Except.ok.inj h⟩

theorem exists_of_required (h : (required name decode).build look = .ok a) :
    ∃ j, look name = some j ∧ decode j = .ok a := by
  dsimp only [required] at h
  split at h
  · exact ⟨_, ‹_›, h⟩
  · cases h

theorem cases_of_defaulted {default : α} (h : (defaulted name decode default).build look = .ok a) :
    (∃ j, look name = some j ∧ decode j = .ok a) ∨ (look name = none ∧ default = a) := by
  dsimp only [defaulted] at h
  split at h
  · exact .inl ⟨_, ‹_›, h⟩
  · exact .inr ⟨‹_›, Except.ok.inj h⟩

namespace Reads

theorem const (a : α) : (const a).Reads look a := ⟨by simp [Record.const], rfl⟩

theorem app {f : Record (α → β)} {x : Record α} {g : α → β} (hf : f.Reads look g)
    (hx : x.Reads look a) : (f.app x).Reads look (g a) where
  passes p hp := by
    rcases List.mem_append.mp hp with hp | hp
    · exact hf.passes p hp
    · exact hx.passes p hp
  built := by
    change (f.build look >>= fun g => x.build look >>= fun a => pure (g a)) = _
    rw [hf.built, hx.built]
    rfl

variable {j : Json} {default : α}

theorem passes_of_found (hlook : look name = some j) (h : decode j = .ok a) :
    ∀ f ∈ [(name, Json.check decode)], ∀ i, look f.1 = some i → f.2 i = .ok () := by
  intro f hf i hi
  obtain rfl := List.mem_singleton.mp hf
  cases hlook.symm.trans hi
  exact Json.check_eq_ok_iff.mpr ⟨a, h⟩

theorem required (hlook : look name = some j) (h : decode j = .ok a) :
    (required name decode).Reads look a where
  passes := passes_of_found hlook h
  built := by
    dsimp only [Record.required]
    rw [hlook]
    exact h

theorem found (hlook : look name = some j) (h : decode j = .ok a) :
    (defaulted name decode default).Reads look a where
  passes := passes_of_found hlook h
  built := by
    dsimp only [Record.defaulted]
    rw [hlook]
    exact h

theorem absent (hlook : look name = none) : (defaulted name decode default).Reads look default where
  passes f hf j hj := by
    obtain rfl := List.mem_singleton.mp hf
    cases hlook.symm.trans hj
  built := by
    dsimp only [Record.defaulted]
    rw [hlook]

theorem exists_defaulted (h : ∀ j, look name = some j → ∃ a, decode j = .ok a) :
    ∃ a, (defaulted name decode default).Reads look a := by
  cases hlook : look name with
  | none => exact ⟨default, absent hlook⟩
  | some j =>
    obtain ⟨a, ha⟩ := h j hlook
    exact ⟨a, found hlook ha⟩

end Reads

end Fields

section Find

variable {γ : Type} {l : List (String × γ)}

theorem mem_of_find? {name : String} {c : γ}
    (h : (l.find? (·.1 == name)).map (·.2) = some c) : (name, c) ∈ l := by
  obtain ⟨p, hp, rfl⟩ := Option.map_eq_some_iff.mp h
  have hname : p.1 = name := by simpa using List.find?_some hp
  exact hname ▸ List.mem_of_find?_eq_some hp

/-- A name that is listed and stands once at most is found where it stands. -/
theorem find?_of_once {names : List String} (honce : ((l.map (·.1)).filter (· ∈ names)).Nodup)
    {p : String × γ} (hname : p.1 ∈ names) (hp : p ∈ l) :
    (l.find? (·.1 == p.1)).map (·.2) = some p.2 := by
  induction l with
  | nil => cases hp
  | cons q l ih =>
    have hrest := honce.sublist ((List.sublist_cons_self q.1 (l.map (·.1))).filter _)
    by_cases hq : q.1 = p.1
    · rw [List.find?_cons_of_pos (by simpa using hq)]
      rcases List.mem_cons.mp hp with rfl | hp
      · rfl
      · have hlisted : decide (q.1 ∈ names) = true := by simpa [hq] using hname
        rw [List.map_cons, List.filter_cons, if_pos hlisted] at honce
        refine absurd ?_ (List.nodup_cons.mp honce).1
        exact List.mem_filter.mpr ⟨hq ▸ List.mem_map_of_mem hp, hlisted⟩
    · rw [List.find?_cons_of_neg (by simpa using hq)]
      rcases List.mem_cons.mp hp with rfl | hp
      · exact absurd rfl hq
      · exact ih hrest hp

theorem find?_of_nodup (hl : (l.map (·.1)).Nodup) {p : String × γ} (hp : p ∈ l) :
    (l.find? (·.1 == p.1)).map (·.2) = some p.2 := by
  have honce : ((l.map (·.1)).filter (· ∈ l.map (·.1))).Nodup := hl.filter _
  exact find?_of_once honce (List.mem_map_of_mem hp) hp

end Find

section Members

variable {fields : List (String × Decoder Unit)} {seen : List String}
  {members : List (String × Json)}

/-- What it takes for one more member in front. -/
theorem checkMembers_cons_eq_ok_iff {m : String × Json} :
    checkMembers fields seen (m :: members) = .ok () ↔
      m.2 ≠ .fault .loneSurrogateKey ∧
        match fieldCheck? fields m.1 with
        | some check => m.1 ∉ seen ∧ check m.2 = .ok () ∧
            checkMembers fields (m.1 :: seen) members = .ok ()
        | none => m.2.isWhole = true ∧ checkMembers fields seen members = .ok () := by
  by_cases hkeyed : m.2 = .fault .loneSurrogateKey
  · obtain ⟨key, j⟩ := m
    obtain rfl : j = _ := hkeyed
    simp [checkMembers]
  · rw [checkMembers.eq_3 fields seen m.1 m.2 members hkeyed]
    cases fieldCheck? fields m.1 with
    | none => cases m.2.isWhole <;> simp [hkeyed]
    | some check =>
      by_cases hseen : m.1 ∈ seen
      · simp [hseen]
      · cases hcheck : check m.2 <;> simp [hseen, hkeyed, hcheck, bind, Except.bind]

theorem checkMembers_of_each (hkeyed : ∀ m ∈ members, m.2 ≠ .fault .loneSurrogateKey)
    (honce : ((members.map Prod.fst).filter (· ∈ fields.map Prod.fst)).Nodup)
    (hnew : ∀ m ∈ members, m.1 ∈ fields.map Prod.fst → m.1 ∉ seen)
    (hwhole : ∀ m ∈ members, fieldCheck? fields m.1 = none → m.2.isWhole = true)
    (hpass : ∀ m ∈ members, ∀ check, fieldCheck? fields m.1 = some check → check m.2 = .ok ()) :
    checkMembers fields seen members = .ok () := by
  induction members generalizing seen with
  | nil => rfl
  | cons m members ih =>
    have honce' := honce.sublist ((List.sublist_cons_self m.1 (members.map Prod.fst)).filter _)
    have hrest : ∀ seen', (∀ n ∈ members, n.1 ∈ fields.map Prod.fst → n.1 ∉ seen') →
        checkMembers fields seen' members = .ok () := fun seen' hnew' =>
      ih (fun n hn => hkeyed n (List.mem_cons_of_mem m hn)) honce' hnew'
        (fun n hn => hwhole n (List.mem_cons_of_mem m hn))
        (fun n hn => hpass n (List.mem_cons_of_mem m hn))
    refine checkMembers_cons_eq_ok_iff.mpr ⟨hkeyed m List.mem_cons_self, ?_⟩
    cases hcheck : fieldCheck? fields m.1 with
    | none =>
      exact ⟨hwhole m List.mem_cons_self hcheck,
        hrest seen fun n hn => hnew n (List.mem_cons_of_mem m hn)⟩
    | some check =>
      have hlisted : m.1 ∈ fields.map Prod.fst := List.mem_map_of_mem (mem_of_find? hcheck)
      rw [List.map_cons, List.filter_cons, if_pos (decide_eq_true hlisted)] at honce
      refine ⟨hnew m List.mem_cons_self hlisted, hpass m List.mem_cons_self check hcheck, ?_⟩
      -- the field counts as seen from here on, so the rest may not name it again
      refine hrest (m.1 :: seen) ?_
      intro n hn hname hbad
      rcases List.mem_cons.mp hbad with heq | hbad
      · refine (List.nodup_cons.mp honce).1 (heq ▸ ?_)
        exact List.mem_filter.mpr ⟨List.mem_map_of_mem hn, decide_eq_true hname⟩
      · exact hnew n (List.mem_cons_of_mem m hn) hname hbad

/-- The members were checked only if each of them passes. -/
theorem pass_of_checkMembers (h : checkMembers fields seen members = .ok ()) {m : String × Json}
    (hm : m ∈ members) {check : Decoder Unit} (hcheck : fieldCheck? fields m.1 = some check) :
    check m.2 = .ok () := by
  induction members generalizing seen with
  | nil => cases hm
  | cons n members ih =>
    obtain ⟨-, h⟩ := checkMembers_cons_eq_ok_iff.mp h
    rcases List.mem_cons.mp hm with rfl | hm
    · rw [hcheck] at h
      exact h.2.1
    · split at h
      · exact ih h.2.2 hm
      · exact ih h.2 hm

variable {r : Record α} {a : α}

/-- An object that holds what a record asks for is read as what is built of it. -/
theorem Reads.decode_eq (h : r.Reads (lookup members) a) (ht : r.Tidy members)
    (hwhole : ∀ m ∈ members, m.1 ∉ r.fields.map Prod.fst → m.2.isWhole = true) :
    r.decode (.object members) = .ok a := by
  have hpass : ∀ m ∈ members, ∀ check, fieldCheck? r.fields m.1 = some check →
      check m.2 = .ok () := by
    intro m hm check hfield
    have hmem := mem_of_find? hfield
    have hlook : lookup members m.1 = some m.2 :=
      find?_of_once ht.once (List.mem_map_of_mem hmem) hm
    exact h.passes (m.1, check) hmem m.2 hlook
  have hunlisted : ∀ m ∈ members, fieldCheck? r.fields m.1 = none → m.2.isWhole = true := by
    intro m hm hfield
    refine hwhole m hm fun hname => ?_
    obtain ⟨f, hf, hname⟩ := List.mem_map.mp hname
    have hnone := List.find?_eq_none.mp (Option.map_eq_none_iff.mp hfield) f hf
    exact hnone (by simpa using hname)
  have hcheck : checkMembers r.fields [] members = .ok () :=
    checkMembers_of_each ht.keyed ht.once (fun _ _ _ => List.not_mem_nil) hunlisted hpass
  change (checkMembers r.fields [] members >>= fun _ => r.build (lookup members)) = .ok a
  rw [hcheck]
  exact h.built

theorem Reads.decode_of_isWhole (h : r.Reads (lookup members) a) (ht : r.Tidy members)
    (hwhole : (Json.object members).isWhole = true) : r.decode (.object members) = .ok a :=
  h.decode_eq ht fun _ hm _ => Json.isWhole_of_mem_object hwhole hm

/-- Of an object that was read, what is there for a field can be read. -/
theorem exists_of_decode (hr : (r.fields.map Prod.fst).Nodup)
    (h : r.decode (.object members) = .ok a) {name : String} {decode : Decoder β}
    (hfield : (name, Json.check decode) ∈ r.fields) {j : Json}
    (hj : lookup members name = some j) : ∃ b, decode j = .ok b := by
  obtain ⟨⟨⟩, hcheck, -⟩ := exists_of_bind_eq_ok h
  have hfound : fieldCheck? r.fields name = some (Json.check decode) := find?_of_nodup hr hfield
  exact Json.check_eq_ok_iff.mp
    (pass_of_checkMembers (m := (name, j)) hcheck (mem_of_find? hj) hfound)

end Members

end Record

end HearingSync
