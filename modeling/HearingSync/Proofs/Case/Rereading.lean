import HearingSync.CaseJson
import HearingSync.Message
import HearingSync.Proofs.Time.Rereading
/-!
Documents that are read and written back. Main statements: what was read of a case, a snapshot, an
update, a message or a detail is read again from what it is written as, and a case is written with
the very texts that it had for its two states.
-/

namespace HearingSync

open Json (Rereads)

section Words

variable {α : Type} {word : α → String} {other : String → α}

theorem word_of_known_or_other (hother : ∀ s, word (other s) = s) (known : List α) (s : String) :
    word ((known.find? fun a => word a == s).getD (other s)) = s := by
  cases h : known.find? fun a => word a == s with
  | none => exact hother s
  | some a => exact beq_iff_eq.mp (List.find?_some (p := fun a => word a == s) h)

end Words

theorem CaseState.word_ofWord (s : String) : (ofWord s).word = s :=
  word_of_known_or_other (fun _ => rfl) _ s

theorem DownstreamState.word_ofWord (s : String) : (ofWord s).word = s :=
  word_of_known_or_other (fun _ => rfl) _ s

theorem CaseState.rereads : Rereads decode encode := .verbatim CaseState.word_ofWord

theorem DownstreamState.rereads : Rereads decode encode := .verbatim DownstreamState.word_ofWord

theorem HearingStatus.rereads : Rereads decode encode := Vocabulary.rereads

theorem WorkflowEvent.rereads : Rereads decode encode := Vocabulary.rereads

theorem Channel.rereads : Rereads decode encode := Vocabulary.rereads

theorem RequestStatus.rereads : Rereads decode encode := Vocabulary.rereads_or (by decide)

theorem ListingStatus.rereads : Rereads decode encode := Vocabulary.rereads_or (by decide)

theorem CancellationReason.rereads : Rereads decode encode := Vocabulary.rereads_or (by decide)

theorem Identifier.rereads {k : IdentifierKind} :
    Rereads (Identifier.decode (k := k)) Identifier.encode := .identifier

theorem Venue.rereads : Rereads decode encode :=
  Record.rereads (by decide) <|
    .app (.optional .string rfl) <|
    .app (.required .string) <|
    .app (.required .string) <|
    .const fun _ _ _ => rfl

theorem JudicialUser.rereads : Rereads decode encode :=
  Record.rereads (by decide) <|
    .app (.required .string) <|
    .app (.required Identifier.rereads) <|
    .app (.required .string) <|
    .const fun _ _ _ => rfl

theorem Panel.rereads : Rereads decode encode :=
  Record.rereads (by decide) <|
    .app (.defaulted (.list JudicialUser.rereads) (j := .array []) rfl) <|
    .app (.optional JudicialUser.rereads rfl) <|
    .const fun _ _ => rfl

theorem Hearing.rereads : Rereads decode encode :=
  Record.rereads (by decide) <|
    .app (.optional Panel.rereads rfl) <|
    .app (.optional Channel.rereads rfl) <|
    .app (.optional HearingStatus.rereads rfl) <|
    .app (.optional .string rfl) <|
    .app (.optional .string rfl) <|
    .app (.optional WallClock.rereads rfl) <|
    .app (.optional WallClock.rereads rfl) <|
    .app (.optional Venue.rereads rfl) <|
    .app (.optional Identifier.rereads rfl) <|
    .app (.required Identifier.rereads) <|
    .const fun _ _ _ _ _ _ _ _ _ _ => rfl

theorem WorkBasket.rereads : Rereads decode encode :=
  Record.rereads (by decide) <|
    .app (.optional .string rfl) <|
    .app (.optional Identifier.rereads rfl) <|
    .app (.optional Date.rereads rfl) <|
    .const fun _ _ _ => rfl

theorem CaseData.yields : record.Yields fun c members => encode c = .object members :=
  .app (.optional DownstreamState.rereads rfl) <|
  .app (.defaulted WorkBasket.rereads (j := .object []) rfl) <|
  .app (.defaulted (.list Hearing.rereads) (j := .array []) rfl) <|
  .app (.required CaseState.rereads) <|
  .app (.required Identifier.rereads) <|
  .const fun _ _ _ _ _ => rfl

theorem CaseData.rereads : Rereads decode encode := Record.rereads (by decide) CaseData.yields

theorem CaseSnapshot.rereads : Rereads decode encode :=
  Record.rereads (by decide) <|
    .app (.required .nat64) <|
    .app (.required CaseData.rereads) <|
    .const fun _ _ => rfl

theorem CaseEvent.rereads : Rereads decode encode :=
  Record.rereads (by decide) <|
    .app (.required .string) <|
    .app (.required .string) <|
    .app (.required WorkflowEvent.rereads) <|
    .const fun _ _ _ => rfl

theorem CaseUpdate.rereads : Rereads decode encode :=
  Record.rereads (by decide) <|
    .app (.required CaseEvent.rereads) <|
    .app (.required CaseData.rereads) <|
    .const fun _ _ => rfl

theorem Session.rereads : Rereads decode encode :=
  Record.rereads (by decide) <|
    .app (.optional Channel.rereads rfl) <|
    .app (.defaulted (.list Identifier.rereads) (j := .array []) rfl) <|
    .app (.optional Identifier.rereads rfl) <|
    .app (.optional Identifier.rereads rfl) <|
    .app (.optional Instant.rereads rfl) <|
    .app (.optional Instant.rereads rfl) <|
    .const fun _ _ _ _ _ _ => rfl

theorem HearingDetail.rereads : Rereads decode encode :=
  Record.rereads (by decide) <|
    .app (.defaulted (.list Session.rereads) (j := .array []) rfl) <|
    .app (.defaulted (.list CancellationReason.rereads) (j := .array []) rfl) <|
    .app (.nullable ListingStatus.rereads rfl) <|
    .app (.required RequestStatus.rereads) <|
    .app (.required Identifier.rereads) <|
    .const fun _ _ _ _ _ => rfl

theorem HearingMessage.rereads : Rereads decode encode :=
  Record.rereads (by decide) <|
    .app (.optional .string rfl) <|
    .app (.required RequestStatus.rereads) <|
    .app (.required Identifier.rereads) <|
    .app (.required Identifier.rereads) <|
    .app (.required .string) <|
    .const fun _ _ _ _ _ => rfl

section States

variable {look : String → Option Json} {j : Json} {c : CaseData}

/-- A case is built field by field. -/
theorem CaseData.build_eq_ok_iff : record.build look = .ok c ↔
    (Record.required "caseId" Identifier.decode).build look = .ok c.caseId ∧
    (Record.required "state" CaseState.decode).build look = .ok c.state ∧
    (Record.defaulted "hearings" (Json.decodeList Hearing.decode) []).build look = .ok c.hearings ∧
    (Record.defaulted "workBasket" WorkBasket.decode {}).build look = .ok c.workBasket ∧
    (Record.optional "dwpState" DownstreamState.decode).build look = .ok c.downstream := by
  constructor
  · intro h
    obtain ⟨_, downstream, hfour, hdownstream, rfl⟩ := Record.exists_of_app_build h
    obtain ⟨_, workBasket, hthree, hworkBasket, rfl⟩ := Record.exists_of_app_build hfour
    obtain ⟨_, hearings, htwo, hhearings, rfl⟩ := Record.exists_of_app_build hthree
    obtain ⟨_, state, hone, hstate, rfl⟩ := Record.exists_of_app_build htwo
    obtain ⟨_, caseId, hnone, hcaseId, rfl⟩ := Record.exists_of_app_build hone
    cases hnone
    exact ⟨hcaseId, hstate, hhearings, hworkBasket, hdownstream⟩
  · rintro ⟨hcaseId, hstate, hhearings, hworkBasket, hdownstream⟩
    simp only [record, Record.app, Record.const, hcaseId, hstate, hhearings, hworkBasket,
      hdownstream]
    rfl

theorem CaseData.get?_state (h : decode j = .ok c) :
    c.encode.get? "state" = record.valueIn j "state" := by
  obtain ⟨-, hstate, -⟩ := build_eq_ok_iff.mp (Record.build_of_decode h)
  obtain ⟨v, hlook, hv⟩ := Record.exists_of_required hstate
  have hencode : c.encode.get? "state" = some (.string c.state.word) := rfl
  rw [hencode, hlook, Rereads.eq_string_of_verbatim CaseState.word_ofWord hv]

theorem CaseData.get?_downstream (h : decode j = .ok c) :
    c.encode.get? "dwpState" = some ((record.valueIn j "dwpState").getD .null) := by
  obtain ⟨-, -, -, -, hdownstream⟩ := build_eq_ok_iff.mp (Record.build_of_decode h)
  have hencode : c.encode.get? "dwpState" =
      some (.ofOption DownstreamState.encode c.downstream) := rfl
  rw [hencode]
  rcases Record.cases_of_defaulted hdownstream with ⟨v, hlook, hv⟩ | ⟨hlook, hnone⟩
  · rw [hlook]
    rcases Rereads.option_cases hv with ⟨rfl, hnone⟩ | ⟨state, hstate, hsome⟩
    · rw [hnone]
      rfl
    · rw [hsome, Rereads.eq_string_of_verbatim DownstreamState.word_ofWord hstate]
      rfl
  · rw [hlook, ← hnone]
    rfl

/-- Any texts may stand for the states of a case. -/
theorem CaseData.decode_encode_withStates (h : decode j = .ok c) (t u : String) :
    decode { c with state := .ofWord t, downstream := some (.ofWord u) }.encode =
      .ok { c with state := .ofWord t, downstream := some (.ofWord u) } := by
  -- what the document has for each field, with the two texts in it
  let look' := fun name =>
    if name = "state" then some (.string t) else if name = "dwpState" then some (.string u)
      else record.valueIn j name
  obtain ⟨hcaseId, -, hhearings, hworkBasket, -⟩ := build_eq_ok_iff.mp (Record.build_of_decode h)
  have hbuild : record.build look' =
      .ok { c with state := .ofWord t, downstream := some (.ofWord u) } :=
    build_eq_ok_iff.mpr
      ⟨(Record.required_build_congr rfl).trans hcaseId, rfl,
        (Record.defaulted_build_congr rfl).trans hhearings,
        (Record.defaulted_build_congr rfl).trans hworkBasket, rfl⟩
  exact yields.decode_encode (by decide) hbuild

end States

/-- Whatever was read of a case, a snapshot, an update, a message or a detail, in any form that is
read, is read again from what it is written as. A case is written with the very values that stood
for its two states, null standing for a state downstream that was not there; and any texts at all,
known words or not, may stand there. -/
theorem documents_reread :
    ((∀ j c, CaseData.decode j = .ok c → CaseData.decode c.encode = .ok c) ∧
      (∀ j s, CaseSnapshot.decode j = .ok s → CaseSnapshot.decode s.encode = .ok s) ∧
      (∀ j u, CaseUpdate.decode j = .ok u → CaseUpdate.decode u.encode = .ok u) ∧
      (∀ j m, HearingMessage.decode j = .ok m → HearingMessage.decode m.encode = .ok m) ∧
      (∀ j d, HearingDetail.decode j = .ok d → HearingDetail.decode d.encode = .ok d)) ∧
    ∀ j c, CaseData.decode j = .ok c →
      c.encode.get? "state" = CaseData.record.valueIn j "state" ∧
      c.encode.get? "dwpState" = some ((CaseData.record.valueIn j "dwpState").getD .null) ∧
      ∀ t u, ∃ d : CaseData, d = { c with state := d.state, downstream := d.downstream } ∧
        CaseData.decode d.encode = .ok d ∧ d.encode.get? "state" = some (.string t) ∧
        d.encode.get? "dwpState" = some (.string u) := by
  refine ⟨⟨fun _ _ => CaseData.rereads.again, fun _ _ => CaseSnapshot.rereads.again,
    fun _ _ => CaseUpdate.rereads.again, fun _ _ => HearingMessage.rereads.again,
    fun _ _ => HearingDetail.rereads.again⟩, fun j c h => ?_⟩
  refine ⟨CaseData.get?_state h, CaseData.get?_downstream h, fun t u => ?_⟩
  refine ⟨_, rfl, CaseData.decode_encode_withStates h t u, ?_, ?_⟩
  · exact congrArg (fun s => some (Json.string s)) (CaseState.word_ofWord t)
  · exact congrArg (fun s => some (Json.string s)) (DownstreamState.word_ofWord u)

theorem exists_of_toBool {ε α : Type} {x : Except ε α} (h : x.toBool = true) : ∃ a, x = .ok a := by
  cases x with
  | error e => cases h
  | ok a => exact ⟨a, rfl⟩

/-- A case as a person might write it: white space around the identifier, a hearing that ends in the
leap second of a far year, the work basket by its places, and states that are nearly words. -/
def CaseData.handwritten : Json :=
  .object [("dwpState", .string ""), ("clerk", .string "j.d."),
    ("hearings", .array [.object [("hearingStatus", .object [("listed", .null)]),
      ("start", .string "+12026-6-30T22:0:0"), ("end", .string "+12026-06-30T23:59:60.50"),
      ("hearingId", .string " 2000012345 "), ("panel", .object [])]]),
    ("workBasket", .array [.string "-0001-2-28"]), ("caseId", .string "1234"),
    ("state", .string " ReadyToList")]

theorem documents_reread_handwritten :
    (∃ c, CaseData.decode CaseData.handwritten = .ok c ∧ CaseData.decode c.encode = .ok c ∧
      c.encode.get? "state" = some (.string " ReadyToList") ∧
      c.encode.get? "dwpState" = some (.string "") ∧
      ∃ d : CaseData, d.hearings = c.hearings ∧ CaseData.decode d.encode = .ok d ∧
        d.encode.get? "state" = some (.string "VOID") ∧
        d.encode.get? "dwpState" = some (.string "lapsed ")) ∧
    (∃ s, CaseSnapshot.decode (.array [CaseData.handwritten, .number "7"]) = .ok s ∧
      CaseSnapshot.decode s.encode = .ok s) ∧
    (∃ u, CaseUpdate.decode (.object [("data", CaseData.handwritten), ("event",
        .array [.string "dormant", .string "", .string "Closed"])]) = .ok u ∧
      CaseUpdate.decode u.encode = .ok u) ∧
    (∃ m, HearingMessage.decode (.object [("hearingId", .string "2000012345"),
        ("caseId", .string "1234"), ("hmctsServiceCode", .string "BBA3"),
        ("reportedStatus", .string "LISTED_AGAIN")]) = .ok m ∧
      HearingMessage.decode m.encode = .ok m) ∧
    ∃ d, HearingDetail.decode (.object [("hearing_id", .string "2000012345"),
        ("status", .string "LISTED"), ("sessions", .array [.object
          [("start", .string "2026-06-30 23:59:60.123456789 +01:00")]])]) = .ok d ∧
      HearingDetail.decode d.encode = .ok d := by
  obtain ⟨⟨hcase, hsnapshot, hupdate, hmessage, hdetail⟩, hstates⟩ := documents_reread
  obtain ⟨c, hc⟩ := exists_of_toBool
    (show (CaseData.decode CaseData.handwritten).toBool = true by decide +kernel)
  obtain ⟨s, hs⟩ := exists_of_toBool
    (show (CaseSnapshot.decode (.array [CaseData.handwritten, .number "7"])).toBool = true by
      decide +kernel)
  obtain ⟨u, hu⟩ := exists_of_toBool
    (show (CaseUpdate.decode (.object [("data", CaseData.handwritten), ("event",
      .array [.string "dormant", .string "", .string "Closed"])])).toBool = true by
      decide +kernel)
  obtain ⟨m, hm⟩ := exists_of_toBool
    (show (HearingMessage.decode (.object [("hearingId", .string "2000012345"),
      ("caseId", .string "1234"), ("hmctsServiceCode", .string "BBA3"),
      ("reportedStatus", .string "LISTED_AGAIN")])).toBool = true by decide +kernel)
  obtain ⟨d, hd⟩ := exists_of_toBool
    (show (HearingDetail.decode (.object [("hearing_id", .string "2000012345"),
      ("status", .string "LISTED"), ("sessions", .array [.object
        [("start", .string "2026-06-30 23:59:60.123456789 +01:00")]])])).toBool = true by
      decide +kernel)
  obtain ⟨hstate, hdownstream, htexts⟩ := hstates _ c hc
  obtain ⟨v, hv, hagain, hvstate, hvdownstream⟩ := htexts "VOID" "lapsed "
  refine ⟨⟨c, hc, hcase _ c hc, hstate, hdownstream, v, ?_, hagain, hvstate, hvdownstream⟩,
    ⟨s, hs, hsnapshot _ s hs⟩, ⟨u, hu, hupdate _ u hu⟩, ⟨m, hm, hmessage _ m hm⟩,
    ⟨d, hd, hdetail _ d hd⟩⟩
  rw [hv]

end HearingSync
