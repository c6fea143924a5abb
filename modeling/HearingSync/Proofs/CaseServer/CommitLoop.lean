import HearingSync.Proofs.CaseServer.Attempts
/-!
The turns of a transaction of the case store. Main statement: each event carries the token of the
answer right before it and what the caller had for the case in that answer, a further token is asked
for when an event came too late, and the result is told by the last question and the last event.
-/

namespace HearingSync

open Runs (Run)

def Turn.issued? (t : Turn) : Option IssuedToken :=
  if t.isPost then none else t.document? IssuedToken.record.decode

/-- `P` is true of each turn and those before it. -/
def EachTurn (P : List Turn → Turn → Prop) (wire : List Turn) : Prop :=
  ∀ before t after, wire = before ++ t :: after → P before t

section EachTurn

variable {P : List Turn → Turn → Prop} {wire : List Turn} {t : Turn}

theorem eachTurn_nil : EachTurn P [] := by
  intro before t after h
  simp at h

theorem EachTurn.snoc (h : EachTurn P wire) (ht : P wire t) : EachTurn P (wire ++ [t]) := by
  intro before t' after hsplit
  rcases List.eq_nil_or_concat after with rfl | ⟨after, last, rfl⟩
  · obtain ⟨rfl, hlast⟩ := List.append_inj' hsplit rfl
    obtain rfl : t = t' := List.head_eq_of_cons_eq hlast
    exact ht
  · refine h before t' after ?_
    have hsplit : wire ++ [t] = (before ++ t' :: after) ++ [last] := by simpa using hsplit
    exact (List.append_inj' hsplit rfl).1

end EachTurn

namespace CaseServer

/-- What to write, by the cases that were asked about before. -/
abbrev Question := List CaseSnapshot → CaseSnapshot → Option CaseUpdate

def ask (question : Question) (a : CaseSnapshot) :
    StateT (List CaseSnapshot) Exchange (Option CaseUpdate) :=
  modifyGet fun earlier => (question earlier a, earlier ++ [a])

def transaction (c : Client) (id : CaseId) (question : Question) :
    Exchange (Except StoreError (Option CaseSnapshot) × List CaseSnapshot) :=
  ((caseStore (m := Exchange) c).transact id (ask question)).run.run []

/-- A token may be asked for at the start, again after no response came, and again after an event
came too late. -/
inductive MayAsk : List Turn → Prop where
  | first : MayAsk []
  | dropped (before : List Turn) (t : Turn) : t.isPost = false → t.reply = .dropped →
      MayAsk (before ++ [t])
  | conflict (before : List Turn) (t : Turn) : t.isPost = true → t.isConflict = true →
      MayAsk (before ++ [t])

variable (c : Client) (id : CaseId) (question : Question)

/-- What turn may come after which ones. An event comes right after a token, and carries that token
and what the question had for the case that the token came with. -/
inductive MayFollow : List Turn → Turn → Prop where
  | token (before : List Turn) (request : Request) (reply : Reply) :
      c.request .get (tokenPath id) none = .ok request → MayAsk before →
      MayFollow before ⟨request, reply⟩
  | event (before : List Turn) (t : Turn) (issued : IssuedToken) (update : CaseUpdate)
      (request : Request) (reply : Reply) : t.issued? = some issued →
      question ((before.filterMap Turn.issued?).map IssuedToken.snapshot) issued.snapshot =
        some update →
      c.request .post (eventsPath id) (some (eventBody update (.token issued.token))) =
        .ok request →
      MayFollow (before ++ [t]) ⟨request, reply⟩

abbrev Asked := List CaseSnapshot × List Turn

def posts (s : Asked) : List Turn := s.2.filter Turn.isPost

/-- What is true as long as a transaction goes on. -/
structure Going (s : Asked) : Prop where
  follow : EachTurn (MayFollow c id question) s.2
  asked : s.1 = (s.2.filterMap Turn.issued?).map IssuedToken.snapshot
  mayAsk : MayAsk s.2
  undeclined : ∀ earlier a, s.1 = earlier ++ [a] → question earlier a ≠ none
  stale : ∀ post ∈ posts s, post.isConflict = true

structure Over (total : Nat) (answer : Except StoreError (Option CaseSnapshot)) (s : Asked) :
    Prop where
  follow : EachTurn (MayFollow c id question) s.2
  asked : s.1 = (s.2.filterMap Turn.issued?).map IssuedToken.snapshot
  posts_le : (posts s).length ≤ total
  declined_iff : answer = .ok none ↔ ∃ earlier a, s.1 = earlier ++ [a] ∧ question earlier a = none
  declined_last : answer = .ok none → ∃ before last issued, s.2 = before ++ [last] ∧
    last.issued? = some issued
  committed_iff : ∀ b, answer = .ok (some b) ↔
    ∃ post, (posts s).getLast? = some post ∧ post.document? CaseSnapshot.decode = some b
  conflict : ∀ l version, answer = .error (.conflict l version) →
    ∀ last, s.2.getLast? = some last → last.isPost = true →
      (posts s).length = total ∧ (∀ post ∈ posts s, post.isConflict = true) ∧ l = id ∧
        ∃ earlier a, s.1 = earlier ++ [a] ∧ version = a.version

variable {c id question} {s t : Asked} {wire u : List Turn} {total : Nat}

theorem isPost_of_request {request : Request} (reply : Reply) {method : Method} {path : String}
    {body : Option Json} (h : c.request method path body = .ok request) :
    (⟨request, reply⟩ : Turn).isPost = (method == .post) := by
  unfold Turn.isPost
  rw [Client.request_method h]

theorem toOption_read {α : Type} {endpoint : String} {expected : Nat} {decode : Decoder α}
    (request : Request) {r : Response} :
    (read id endpoint expected decode (.ok r)).toOption =
      (⟨request, .response r⟩ : Turn).document? decode := by
  unfold read Turn.document?
  by_cases hr : r.isSuccess = true
  · simp only [hr, if_true]
    cases Json.decodeText decode r.body <;> rfl
  · simp only [hr]
    rfl

section Token

variable {request : Request}

theorem follow_dropped (hr : c.request .get (tokenPath id) none = .ok request)
    (h : EachTurn (MayFollow c id question) wire) (hask : MayAsk wire) (k : Nat) :
    EachTurn (MayFollow c id question) (wire ++ List.replicate k ⟨request, .dropped⟩) ∧
      MayAsk (wire ++ List.replicate k ⟨request, .dropped⟩) := by
  induction k with
  | zero => simpa using ⟨h, hask⟩
  | succ k ih =>
    rw [List.replicate_succ', ← List.append_assoc]
    exact ⟨ih.1.snoc (.token _ request .dropped hr ih.2),
      .dropped _ _ (isPost_of_request _ hr) rfl⟩

theorem issued?_dropped : (⟨request, .dropped⟩ : Turn).issued? = none := by
  unfold Turn.issued? Turn.document?
  split <;> rfl

theorem filterMap_dropped (k : Nat) :
    (List.replicate k (⟨request, .dropped⟩ : Turn)).filterMap Turn.issued? = [] := by
  refine List.filterMap_eq_nil_iff.mpr fun t ht => ?_
  rw [List.eq_of_mem_replicate ht]
  exact issued?_dropped

end Token

structure TokenTurns (c : Client) (id : CaseId) (question : Question) (wire u : List Turn)
    (answer : Except StoreError IssuedToken) : Prop where
  follow : EachTurn (MayFollow c id question) (wire ++ u)
  not_isPost : ∀ t ∈ u, t.isPost = false
  issued : ∀ issued, answer = .ok issued → ∃ before last, u = before ++ [last] ∧
    last.issued? = some issued ∧ before.filterMap Turn.issued? = []
  unissued : ∀ e, answer = .error e → u.filterMap Turn.issued? = []
  conflict : ∀ l version, answer = .error (.conflict l version) → u ≠ []

theorem tokenTurns (h : EachTurn (MayFollow c id question) wire) (hask : MayAsk wire)
    {answer : Except StoreError IssuedToken} (hissue : (issueToken c id).Yields u answer) :
    TokenTurns c id question wire u answer := by
  obtain ⟨sent, hsent, rfl⟩ := sent_of_issueToken hissue
  have hpost (t : Turn) (ht : t ∈ u) : t.isPost = false :=
    isPost_of_request t.reply (hsent.request ht)
  cases hsent with
  | unsendable e _ =>
    exact {
      follow := by simpa using h
      not_isPost := hpost
      issued := fun issued ha => by cases ha
      unissued := fun _ _ => rfl
      conflict := fun l version ha => by cases ha }
  | dropped request cause hr =>
    exact {
      follow := (follow_dropped hr h hask _).1
      not_isPost := hpost
      issued := fun issued ha => by cases ha
      unissued := fun _ _ => filterMap_dropped _
      conflict := fun l version ha => by cases ha }
  | answered request k r hr hk =>
    -- Only the last of these turns has a response, so no other may hold a token.
    obtain ⟨hfollow, hask⟩ := follow_dropped hr h hask k
    have hlast : (⟨request, .response r⟩ : Turn).issued? =
        (read id ("GET /" ++ tokenPath id) 0 IssuedToken.record.decode (.ok r)).toOption := by
      rw [toOption_read request, Turn.issued?, isPost_of_request _ hr]
      rfl
    refine ⟨?_, hpost, ?_, ?_, fun _ _ _ => by simp⟩
    · rw [← List.append_assoc]
      exact hfollow.snoc (.token _ request (.response r) hr hask)
    · intro issued ha
      rw [ha] at hlast
      exact ⟨_, _, rfl, hlast, filterMap_dropped k⟩
    · intro e ha
      rw [ha] at hlast
      rw [List.filterMap_append, filterMap_dropped, List.filterMap_cons_none hlast]
      rfl

theorem run_ask {a : CaseSnapshot} {update : Option CaseUpdate}
    (h : Run (ask question a) s update t) :
    update = question s.1 a ∧ t = (s.1 ++ [a], s.2) := by
  have h : Run (pure (question s.1 a, s.1 ++ [a]) : Exchange _) s.2 (update, t.1) t.2 := h
  obtain ⟨hp, ht⟩ := Runs.of_pure h
  obtain ⟨hu, ha⟩ := Prod.mk.inj hp
  exact ⟨hu, Prod.ext ha ht⟩

theorem question_of_append (question : Question) {earlier earlier' : List CaseSnapshot}
    {a b : CaseSnapshot} (h : earlier' ++ [b] = earlier ++ [a]) :
    question earlier a = question earlier' b := by
  obtain ⟨rfl, hlast⟩ := List.append_inj' h rfl
  rw [List.head_eq_of_cons_eq hlast]

theorem posts_append {asked asked' : List CaseSnapshot} (hu : ∀ t ∈ u, t.isPost = false) :
    posts (asked', wire ++ u) = posts (asked, wire) := by
  have hnone : u.filter Turn.isPost = [] := by
    rw [List.filter_eq_nil_iff]
    exact fun t ht => by simp [hu t ht]
  simp [posts, hnone]

theorem Going.not_committed (h : Going c id question s) (b : CaseSnapshot) :
    ¬ ∃ post, (posts s).getLast? = some post ∧ post.document? CaseSnapshot.decode = some b := by
  rintro ⟨post, hpost, hb⟩
  have hstale := h.stale post (List.mem_of_getLast? hpost)
  rw [Turn.document?_of_isConflict hstale] at hb
  cases hb

theorem Going.not_declined (h : Going c id question s) :
    ¬ ∃ earlier a, s.1 = earlier ++ [a] ∧ question earlier a = none := by
  rintro ⟨earlier, a, hs, ha⟩
  exact h.undeclined earlier a hs ha

/-- A transaction that failed, and had nothing declined and nothing accepted. -/
theorem over_of_error {e : StoreError} (hfollow : EachTurn (MayFollow c id question) s.2)
    (hasked : s.1 = (s.2.filterMap Turn.issued?).map IssuedToken.snapshot)
    (htotal : (posts s).length ≤ total)
    (hdeclined : ¬ ∃ earlier a, s.1 = earlier ++ [a] ∧ question earlier a = none)
    (hcommitted : ∀ b, ¬ ∃ post, (posts s).getLast? = some post ∧
      post.document? CaseSnapshot.decode = some b)
    (hconflict : ∀ l version, e = .conflict l version →
      ∀ last, s.2.getLast? = some last → last.isPost = true →
        (posts s).length = total ∧ (∀ post ∈ posts s, post.isConflict = true) ∧ l = id ∧
          ∃ earlier a, s.1 = earlier ++ [a] ∧ version = a.version) :
    Over c id question total (.error e) s where
  follow := hfollow
  asked := hasked
  posts_le := htotal
  declined_iff := ⟨(fun h => by cases h), fun h => absurd h hdeclined⟩
  declined_last h := by cases h
  committed_iff b := ⟨(fun h => by cases h), fun h => absurd h (hcommitted b)⟩
  conflict l version h := hconflict l version (Except.error.inj h)

theorem over_of_noToken (hs : Going c id question s) {e : StoreError}
    (hissue : (issueToken c id).Yields u (.error e)) (htotal : (posts s).length ≤ total) :
    Over c id question total (.error e) (s.1, s.2 ++ u) := by
  have hu := tokenTurns hs.follow hs.mayAsk hissue
  have hposts : posts (s.1, s.2 ++ u) = posts s := posts_append hu.not_isPost
  refine over_of_error hu.follow ?_ (hposts ▸ htotal) hs.not_declined
    (hposts ▸ hs.not_committed) ?_
  · rw [List.filterMap_append, hu.unissued e rfl, List.append_nil]
    exact hs.asked
  · intro l version h last hlast hpost
    -- A conflict that the request for a token met: the last turn is no event.
    have hne := hu.conflict l version (congrArg Except.error h)
    have hmem : last ∈ u := by
      rw [List.getLast?_append, List.getLast?_eq_some_getLast hne, Option.some_or] at hlast
      exact Option.some.inj hlast ▸ List.getLast_mem hne
    rw [hu.not_isPost last hmem] at hpost
    cases hpost

theorem asked_of_issued (hs : Going c id question s) {issued : IssuedToken}
    (hissue : (issueToken c id).Yields u (.ok issued)) :
    s.1 ++ [issued.snapshot] =
      ((s.2 ++ u).filterMap Turn.issued?).map IssuedToken.snapshot := by
  obtain ⟨before, last, rfl, hlast, hbefore⟩ :=
    (tokenTurns hs.follow hs.mayAsk hissue).issued issued rfl
  simp [List.filterMap_append, hbefore, hlast, hs.asked]

theorem over_of_declined (hs : Going c id question s) {issued : IssuedToken}
    (hissue : (issueToken c id).Yields u (.ok issued))
    (hq : question s.1 issued.snapshot = none) (htotal : (posts s).length ≤ total) :
    Over c id question total (.ok none) (s.1 ++ [issued.snapshot], s.2 ++ u) := by
  have hu := tokenTurns hs.follow hs.mayAsk hissue
  have hposts : posts (s.1 ++ [issued.snapshot], s.2 ++ u) = posts s := posts_append hu.not_isPost
  refine ⟨hu.follow, asked_of_issued hs hissue, hposts ▸ htotal, ?_, ?_, ?_,
      fun _ _ h => by cases h⟩
  · exact ⟨fun _ => ⟨s.1, issued.snapshot, rfl, hq⟩, fun _ => rfl⟩
  · intro _
    obtain ⟨before, last, rfl, hlast, -⟩ := hu.issued issued rfl
    exact ⟨s.2 ++ before, last, issued, (List.append_assoc _ _ _).symm, hlast⟩
  · intro b
    rw [hposts]
    exact ⟨(fun h => by cases h), fun h => absurd h (hs.not_committed b)⟩

section Event

variable {issued : IssuedToken} {update : CaseUpdate}

theorem follow_event (hs : Going c id question s) (hissue : (issueToken c id).Yields u (.ok issued))
    (hq : question s.1 issued.snapshot = some update) {request : Request} {reply : Reply}
    (hr : c.request .post (eventsPath id) (some (eventBody update (.token issued.token))) =
      .ok request) :
    EachTurn (MayFollow c id question) (s.2 ++ u ++ [⟨request, reply⟩]) := by
  have hu := tokenTurns hs.follow hs.mayAsk hissue
  refine hu.follow.snoc ?_
  obtain ⟨before, last, rfl, hlast, hbefore⟩ := hu.issued issued rfl
  rw [← List.append_assoc]
  refine .event (s.2 ++ before) last issued update request reply hlast ?_ hr
  rw [List.filterMap_append, hbefore, List.append_nil, ← hs.asked]
  exact hq

theorem issued?_event {body : Option Json} {request : Request} {reply : Reply}
    (hr : c.request .post (eventsPath id) body = .ok request) :
    (⟨request, reply⟩ : Turn).issued? = none := by
  rw [Turn.issued?, isPost_of_request _ hr]
  rfl

theorem posts_event (hs : Going c id question s) (hissue : (issueToken c id).Yields u (.ok issued))
    (asked : List CaseSnapshot) {body : Option Json} {request : Request} (reply : Reply)
    (hr : c.request .post (eventsPath id) body = .ok request) :
    posts (asked, s.2 ++ u ++ [⟨request, reply⟩]) = posts s ++ [⟨request, reply⟩] := by
  have hu := tokenTurns hs.follow hs.mayAsk hissue
  have hpost : (⟨request, reply⟩ : Turn).isPost = true := isPost_of_request _ hr
  have hposts : posts (asked, s.2 ++ u) = posts s := posts_append hu.not_isPost
  rw [← hposts]
  simp [posts, hpost]

theorem going_of_stale (hs : Going c id question s)
    (hissue : (issueToken c id).Yields u (.ok issued))
    (hq : question s.1 issued.snapshot = some update) {v : List Turn} {l : CaseId} {version : Nat}
    (hpost : (postEvent c id issued.snapshot.version (.token issued.token) update).Yields v
      (.error (.conflict l version))) :
    Going c id question (s.1 ++ [issued.snapshot], s.2 ++ u ++ v) ∧
      (posts (s.1 ++ [issued.snapshot], s.2 ++ u ++ v)).length = (posts s).length + 1 ∧
      l = id ∧ version = issued.snapshot.version := by
  obtain ⟨sent, hsent, hread⟩ := sent_of_postEvent hpost
  obtain ⟨r, rfl, hr, rfl, rfl⟩ := of_read_eq_conflict hread.symm
  cases hsent with
  | answered request k _ hrequest hk =>
    obtain rfl : k = 0 := Nat.le_zero.mp hk
    have hposts := posts_event hs hissue (s.1 ++ [issued.snapshot]) (.response r) hrequest
    have hconflict : (⟨request, .response r⟩ : Turn).isConflict = true := by
      simp [Turn.isConflict, hr]
    refine ⟨⟨follow_event hs hissue hq hrequest, ?_, .conflict _ _ (isPost_of_request _ hrequest)
      hconflict, ?_, ?_⟩, ?_, rfl, rfl⟩
    · rw [asked_of_issued hs hissue]
      simp [List.filterMap_append, issued?_event hrequest]
    · intro earlier a ha hnone
      rw [question_of_append question ha, hq] at hnone
      cases hnone
    · intro post hmem
      rw [List.replicate_zero, List.nil_append, hposts] at hmem
      rcases List.mem_append.mp hmem with hmem | hmem
      · exact hs.stale post hmem
      · rw [List.mem_singleton.mp hmem]
        exact hconflict
    · rw [List.replicate_zero, List.nil_append, hposts, List.length_append]
      rfl

theorem not_declined_of_update (hq : question s.1 issued.snapshot = some update) :
    ¬ ∃ earlier a, s.1 ++ [issued.snapshot] = earlier ++ [a] ∧ question earlier a = none := by
  rintro ⟨earlier, a, ha, hnone⟩
  rw [question_of_append question ha, hq] at hnone
  cases hnone

variable {v : List Turn} {answer : Except StoreError CaseSnapshot}

theorem map_some_ne_conflict (h : ∀ l version, answer ≠ .error (.conflict l version)) (l : CaseId)
    (version : Nat) : answer.map some ≠ .error (.conflict l version) := by
  intro hmap
  cases answer with
  | ok b => cases hmap
  | error e => exact h l version (congrArg Except.error (Except.error.inj hmap))

theorem map_some_ne_none : answer.map some ≠ .ok none := by
  intro h
  cases answer <;> cases h

/-- An event that went over the wire and did not come too late. -/
theorem over_of_sent (hs : Going c id question s)
    (hissue : (issueToken c id).Yields u (.ok issued))
    (hq : question s.1 issued.snapshot = some update)
    (hanswer : ∀ l version, answer ≠ .error (.conflict l version))
    (htotal : (posts s).length + 1 ≤ total) {request : Request} {reply : Reply}
    (hr : c.request .post (eventsPath id) (some (eventBody update (.token issued.token))) =
      .ok request)
    (hdocument : (⟨request, reply⟩ : Turn).document? CaseSnapshot.decode = answer.toOption) :
    Over c id question total (answer.map some)
      (s.1 ++ [issued.snapshot], s.2 ++ u ++ [⟨request, reply⟩]) := by
  have hposts := posts_event hs hissue (s.1 ++ [issued.snapshot]) reply hr
  have hdeclined := not_declined_of_update hq
  refine ⟨follow_event hs hissue hq hr, ?_, ?_, ?_, ?_, ?_, ?_⟩
  · rw [asked_of_issued hs hissue]
    simp [List.filterMap_append, issued?_event hr]
  · rwa [hposts, List.length_append]
  · exact ⟨fun h => absurd h map_some_ne_none, fun h => absurd h hdeclined⟩
  · exact fun h => absurd h map_some_ne_none
  · intro b
    rw [hposts, List.getLast?_append, List.getLast?_singleton, Option.some_or]
    constructor
    · intro h
      cases answer with
      | error e => cases h
      | ok b' => cases h; exact ⟨_, rfl, hdocument⟩
    · rintro ⟨_, ⟨⟩, hb⟩
      rw [hdocument] at hb
      cases answer with
      | error e => cases hb
      | ok b' => cases hb; rfl
  · exact fun l version h => absurd h (map_some_ne_conflict hanswer l version)

theorem over_of_unsent (hs : Going c id question s)
    (hissue : (issueToken c id).Yields u (.ok issued))
    (hq : question s.1 issued.snapshot = some update) {l : CaseId} {reason : String}
    (htotal : (posts s).length + 1 ≤ total) :
    Over c id question total (.error (.unavailable l reason))
      (s.1 ++ [issued.snapshot], s.2 ++ u) := by
  have hu := tokenTurns hs.follow hs.mayAsk hissue
  have hposts : posts (s.1 ++ [issued.snapshot], s.2 ++ u) = posts s := posts_append hu.not_isPost
  exact over_of_error hu.follow (asked_of_issued hs hissue) (hposts ▸ Nat.le_of_succ_le htotal)
    (not_declined_of_update hq) (hposts ▸ hs.not_committed) fun _ _ h => by cases h

theorem over_of_event (hs : Going c id question s)
    (hissue : (issueToken c id).Yields u (.ok issued))
    (hq : question s.1 issued.snapshot = some update)
    (hpost : (postEvent c id issued.snapshot.version (.token issued.token) update).Yields v answer)
    (hanswer : ∀ l version, answer ≠ .error (.conflict l version))
    (htotal : (posts s).length + 1 ≤ total) :
    Over c id question total (answer.map some) (s.1 ++ [issued.snapshot], s.2 ++ u ++ v) := by
  obtain ⟨sent, hsent, rfl⟩ := sent_of_postEvent hpost
  cases hsent with
  | unsendable e _ =>
    rw [List.append_nil]
    exact over_of_unsent hs hissue hq htotal
  | dropped request cause hr => exact over_of_sent hs hissue hq hanswer htotal hr rfl
  | answered request k r hr hk =>
    obtain rfl : k = 0 := Nat.le_zero.mp hk
    exact over_of_sent hs hissue hq hanswer htotal hr (toOption_read request).symm

end Event

/-- A transaction that is given up has had as many events as it may. -/
theorem over_of_gaveUp {l : CaseId} {version : Nat} (hs : Going c id question s)
    (htotal : (posts s).length = total) (hl : l = id)
    (ha : ∃ earlier a, s.1 = earlier ++ [a] ∧ version = a.version) :
    Over c id question total (.error (.conflict l version)) s := by
  refine over_of_error hs.follow hs.asked (Nat.le_of_eq htotal) hs.not_declined hs.not_committed ?_
  rintro _ _ ⟨⟩ last _ _
  exact ⟨htotal, hs.stale, hl, ha⟩

/-- An attempt ends the transaction, or it has had one more event, which came too late. -/
theorem attempted_cases {attempted : Attempt} (h : Attempted c id (ask question) s attempted t)
    (hs : Going c id question s) :
    (∃ l version, attempted = .stale (.conflict l version) ∧ Going c id question t ∧
      (posts t).length = (posts s).length + 1 ∧ l = id ∧
      ∃ earlier a, t.1 = earlier ++ [a] ∧ version = a.version) ∨
    ∃ answer, attempted = .ended answer ∧
      ∀ total, (posts s).length + 1 ≤ total → Over c id question total answer t := by
  cases h with
  | noToken e u hissue =>
    exact .inr ⟨_, rfl, fun total ht => over_of_noToken hs hissue (Nat.le_of_succ_le ht)⟩
  | declined issued u t hissue hq =>
    obtain ⟨hask, rfl⟩ := run_ask hq
    exact .inr ⟨_, rfl, fun total ht => over_of_declined hs hissue hask.symm (Nat.le_of_succ_le ht)⟩
  | posted issued u update t v answer hissue hq hpost =>
    obtain ⟨hask, rfl⟩ := run_ask hq
    cases hof : Attempt.ofPost answer with
    | stale e =>
      obtain ⟨l, version, rfl, rfl⟩ := Attempt.ofPost_eq_stale hof
      obtain ⟨hgoing, hlength, hl, hversion⟩ := going_of_stale hs hissue hask.symm hpost
      exact .inl ⟨l, version, rfl, hgoing, hlength, hl, s.1, issued.snapshot, rfl, hversion⟩
    | ended ended =>
      obtain ⟨rfl, hanswer⟩ := Attempt.ofPost_eq_ended hof
      exact .inr ⟨_, rfl, fun total ht => over_of_event hs hissue hask.symm hpost hanswer ht⟩

theorem over_of_transacted {n : Nat} {answer : Except StoreError (Option CaseSnapshot)}
    (h : Transacted c id (ask question) n s answer t) (hs : Going c id question s) :
    Over c id question ((posts s).length + n + 1) answer t := by
  -- An attempt that came too late costs one event and one of the attempts left: the bound stays.
  induction h with
  | ended n s answer t ha =>
    rcases attempted_cases ha hs with ⟨l, version, hstale, -⟩ | ⟨ended, hended, hover⟩
    · cases hstale
    · cases hended
      exact hover _ (by omega)
  | gaveUp s e t ha =>
    rcases attempted_cases ha hs with ⟨l, version, hstale, hgoing, hlength, hl, hv⟩ | ⟨_, h, -⟩
    · cases hstale
      exact over_of_gaveUp hgoing hlength hl hv
    · cases h
  | again n s e t answer u ha _ ih =>
    rcases attempted_cases ha hs with ⟨l, version, hstale, hgoing, hlength, -⟩ | ⟨_, h, -⟩
    · have hover := ih hgoing
      rwa [hlength, show (posts s).length + 1 + n + 1 = (posts s).length + (n + 1) + 1 by omega]
        at hover
    · cases h

theorem length_of_issueToken {answer : Except StoreError IssuedToken}
    (h : (issueToken c id).Yields u answer) : u.length ≤ c.maxRetries + 1 := by
  obtain ⟨sent, hsent, -⟩ := sent_of_issueToken h
  exact hsent.length_le

theorem length_of_attempted {attempted : Attempt}
    (h : Attempted c id (ask question) s attempted t) :
    t.2.length ≤ s.2.length + (c.maxRetries + 2) := by
  cases h with
  | noToken e u hissue =>
    have hu := length_of_issueToken hissue
    have ht : (s.2 ++ u).length = s.2.length + u.length := List.length_append
    exact ht ▸ by omega
  | declined issued u t hissue hq =>
    have hu := length_of_issueToken hissue
    obtain ⟨-, rfl⟩ := run_ask hq
    have ht : (s.2 ++ u).length = s.2.length + u.length := List.length_append
    exact ht ▸ by omega
  | posted issued u update t v answer hissue hq hpost =>
    have hu := length_of_issueToken hissue
    obtain ⟨sent, hsent, -⟩ := sent_of_postEvent hpost
    have hv := hsent.length_le
    obtain ⟨-, rfl⟩ := run_ask hq
    have ht : (s.2 ++ u ++ v).length = s.2.length + u.length + v.length := by
      rw [List.length_append, List.length_append]
    exact ht ▸ by omega

theorem length_of_transacted {n : Nat} {answer : Except StoreError (Option CaseSnapshot)}
    (h : Transacted c id (ask question) n s answer t) :
    t.2.length ≤ s.2.length + (n + 1) * (c.maxRetries + 2) := by
  induction h with
  | ended n s answer t ha =>
    have hlength := length_of_attempted ha
    rw [Nat.succ_mul]
    omega
  | gaveUp s e t ha => simpa using length_of_attempted ha
  | again n s e t answer u ha _ ih =>
    have hlength := length_of_attempted ha
    rw [Nat.succ_mul]
    omega

theorem going_start : Going c id question ([], []) where
  follow := eachTurn_nil
  asked := rfl
  mayAsk := .first
  undeclined earlier a h := by simp at h
  stale post h := by cases h

theorem over_of_noRuntime : Over c id question total (.error (noRuntime id)) ([], []) := by
  have h : Going c id question ([], []) := going_start
  exact over_of_error h.follow h.asked (Nat.zero_le _) h.not_declined h.not_committed
    fun _ _ h => by cases h

variable (c id question) in
theorem over_of_transaction (script : List Reply) :
    Over c id question (c.maxRetries + 1) ((transaction c id question).run script).1.1
        (((transaction c id question).run script).1.2,
          (transaction c id question).transcript script) ∧
      ((transaction c id question).transcript script).length ≤
        (c.maxRetries + 1) * (c.maxRetries + 2) := by
  have h : Run (transact c id (ask question)) ([], [])
      ((transaction c id question).run script).1.1
      (((transaction c id question).run script).1.2,
        (transaction c id question).transcript script) :=
    ⟨_, rfl, Exchange.yields_transcript (transaction c id question) script⟩
  generalize ((transaction c id question).run script).1 = ended at h ⊢
  generalize (transaction c id question).transcript script = turns at h ⊢
  unfold transact at h
  by_cases hrun : c.hasRuntime = true
  · rw [if_pos hrun] at h
    have ht := transacted_of_run h
    have hover := over_of_transacted ht going_start
    have hlength := length_of_transacted ht
    exact ⟨by simpa [posts] using hover, by simpa using hlength⟩
  · rw [if_neg hrun] at h
    obtain ⟨hanswer, hstate⟩ := Runs.of_pure h
    obtain ⟨hasked, rfl⟩ := Prod.mk.inj hstate
    rw [hanswer, hasked]
    exact ⟨over_of_noRuntime, Nat.zero_le _⟩

/-- Whatever the server answers and whatever the question has, a transaction comes to an end. Every
turn follows those before it as it may, so each event carries the token of the turn right before it
and what the question had for the case there. The question is put once for each token that came, on
its case. Nothing was to be written just where it said so when it was put last, and something was
written just where the last event was answered with it. A conflict of an event is told when there
were as many events as there may be and all of them came too late. -/
theorem transaction_turns (c : Client) (id : CaseId) (question : Question) (script : List Reply) :
    ∃ turns answer asked, (transaction c id question).transcript script = turns ∧
      (transaction c id question).run script = ((answer, asked), turns.map Turn.request) ∧
      turns.length ≤ (c.maxRetries + 1) * (c.maxRetries + 2) ∧
      (turns.filter Turn.isPost).length ≤ c.maxRetries + 1 ∧
      (∀ before t after, turns = before ++ t :: after → MayFollow c id question before t) ∧
      asked = (turns.filterMap Turn.issued?).map IssuedToken.snapshot ∧
      (answer = .ok none ↔ ∃ earlier a, asked = earlier ++ [a] ∧ question earlier a = none) ∧
      (answer = .ok none → ∃ before last issued, turns = before ++ [last] ∧
        last.issued? = some issued) ∧
      (∀ b, answer = .ok (some b) ↔ ∃ post, (turns.filter Turn.isPost).getLast? = some post ∧
        post.document? CaseSnapshot.decode = some b) ∧
      ∀ l version, answer = .error (.conflict l version) →
        ∀ last, turns.getLast? = some last → last.isPost = true →
          (turns.filter Turn.isPost).length = c.maxRetries + 1 ∧
          (∀ post ∈ turns.filter Turn.isPost, post.isConflict = true) ∧ l = id ∧
          ∃ earlier a, asked = earlier ++ [a] ∧ version = a.version := by
  obtain ⟨hover, hlength⟩ := over_of_transaction c id question script
  refine ⟨_, _, _, rfl, ?_, hlength, hover.posts_le, hover.follow, hover.asked, hover.declined_iff,
    hover.declined_last, hover.committed_iff, hover.conflict⟩
  rw [Exchange.transcript_requests]

end CaseServer

end HearingSync
