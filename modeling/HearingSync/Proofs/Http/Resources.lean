import HearingSync.Proofs.Http.FailedFetches
import HearingSync.Proofs.Url.OwnSegment
/-!
Where the requests for hearings and cases go. Main statement: a request names the resource of an id,
below the path of the base, exactly when the id is read as one segment that stands for it; requests
for two such ids go to two resources. A request for an id with slashes follows, which goes to a case
in place of a hearing.
-/

namespace HearingSync

inductive Resource where
  | hearing (id : HearingId)
  | case (id : CaseId)
  | token (id : CaseId)
  | events (id : CaseId)
  deriving DecidableEq

namespace Resource

def id : Resource → String
  | hearing id => id.text
  | case id => id.text
  | token id => id.text
  | events id => id.text

def root : Resource → String
  | hearing _ => "hearing"
  | case _ => "cases"
  | token _ => "cases"
  | events _ => "cases"

def rest : Resource → List String
  | hearing _ => []
  | case _ => []
  | token _ => ["event-token"]
  | events _ => ["events"]

def method : Resource → Method
  | events _ => .post
  | _ => .get

def path : Resource → String
  | hearing id => "hearing/" ++ id.text
  | case id => CaseServer.casePath id
  | token id => CaseServer.tokenPath id
  | events id => CaseServer.eventsPath id

/-- The client may send that request for the resource, whatever replies it gets. -/
inductive Sends (c : Client) : Resource → Request → Prop where
  | hearing (id : HearingId) (script : List Reply) (request : Request) :
      request ∈ ((c.hearing id).run.run script).2 → Sends c (.hearing id) request
  | case (id : CaseId) (script : List Reply) (request : Request) :
      request ∈ ((CaseServer.fetch c id).run script).2 → Sends c (.case id) request
  | token (id : CaseId) (script : List Reply) (request : Request) :
      request ∈ ((CaseServer.issueToken c id).run script).2 → Sends c (.token id) request
  | events (id : CaseId) (base : Nat) (submission : Submission) (update : CaseUpdate)
      (script : List Reply) (request : Request) :
      request ∈ ((CaseServer.postEvent c id base submission update).run script).2 →
      Sends c (.events id) request

variable {c : Client} {r : Resource} {request : Request}

theorem exists_turn {α : Type} {x : Exchange α} {script : List Reply}
    (h : request ∈ (x.run script).2) : ∃ u t, x.Yields u (x.run script).1 ∧ t ∈ u ∧
      t.request = request := by
  rw [← Exchange.transcript_requests] at h
  obtain ⟨t, ht, rfl⟩ := List.mem_map.mp h
  exact ⟨_, t, Exchange.yields_transcript x script, ht, rfl⟩

theorem request_of_send {α : Type} {f : Except String Response → α} {method : Method}
    {path : String} {body : Option Json} {script : List Reply}
    (h : request ∈ ((do return f (← c.send method path body) : Exchange α).run script).2) :
    c.request method path body = .ok request := by
  obtain ⟨u, t, hu, ht, rfl⟩ := exists_turn h
  obtain ⟨answer, hsend, -⟩ := Exchange.yields_return hu
  exact (Client.sent_of_send hsend).request ht

/-- What is sent for a resource is the request for its path. -/
theorem Sends.request_eq (h : Sends c r request) :
    ∃ body, c.request r.method r.path body = .ok request := by
  cases h with
  | hearing id script _ h =>
    by_cases hruntime : c.hasRuntime = true
    · rw [Client.run_hearing hruntime] at h
      exact ⟨_, request_of_send h⟩
    · rw [Client.run_hearing_of_noRuntime hruntime] at h
      cases h
  | case id script _ h =>
    unfold CaseServer.fetch at h
    by_cases hruntime : c.hasRuntime = true
    · rw [if_pos hruntime] at h
      exact ⟨_, request_of_send h⟩
    · rw [if_neg hruntime] at h
      cases h
  | token id script _ h => exact ⟨_, request_of_send h⟩
  | events id base submission update script _ h =>
    obtain ⟨u, t, hu, ht, rfl⟩ := exists_turn h
    obtain ⟨answer, hsend, -⟩ := Exchange.yields_return hu
    exact ⟨_, (Client.sent_of_sendOnce hsend).request ht⟩

/-- The segments around an id are read as they are. -/
theorem isRead_word {x : String} (h : x ∈ ["hearing", "cases", "event-token", "events"]) :
    Url.IsRead x := by
  simp only [List.mem_cons, List.not_mem_nil, or_false] at h
  rcases h with rfl | rfl | rfl | rfl <;>
    exact Url.isRead_of_all (by decide) (by decide) (by decide)

theorem isRead_root (r : Resource) : Url.IsRead r.root := by
  apply isRead_word
  cases r <;> simp [root]

theorem isRead_rest (r : Resource) : ∀ x ∈ r.rest, Url.IsRead x := by
  intro x hx
  apply isRead_word
  cases r <;> simp_all [rest]

theorem toList_path (r : Resource) :
    r.path.toList = r.root.toList ++ '/' :: (r.id.toList ++ Url.pathChars r.rest) := by
  cases r <;> simp [path, root, id, rest, Url.pathChars, CaseServer.casePath, CaseServer.tokenPath,
    CaseServer.eventsPath]

theorem id_ne_nil (r : Resource) : r.id.toList ≠ [] := by
  cases r <;> rename_i id <;> simpa [Resource.id] using id.nonempty

theorem dropWhile_path (r : Resource) : r.path.toList.dropWhile (· == '/') = r.path.toList := by
  rw [toList_path]
  cases r <;> simp [root]

end Resource

namespace Url

/-- The segments of a base that paths are put below: those that it has, without the empty ones at
their end. -/
def floor (u : Url) : List String :=
  match u.path with
  | .rooted segments => stem segments
  | .plain _ => []

end Url

namespace Client

variable {c : Client} {method : Method} {path : String} {body : Option Json} {request : Request}

def server? (c : Client) : Option Url.Authority :=
  match Url.parse c.base.text with
  | .ok root => (addressed root c.headers).1.authority
  | .error _ => none

theorem request_eq_ok (h : c.request method path body = .ok request) :
    ∃ named, Url.parse (Url.join c.base path) = .ok named ∧
      request.url = (addressed named c.headers).1 ∧ isSendable request.url = true := by
  cases hp : Url.parse (Url.join c.base path) with
  | error e =>
    unfold Client.request at h
    rw [hp] at h
    cases h
  | ok named =>
    rw [request_of_parse hp] at h
    split at h
    · rename_i hsend
      cases h
      exact ⟨named, rfl, rfl, hsend⟩
    · cases h

/-- Credentials are all that is taken from a URL. -/
theorem addressed_cases (url : Url) (headers : List (String × String)) :
    (addressed url headers).1 = url ∨ (addressed url headers).1 = url.withoutCredentials := by
  unfold addressed
  cases loginOf? url with
  | none => exact .inl rfl
  | some login => exact .inr rfl

theorem addressed_authority {url other : Url} (h : url.authority = other.authority)
    (headers : List (String × String)) :
    (addressed url headers).1.authority = (addressed other headers).1.authority := by
  have hlogin : loginOf? url = loginOf? other := by rw [loginOf?, loginOf?, h]
  unfold addressed
  rw [hlogin]
  cases loginOf? other with
  | none => exact h
  | some login => simp only [Url.withoutCredentials, h]

theorem scheme_of_isSendable {url : Url} (h : isSendable url = true) :
    url.scheme = "http" ∨ url.scheme = "https" := by
  simp only [isSendable, Bool.and_eq_true, List.contains_eq_mem, decide_eq_true_eq, List.mem_cons,
    List.not_mem_nil, or_false] at h
  exact h.1.1

end Client

namespace Resource

variable {c : Client} {r : Resource} {request : Request}

/-- Where a request for a resource goes, and what it names there. -/
theorem addressed_of_sends {s : String} (hbase : Url.parse s = .ok c.base)
    (hquery : c.base.query = none) (hfragment : c.base.fragment = none)
    (h : Sends c r request) :
    request.method = r.method ∧ request.url.scheme = c.base.scheme ∧
    request.url.authority = c.server? ∧
    (request.url.Holds (c.base.floor ++ [r.root]) r.id r.rest ↔
      Url.IsOwnSegment r.id.toList r.rest) := by
  obtain ⟨body, hrequest⟩ := h.request_eq
  obtain ⟨named, hnamed, hurl, hsend⟩ := Client.request_eq_ok hrequest
  have hsame : request.url.scheme = named.scheme ∧ request.url.path = named.path ∧
      request.url.query = named.query ∧ request.url.fragment = named.fragment := by
    rw [hurl]
    rcases Client.addressed_cases named c.headers with h | h <;> rw [h] <;>
      exact ⟨rfl, rfl, rfl, rfl⟩
  have hscheme := Url.scheme_of_parse_join hbase hnamed
  have hweb := Client.scheme_of_isSendable hsend
  rw [hsame.1, hscheme] at hweb
  obtain ⟨a, segments, hisweb⟩ := Url.isWeb_of_parse hbase hweb
  have hfloor : c.base.floor = Url.stem segments := by rw [Url.floor, hisweb.path]
  rw [hisweb.parse_join hquery hfragment, dropWhile_path, toList_path] at hnamed
  refine ⟨Client.request_method hrequest, hsame.1.trans hscheme, ?_, ?_⟩
  · obtain ⟨p, hp, hfinish⟩ := Url.below_eq_ok hnamed
    have hroot := hisweb.parse_text hquery hfragment
    rw [hp] at hroot
    rw [hurl, Client.server?, hroot]
    exact Client.addressed_authority (by rw [← hfinish]; rfl) c.headers
  · have hholds := Url.holds_iff r.isRead_root r.isRead_rest r.id_ne_nil hnamed
    rw [String.ofList_toList] at hholds
    rw [hfloor, ← hholds, Url.Holds, Url.Holds, hsame.2.1, hsame.2.2.1, hsame.2.2.2]

/-- Two resources under one path are one. -/
theorem eq_of_holds {r₁ r₂ : Resource} {u₁ u₂ : Url} {segments : List String}
    (h₁ : u₁.Holds (segments ++ [r₁.root]) r₁.id r₁.rest)
    (h₂ : u₂.Holds (segments ++ [r₂.root]) r₂.id r₂.rest) (hpath : u₁.path = u₂.path) :
    r₁ = r₂ := by
  obtain ⟨segment₁, hpath₁, hid₁, -, -⟩ := h₁
  obtain ⟨segment₂, hpath₂, hid₂, -, -⟩ := h₂
  rw [hpath₁, hpath₂] at hpath
  have hlist := Url.Path.rooted.inj hpath
  rw [List.append_assoc, List.append_assoc, List.append_cancel_left_eq] at hlist
  obtain ⟨hroot, hlist⟩ := List.cons.inj hlist
  obtain ⟨rfl, hrest⟩ := List.cons.inj hlist
  have hid : r₁.id = r₂.id := Option.some.inj (hid₁.symm.trans hid₂)
  cases r₁ <;> cases r₂ <;> simp_all [root, rest, id, Identifier.ext_iff]

/-- The ids that are read as a segment of their own, and no others, are what their requests name;
where a request goes does not depend on the id; and requests for two such ids go to two paths. -/
theorem requests_name_ids (c : Client) (s : String) (hbase : Url.parse s = .ok c.base)
    (hquery : c.base.query = none) (hfragment : c.base.fragment = none) :
    (∀ r request, Sends c r request →
      request.method = r.method ∧ request.url.scheme = c.base.scheme ∧
      request.url.authority = c.server? ∧
      (request.url.Holds (c.base.floor ++ [r.root]) r.id r.rest ↔
        Url.IsOwnSegment r.id.toList r.rest)) ∧
    ∀ r₁ r₂ request₁ request₂, Sends c r₁ request₁ → Sends c r₂ request₂ →
      Url.IsOwnSegment r₁.id.toList r₁.rest → Url.IsOwnSegment r₂.id.toList r₂.rest →
      request₁.url.path = request₂.url.path → r₁ = r₂ := by
  refine ⟨fun r request => addressed_of_sends hbase hquery hfragment, ?_⟩
  intro r₁ r₂ request₁ request₂ h₁ h₂ hown₁ hown₂ hpath
  obtain ⟨-, -, -, hholds₁⟩ := addressed_of_sends hbase hquery hfragment h₁
  obtain ⟨-, -, -, hholds₂⟩ := addressed_of_sends hbase hquery hfragment h₂
  exact eq_of_holds (hholds₁.mpr hown₁) (hholds₂.mpr hown₂) hpath

section Strays

open Traffic (plainClient plainRequest serverUrl)

theorem parse_serverUrl : Url.parse "http://ccd" = .ok (serverUrl [""]) := by
  have hparse : (Url.parse "http://ccd").toOption = some (serverUrl [""]) := by decide +kernel
  cases hp : Url.parse "http://ccd" with
  | error e => rw [hp] at hparse; cases hparse
  | ok u =>
    rw [hp] at hparse
    rw [Option.some.inj hparse]

/-- A request for a hearing goes out where the client can make one. -/
theorem sends_hearing {c : Client} {id : HearingId} {request : Request}
    (hruntime : c.hasRuntime = true)
    (h : c.request .get ("hearing/" ++ id.text) none = .ok request) :
    Sends c (.hearing id) request := by
  apply Sends.hearing id [.response ⟨200, ""⟩]
  have hrun := Client.run_hearing_of_response (k := 0) hruntime h (Nat.zero_le _) ⟨200, ""⟩ []
  rw [List.replicate_zero, List.nil_append] at hrun
  rw [hrun]
  exact List.mem_singleton_self request

/-- An id with a blank, and a percent sign that starts no escape. -/
def oddHearing : HearingId := ⟨"5 3%", by decide, by decide⟩

theorem oddHearing_sent :
    Sends plainClient (.hearing oddHearing) (plainRequest .get ["hearing", "5%203%"] none) :=
  sends_hearing rfl (Traffic.plainClient_request .get none (by decide +kernel) (by decide +kernel)
    (by decide +kernel))

theorem oddHearing_isOwnSegment : Url.IsOwnSegment oddHearing.text.toList [] := by
  decide +kernel

theorem requests_name_ids_odd :
    Url.parse "http://ccd" = .ok plainClient.base ∧ plainClient.base.query = none ∧
    plainClient.base.fragment = none ∧
    Sends plainClient (.hearing oddHearing) (plainRequest .get ["hearing", "5%203%"] none) ∧
    (plainRequest .get ["hearing", "5%203%"] none).url.Holds
      (plainClient.base.floor ++ ["hearing"]) oddHearing.text [] := by
  obtain ⟨hnames, -⟩ := requests_name_ids plainClient "http://ccd" parse_serverUrl rfl rfl
  obtain ⟨-, -, -, hholds⟩ := hnames _ _ oddHearing_sent
  exact ⟨parse_serverUrl, rfl, rfl, oddHearing_sent, hholds.mpr oddHearing_isOwnSegment⟩

/-- An id that leads out of the hearings, to a case. -/
def strayHearing : HearingId := ⟨"../cases/43", by decide, by decide⟩

/-- A request for a hearing may go to a case. -/
theorem requests_stray : ¬∀ (c : Client) (s : String), Url.parse s = .ok c.base →
    c.base.query = none → c.base.fragment = none → ∀ r request, Sends c r request →
      request.url.Holds (c.base.floor ++ [r.root]) r.id r.rest := by
  intro hnames
  have hsent : Sends plainClient (.hearing strayHearing) (plainRequest .get ["cases", "43"] none) :=
    sends_hearing rfl (Traffic.plainClient_request .get none (by decide +kernel)
      (by decide +kernel) (by decide +kernel))
  obtain ⟨segment, hpath, -⟩ := hnames plainClient "http://ccd" parse_serverUrl rfl rfl _ _ hsent
  have hfloor : plainClient.base.floor = [] := rfl
  rw [hfloor] at hpath
  obtain ⟨hroot, -⟩ := List.cons.inj (Url.Path.rooted.inj hpath)
  exact absurd hroot (by decide)

end Strays

end Resource

end HearingSync
