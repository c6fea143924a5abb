import HearingSync.Proofs.CaseServer.Registry
/-!
What a program makes sure of when others send their requests in between its own. Between two of its
requests the registry may go on in any way that it can. Main statement: reads, sent again as often
as they may be, show a snapshot and have no event taken; an event that is sent has itself taken on
top of the snapshot that it was computed from, or nothing.
-/

namespace HearingSync

variable {α β : Type} (route : Request → Option Endpoint) (allowed : Accepted → Prop)

/-- However the requests are answered, at most one event of the program is taken, it is an allowed
one, and the program ends in a result that fits: `post` is told the registry, the event of the
program that was taken, and the result. -/
def Exchange.Ensures (post : Registry → Option Accepted → α → Prop) :
    Exchange α → Registry → Option Accepted → Prop
  | .done a, s, own => post s own a
  | .send request next, s, own => ∀ t, s.Precedes t → ∀ reply u,
    (t.Answers route request reply none u → Ensures post (next reply) u own) ∧
    ∀ e, t.Answers route request reply (some e) u →
      own = none ∧ allowed e ∧ Ensures post (next reply) u (some e)

namespace Exchange

variable {route allowed} {s t : Registry} {own : Option Accepted}
  {post : Registry → Option Accepted → α → Prop}
  {after : Registry → Option Accepted → β → Prop}

theorem ensures_done {a : α} :
    (done a).Ensures route allowed post s own ↔ post s own a := Iff.rfl

theorem ensures_send {request : Request} {next : Reply → Exchange α} :
    (send request next).Ensures route allowed post s own ↔
      ∀ t, s.Precedes t → ∀ reply u,
        (t.Answers route request reply none u → (next reply).Ensures route allowed post u own) ∧
        ∀ e, t.Answers route request reply (some e) u →
          own = none ∧ allowed e ∧ (next reply).Ensures route allowed post u (some e) := Iff.rfl

attribute [irreducible] Exchange.Ensures

theorem Ensures.bind {x : Exchange α} {f : α → Exchange β}
    (h : x.Ensures route allowed post s own)
    (hf : ∀ t own a, post t own a → (f a).Ensures route allowed after t own) :
    (x >>= f).Ensures route allowed after s own := by
  induction x generalizing s own with
  | done a => exact hf s own a (ensures_done.mp h)
  | send request next ih =>
    refine ensures_send.mpr fun t hst reply u => ?_
    obtain ⟨hnone, hsome⟩ := ensures_send.mp h t hst reply u
    refine ⟨fun ha => ih reply (hnone ha), ?_⟩
    intro e ha
    obtain ⟨hown, he, hnext⟩ := hsome e ha
    exact ⟨hown, he, ih reply hnext⟩

theorem Ensures.map {x : Exchange α} {f : α → β} (h : x.Ensures route allowed post s own)
    (hf : ∀ t own a, post t own a → after t own (f a)) :
    (f <$> x).Ensures route allowed after s own :=
  h.bind fun t own a ha => ensures_done.mpr (hf t own a ha)

/-- Others going first takes nothing away from a program that is to send a request or does not mind
the registry at its end. -/
theorem Ensures.later {x : Exchange α} (h : x.Ensures route allowed post s own)
    (hst : s.Precedes t) (hpost : ∀ own a, post s own a → post t own a) :
    x.Ensures route allowed post t own := by
  cases x with
  | done a => exact ensures_done.mpr (hpost own a (ensures_done.mp h))
  | send request next =>
    exact ensures_send.mpr fun u htu => ensures_send.mp h u (hst.trans htu)

end Exchange

end HearingSync
