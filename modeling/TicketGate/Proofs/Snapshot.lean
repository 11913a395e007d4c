import TicketGate.Proofs.Acceptance
import TicketGate.Proofs.Clock
import TicketGate.Ticket.Info

namespace TicketGate

namespace Json

theorem field?_nil (name : String) : field? [] name = none := rfl

theorem field?_cons (key : String) (value : Json) (fs : List (String × Json)) (name : String) :
    field? ((key, value) :: fs) name = if name = key then some value else field? fs name := by
  rw [field?, List.lookup_cons]
  by_cases hn : name = key
  · simp [hn]
  · simp [hn, beq_false_of_ne hn, field?]

theorem field?_append (fs fs' : List (String × Json)) (name : String) :
    field? (fs ++ fs') name = (field? fs name).or (field? fs' name) := List.lookup_append

theorem field?_insertField (key : String) (value : Json) (fs : List (String × Json))
    (name : String) :
    field? (insertField key value fs) name = if name = key then some value else field? fs name := by
  induction fs with
  | nil => rw [insertField, field?_cons]
  | cons f fs ih =>
    obtain ⟨k, v⟩ := f
    rw [insertField]
    split
    · rw [field?_cons]
    · split
      · next hk =>
        subst hk
        simp only [field?_cons]
        split <;> rfl
      · next hk =>
        simp only [field?_cons, ih]
        split
        · next hn => rw [if_neg (hn ▸ hk)]
        · rfl

theorem field?_foldl_insertField (fields fs : List (String × Json)) (name : String) :
    field? (fields.foldl (fun fs f => insertField f.1 f.2 fs) fs) name =
      (field? fields.reverse name).or (field? fs name) := by
  induction fields generalizing fs with
  | nil => rfl
  | cons f fields ih =>
    rw [List.foldl_cons, ih, field?_insertField, List.reverse_cons, field?_append, field?_cons,
      field?_nil, Option.or_assoc]
    split <;> rfl

theorem ofFields_eq (fields : List (String × Json)) :
    ∃ fs, ofFields fields = object fs ∧ ∀ name, field? fs name = field? fields.reverse name := by
  refine ⟨_, rfl, fun name => ?_⟩
  rw [field?_foldl_insertField, field?_nil, Option.or_none]

end Json

/-- Terms that a record can set. -/
structure Terms.Sound (x : Terms) : Prop where
  size : x.size ≤ maxWord
  access : x.access ≠ [] ∧ x.access.Nodup
  timeout : x.timeout ≤ maxWord
  inactivityTimeout : x.inactivityTimeout ≤ maxWord
  scheme : x.url.scheme ∈ Grant.supportedSchemes

namespace Ticket.Info

/-- The grant of a record that says what a snapshot says. -/
def grant (i : Info) : Grant where
  uuid := i.terms.uuid
  size := i.terms.size
  access := i.terms.access
  timeout := i.terms.timeout
  url := i.terms.url
  inactivityTimeout := some i.terms.inactivityTimeout
  transferId := i.transferId
  filename := i.terms.filename
  sparse := i.terms.sparse
  dirty := i.terms.dirty

theorem reverse_optional (name : String) (o : Option Json) :
    (optional name o).reverse = optional name o := by
  cases o <;> rfl

theorem field?_optional (key : String) (o : Option Json) (name : String) :
    Json.field? (optional key o) name = if name = key then o else none := by
  cases o with
  | none => simp [optional, Json.field?_nil]
  | some v => rw [optional, Json.field?_cons, Json.field?_nil]

theorem describes_grant (i : Info) (hi : i.terms.Sound) {parse : String → Except Url.Flaw Url}
    (hurl : parse i.terms.url.text = .ok i.terms.url) :
    ∃ fs, i.toJson = .object fs ∧ i.grant.Describes parse fs := by
  obtain ⟨fs, hfs, hfield⟩ := Json.ofFields_eq _
  refine ⟨fs, hfs, ?_⟩
  simp only [List.reverse_append, reverse_optional, List.reverse_cons, List.reverse_nil,
    Json.field?_append, Json.field?_cons, Json.field?_nil, field?_optional] at hfield
  exact {
    uuid := by simp [hfield, grant]
    size := ⟨hi.size, by simp [hfield, grant]⟩
    access := ⟨hi.access.1, hi.access.2, by simp [hfield, grant, Grant.accessNames]⟩
    timeout := ⟨hi.timeout, by simp [hfield, grant]⟩
    inactivityTimeout := ⟨by simpa [grant] using hi.inactivityTimeout, by simp [hfield, grant]⟩
    url := ⟨i.terms.url.text, by simp [hfield], hurl, hi.scheme⟩
    transferId := by simp [hfield, grant]
    filename := by simp [hfield, grant]
    sparse := by simp [hfield, grant]
    dirty := by simp [hfield, grant] }

end Ticket.Info

theorem Grant.Describes.sound {parse : String → Except Url.Flaw Url} {fs : Grant.Fields}
    {grant : Grant} (h : grant.Describes parse fs) {config : Config}
    (hc : config.inactivityTimeout ≤ maxWord) : (Terms.ofGrant config grant).Sound := by
  obtain ⟨_, -, -, hscheme⟩ := h.url
  refine ⟨h.size.1, ⟨h.access.1, h.access.2.1⟩, h.timeout.1, ?_, hscheme⟩
  cases hi : grant.inactivityTimeout with
  | none => simpa [Terms.ofGrant, hi] using hc
  | some n => simpa [Terms.ofGrant, hi] using h.inactivityTimeout.1 n hi

/-- Settings leave nothing open in the grant of a snapshot, unless its transfer id is empty. -/
theorem Terms.ofGrant_grant (config : Config) (i : Ticket.Info) :
    ofGrant config i.grant = { i.terms with
      transferId := if i.terms.transferId = "" then
          "(ticket/" ++ String.ofList (i.terms.uuid.toList.take 18) ++ ")"
        else i.terms.transferId } := by
  by_cases ht : i.terms.transferId = "" <;>
    simp [ofGrant, derivedTransferId, Ticket.Info.grant, Ticket.Info.transferId, ht]

namespace Gate

variable {g g' : Gate} {t : TicketId} {a : Ticket} {e : Event} {out : Outcome} {h : List Moment}
  {config : Config} {clock : Nat}

theorem step_terms_sound (hs : g.step? e = some out) (hc : g.config.inactivityTimeout ≤ maxWord)
    (hg : ∀ a, g.ticket? t = some a → a.terms.Sound) (ha : out.gate.ticket? t = some a) :
    a.terms.Sound := by
  cases hb : g.ticket? t with
  | some b =>
    obtain rfl := Option.some.inj ((step_ticket (step_of_step? hs) hb).symm.trans ha)
    cases g.change? t b e with
    | none => exact hg b hb
    | some x => exact (Ticket.after_terms b x).symm ▸ hg b hb
  | none =>
    obtain ⟨record, grant, -, hok, -, rfl⟩ := granted_of_new hs hb ha
    obtain ⟨fs, rfl⟩ := Grant.object_of_ok hok
    exact (Grant.ofJson_object_eq_ok_iff.mp hok).sound hc

theorem Run.terms_sound (r : Run (initial config clock) h g)
    (hc : config.inactivityTimeout ≤ maxWord) (ha : g.ticket? t = some a) : a.terms.Sound := by
  induction r generalizing a with
  | refl => simp [initial, ticket?] at ha
  | step r hs ih => exact step_terms_sound hs (r.config_eq ▸ hc) (fun b hb => ih hb) ha

/-- The snapshot of a ticket is a good record, whatever has become of the ticket. A gate with any
settings, at any time, gives out a ticket of the same terms for it; only in the place of an empty
transfer id it puts one that is made of the first eighteen characters of the uuid. -/
theorem Run.snapshot_reissued (r : Run (initial config clock) h g)
    (hc : config.inactivityTimeout ≤ maxWord) (ha : g.ticket? t = some a)
    (hurl : Url.parse a.terms.url.text = .ok a.terms.url) :
    (∃ grant, Grant.ofJson Url.parse (a.info g.seconds g.progress).toJson = .ok grant) ∧
    ∀ g' : Gate, ∃ out b,
      g'.step? (.issue (a.info g.seconds g.progress).toJson) = some out ∧
      out.reply = .ticket g'.tickets.length ∧
      out.gate.ticket? g'.tickets.length = some b ∧
      b.terms = { a.terms with
        transferId := if a.terms.transferId = "" then
            "(ticket/" ++ String.ofList (a.terms.uuid.toList.take 18) ++ ")"
          else a.terms.transferId } := by
  obtain ⟨fs, hfs, hdescribes⟩ :=
    (a.info g.seconds g.progress).describes_grant (r.terms_sound hc ha) hurl
  have hok : Grant.ofJson Url.parse (a.info g.seconds g.progress).toJson =
      .ok (a.info g.seconds g.progress).grant :=
    hfs ▸ Grant.ofJson_object_eq_ok_iff.mpr hdescribes
  refine ⟨⟨_, hok⟩, fun g' => ?_⟩
  refine ⟨g'.issue (a.info g.seconds g.progress).toJson,
    Ticket.ofGrant g'.config g'.seconds (a.info g.seconds g.progress).grant, rfl, ?_, ?_, ?_⟩
  · simp [issue, hok]
  · simp [issue, hok, ticket?]
  · exact Terms.ofGrant_grant g'.config (a.info g.seconds g.progress)

theorem Run.snapshot_reissued_while_canceled :
    ∃ h g a, Run (initial ⟨60, 60⟩ 0) h g ∧ g.ticket? 0 = some a ∧ a.canceled = true ∧
      a.isActive = true ∧ a.connections.size = 1 ∧ a.transferred g.progress = some 8 ∧
      ∀ g' : Gate, ∃ out b,
        g'.step? (.issue (a.info g.seconds g.progress).toJson) = some out ∧
        out.gate.ticket? g'.tickets.length = some b ∧ b.terms = a.terms := by
  obtain ⟨h, g, r, -, hf⟩ := of_play_any (initial ⟨60, 60⟩ 0)
    [.issue sampleRecord, .addContext 0 0 none, .start 0 0 8, .finish 0 (.ok ()), .start 0 0 0,
      .cancel 0 1000]
    (fun _ g => (g.ticket? 0).any fun a => a.canceled ∧ a.isActive ∧ a.connections.size = 1 ∧
      a.transferred g.progress = some 8 ∧ a.terms.transferId ≠ "" ∧
      (Url.parse a.terms.url.text).toOption = some a.terms.url) (by decide +kernel)
  obtain ⟨a, ha, hf⟩ := (Option.any_eq_true ..).mp hf
  obtain ⟨hcan, hactive, hsize, hmoved, htransfer, hurl⟩ := of_decide_eq_true hf
  have hurl : Url.parse a.terms.url.text = .ok a.terms.url := by
    cases hp : Url.parse a.terms.url.text with
    | error e => simp [hp, Except.toOption] at hurl
    | ok u => simpa [hp, Except.toOption] using hurl
  refine ⟨h, g, a, r, ha, hcan, hactive, hsize, hmoved, fun g' => ?_⟩
  obtain ⟨out, b, hs, -, hb, hterms⟩ := (r.snapshot_reissued (by decide) ha hurl).2 g'
  rw [if_neg htransfer] at hterms
  exact ⟨out, b, hs, hb, hterms⟩

end Gate

end TicketGate
