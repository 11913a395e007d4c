import Mathlib.Data.Finset.Card
import TicketGate.Proofs.RemovalOutcome

namespace TicketGate

namespace Gate

def Moment.Adds (id : String) (t : TicketId) (m : Moment) : Prop :=
  ∃ record grant, m.event = .add record ∧ Grant.ofJson Url.parse record = .ok grant ∧
    grant.uuid = id ∧ m.before.tickets.length = t

/-- A removal that has found the ticket of number `t`, in the history `h`, comes to its end. -/
def Moment.Deletes (h : List Moment) (t : TicketId) (m : Moment) : Prop :=
  ∃ c, m.event = .delete c ∧ ∃ m₀ ∈ h, ∃ id, m₀.Finds t id c

/-- The ticket of number `t` is the last one that was added for a uuid, and it was neither cleared nor
removed since. -/
def Stands (id : String) (t : TicketId) (h : List Moment) : Prop :=
  Since (·.Adds id t)
    (fun m => (∀ t', ¬ m.Adds id t') ∧ m.event ≠ .clear ∧ ¬ m.Deletes h t) h

/-- What becomes of the gate `g` when a good record is added: its ticket is `a`. -/
structure Added (g : Gate) (grant : Grant) (a : Ticket) (out : Outcome) : Prop where
  reply : out.reply = .done
  stored : out.gate.store.get? grant.uuid = some g.tickets.length
  others : ∀ id, id ≠ grant.uuid → out.gate.store.get? id = g.store.get? id
  ticket : out.gate.ticket? g.tickets.length = some a
  terms : a.terms = {
    uuid := grant.uuid
    size := grant.size
    access := grant.access
    timeout := grant.timeout
    url := grant.url
    inactivityTimeout := grant.inactivityTimeout.getD g.config.inactivityTimeout
    transferId := grant.transferId.getD
      ("(ticket/" ++ String.ofList (grant.uuid.toList.take 18) ++ ")")
    filename := grant.filename
    sparse := grant.sparse
    dirty := grant.dirty }
  canceled : a.canceled = false
  idle : a.isActive = false
  connections : a.connections.entries = []
  transferred : a.transferred out.gate.progress = if 1 < grant.access.length then none else some 0
  tickets : ∀ t b, g.ticket? t = some b → out.gate.ticket? t = some b
  operations : out.gate.operations = g.operations
  contexts : out.gate.contexts = g.contexts
  calls : out.gate.calls = g.calls

variable {g g' : Gate} {t t' : TicketId} {id id' : String} {c : CallId} {call : Call} {r : Reply}
  {m m' : Moment} {h : List Moment} {config : Config} {clock : Nat}

theorem add_bad {record : Json} {f : Fault} (hf : Grant.ofJson Url.parse record = .error f) :
    g.step? (.add record) = some (g.answer (.fault f)) := by
  simp [step?, add, hf]

theorem add_good {record : Json} {grant : Grant}
    (hok : Grant.ofJson Url.parse record = .ok grant) :
    ∃ out, g.step? (.add record) = some out ∧
      g.Added grant (Ticket.ofGrant g.config g.seconds grant) out := by
  refine ⟨_, by rw [step?, add, hok], ?_⟩
  exact {
    reply := rfl
    stored := Table.get?_insert_self ..
    others := fun id hne => Table.get?_insert_ne _ _ hne
    ticket := by simp [ticket?]
    terms := rfl
    canceled := rfl
    idle := rfl
    connections := rfl
    transferred := rfl
    tickets := fun t b hb => ticket?_append hb _ _
    operations := rfl
    contexts := rfl
    calls := rfl }

theorem unused_of_delete (hs : Step g (.delete c) r g') :
    ∃ t id, g.calls.get? c = some (.unused t id) := by
  cases hs with
  | keep he => exact he.elim
  | delete hc => exact ⟨_, _, hc⟩

theorem finds_iff : m.Finds t id c ↔ m.Opens t (some id) c := and_left_comm

def Moment.Retains (id : String) (t : TicketId) (m : Moment) : Prop :=
  (∀ t', ¬ m.Adds id t') ∧ m.event ≠ .clear ∧
    ∀ c, m.event = .delete c → ∀ id', m.before.calls.get? c ≠ some (.unused t id')

theorem adds_iff {record : Json} {grant : Grant} (he : m.event = .add record)
    (hok : Grant.ofJson Url.parse record = .ok grant) :
    m.Adds id t ↔ grant.uuid = id ∧ m.before.tickets.length = t := by
  constructor
  · rintro ⟨record', grant', he', hok', hid, ht⟩
    cases he.symm.trans he'
    cases hok.symm.trans hok'
    exact ⟨hid, ht⟩
  · rintro ⟨hid, ht⟩
    exact ⟨record, grant, he, hok, hid, ht⟩

theorem stored_of_kept (hs : m.after.store = m.before.store) (hadd : ∀ t', ¬ m.Adds id t')
    (hclear : m.event ≠ .clear) (hdelete : ∀ c, m.event ≠ .delete c) :
    m.after.store.get? id = some t ↔
      m.Adds id t ∨ m.Retains id t ∧ m.before.store.get? id = some t := by
  simp [hs, hadd, Moment.Retains, hclear, hdelete]

theorem stored_of_add (hs : m.before.step? m.event = some m.outcome) {record : Json}
    (he : m.event = .add record) :
    m.after.store.get? id = some t ↔
      m.Adds id t ∨ m.Retains id t ∧ m.before.store.get? id = some t := by
  cases hok : Grant.ofJson Url.parse record with
  | error f =>
    have hout : m.outcome = m.before.answer (.fault f) :=
      Option.some.inj (hs.symm.trans (he ▸ add_bad hok))
    refine stored_of_kept (by rw [Moment.after, hout]; rfl) ?_ (by simp [he]) (by simp [he])
    rintro t' ⟨record', grant, he', hok', -⟩
    cases he.symm.trans he'
    cases hok.symm.trans hok'
  | ok grant =>
    obtain ⟨out, hs', hadded⟩ := add_good (g := m.before) hok
    obtain rfl : out = m.outcome := Option.some.inj (hs'.symm.trans (he ▸ hs))
    have hkeeps : m.Retains id t ↔ grant.uuid ≠ id := by
      simp [Moment.Retains, adds_iff he hok, he]
    rw [adds_iff he hok, hkeeps, Moment.after]
    by_cases hid : grant.uuid = id
    · subst hid
      simp [hadded.stored]
    · simp [hadded.others id (Ne.symm hid), hid]

theorem step_stored (hs : m.before.step? m.event = some m.outcome)
    (hcalls : ∀ c id', m.before.calls.get? c = some (.unused t id') →
      m.before.store.get? id = some t → id = id') :
    m.after.store.get? id = some t ↔
      m.Adds id t ∨ m.Retains id t ∧ m.before.store.get? id = some t := by
  by_cases hadd : ∃ record, m.event = .add record
  · obtain ⟨record, he⟩ := hadd
    exact stored_of_add hs he
  have hnone (t' : TicketId) : ¬ m.Adds id t' := fun ⟨record, _, he, _⟩ => hadd ⟨record, he⟩
  have hs := step_of_step? hs
  obtain ⟨g, e, g', reply, notes⟩ := m
  dsimp only [Moment.after] at hs hcalls
  cases hs with
  | add record => exact absurd ⟨record, rfl⟩ hadd
  | keep he =>
    refine stored_of_kept rfl hnone ?_ ?_
    · rintro rfl
      exact he.elim
    · rintro c rfl
      exact he.elim
  | clear => simp [Moment.after, Table.get?_empty, hnone, Moment.Retains]
  | @delete c t' id' hc =>
    -- the store has the ticket of the call under the uuid of the call, if it has it at all
    refine get?_unregister_eq_some.trans ?_
    constructor
    · rintro ⟨ht, hne⟩
      refine .inr ⟨⟨hnone, by simp, fun c' he id'' hc' => ?_⟩, ht⟩
      cases he
      cases hc.symm.trans hc'
      exact hne ⟨hcalls c id' hc ht, rfl⟩
    · rintro (hx | ⟨⟨-, -, hne⟩, ht⟩)
      · exact absurd hx (hnone t)
      · refine ⟨ht, ?_⟩
        rintro ⟨rfl, rfl⟩
        exact hne c rfl _ hc
  | cancelIdle | cancelBusy | cancelWaits | pursueIdle | pursueBusy | pursueWaits =>
    exact stored_of_kept (store_stop ..) hnone (by simp) (by simp)
  | _ => exact stored_of_kept rfl hnone (by simp) (by simp)

namespace Run

theorem finds_of_call (r : Run (initial config clock) h g) (hc : g.calls.get? c = some call)
    (hr : call.removal = some id) : ∃ m ∈ h, m.Finds call.ticket id c := by
  obtain ⟨m, hm, hx⟩ := r.opens_of_call hc
  exact ⟨m, hm, finds_iff.mpr (hr ▸ hx)⟩

theorem finds_unique (r : Run (initial config clock) h g) (hm : m ∈ h) (hm' : m' ∈ h)
    (hx : m.Finds t id c) (hx' : m'.Finds t' id' c) : t' = t := by
  rw [finds_iff] at hx hx'
  obtain rfl := r.opens_unique hm hm' hx hx'
  exact hx.ticket_unique hx'

theorem uuid_of_call (r : Run (initial config clock) h g) (hc : g.calls.get? c = some call)
    (hr : call.removal = some id) (ht : g.store.get? id' = some call.ticket) : id' = id := by
  obtain ⟨m, hm, hx⟩ := r.finds_of_call hc hr
  obtain ⟨h₁, h₂, -, r₁, hs, r₂⟩ := r.split hm
  obtain ⟨a, ha, rfl⟩ := r₁.filed id _ hx.2.2
  exact ((one hs).trans r₂).uuid_of_stored r.filed ha ht

theorem deletes_iff (r : Run (initial config clock) h g) (hm : m ∈ h) :
    m.Deletes h t ↔ ∃ c id, m.event = .delete c ∧ m.before.calls.get? c = some (.unused t id) := by
  obtain ⟨h₁, h₂, hh, r₁, hs, -⟩ := r.split hm
  constructor
  · rintro ⟨c, he, m₀, hm₀, id, hx⟩
    obtain ⟨t', id', hc⟩ := unused_of_delete (he ▸ step_of_step? hs)
    obtain ⟨m₁, hm₁, hx'⟩ := r₁.finds_of_call hc rfl
    obtain rfl : t' = t := r.finds_unique hm₀ (hh ▸ List.mem_append_left _ hm₁) hx hx'
    exact ⟨c, id', he, hc⟩
  · rintro ⟨c, id, he, hc⟩
    obtain ⟨m₀, hm₀, hx⟩ := r₁.finds_of_call hc rfl
    exact ⟨c, he, m₀, hh ▸ List.mem_append_left _ hm₀, id, hx⟩

theorem stored_iff (r : Run (initial config clock) h g) :
    g.store.get? id = some t ↔ Stands id t h := by
  have hstate : g.store.get? id = some t ↔ Since (·.Adds id t) (·.Retains id t) h := by
    induction r with
    | refl => exact iff_of_false (by simp [initial, Table.get?_empty]) not_since_nil
    | @step h g e out r hs ih =>
      rw [since_concat, ← ih]
      exact step_stored (m := ⟨g, e, out⟩) hs fun c id' hc ht => r.uuid_of_call hc rfl ht
  have hretains : ∀ m ∈ h, m.Retains id t ↔
      (∀ t', ¬ m.Adds id t') ∧ m.event ≠ .clear ∧ ¬ m.Deletes h t := by
    intro m hm
    rw [r.deletes_iff hm]
    simp [Moment.Retains]
  rw [hstate]
  constructor
  · exact fun hx => hx.imp (fun _ _ hm => hm) fun m hm => (hretains m hm).mp
  · exact fun hx => hx.imp (fun _ _ hm => hm) fun m hm => (hretains m hm).mpr

theorem get_reply (r : Run (initial config clock) h g) (id : String) :
    ∃ out, g.step? (.get id) = some out ∧ out.gate = g ∧
      (∀ t, out.reply = .ticket t ↔ Stands id t h) ∧
      ((∀ t, ¬ Stands id t h) → out.reply = .fault (.unknownTicket id)) := by
  refine ⟨g.get id, rfl, ?_⟩
  simp only [← r.stored_iff]
  cases ht : g.store.get? id with
  | none => simp [get, find?, ht, answer]
  | some t =>
    obtain ⟨a, ha, -⟩ := r.filed id t ht
    simp [get, find?_eq_some.mpr ⟨ht, ha⟩, answer]

theorem exists_ids (r : Run (initial config clock) h g) :
    ∃ ids : Finset String, (∀ id, id ∈ ids ↔ ∃ t, Stands id t h) ∧ g.store.size = ids.card ∧
      (g.store.isEmpty = true ↔ ids = ∅) := by
  refine ⟨g.store.keys.toFinset, fun id => ?_, ?_, ?_⟩
  · simp only [List.mem_toFinset, Table.mem_keys_iff, r.stored_iff]
  · exact (List.length_map ..).symm.trans (List.toFinset_card_of_nodup g.store.nodup).symm
  · rw [List.toFinset_eq_empty_iff, Table.keys, List.map_eq_nil_iff, Table.isEmpty, List.isEmpty_iff]

/-- The store is what its history makes of it. It has under a uuid exactly the ticket that was added
last for it, unless everything was cleared since or a removal that had found this ticket came to its
end; what is asked and counted is just that. A bad record changes nothing; a good one becomes a fresh
ticket in the store under its uuid, and every other ticket stays as it is, also one that it
replaces. -/
theorem store_refines_history (r : Run (initial config clock) h g) :
    (∀ id t, g.store.get? id = some t ↔ Stands id t h) ∧
    (∀ id t, g.store.get? id = some t → ∃ a, g.ticket? t = some a ∧ a.terms.uuid = id) ∧
    (∀ id, ∃ out, g.step? (.get id) = some out ∧ out.gate = g ∧
      (∀ t, out.reply = .ticket t ↔ Stands id t h) ∧
      ((∀ t, ¬ Stands id t h) → out.reply = .fault (.unknownTicket id))) ∧
    (∃ ids : Finset String, (∀ id, id ∈ ids ↔ ∃ t, Stands id t h) ∧ g.store.size = ids.card ∧
      (g.store.isEmpty = true ↔ ids = ∅)) ∧
    (∀ record f, Grant.ofJson Url.parse record = .error f →
      ∃ out, g.step? (.add record) = some out ∧ out.reply = .fault f ∧ out.gate = g) ∧
    ∀ record grant, Grant.ofJson Url.parse record = .ok grant →
      ∃ out a, g.step? (.add record) = some out ∧ g.Added grant a out :=
  ⟨fun _ _ => r.stored_iff, r.filed, r.get_reply, r.exists_ids,
    fun _ _ hf => ⟨_, add_bad hf, rfl, rfl⟩, fun _ _ hok =>
      let ⟨out, hs, hadded⟩ := add_good hok
      ⟨out, _, hs, hadded⟩⟩

theorem store_refines_history_of_replaced :
    ∃ h g, Run (initial ⟨60, 60⟩ 0) h g ∧ h.map Moment.event =
        [.add sampleRecord, .start 0 0 0, .remove "u", .pursue 0, .add sampleRecord,
          .finish 0 (.ok ()), .wake 0, .delete 0] ∧ Stands "u" 1 h := by
  obtain ⟨h, g, r, he, hf⟩ := of_play_any (initial ⟨60, 60⟩ 0)
    [.add sampleRecord, .start 0 0 0, .remove "u", .pursue 0, .add sampleRecord,
      .finish 0 (.ok ()), .wake 0, .delete 0]
    (fun _ g => g.store.get? "u" == some 1) (by decide +kernel)
  exact ⟨h, g, r, he, (r.store_refines_history.1 "u" 1).mp (beq_iff_eq.mp hf)⟩

end Run

end Gate

end TicketGate
