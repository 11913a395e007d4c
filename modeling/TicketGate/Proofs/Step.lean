import TicketGate.Proofs.Run

namespace TicketGate.Gate

def Event.MayKeep : Event → Prop
  | .add _ | .issue _ | .get _ | .authorize _ _ | .getContext _ _ => True
  | _ => False

/-- One case for each outcome of an event, with what it takes and what the gate is like afterwards.
-/
inductive Step (g : Gate) : Event → Reply → Gate → Prop
  | keep {e : Event} {r : Reply} : e.MayKeep → Step g e r g
  | add (record : Json) (grant : Grant) :
      Step g (.add record) .done
        { g with
          tickets := g.tickets ++ [Ticket.ofGrant g.config g.seconds grant]
          store := g.store.insert grant.uuid g.tickets.length }
  | issue (record : Json) (grant : Grant) :
      Step g (.issue record) (.ticket g.tickets.length)
        { g with tickets := g.tickets ++ [Ticket.ofGrant g.config g.seconds grant] }
  | clear : Step g .clear .done { g with store := Table.empty }
  | touch {t : TicketId} {a : Ticket} :
      g.ticket? t = some a → Step g (.touch t) .done (g.onTicket t (·.touch g.seconds))
  | extend {t : TicketId} {a : Ticket} (s : Nat) :
      g.ticket? t = some a → Step g (.extend t s) .done (g.onTicket t (·.extend g.seconds s))
  | refuse {t : TicketId} {a : Ticket} (c : ConnectionId) (failure : Option String) :
      g.ticket? t = some a → a.canceled = true →
      Step g (.addContext t c failure) (.fault a.stopped)
        { g with contexts := g.contexts ++ [⟨failure, 0⟩] }
  | connect {t : TicketId} {a : Ticket} (c : ConnectionId) (failure : Option String) :
      g.ticket? t = some a → a.canceled = false →
      Step g (.addContext t c failure) (.context g.contexts.length)
        (({ g with contexts := g.contexts ++ [⟨failure, 0⟩] } : Gate).onTicket t
          (·.connect c g.contexts.length))
  | noContext {t : TicketId} {a : Ticket} {c : ConnectionId} :
      g.ticket? t = some a → a.connections.get? c = none →
      Step g (.removeContext t c) .done g
  | disconnect {t : TicketId} {a : Ticket} {c : ConnectionId} {x : ContextId} :
      g.ticket? t = some a → a.connections.get? c = some x →
      Step g (.removeContext t c) .done ((g.onTicket t (·.disconnect c)).closeContext x)
  | turnAway {t : TicketId} {a : Ticket} (offset done : Nat) :
      g.ticket? t = some a → a.canceled = true →
      Step g (.start t offset done) (.fault a.stopped)
        { g with operations := g.operations ++ [⟨t, offset, done, 0, false⟩] }
  | enter {t : TicketId} {a : Ticket} (offset done : Nat) :
      g.ticket? t = some a → a.canceled = false →
      Step g (.start t offset done) (.running g.operations.length)
        (({ g with operations := g.operations ++ [⟨t, offset, done, 0, true⟩] } : Gate).onTicket t
          (·.enter g.operations.length))
  | progress {o : OperationId} {op : Operation} (done : Nat) :
      g.operation? o = some op →
      Step g (.progress o done) .done (g.onOperation o ({ · with done := done }))
  | leave {o : OperationId} {op : Operation} {a : Ticket} (result : Except Fault Unit) :
      g.operation? o = some op → g.ticket? op.ticket = some a → o ∈ a.ongoing →
      Step g (.finish o result) (runReply a result)
        (g.onTicket op.ticket (·.leave g.seconds o op.moved))
  | cancelIdle {t : TicketId} {a : Ticket} (timeout : Nat) :
      g.ticket? t = some a → a.isActive = false →
      Step g (.cancel t timeout) (.flag true) (g.stop t a)
  | cancelBusy {t : TicketId} {a : Ticket} :
      g.ticket? t = some a → a.isActive = true →
      Step g (.cancel t 0) (.flag false) (g.stop t a)
  | cancelWaits {t : TicketId} {a : Ticket} {timeout : Nat} :
      g.ticket? t = some a → a.isActive = true → timeout ≠ 0 →
      Step g (.cancel t timeout) (.pending g.nextCall)
        { (g.stop t a).hold g.nextCall (.waiting t (g.deadline timeout) none) with
          nextCall := g.nextCall + 1 }
  | missing {id : String} : g.find? id = none → Step g (.remove id) .done g
  | find {id : String} {t : TicketId} {a : Ticket} :
      g.store.get? id = some t → g.ticket? t = some a →
      Step g (.remove id) (.pending g.nextCall)
        { g.hold g.nextCall (.found t id) with nextCall := g.nextCall + 1 }
  | pursueIdle {c : CallId} {t : TicketId} {id : String} {a : Ticket} :
      g.calls.get? c = some (.found t id) → g.ticket? t = some a → a.isActive = false →
      Step g (.pursue c) (.pending c) ((g.stop t a).hold c (.unused t id))
  | pursueBusy {c : CallId} {t : TicketId} {id : String} {a : Ticket} :
      g.calls.get? c = some (.found t id) → g.ticket? t = some a → a.isActive = true →
      g.config.removeTimeout = 0 → Step g (.pursue c) .done ((g.stop t a).drop c)
  | pursueWaits {c : CallId} {t : TicketId} {id : String} {a : Ticket} :
      g.calls.get? c = some (.found t id) → g.ticket? t = some a → a.isActive = true →
      g.config.removeTimeout ≠ 0 →
      Step g (.pursue c) (.pending c)
        ((g.stop t a).hold c (.waiting t (g.deadline (g.config.removeTimeout * 1000)) (some id)))
  | wakeCancel {c : CallId} {t : TicketId} {deadline : Nat} {a : Ticket} :
      g.calls.get? c = some (.waiting t deadline none) → g.ticket? t = some a →
      a.drained = true → Step g (.wake c) (.flag true) ((g.closeAll a).drop c)
  | wakeRemoval {c : CallId} {t : TicketId} {deadline : Nat} {id : String} {a : Ticket} :
      g.calls.get? c = some (.waiting t deadline (some id)) → g.ticket? t = some a →
      a.drained = true → Step g (.wake c) (.pending c) ((g.closeAll a).hold c (.unused t id))
  | delete {c : CallId} {t : TicketId} {id : String} :
      g.calls.get? c = some (.unused t id) →
      Step g (.delete c) .done ((g.unregister id t).drop c)
  | expire {c : CallId} {t : TicketId} {deadline : Nat} {removal : Option String} {a : Ticket} :
      g.calls.get? c = some (.waiting t deadline removal) → g.ticket? t = some a →
      a.drained = false → deadline ≤ g.clock →
      Step g (.expire c) (.fault (.cancelTimeout a.terms.transferId)) (g.drop c)
  | pass {ms : Nat} :
      (∀ e ∈ g.calls.entries, g.allowsPause ms e.2 = true) →
      Step g (.pass ms) .done { g with clock := g.clock + ms }

variable {g : Gate} {e : Event} {out : Outcome}

theorem find?_eq_some {id : String} {t : TicketId} {a : Ticket} :
    g.find? id = some (t, a) ↔ g.store.get? id = some t ∧ g.ticket? t = some a := by
  simp only [find?]
  constructor
  · intro h
    obtain ⟨u, hu, h⟩ := Option.bind_eq_some_iff.mp h
    obtain ⟨b, hb, h⟩ := Option.bind_eq_some_iff.mp h
    cases h
    exact ⟨hu, hb⟩
  · rintro ⟨ht, ha⟩
    simp [ht, ha]

theorem step_add (g : Gate) (record : Json) :
    Step g (.add record) (g.add record).reply (g.add record).gate := by
  unfold add
  cases Grant.ofJson Url.parse record with
  | error f => exact .keep trivial
  | ok grant => exact .add record grant

theorem step_issue (g : Gate) (record : Json) :
    Step g (.issue record) (g.issue record).reply (g.issue record).gate := by
  unfold issue
  cases Grant.ofJson Url.parse record with
  | error f => exact .keep trivial
  | ok grant => exact .issue record grant

theorem step_get (g : Gate) (id : String) : Step g (.get id) (g.get id).reply (g.get id).gate := by
  unfold get
  split <;> exact .keep trivial

theorem step_authorize (g : Gate) (id : String) (k : Access) :
    Step g (.authorize id k) (g.authorize id k).reply (g.authorize id k).gate := by
  unfold authorize
  split <;> exact .keep trivial

theorem step_remove (g : Gate) (id : String) :
    Step g (.remove id) (g.remove id).reply (g.remove id).gate := by
  unfold remove
  cases h : g.find? id with
  | none => exact .missing h
  | some f =>
    obtain ⟨ht, ha⟩ := find?_eq_some.mp h
    exact .find ht ha

theorem step_addContext {t : TicketId} {a : Ticket} (ha : g.ticket? t = some a) (c : ConnectionId)
    (failure : Option String) :
    Step g (.addContext t c failure) (g.addContext t a c failure).reply
      (g.addContext t a c failure).gate := by
  unfold addContext
  cases hc : a.canceled with
  | true => exact .refuse c failure ha hc
  | false => exact .connect c failure ha hc

theorem step_getContext (g : Gate) (t : TicketId) (a : Ticket) (c : ConnectionId) :
    Step g (.getContext t c) (g.getContext a c).reply (g.getContext a c).gate := by
  unfold getContext
  split <;> exact .keep trivial

theorem step_removeContext {t : TicketId} {a : Ticket} (ha : g.ticket? t = some a)
    (c : ConnectionId) :
    Step g (.removeContext t c) (g.removeContext t a c).reply (g.removeContext t a c).gate := by
  unfold removeContext
  cases hx : a.connections.get? c with
  | none => exact .noContext ha hx
  | some x => exact .disconnect ha hx

theorem step_start {t : TicketId} {a : Ticket} (ha : g.ticket? t = some a) (offset done : Nat) :
    Step g (.start t offset done) (g.start t a offset done).reply
      (g.start t a offset done).gate := by
  unfold start
  cases hc : a.canceled with
  | true => exact .turnAway offset done ha hc
  | false => exact .enter offset done ha hc

theorem step_finish {o : OperationId} {result : Except Fault Unit}
    (hs : g.finish? o result = some out) : Step g (.finish o result) out.reply out.gate := by
  obtain ⟨op, hop, hs⟩ := Option.bind_eq_some_iff.mp hs
  obtain ⟨a, ha, hs⟩ := Option.bind_eq_some_iff.mp hs
  split at hs
  · next ho =>
    obtain rfl := Option.some.inj hs
    exact .leave result hop ha (by simpa using ho)
  · simp at hs

theorem step_cancel {t : TicketId} {a : Ticket} (ha : g.ticket? t = some a) (timeout : Nat) :
    Step g (.cancel t timeout) (g.cancel t a timeout).reply (g.cancel t a timeout).gate := by
  unfold cancel
  cases hb : a.isActive with
  | false => exact .cancelIdle timeout ha hb
  | true =>
    by_cases hz : timeout = 0
    · subst hz
      exact .cancelBusy ha hb
    · simpa [hz] using .cancelWaits ha hb hz

theorem step_pursue {c : CallId} (hs : g.pursue? c = some out) :
    Step g (.pursue c) out.reply out.gate := by
  unfold pursue? at hs
  split at hs
  · next t id hc =>
    obtain ⟨a, ha, rfl⟩ := Option.map_eq_some_iff.mp hs
    cases hb : a.isActive with
    | false => simpa [hb] using .pursueIdle hc ha hb
    | true =>
      by_cases hz : g.config.removeTimeout = 0
      · simpa [hb, hz] using .pursueBusy hc ha hb hz
      · have hm : g.config.removeTimeout * 1000 ≠ 0 := by omega
        simpa [hb, hm] using .pursueWaits hc ha hb hz
  · simp at hs

theorem step_wake {c : CallId} (hs : g.wake? c = some out) :
    Step g (.wake c) out.reply out.gate := by
  unfold wake? at hs
  split at hs
  · next t deadline removal hc =>
    obtain ⟨a, ha, hs⟩ := Option.bind_eq_some_iff.mp hs
    split at hs
    · next hd =>
      cases removal with
      | none =>
        obtain rfl := Option.some.inj hs
        exact .wakeCancel hc ha hd
      | some id =>
        obtain rfl := Option.some.inj hs
        exact .wakeRemoval hc ha hd
    · simp at hs
  · simp at hs

theorem step_delete {c : CallId} (hs : g.delete? c = some out) :
    Step g (.delete c) out.reply out.gate := by
  unfold delete? at hs
  split at hs
  · next t id hc =>
    obtain rfl := Option.some.inj hs
    exact .delete hc
  · simp at hs

theorem step_expire {c : CallId} (hs : g.expire? c = some out) :
    Step g (.expire c) out.reply out.gate := by
  unfold expire? at hs
  split at hs
  · next t deadline removal hc =>
    obtain ⟨a, ha, hs⟩ := Option.bind_eq_some_iff.mp hs
    split at hs
    · next hd =>
      obtain rfl := Option.some.inj hs
      simp only [Bool.and_eq_true, Bool.not_eq_true', decide_eq_true_eq] at hd
      exact .expire hc ha hd.1 hd.2
    · simp at hs
  · simp at hs

theorem step_pass {ms : Nat} (hs : g.pass? ms = some out) :
    Step g (.pass ms) out.reply out.gate := by
  unfold pass? at hs
  split at hs
  · next h =>
    obtain rfl := Option.some.inj hs
    exact .pass (List.all_eq_true.mp h)
  · simp at hs

/-- There are no other outcomes. -/
theorem step_of_step? (hs : g.step? e = some out) : Step g e out.reply out.gate := by
  cases e with
  | add record => exact Option.some.inj hs ▸ step_add g record
  | issue record => exact Option.some.inj hs ▸ step_issue g record
  | get id => exact Option.some.inj hs ▸ step_get g id
  | authorize id k => exact Option.some.inj hs ▸ step_authorize g id k
  | remove id => exact Option.some.inj hs ▸ step_remove g id
  | clear => exact Option.some.inj hs ▸ .clear
  | touch t =>
    obtain ⟨a, ha, rfl⟩ := Option.map_eq_some_iff.mp hs
    exact .touch ha
  | extend t s =>
    obtain ⟨a, ha, rfl⟩ := Option.map_eq_some_iff.mp hs
    exact .extend s ha
  | addContext t c failure =>
    obtain ⟨a, ha, rfl⟩ := Option.map_eq_some_iff.mp hs
    exact step_addContext ha c failure
  | getContext t c =>
    obtain ⟨a, -, rfl⟩ := Option.map_eq_some_iff.mp hs
    exact step_getContext g t a c
  | removeContext t c =>
    obtain ⟨a, ha, rfl⟩ := Option.map_eq_some_iff.mp hs
    exact step_removeContext ha c
  | start t offset done =>
    obtain ⟨a, ha, rfl⟩ := Option.map_eq_some_iff.mp hs
    exact step_start ha offset done
  | progress o done =>
    obtain ⟨op, hop, rfl⟩ := Option.map_eq_some_iff.mp hs
    exact .progress done hop
  | finish o result => exact step_finish hs
  | cancel t timeout =>
    obtain ⟨a, ha, rfl⟩ := Option.map_eq_some_iff.mp hs
    exact step_cancel ha timeout
  | pursue c => exact step_pursue hs
  | wake c => exact step_wake hs
  | delete c => exact step_delete hs
  | expire c => exact step_expire hs
  | pass ms => exact step_pass hs

end TicketGate.Gate
