import TicketGate.Proofs.Step

namespace TicketGate

inductive Ticket.Change
  | touch (now : Nat)
  | extend (now seconds : Nat)
  | connect (c : ConnectionId) (x : ContextId)
  | disconnect (c : ConnectionId)
  | enter (o : OperationId)
  | leave (now : Nat) (o : OperationId) (moved : ByteRange)
  | cancel

namespace Ticket

def after (a : Ticket) : Change → Ticket
  | .touch now => a.touch now
  | .extend now seconds => a.extend now seconds
  | .connect c x => a.connect c x
  | .disconnect c => a.disconnect c
  | .enter o => a.enter o
  | .leave now o moved => a.leave now o moved
  | .cancel => a.cancel

/-- Nothing is added to a canceled ticket, and only an operation that runs on it leaves it. -/
def Change.Allowed (a : Ticket) : Change → Prop
  | .connect _ _ | .enter _ => a.canceled = false
  | .leave _ o _ => o ∈ a.ongoing
  | _ => True

theorem isActive_iff {a : Ticket} : a.isActive = true ↔ a.ongoing ≠ [] := by simp [isActive]

theorem isActive_eq_false_iff {a : Ticket} : a.isActive = false ↔ a.ongoing = [] := by
  simp [isActive]

theorem after_terms (a : Ticket) (x : Change) : (a.after x).terms = a.terms := by
  cases x <;> rfl

theorem after_canceled_iff {a : Ticket} {x : Change} :
    (a.after x).canceled = true ↔ a.canceled = true ∨ x = .cancel := by
  cases x <;> simp [after, touch, extend, connect, disconnect, enter, leave, cancel]

theorem canceled_after {a : Ticket} (x : Change) (h : a.canceled = true) :
    (a.after x).canceled = true := after_canceled_iff.mpr (.inl h)

end Ticket

namespace Gate

/-- How an event changes the ticket of number `t`, if it does. -/
def change? (g : Gate) (t : TicketId) (a : Ticket) : Event → Option Ticket.Change
  | .touch t' => if t' = t then some (.touch g.seconds) else none
  | .extend t' s => if t' = t then some (.extend g.seconds s) else none
  | .addContext t' c _ =>
    if t' = t ∧ a.canceled = false then some (.connect c g.contexts.length) else none
  | .removeContext t' c =>
    if t' = t ∧ (a.connections.get? c).isSome then some (.disconnect c) else none
  | .start t' _ _ =>
    if t' = t ∧ a.canceled = false then some (.enter g.operations.length) else none
  | .finish o _ =>
    match g.operation? o with
    | some op => if op.ticket = t then some (.leave g.seconds o op.moved) else none
    | none => none
  | .cancel t' _ => if t' = t then some .cancel else none
  | .pursue c =>
    match g.calls.get? c with
    | some (.found t' _) => if t' = t then some .cancel else none
    | _ => none
  | _ => none

variable {g g' : Gate} {t : TicketId} {a b : Ticket} {e : Event} {r : Reply}

theorem ticket?_onTicket (g : Gate) (t t' : TicketId) (f : Ticket → Ticket) :
    (g.onTicket t' f).ticket? t = if t' = t then (g.ticket? t).map f else g.ticket? t := by
  simp only [ticket?, onTicket, List.getElem?_modify]
  split <;> simp

theorem ticket?_onTicket_of (ha : g.ticket? t = some a) (t' : TicketId) (f : Ticket → Ticket) :
    (g.onTicket t' f).ticket? t = some (if t' = t then f a else a) := by
  rw [ticket?_onTicket, ha]
  split <;> rfl

theorem ticket?_onTicket_none (hn : g.ticket? t = none) (t' : TicketId) (f : Ticket → Ticket) :
    (g.onTicket t' f).ticket? t = none := by
  rw [ticket?_onTicket, hn]
  split <;> rfl

theorem ticket?_stop (g : Gate) (t t' : TicketId) (x : Ticket) :
    (g.stop t' x).ticket? t = (g.onTicket t' Ticket.cancel).ticket? t := by
  unfold stop
  split <;> rfl

theorem ticket?_stop_of (ha : g.ticket? t = some a) (t' : TicketId) (x : Ticket) :
    (g.stop t' x).ticket? t = some (if t' = t then a.cancel else a) := by
  rw [ticket?_stop, ticket?_onTicket_of ha]

theorem ticket?_stop_none (hn : g.ticket? t = none) (t' : TicketId) (x : Ticket) :
    (g.stop t' x).ticket? t = none := by
  rw [ticket?_stop, ticket?_onTicket_none hn]

theorem ticket?_unregister (g : Gate) (t t' : TicketId) (id : String) :
    (g.unregister id t').ticket? t = g.ticket? t := by
  unfold unregister
  split <;> rfl

theorem ticket?_append (ha : g.ticket? t = some a) (x : Ticket) (s : Table String TicketId) :
    ({ g with tickets := g.tickets ++ [x], store := s } : Gate).ticket? t = some a := by
  have ht : t < g.tickets.length := (List.getElem?_eq_some_iff.mp ha).1
  simpa [ticket?, List.getElem?_append_left ht] using ha

theorem elim_ite (p : Prop) [Decidable p] (x : Ticket.Change) :
    (if p then some x else none).elim a a.after = if p then a.after x else a := by
  split <;> rfl

theorem same_ticket {t' : TicketId} {x : Ticket} (hx : g.ticket? t' = some x)
    (ha : g.ticket? t = some a) (p : Ticket → Prop) : t' = t ∧ p a ↔ t' = t ∧ p x := by
  apply and_congr_right
  intro ht
  subst ht
  rw [Option.some.inj (hx.symm.trans ha)]

theorem change?_of_mayKeep (he : e.MayKeep) : g.change? t a e = none := by
  cases e <;> first | rfl | exact he.elim

theorem change?_eq_leave_iff {now : Nat} {o : OperationId} {moved : ByteRange} :
    g.change? t a e = some (.leave now o moved) ↔
      ∃ result op, e = .finish o result ∧ g.operation? o = some op ∧ op.ticket = t ∧
        g.seconds = now ∧ op.moved = moved := by
  constructor
  · intro hx
    cases e with
    | finish o' result =>
      simp only [change?] at hx
      split at hx
      · next op hop =>
        obtain ⟨ht, hx⟩ := Option.ite_none_right_eq_some.mp hx
        cases hx
        exact ⟨result, op, rfl, hop, ht, rfl, rfl⟩
      · simp at hx
    | pursue c =>
      simp only [change?] at hx
      split at hx <;> simp at hx
    | _ => simp [change?] at hx
  · rintro ⟨result, op, rfl, hop, rfl, rfl, rfl⟩
    simp [change?, hop]

theorem step_ticket (hs : Step g e r g') (ha : g.ticket? t = some a) :
    g'.ticket? t = some ((g.change? t a e).elim a a.after) := by
  cases hs with
  | keep he =>
    rw [change?_of_mayKeep he]
    exact ha
  | add record grant | issue record grant => exact ticket?_append ha _ _
  | clear | missing h => exact ha
  | touch hx | extend s hx =>
    simp only [change?, elim_ite]
    exact ticket?_onTicket_of ha ..
  | refuse c failure hx hc | turnAway offset done hx hc =>
    simp only [change?, same_ticket hx ha (·.canceled = false), hc, Bool.true_eq_false, and_false,
      ↓reduceIte]
    exact ha
  | connect c failure hx hc | enter offset done hx hc =>
    simp only [change?, elim_ite, same_ticket hx ha (·.canceled = false), hc, and_true]
    exact ticket?_onTicket_of ha ..
  | @noContext t' x c hx hc =>
    simp only [change?, same_ticket hx ha (·.connections.get? c |>.isSome), hc,
      Option.isSome_none, Bool.false_eq_true, and_false, ↓reduceIte]
    exact ha
  | @disconnect t' x c y hx hc =>
    simp only [change?, elim_ite, same_ticket hx ha (·.connections.get? c |>.isSome), hc,
      Option.isSome_some, and_true]
    exact ticket?_onTicket_of ha ..
  | leave result hop hx ho =>
    simp only [change?, hop, elim_ite]
    exact ticket?_onTicket_of ha ..
  | cancelIdle timeout hx hb | cancelBusy hx hb | cancelWaits hx hb hz =>
    simp only [change?, elim_ite]
    exact ticket?_stop_of ha ..
  | pursueIdle hc hx hb | pursueBusy hc hx hb hz | pursueWaits hc hx hb hz =>
    simp only [change?, hc, elim_ite]
    exact ticket?_stop_of ha ..
  | delete hc => exact (ticket?_unregister ..).trans ha
  | progress done hop | find ht hx | wakeCancel hc hx hd | wakeRemoval hc hx hd
  | expire hc hx hd hl | pass h => exact ha

theorem change?_allowed {x : Ticket.Change} (hs : Step g e r g') (ha : g.ticket? t = some a)
    (hx : g.change? t a e = some x) : x.Allowed a := by
  cases hs with
  | refuse | connect | turnAway | enter =>
    simp only [change?, Option.ite_none_right_eq_some] at hx
    obtain ⟨⟨-, hc⟩, hx⟩ := hx
    obtain rfl := Option.some.inj hx
    exact hc
  | leave result hop hb ho =>
    simp only [change?, hop, Option.ite_none_right_eq_some] at hx
    obtain ⟨rfl, hx⟩ := hx
    obtain rfl := Option.some.inj hx
    obtain rfl := Option.some.inj (hb.symm.trans ha)
    exact ho
  | touch | extend | noContext | disconnect | cancelIdle | cancelBusy | cancelWaits =>
    simp only [change?, Option.ite_none_right_eq_some] at hx
    obtain rfl := Option.some.inj hx.2
    trivial
  | pursueIdle hc | pursueBusy hc | pursueWaits hc =>
    simp only [change?, hc, Option.ite_none_right_eq_some] at hx
    obtain rfl := Option.some.inj hx.2
    trivial
  | keep he => simp [change?_of_mayKeep he] at hx
  | _ => simp [change?] at hx

theorem change_keeps {P : Ticket → Prop} (hs : Step g e r g') (ha : g.ticket? t = some a) (hp : P a)
    (hP : ∀ x, x.Allowed a → P (a.after x)) : P ((g.change? t a e).elim a a.after) := by
  cases hx : g.change? t a e with
  | none => exact hp
  | some x => exact hP x (change?_allowed hs ha hx)

theorem step_new_ticket (hs : Step g e r g') (hn : g.ticket? t = none)
    (hb : g'.ticket? t = some b) :
    ∃ record grant, (e = .add record ∨ e = .issue record) ∧ g.tickets.length = t ∧
      b = Ticket.ofGrant g.config g.seconds grant := by
  cases hs with
  | add record grant | issue record grant =>
    have ht : g.tickets.length ≤ t := List.getElem?_eq_none_iff.mp hn
    rw [ticket?, List.getElem?_append_right ht, List.getElem?_singleton] at hb
    split at hb
    · next hz =>
      refine ⟨record, grant, by simp, ?_, (Option.some.inj hb).symm⟩
      exact Nat.le_antisymm ht (Nat.sub_eq_zero_iff_le.mp hz)
    · simp at hb
  | touch | extend | connect | disconnect | enter | leave =>
    have h := (ticket?_onTicket_none hn ..).symm.trans hb
    simp at h
  | cancelIdle | cancelBusy | cancelWaits | pursueIdle | pursueBusy | pursueWaits =>
    have h := (ticket?_stop_none hn ..).symm.trans hb
    simp at h
  | delete hc =>
    have h := (ticket?_unregister ..).symm.trans hb
    simp [hn] at h
  | _ =>
    have h := hn.symm.trans hb
    simp at h

theorem granted_of_new {out : Outcome} (hs : g.step? e = some out) (hn : g.ticket? t = none)
    (hb : out.gate.ticket? t = some b) :
    ∃ record grant, (e = .add record ∨ e = .issue record) ∧
      Grant.ofJson Url.parse record = .ok grant ∧ g.tickets.length = t ∧
      b = Ticket.ofGrant g.config g.seconds grant := by
  obtain ⟨record, -, he, rfl, -⟩ := step_new_ticket (step_of_step? hs) hn hb
  cases hok : Grant.ofJson Url.parse record with
  | error f =>
    have hgate : out.gate = g := by
      obtain rfl | rfl := he <;> obtain rfl := Option.some.inj hs <;> simp [add, issue, hok, answer]
    rw [hgate, hn] at hb
    simp at hb
  | ok grant =>
    have hnew : out.gate.tickets = g.tickets ++ [Ticket.ofGrant g.config g.seconds grant] := by
      obtain rfl | rfl := he <;> obtain rfl := Option.some.inj hs <;> simp [add, issue, hok]
    refine ⟨record, grant, he, hok, rfl, ?_⟩
    simpa [ticket?, hnew] using hb.symm

namespace Run

variable {h : List Moment}

/-- What every allowed change keeps holds of a ticket ever after. -/
theorem keeps {P : Ticket → Prop} (r : Run g h g') (ha : g.ticket? t = some a) (hp : P a)
    (hP : ∀ b x, x.Allowed b → P b → P (b.after x)) : ∃ b, g'.ticket? t = some b ∧ P b := by
  refine r.invariant (P := fun g => ∃ b, g.ticket? t = some b ∧ P b) ⟨a, ha, hp⟩ ?_
  rintro g e out ⟨b, hb, hp⟩ hs
  have hb' := step_ticket (step_of_step? hs) hb
  exact ⟨_, hb', change_keeps (step_of_step? hs) hb hp fun x hx => hP b x hx hp⟩

theorem terms_kept (r : Run g h g') (ha : g.ticket? t = some a) :
    ∃ b, g'.ticket? t = some b ∧ b.terms = a.terms :=
  r.keeps ha rfl fun b x _ hb => (Ticket.after_terms b x).trans hb

theorem before_ticket?_eq_none {m : Moment} (r : Run g h g') (hn : g'.ticket? t = none)
    (hm : m ∈ h) : m.before.ticket? t = none := by
  obtain ⟨h₁, h₂, -, -, hs, r₂⟩ := r.split hm
  cases ha : m.before.ticket? t with
  | none => rfl
  | some a =>
    obtain ⟨b, hb, -⟩ := ((one hs).trans r₂).terms_kept ha
    simp [hn] at hb

/-- Induction over the history of a ticket, from the moment on at which it was granted. -/
theorem ticket_induction {P : List Moment → Ticket → Prop} {config : Config} {clock : Nat}
    (r : Run (initial config clock) h g) (hb : g.ticket? t = some b)
    (grant : ∀ h g settings now grant, Run (initial config clock) h g →
      (∀ m ∈ h, m.before.ticket? t = none) → P h (Ticket.ofGrant settings now grant))
    (keep : ∀ h g a e out, Run (initial config clock) h g → g.ticket? t = some a →
      g.step? e = some out → P h a →
      P (h ++ [⟨g, e, out⟩]) ((g.change? t a e).elim a a.after)) : P h b := by
  induction r generalizing b with
  | refl => simp [initial, ticket?] at hb
  | @step h g e out r hs ih =>
    cases ha : g.ticket? t with
    | some a =>
      obtain rfl := Option.some.inj ((step_ticket (step_of_step? hs) ha).symm.trans hb)
      exact keep h g a e out r ha hs (ih ha)
    | none =>
      obtain ⟨_, _, -, -, rfl⟩ := step_new_ticket (step_of_step? hs) ha hb
      apply grant _ _ _ _ _ (r.step hs)
      intro m hm
      obtain hm | hm := List.mem_append.mp hm
      · exact r.before_ticket?_eq_none ha hm
      · obtain rfl := List.mem_singleton.mp hm
        exact ha

end Run

end Gate

end TicketGate
