import TicketGate.Proofs.Closing
import TicketGate.Proofs.Signals
import TicketGate.Proofs.Transfer

namespace TicketGate.Gate

/-- The event is addressed to the ticket of number `t`, at the gate `g` after the history `h`. -/
def Event.Addresses (h : List Moment) (g : Gate) (t : TicketId) : Event → Prop
  | .touch t' | .extend t' _ | .addContext t' _ _ | .getContext t' _ | .removeContext t' _
  | .start t' _ _ | .cancel t' _ => t' = t
  | .get id | .authorize id _ | .remove id => g.store.get? id = some t
  | .progress o _ | .finish o _ => ∃ op, g.operation? o = some op ∧ op.ticket = t
  | .pursue c | .wake c | .expire c | .delete c => ∃ m ∈ h, ∃ removal, m.Opens t removal c
  | .add _ | .issue _ | .clear | .pass _ => False

/-- Between the gates `g` and `g'` the ticket of number `t` is left alone, with its operations, the
contexts that it has accepted, and the calls that are for it. -/
structure LeavesAlone (h : List Moment) (g : Gate) (t : TicketId) (g' : Gate) : Prop where
  ticket : g'.ticket? t = g.ticket? t
  operations : ∀ o op, g.operation? o = some op → op.ticket = t → g'.operation? o = some op
  contexts : ∀ m ∈ h, ∀ c x, m.accepted? t c = some x → g'.context? x = g.context? x
  calls : ∀ c call, g.calls.get? c = some call → call.ticket = t → g'.calls.get? c = some call

variable {g g' : Gate} {t t' : TicketId} {a : Ticket} {c : ConnectionId} {x : ContextId}
  {o : OperationId} {op : Operation} {e : Event} {out : Outcome} {m : Moment} {h h' : List Moment}
  {config : Config} {clock : Nat}

namespace Run

theorem addresses_of_call (r : Run (initial config clock) h g) {c : CallId} {call : Call}
    (hc : g.calls.get? c = some call) (he : e.call? = some c) :
    e.Addresses h g call.ticket := by
  obtain ⟨m, hm, hx⟩ := r.opens_of_call hc
  cases e with
  | pursue | wake | expire | delete =>
    obtain rfl := Option.some.inj he
    exact ⟨m, hm, _, hx⟩
  | _ => simp [Event.call?] at he

theorem addresses_unique (r : Run (initial config clock) h g) (he : e.Addresses h g t)
    (he' : e.Addresses h g t') : t = t' := by
  cases e with
  | touch | extend | addContext | getContext | removeContext | start | cancel => exact he.symm.trans he'
  | get | authorize | remove => exact Option.some.inj (he.symm.trans he')
  | progress o | finish o =>
    obtain ⟨op, hop, rfl⟩ := he
    obtain ⟨op', hop', rfl⟩ := he'
    rw [Option.some.inj (hop.symm.trans hop')]
  | pursue | wake | expire | delete =>
    obtain ⟨m, hm, removal, hx⟩ := he
    obtain ⟨m', hm', removal', hx'⟩ := he'
    obtain rfl := r.opens_unique hm hm' hx hx'
    exact hx'.ticket_unique hx
  | add | issue | clear | pass => exact he.elim

theorem addresses_of_cancels (r : Run (initial config clock) h g)
    (hm : Moment.Cancels t ⟨g, e, out⟩) : e.Addresses h g t := by
  obtain ⟨timeout, rfl⟩ | ⟨c, id, rfl, hc⟩ := hm
  · rfl
  · exact r.addresses_of_call hc rfl

theorem change?_eq_none (r : Run (initial config clock) h g) (hn : ¬ e.Addresses h g t) :
    g.change? t a e = none := by
  cases e with
  | touch | extend | cancel => exact if_neg hn
  | addContext | removeContext | start => exact if_neg fun hx => hn hx.1
  | finish o =>
    simp only [change?]
    split
    · next op hop => exact if_neg fun ht => hn ⟨op, hop, ht⟩
    · rfl
  | pursue c =>
    simp only [change?]
    split
    · next t' id hc =>
      refine if_neg ?_
      rintro rfl
      exact hn (r.addresses_of_call hc rfl)
    · rfl
  | _ => rfl

theorem ticket?_alone (r : Run (initial config clock) h g) (hs : g.step? e = some out)
    (ha : g.ticket? t = some a) (hn : ¬ e.Addresses h g t) : out.gate.ticket? t = some a := by
  rw [step_ticket (step_of_step? hs) ha, r.change?_eq_none hn]
  rfl

theorem operation?_alone (r : Run (initial config clock) h g) (hs : g.step? e = some out)
    (hop : g.operation? o = some op) (hn : ¬ e.Addresses h g op.ticket) :
    out.gate.operation? o = some op := by
  obtain ⟨t, a, hm, ha, ho⟩ | ⟨-, ho | ⟨done, he, -⟩⟩ :=
    step_operation (m := ⟨g, e, out⟩) (step_of_step? hs) hop
  · have ht : op.ticket ≠ t := fun ht => hn (ht ▸ r.addresses_of_cancels hm)
    rw [r.count_ongoing ha hop, if_neg fun hx => ht hx.1] at ho
    exact ho
  · exact ho
  · obtain rfl : e = .progress o done := he
    exact absurd ⟨op, hop, rfl⟩ hn

theorem connected_only_of_accepted (r : Run (initial config clock) h g) (hm : m ∈ h)
    (hacc : m.accepted? t c = some x) {c' : ConnectionId} (hc : g.connected? t' c' = some x) :
    t' = t ∧ c' = c := by
  obtain ⟨h₁, h₂, rfl, r₁, hs, r₂⟩ := r.split hm
  obtain ⟨⟨failure, he⟩, -⟩ := Moment.accepted?_eq_some_iff.mp hacc
  obtain ⟨rfl, -⟩ := step_accepted (step_of_step? hs) hacc
  refine r₂.connected_only (step_accepts hs he).1 ?_ t' c' hc
  intro t' c' hc
  obtain hm' | ⟨-, -, hc⟩ := (step_connected (step_of_step? hs)).mp hc
  · obtain ⟨⟨failure', he'⟩, -⟩ := Moment.accepted?_eq_some_iff.mp hm'
    cases he.symm.trans he'
    exact ⟨rfl, rfl⟩
  · exact absurd hc (r₁.connected.ne_new t' c')

theorem addresses_of_succeeded (r : Run (initial config clock) h g) (hs : g.step? e = some out)
    (hm : Moment.succeeded? ⟨g, e, out⟩ = some t) : e.Addresses h g t := by
  obtain ⟨hc, -⟩ | ⟨c, call, -, rfl, hc, rfl, -⟩ :=
    step_succeeded (m := ⟨g, e, out⟩) (step_of_step? hs) hm
  · exact r.addresses_of_cancels hc
  · exact r.addresses_of_call hc rfl

theorem context?_alone (r : Run (initial config clock) h g) (hs : g.step? e = some out) (hm : m ∈ h)
    (hacc : m.accepted? t c = some x) (hn : ¬ e.Addresses h g t) :
    out.gate.context? x = g.context? x := by
  obtain ⟨ctx, hctx⟩ : ∃ ctx, g.context? x = some ctx := by
    obtain ⟨⟨failure, he⟩, -⟩ := Moment.accepted?_eq_some_iff.mp hacc
    obtain ⟨h₁, h₂, -, -, hs', -⟩ := r.split hm
    obtain ⟨rfl, -⟩ := step_accepted (step_of_step? hs') hacc
    obtain ⟨ctx, hctx, -⟩ := r.closes_of_given hm he
    exact ⟨ctx, hctx⟩
  have htaken : Moment.takenOut? t c ⟨g, e, out⟩ ≠ some x := by
    intro ht
    obtain rfl : e = .removeContext t c := (Moment.takenOut?_eq_some_iff.mp ht).1
    exact hn rfl
  have hswept : ¬ Moment.Sweeps t c x ⟨g, e, out⟩ := fun hw => hn (r.addresses_of_succeeded hs hw.1)
  have hcloses : out.gate.context? x = _ := step_closes (m := ⟨g, e, out⟩)
    (fun _ _ hc => r.connected_only_of_accepted hm hacc hc) hctx (step_of_step? hs)
  rw [hcloses, hctx]
  simp [Moment.closings, htaken, hswept]

theorem call_alone (r : Run (initial config clock) h g) (hs : g.step? e = some out) {c : CallId}
    {call : Call} (hc : g.calls.get? c = some call) (hn : ¬ e.Addresses h g call.ticket) :
    out.gate.calls.get? c = some call := by
  have he : e.call? ≠ some c := fun he => hn (r.addresses_of_call hc he)
  exact (step_call_stays (step_of_step? hs) (r.numbered c call hc) he).trans hc

theorem leavesAlone_step (r : Run (initial config clock) h g) (hs : g.step? e = some out)
    (ha : g.ticket? t = some a) (hn : ¬ e.Addresses h g t) : LeavesAlone h g t out.gate where
  ticket := (r.ticket?_alone hs ha hn).trans ha.symm
  operations _ _ hop ht := r.operation?_alone hs hop (ht ▸ hn)
  contexts _ hm _ _ hacc := r.context?_alone hs hm hacc hn
  calls _ _ hc ht := r.call_alone hs hc (ht ▸ hn)

theorem leavesAlone_run (r : Run (initial config clock) h g) (ha : g.ticket? t = some a)
    (r' : Run g h' g')
    (hn : ∀ h₁ m h₂, h' = h₁ ++ m :: h₂ → ¬ m.event.Addresses (h ++ h₁) m.before t) :
    LeavesAlone h g t g' := by
  induction r' with
  | refl => exact ⟨rfl, fun _ _ hop _ => hop, fun _ _ _ _ _ => rfl, fun _ _ hc _ => hc⟩
  | @step h' g' e out r' hs ih =>
    have ih := ih fun h₁ m h₂ hh => hn h₁ m (h₂ ++ [⟨g', e, out⟩]) (by simp [hh])
    have hlast : LeavesAlone (h ++ h') g' t out.gate :=
      (r.trans r').leavesAlone_step hs (ih.ticket.trans ha) (hn h' _ [] rfl)
    exact {
      ticket := hlast.ticket.trans ih.ticket
      operations := fun o op hop ht => hlast.operations o op (ih.operations o op hop ht) ht
      contexts := fun m hm c x hacc =>
        (hlast.contexts m (List.mem_append_left _ hm) c x hacc).trans (ih.contexts m hm c x hacc)
      calls := fun c call hc ht => hlast.calls c call (ih.calls c call hc ht) ht }

/-- Tickets are isolated from each other. An event is addressed to one ticket at most, and all others
are left alone: each of them keeps all that it says, with the signals of its operations and how often
its contexts were closed. So it is for as long as no event is addressed to a ticket; to ask what it is
like changes nothing at all. -/
theorem tickets_isolated (r : Run (initial config clock) h g) :
    (∀ e out, g.step? e = some out →
      (∀ t t', e.Addresses h g t → e.Addresses h g t' → t = t') ∧
      ∀ t a, g.ticket? t = some a → ¬ e.Addresses h g t → LeavesAlone h g t out.gate) ∧
    (∀ t a h' g', g.ticket? t = some a → Run g h' g' →
      (∀ h₁ m h₂, h' = h₁ ++ m :: h₂ → ¬ m.event.Addresses (h ++ h₁) m.before t) →
      LeavesAlone h g t g') ∧
    ∀ (s s' : Session) q result, q.Asks → s.execute q = .ok (s', result) → s' = s :=
  ⟨fun _ _ hs => ⟨fun _ _ he he' => r.addresses_unique he he', fun _ _ ha hn =>
    r.leavesAlone_step hs ha hn⟩, fun _ _ _ _ ha r' hn => r.leavesAlone_run ha r' hn,
    fun _ _ _ _ hq hs => execute_asks hq hs⟩

theorem tickets_isolated_of_same_uuid :
    ∃ h g out a b, Run (initial ⟨60, 60⟩ 0) h g ∧ h.map Moment.event =
        [.add sampleRecord, .start 0 0 0, .addContext 0 1 none, .remove "u", .add sampleRecord,
          .start 1 0 0, .addContext 1 1 none] ∧
      g.step? (.pursue 0) = some out ∧ g.ticket? 1 = some b ∧ LeavesAlone h g 1 out.gate ∧
      out.gate.ticket? 0 = some a ∧ a.canceled = true ∧
      (a.terms.uuid, a.terms.transferId) = (b.terms.uuid, b.terms.transferId) := by
  obtain ⟨h, g, r, he, hf⟩ := of_play_any (initial ⟨60, 60⟩ 0)
    [.add sampleRecord, .start 0 0 0, .addContext 0 1 none, .remove "u", .add sampleRecord,
      .start 1 0 0, .addContext 1 1 none]
    (fun h g =>
      (h[3]?.any fun m => m.outcome.reply == .pending 0 && m.before.store.get? "u" == some 0) &&
        (g.step? (.pursue 0)).any fun out => (g.ticket? 1).any fun b =>
          (out.gate.ticket? 0).any fun a => a.canceled &&
            (a.terms.uuid, a.terms.transferId) == (b.terms.uuid, b.terms.transferId))
    (by decide +kernel)
  simp only [Bool.and_eq_true, Option.any_eq_true, beq_iff_eq] at hf
  obtain ⟨⟨m, hm, hr, ht⟩, out, hs, b, hb, a, ha, hc, hsame⟩ := hf
  have hme : m.event = .remove "u" := by
    have h3 := congrArg (·[3]?) he
    simpa [List.getElem?_map, hm] using h3
  have haddr : (Event.pursue 0).Addresses h g 0 :=
    ⟨m, List.mem_of_getElem? hm, some "u", hr, hme, ht⟩
  obtain ⟨hunique, halone⟩ := r.tickets_isolated.1 _ out hs
  have hne : ¬ (Event.pursue 0).Addresses h g 1 :=
    fun haddr' => Nat.zero_ne_one (hunique 0 1 haddr haddr')
  exact ⟨h, g, out, a, b, r, he, hs, hb, halone 1 b hb hne, ha, hc, hsame⟩

end Run

end TicketGate.Gate
