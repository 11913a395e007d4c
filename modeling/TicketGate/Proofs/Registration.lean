import TicketGate.Proofs.Change

namespace TicketGate

def Operation.fixed (op : Operation) : TicketId × Nat × Bool := (op.ticket, op.offset, op.started)

namespace Gate

/-- The operation that the ticket of number `t` lets start. -/
def Moment.admitted? (t : TicketId) (m : Moment) : Option OperationId :=
  match m.event, m.outcome.reply with
  | .start t' _ _, .running o => if t' = t then some o else none
  | _, _ => none

def Moment.ended? (m : Moment) : Option OperationId :=
  match m.event with
  | .finish o _ => some o
  | _ => none

/-- The ticket of number `t` is canceled: for its own sake, or by a removal that has found it. -/
def Moment.Cancels (t : TicketId) (m : Moment) : Prop :=
  (∃ timeout, m.event = .cancel t timeout) ∨
    ∃ c id, m.event = .pursue c ∧ m.before.calls.get? c = some (.found t id)

def admitted (t : TicketId) (h : List Moment) : List OperationId :=
  h.filterMap (Moment.admitted? t)

def ended (h : List Moment) : List OperationId := h.filterMap Moment.ended?

/-- The operations that the ticket of number `t` has let start and that have not ended. -/
def running (t : TicketId) (h : List Moment) : List OperationId :=
  (admitted t h).filter (· ∉ ended h)

variable {g g' : Gate} {t : TicketId} {a b : Ticket} {e : Event} {r : Reply} {out : Outcome}
  {h : List Moment} {o : OperationId} {op : Operation} {config : Config} {clock : Nat}

theorem map_modify {α β : Type} (p : α → β) (f : α → α) (hf : ∀ x, p (f x) = p x) (l : List α)
    (i : Nat) : (l.modify i f).map p = l.map p := by
  apply List.ext_getElem?
  intro j
  simp only [List.getElem?_map, List.getElem?_modify]
  cases l[j]? with
  | none => rfl
  | some x =>
    simp only [Option.map_eq_map, Option.map_some]
    split
    · rw [hf]
    · rfl

theorem map_fixed_signalAll (g : Gate) (a : Ticket) :
    (g.signalAll a).operations.map Operation.fixed = g.operations.map Operation.fixed := by
  simp only [signalAll]
  generalize g.operations = ops
  induction a.ongoing generalizing ops with
  | nil => rfl
  | cons o os ih => exact (ih _).trans (map_modify _ Operation.signal (fun _ => rfl) _ _)

theorem map_fixed_stop (g : Gate) (t : TicketId) (a : Ticket) :
    (g.stop t a).operations.map Operation.fixed = g.operations.map Operation.fixed := by
  unfold stop
  split
  · exact map_fixed_signalAll (g.onTicket t Ticket.cancel) a
  · rfl

theorem map_fixed_step (hs : Step g e r g') :
    g.operations.map Operation.fixed <+: g'.operations.map Operation.fixed := by
  cases hs with
  | turnAway | enter => exact (List.prefix_append ..).map _
  | progress done hop =>
    have h := map_modify Operation.fixed ({ · with done := done }) (fun _ => rfl) g.operations
    exact (h _).symm ▸ List.prefix_rfl
  | cancelIdle | cancelBusy | cancelWaits | pursueIdle | pursueBusy | pursueWaits =>
    exact (map_fixed_stop ..).symm ▸ List.prefix_rfl
  | delete hc =>
    unfold unregister
    split <;> exact List.prefix_rfl
  | _ => exact List.prefix_rfl

theorem map_fixed_run (r : Run g h g') :
    g.operations.map Operation.fixed <+: g'.operations.map Operation.fixed := by
  induction r with
  | refl => exact List.prefix_rfl
  | step _ hs ih => exact ih.trans (map_fixed_step (step_of_step? hs))

theorem Run.operation? (r : Run g h g') (ho : g.operation? o = some op) :
    ∃ op', g'.operation? o = some op' ∧ op'.fixed = op.fixed := by
  obtain ⟨s, hs⟩ := map_fixed_run r
  have hm : (g.operations.map Operation.fixed)[o]? = some op.fixed := by
    rw [List.getElem?_map, show g.operations[o]? = some op from ho]
    rfl
  have hm' : (g'.operations.map Operation.fixed)[o]? = some op.fixed := by
    rw [← hs, List.getElem?_append_left (List.getElem?_eq_some_iff.mp hm).1, hm]
  rw [List.getElem?_map] at hm'
  exact Option.map_eq_some_iff.mp hm'

theorem operation?_isSome_iff : (∃ op, g.operation? o = some op) ↔ o < g.operations.length := by
  rw [operation?]
  constructor
  · rintro ⟨op, ho⟩
    exact (List.getElem?_eq_some_iff.mp ho).1
  · intro ho
    exact ⟨_, List.getElem?_eq_getElem ho⟩

theorem Moment.admitted?_eq_some_iff {m : Moment} :
    m.admitted? t = some o ↔
      ∃ offset done, m.event = .start t offset done ∧ m.outcome.reply = .running o := by
  unfold Moment.admitted?
  split
  · next t' offset done o' he hr =>
    rw [he, hr]
    simp only [Option.ite_none_right_eq_some, Option.some.injEq, Event.start.injEq,
      Reply.running.injEq]
    exact ⟨fun ⟨ht, ho⟩ => ⟨offset, done, ⟨ht, rfl, rfl⟩, ho⟩,
      fun ⟨_, _, ⟨ht, _, _⟩, ho⟩ => ⟨ht, ho⟩⟩
  · next hn =>
    simp only [reduceCtorEq, false_iff, not_exists, not_and]
    exact fun offset done he hr => hn t offset done o he hr

theorem Moment.ended?_eq_some_iff {m : Moment} :
    m.ended? = some o ↔ ∃ result, m.event = .finish o result := by
  unfold Moment.ended?
  split
  · next o' result he =>
    rw [he]
    simp
  · next hn =>
    simp only [reduceCtorEq, false_iff, not_exists]
    exact fun result he => hn o result he

theorem step_admitted {offset done : Nat} (hs : Step g (.start t offset done) (.running o) g') :
    o = g.operations.length ∧ (∃ a, g.ticket? t = some a ∧ a.canceled = false) ∧
      g'.operation? o = some ⟨t, offset, done, 0, true⟩ := by
  cases hs with
  | keep he => exact he.elim
  | enter offset done ha hc => exact ⟨rfl, ⟨_, ha, hc⟩, by simp [operation?, onTicket]⟩

theorem step_ended {result : Except Fault Unit} (hs : Step g (.finish o result) r g') :
    ∃ op a, g.operation? o = some op ∧ g.ticket? op.ticket = some a ∧ o ∈ a.ongoing := by
  cases hs with
  | keep he => exact he.elim
  | leave result hop ha ho => exact ⟨_, _, hop, ha, ho⟩

theorem Run.admitted_operation (r : Run g h g') (ho : o ∈ admitted t h) :
    ∃ op, g'.operation? o = some op ∧ op.ticket = t ∧ op.started = true := by
  obtain ⟨m, hm, ho⟩ := List.mem_filterMap.mp ho
  obtain ⟨h₁, h₂, -, -, hs, r₂⟩ := r.split hm
  obtain ⟨offset, done, he, hr⟩ := Moment.admitted?_eq_some_iff.mp ho
  obtain ⟨-, -, hop⟩ := step_admitted (he ▸ hr ▸ step_of_step? hs)
  obtain ⟨op, hop, hf⟩ := r₂.operation? hop
  simp only [Operation.fixed, Prod.mk.injEq] at hf
  exact ⟨op, hop, hf.1, hf.2.2⟩

theorem Run.ended_lt (r : Run g h g') (ho : o ∈ ended h) : o < g'.operations.length := by
  obtain ⟨m, hm, ho⟩ := List.mem_filterMap.mp ho
  obtain ⟨h₁, h₂, -, -, hs, r₂⟩ := r.split hm
  obtain ⟨result, he⟩ := Moment.ended?_eq_some_iff.mp ho
  obtain ⟨op, a, hop, -, -⟩ := step_ended (he ▸ step_of_step? hs)
  obtain ⟨op', hop', -⟩ := ((one hs).trans r₂).operation? hop
  exact operation?_isSome_iff.mp ⟨op', hop'⟩

theorem ended_append (h h' : List Moment) : ended (h ++ h') = ended h ++ ended h' :=
  List.filterMap_append

theorem running_append (m : Moment) :
    running t (h ++ [m]) =
      (admitted t h ++ (m.admitted? t).toList).filter (· ∉ ended h ++ m.ended?.toList) := by
  have ha : admitted t (h ++ [m]) = admitted t h ++ (m.admitted? t).toList := by
    simp only [admitted, List.filterMap_append]
    cases hm : m.admitted? t <;> simp [hm]
  have he : ended (h ++ [m]) = ended h ++ m.ended?.toList := by
    simp only [ended, List.filterMap_append]
    cases hm : m.ended? <;> simp [hm]
  rw [running, ha, he]

theorem running_append_none {m : Moment} (ha : m.admitted? t = none) (he : m.ended? = none) :
    running t (h ++ [m]) = running t h := by
  rw [running_append, ha, he]
  simp [running]

theorem running_append_admitted {m : Moment} (ha : m.admitted? t = some o) (he : m.ended? = none)
    (ho : o ∉ ended h) : running t (h ++ [m]) = running t h ++ [o] := by
  rw [running_append, ha, he]
  simp [running, ho]

theorem running_append_ended {m : Moment} (ha : m.admitted? t = none) (he : m.ended? = some o) :
    running t (h ++ [m]) = (running t h).filter (· != o) := by
  rw [running_append, ha, he, running, List.filter_filter]
  simp only [Option.toList_none, List.append_nil]
  apply List.filter_congr
  intro p _
  by_cases hp : p = o <;> simp [hp]

theorem moment_of_mayKeep {m : Moment} (he : m.event.MayKeep) :
    m.admitted? t = none ∧ m.ended? = none := by
  obtain ⟨g, e, out⟩ := m
  cases e <;> first | exact ⟨rfl, rfl⟩ | exact he.elim

theorem Run.admitted_pairwise (r : Run g h g') : (admitted t h).Pairwise (· < ·) := by
  induction r with
  | refl => exact List.Pairwise.nil
  | @step h g' e out r hs ih =>
    rw [admitted, List.filterMap_append, List.pairwise_append]
    refine ⟨ih, ?_, ?_⟩
    · cases hm : Moment.admitted? t ⟨g', e, out⟩ <;> simp [hm]
    · intro o ho o' ho'
      obtain ⟨m, hm, ho'⟩ := List.mem_filterMap.mp ho'
      obtain rfl := List.mem_singleton.mp hm
      obtain ⟨offset, done, rfl, hr⟩ := Moment.admitted?_eq_some_iff.mp ho'
      obtain ⟨rfl, -, -⟩ := step_admitted (hr ▸ step_of_step? hs)
      obtain ⟨op, hop, -⟩ := r.admitted_operation ho
      exact operation?_isSome_iff.mp ⟨op, hop⟩

theorem Run.running_nodup (r : Run g h g') : (running t h).Nodup :=
  (r.admitted_pairwise.imp (fun h => Nat.ne_of_lt h)).filter _

theorem Run.not_mem_running (r : Run g h g') (ho : g'.operation? o = some op) (ht : op.ticket ≠ t) :
    o ∉ running t h := by
  intro hr
  obtain ⟨op', ho', ht', -⟩ := r.admitted_operation (List.mem_filter.mp hr).1
  rw [Option.some.inj (ho.symm.trans ho')] at ht
  exact ht ht'

theorem Run.admitted_eq_nil (r : Run g h g') (hn : ∀ m ∈ h, m.before.ticket? t = none) :
    admitted t h = [] := by
  rw [admitted, List.filterMap_eq_nil_iff]
  intro m hm
  cases ho : m.admitted? t with
  | none => rfl
  | some o =>
    obtain ⟨h₁, h₂, -, -, hs, -⟩ := r.split hm
    obtain ⟨offset, done, he, hr⟩ := Moment.admitted?_eq_some_iff.mp ho
    obtain ⟨-, ⟨a, ha, -⟩, -⟩ := step_admitted (he ▸ hr ▸ step_of_step? hs)
    simp [hn m hm] at ha

theorem Run.ongoing_step (r : Run g h g') (ha : g'.ticket? t = some a)
    (hs : Step g' e out.reply out.gate) (ih : a.ongoing = running t h) :
    ((g'.change? t a e).elim a a.after).ongoing = running t (h ++ [⟨g', e, out⟩]) := by
  obtain ⟨g'', reply, notes⟩ := out
  dsimp only at hs
  -- only a start and an end make a difference, and they make the same one on both sides
  cases hs with
  | @enter t' x offset done hx hc =>
    simp only [change?, same_ticket hx ha (·.canceled = false), hc, and_true]
    by_cases ht : t' = t
    · subst ht
      have ho : g'.operations.length ∉ ended h := fun ho => Nat.lt_irrefl _ (r.ended_lt ho)
      rw [if_pos rfl, running_append_admitted
        (Moment.admitted?_eq_some_iff.mpr ⟨offset, done, rfl, rfl⟩) rfl ho, ← ih]
      rfl
    · have hn (g'' : Gate) : Moment.admitted? t
          ⟨g', .start t' offset done, ⟨g'', .running g'.operations.length, notes⟩⟩ = none :=
        if_neg ht
      rw [if_neg ht, running_append_none (hn _) rfl, ← ih]
      rfl
  | @leave o op x result hop hx ho =>
    simp only [change?, hop]
    rw [running_append_ended (o := o) rfl rfl, ← r.running_nodup.erase_eq_filter]
    by_cases ht : op.ticket = t
    · rw [if_pos ht, ← ih]
      rfl
    · rw [if_neg ht, List.erase_of_not_mem (r.not_mem_running hop ht), ← ih]
      rfl
  | keep he =>
    obtain ⟨hn, hn'⟩ := moment_of_mayKeep (t := t) (m := ⟨g', e, g', reply, notes⟩) he
    rw [change?_of_mayKeep he, running_append_none hn hn', ← ih]
    rfl
  | turnAway offset done hx hc =>
    rw [running_append_none rfl rfl, ← ih]
    simp only [change?, same_ticket hx ha (·.canceled = false), hc, Bool.true_eq_false, and_false,
      ↓reduceIte]
    rfl
  | touch | extend | refuse | connect | noContext | disconnect | cancelIdle | cancelBusy
  | cancelWaits =>
    rw [running_append_none rfl rfl, ← ih]
    simp only [change?]
    split <;> rfl
  | pursueIdle hc | pursueBusy hc | pursueWaits hc =>
    rw [running_append_none rfl rfl, ← ih]
    simp only [change?, hc]
    split <;> rfl
  | _ =>
    rw [running_append_none rfl rfl, ← ih]
    rfl

/-- The operations registered on a ticket are those that it has let start and that have not ended. -/
theorem Run.ongoing_eq (r : Run (initial config clock) h g) (hb : g.ticket? t = some b) :
    b.ongoing = running t h := by
  apply r.ticket_induction hb (P := fun h b => b.ongoing = running t h)
  · intro h g settings now grant r hn
    rw [running, r.admitted_eq_nil hn]
    rfl
  · intro h g a e out r ha hs ih
    exact r.ongoing_step ha (step_of_step? hs) ih

theorem Run.ended_nodup (r : Run (initial config clock) h g) : (ended h).Nodup := by
  induction r with
  | refl => exact List.nodup_nil
  | @step h g e out r hs ih =>
    rw [ended_append, List.nodup_append]
    refine ⟨ih, ?_, ?_⟩
    · rw [ended]
      cases hm : Moment.ended? ⟨g, e, out⟩ <;> simp [hm]
    · rintro o ho _ ho' rfl
      obtain ⟨m, hm, ho'⟩ := List.mem_filterMap.mp ho'
      obtain rfl := List.mem_singleton.mp hm
      obtain ⟨result, rfl⟩ := Moment.ended?_eq_some_iff.mp ho'
      obtain ⟨op, a, -, ha, hoa⟩ := step_ended (step_of_step? hs)
      rw [r.ongoing_eq ha] at hoa
      exact of_decide_eq_true (List.mem_filter.mp hoa).2 ho

theorem Run.ended_nodup_later (r : Run (initial config clock) h g) {h' : List Moment}
    (r' : Run g h' g') : (ended h').Nodup := by
  have hn := (r.trans r').ended_nodup
  rw [ended_append] at hn
  exact (List.nodup_append.mp hn).2.1

theorem Moment.cancels_iff {m : Moment} :
    m.Cancels t ↔ m.before.change? t a m.event = some .cancel := by
  obtain ⟨g, e, out⟩ := m
  cases e with
  | pursue c =>
    simp only [Moment.Cancels, change?]
    split
    · next t' id hc => simp [hc]
    · next hn => simpa using fun id => hn t id
  | finish o result =>
    simp only [Moment.Cancels, change?]
    split <;> simp
  | _ => simp [Moment.Cancels, change?]

theorem step_cancels {m : Moment} (hs : Step m.before m.event r g') (hm : m.Cancels t) :
    ∃ a, m.before.ticket? t = some a := by
  obtain ⟨g, e, out⟩ := m
  cases hs with
  | keep he => obtain ⟨_, rfl⟩ | ⟨_, _, rfl, -⟩ := hm <;> exact he.elim
  | cancelIdle _ ha | cancelBusy ha | cancelWaits ha =>
    obtain ⟨_, he⟩ | ⟨_, _, he, -⟩ := hm
    · cases he
      exact ⟨_, ha⟩
    · cases he
  | pursueIdle hc ha | pursueBusy hc ha | pursueWaits hc ha =>
    obtain ⟨_, he⟩ | ⟨_, _, he, hc'⟩ := hm
    · cases he
    · cases he
      cases hc.symm.trans hc'
      exact ⟨_, ha⟩
  | _ => obtain ⟨_, he⟩ | ⟨_, _, he, -⟩ := hm <;> cases he

theorem Run.canceled_iff (r : Run (initial config clock) h g) (hb : g.ticket? t = some b) :
    b.canceled = true ↔ ∃ m ∈ h, m.Cancels t := by
  refine r.ticket_induction hb (P := fun h b => b.canceled = true ↔ ∃ m ∈ h, m.Cancels t) ?_ ?_
  · intro h g settings now grant r hn
    apply iff_of_false Bool.false_ne_true
    rintro ⟨m, hm, hc⟩
    obtain ⟨h₁, h₂, -, -, hs, -⟩ := r.split hm
    obtain ⟨a, ha⟩ := step_cancels (step_of_step? hs) hc
    simp [hn m hm] at ha
  · intro h g a e out r ha hs ih
    have hx : (∃ m ∈ h ++ [⟨g, e, out⟩], m.Cancels t) ↔
        a.canceled = true ∨ g.change? t a e = some .cancel := by
      simp only [List.mem_append, List.mem_singleton, or_and_right, exists_or, exists_eq_left, ← ih]
      exact or_congr_right Moment.cancels_iff
    rw [hx]
    cases g.change? t a e with
    | none => simp
    | some x => simpa using Ticket.after_canceled_iff

theorem start_canceled (ha : g.ticket? t = some a) (hc : a.canceled = true) (offset done : Nat) :
    ∃ out, g.step? (.start t offset done) = some out ∧
      out.reply = .fault (.denied (.stopped a.terms.transferId)) ∧
      out.gate.tickets = g.tickets ∧
      ∀ h' g', Run out.gate h' g' →
        ∃ op, g'.operation? g.operations.length = some op ∧ op.started = false := by
  refine ⟨g.start t a offset done, by simp [step?, ha], ?_, ?_, ?_⟩
  · simp [start, hc, answer, Ticket.stopped]
  · simp [start, hc, answer]
  · intro h' g' r
    have ho : (g.start t a offset done).gate.operation? g.operations.length =
        some ⟨t, offset, done, 0, false⟩ := by
      simp [start, hc, answer, operation?]
    obtain ⟨op, hop, hf⟩ := r.operation? ho
    simp only [Operation.fixed, Prod.mk.injEq] at hf
    exact ⟨op, hop, hf.2.2⟩

theorem start_live (ha : g.ticket? t = some a) (hc : a.canceled = false) (offset done : Nat) :
    ∃ out, g.step? (.start t offset done) = some out ∧
      out.reply = .running g.operations.length :=
  ⟨g.start t a offset done, by simp [step?, ha], by simp [start, hc]⟩

theorem addContext_canceled (ha : g.ticket? t = some a) (hc : a.canceled = true)
    (c : ConnectionId) (failure : Option String) :
    ∃ out, g.step? (.addContext t c failure) = some out ∧
      out.reply = .fault (.denied (.stopped a.terms.transferId)) ∧
      out.gate.tickets = g.tickets := by
  refine ⟨g.addContext t a c failure, by simp [step?, ha], ?_, ?_⟩
  · simp [addContext, hc, answer, Ticket.stopped]
  · simp [addContext, hc, answer]

theorem after_sublist {x : Ticket.Change} (hx : x.Allowed a) (hc : a.canceled = true) :
    (a.after x).ongoing.Sublist a.ongoing ∧
      (a.after x).connections.entries.Sublist a.connections.entries := by
  cases x with
  | connect | enter => simp [Ticket.Change.Allowed, hc] at hx
  | disconnect c => exact ⟨List.Sublist.refl _, List.filter_sublist⟩
  | leave now o moved => exact ⟨List.erase_sublist, List.Sublist.refl _⟩
  | _ => exact ⟨List.Sublist.refl _, List.Sublist.refl _⟩

theorem Run.canceled_shrinks (r : Run g h g') (ha : g.ticket? t = some a)
    (hc : a.canceled = true) :
    ∃ b, g'.ticket? t = some b ∧ b.canceled = true ∧ b.ongoing.Sublist a.ongoing ∧
      b.connections.entries.Sublist a.connections.entries := by
  refine r.keeps ha ⟨hc, List.Sublist.refl _, List.Sublist.refl _⟩ ?_
  rintro b x hx ⟨hc, ho, hs⟩
  obtain ⟨ho', hs'⟩ := after_sublist hx hc
  exact ⟨Ticket.canceled_after x hc, ho'.trans ho, hs'.trans hs⟩

theorem Run.mem_ongoing_iff (r : Run (initial config clock) h g) (ha : g.ticket? t = some a)
    (hc : a.canceled = true) {h' : List Moment} (r' : Run g h' g') (hb : g'.ticket? t = some b) :
    o ∈ b.ongoing ↔ o ∈ a.ongoing ∧ o ∉ ended h' := by
  have hall : b.ongoing = running t (h ++ h') := (r.trans r').ongoing_eq hb
  constructor
  · intro ho
    obtain ⟨b', hb', -, hs, -⟩ := r'.canceled_shrinks ha hc
    obtain rfl := Option.some.inj (hb'.symm.trans hb)
    refine ⟨hs.subset ho, fun hmem => ?_⟩
    rw [hall] at ho
    apply of_decide_eq_true (List.mem_filter.mp ho).2
    exact ended_append h h' ▸ List.mem_append_right _ hmem
  · rintro ⟨ho, hn⟩
    rw [r.ongoing_eq ha] at ho
    obtain ⟨hadm, hopen⟩ := List.mem_filter.mp ho
    have hopen : o ∉ ended h := of_decide_eq_true hopen
    rw [hall]
    refine List.mem_filter.mpr ⟨?_, decide_eq_true ?_⟩
    · rw [admitted, List.filterMap_append]
      exact List.mem_append_left _ hadm
    · rw [ended_append, List.mem_append]
      exact fun hx => hx.elim hopen hn

/-- A ticket has one entry for each operation that it has let start and that has not ended. It is
canceled from its first cancellation on; then nothing more is let in, and what is there can only
leave. -/
theorem Run.cancellation_gate (r : Run (initial config clock) h g) (ha : g.ticket? t = some a) :
    (a.ongoing = running t h ∧ (running t h).Nodup ∧
      (a.isActive = true ↔ ∃ o, o ∈ running t h)) ∧
    (a.canceled = true ↔ ∃ m ∈ h, m.Cancels t) ∧
    (a.canceled = false → ∀ offset done, ∃ out, g.step? (.start t offset done) = some out ∧
      out.reply = .running g.operations.length) ∧
    (a.canceled = true →
      (∀ offset done, ∃ out, g.step? (.start t offset done) = some out ∧
        out.reply = .fault (.denied (.stopped a.terms.transferId)) ∧
        out.gate.tickets = g.tickets ∧
        ∀ h' g', Run out.gate h' g' →
          ∃ op, g'.operation? g.operations.length = some op ∧ op.started = false) ∧
      (∀ c failure, ∃ out, g.step? (.addContext t c failure) = some out ∧
        out.reply = .fault (.denied (.stopped a.terms.transferId)) ∧
        out.gate.tickets = g.tickets) ∧
      ∀ h' g', Run g h' g' → ∃ b, g'.ticket? t = some b ∧ b.canceled = true ∧
        b.ongoing.Sublist a.ongoing ∧
        b.connections.entries.Sublist a.connections.entries) := by
  have ho := r.ongoing_eq ha
  refine ⟨⟨ho, r.running_nodup, ?_⟩, r.canceled_iff ha, start_live ha, fun hc => ⟨?_, ?_, ?_⟩⟩
  · rw [Ticket.isActive_iff, ho]
    exact ⟨List.exists_mem_of_ne_nil _, fun ⟨_, ho⟩ => List.ne_nil_of_mem ho⟩
  · exact start_canceled ha hc
  · exact addContext_canceled ha hc
  · exact fun h' g' r' => r'.canceled_shrinks ha hc

theorem Run.cancellation_gate_while_waiting :
    ∃ h g a, Run (initial ⟨60, 60⟩ 0) h g ∧ g.ticket? 0 = some a ∧ a.canceled = true ∧
      running 0 h = [1] ∧ (∃ m ∈ h, m.Cancels 0) ∧
      ∀ offset done, ∃ out, g.step? (.start 0 offset done) = some out ∧
        out.reply = .fault (.denied (.stopped a.terms.transferId)) ∧
        out.gate.tickets = g.tickets := by
  obtain ⟨h, g, r, -, hf⟩ := of_play_any (initial ⟨60, 60⟩ 0)
    [.issue sampleRecord, .start 0 0 0, .start 0 0 0, .cancel 0 1000, .finish 0 (.ok ())]
    (fun _ g => (g.ticket? 0).any fun a => a.canceled && a.ongoing == [1]) (by decide +kernel)
  obtain ⟨a, ha, hf⟩ := (Option.any_eq_true ..).mp hf
  obtain ⟨hc, ho⟩ := Bool.and_eq_true_iff.mp hf
  have gate := r.cancellation_gate ha
  exact ⟨h, g, a, r, ha, hc, gate.1.1.symm.trans (beq_iff_eq.mp ho), gate.2.1.mp hc,
    fun offset done => (gate.2.2.2 hc).1 offset done |>.imp fun _ ⟨hs, hr, ht, _⟩ => ⟨hs, hr, ht⟩⟩

end Gate

end TicketGate
