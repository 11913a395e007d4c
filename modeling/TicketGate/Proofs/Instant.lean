import TicketGate.Proofs.Closing
import TicketGate.Proofs.Reordering
import TicketGate.Proofs.Store

namespace TicketGate

namespace Ticket

theorem leave_comm {a : Ticket} {now : Nat} {o p : OperationId} {moved moved' : ByteRange}
    (hne : o ≠ p) (ho : o ∈ a.ongoing) (hp : p ∈ a.ongoing) :
    (a.leave now o moved).leave now p moved' = (a.leave now p moved').leave now o moved := by
  -- neither is the last one as long as the other is there, so only the second can drain the ticket
  have hdrained : (a.ongoing.erase o).isEmpty = false ∧ (a.ongoing.erase p).isEmpty = false := by
    simp only [List.isEmpty_eq_false_iff]
    exact ⟨List.ne_nil_of_mem ((List.mem_erase_of_ne hne.symm).mpr hp),
      List.ne_nil_of_mem ((List.mem_erase_of_ne hne).mpr ho)⟩
  simp only [leave, touch, counts, hdrained, List.erase_comm o p, Bool.and_false, Bool.or_false]
  by_cases hcounts : (!a.canceled && a.terms.access.length == 1) = true
  · simp only [hcounts, ↓reduceIte, Coverage.add_right_comm _ moved moved']
  · simp only [hcounts, Bool.false_eq_true, ↓reduceIte]

end Ticket

namespace Gate

def AllSettled (g : Gate) : Prop := ∀ t a, g.ticket? t = some a → a.Settled

/-- The events that come of themselves: an operation ends as it does, or a call goes on. -/
def Event.Due (ends : OperationId → Option (Except Fault Unit)) : Event → Prop
  | .finish o result => ends o = some result
  | .wake _ | .delete _ | .expire _ => True
  | _ => False

/-- What becomes of a call: the ticket whose contexts it closes, what it takes out of the store,
where it stands then, and its answer. -/
structure Turn where
  closes : Option Ticket
  deletes : Option (String × TicketId)
  next : Option Call
  reply : Reply

def turn (g : Gate) (c : CallId) (x : Turn) : Gate :=
  { g with
    contexts := (x.closes.elim g g.closeAll).contexts
    store := (x.deletes.elim g fun d => g.unregister d.1 d.2).store
    calls := (x.next.elim (g.drop c) (g.hold c)).calls }

inductive Turns (g : Gate) (c : CallId) : Event → Turn → Prop
  | cancelWakes {t : TicketId} {deadline : Nat} {a : Ticket} :
      g.calls.get? c = some (.waiting t deadline none) → g.ticket? t = some a →
      a.drained = true → Turns g c (.wake c) ⟨some a, none, none, .flag true⟩
  | removalWakes {t : TicketId} {deadline : Nat} {id : String} {a : Ticket} :
      g.calls.get? c = some (.waiting t deadline (some id)) → g.ticket? t = some a →
      a.drained = true →
      Turns g c (.wake c) ⟨some a, none, some (.unused t id), .pending c⟩
  | deletes {t : TicketId} {id : String} :
      g.calls.get? c = some (.unused t id) →
      Turns g c (.delete c) ⟨none, some (id, t), none, .done⟩
  | expires {t : TicketId} {deadline : Nat} {removal : Option String} {a : Ticket} :
      g.calls.get? c = some (.waiting t deadline removal) → g.ticket? t = some a →
      a.drained = false → deadline ≤ g.clock →
      Turns g c (.expire c) ⟨none, none, none, .fault (.cancelTimeout a.terms.transferId)⟩

/-- The time of a call is up while an operation of its ticket ends. -/
def Clash (g : Gate) (e e' : Event) : Prop :=
  ∃ c o result t deadline removal op, e = .expire c ∧ e' = .finish o result ∧
    g.calls.get? c = some (.waiting t deadline removal) ∧ g.operation? o = some op ∧ op.ticket = t

/-- After either event the other one can still happen, each is answered as if it were alone, and
both ways lead to the same. -/
def Commute (e e' : Event) (out out' : Outcome) : Prop :=
  ∃ next next', out.gate.step? e' = some next' ∧ next'.reply = out'.reply ∧
    out'.gate.step? e = some next ∧ next.reply = out.reply ∧ next'.gate.Alike next.gate

variable {g g' : Gate} {c d : CallId} {e e' : Event} {x y : Turn} {out out' : Outcome}
  {ends : OperationId → Option (Except Fault Unit)} {o : OperationId} {op : Operation}
  {a : Ticket} {t : TicketId} {result : Except Fault Unit}

theorem finish_out (hs : g.step? (.finish o result) = some out) :
    ∃ op a, g.operation? o = some op ∧ g.ticket? op.ticket = some a ∧ o ∈ a.ongoing ∧
      out.gate = g.onTicket op.ticket (·.leave g.seconds o op.moved) ∧
      out.reply = runReply a result := by
  have step := step_of_step? hs
  generalize out.gate = g', out.reply = r at step
  cases step with
  | keep he => exact he.elim
  | leave result hop ha ho => exact ⟨_, _, hop, ha, ho, rfl, rfl⟩

theorem finish_step (hop : g.operation? o = some op) (ha : g.ticket? op.ticket = some a)
    (ho : o ∈ a.ongoing) (result : Except Fault Unit) :
    ∃ out, g.step? (.finish o result) = some out ∧
      out.gate = g.onTicket op.ticket (·.leave g.seconds o op.moved) ∧
      out.reply = runReply a result := by
  simp [step?, finish?, hop, ha, ho]

theorem unregister_drop (g : Gate) (id : String) (t : TicketId) (c : CallId) :
    (g.unregister id t).drop c = g.turn c ⟨none, some (id, t), none, .done⟩ := by
  unfold unregister turn
  split <;> simp [unregister, drop, *]

theorem turn_out (hs : g.step? e = some out) (hc : e.call? = some c) (he : e.Due ends) :
    ∃ x, g.Turns c e x ∧ out.gate = g.turn c x ∧ out.reply = x.reply := by
  have step := step_of_step? hs
  generalize out.gate = g', out.reply = r at step
  cases step with
  | wakeCancel hf ha hd =>
    obtain rfl := Option.some.inj hc
    exact ⟨_, .cancelWakes hf ha hd, rfl, rfl⟩
  | wakeRemoval hf ha hd =>
    obtain rfl := Option.some.inj hc
    exact ⟨_, .removalWakes hf ha hd, rfl, rfl⟩
  | delete hf =>
    obtain rfl := Option.some.inj hc
    exact ⟨_, .deletes hf, unregister_drop .., rfl⟩
  | expire hf ha hd hl =>
    obtain rfl := Option.some.inj hc
    exact ⟨_, .expires hf ha hd hl, rfl, rfl⟩
  | keep hk => simp [call?_of_mayKeep hk] at hc
  | pursueIdle | pursueBusy | pursueWaits => exact he.elim
  | _ => simp [Event.call?] at hc

theorem turn_step (hx : g.Turns c e x) :
    ∃ out, g.step? e = some out ∧ out.gate = g.turn c x ∧ out.reply = x.reply := by
  cases hx with
  | cancelWakes hf ha hd | removalWakes hf ha hd =>
    simp only [step?, wake?, hf, ha, hd, Option.bind_some, ↓reduceIte]
    exact ⟨_, rfl, rfl, rfl⟩
  | deletes hf =>
    simp only [step?, delete?, hf]
    exact ⟨_, rfl, unregister_drop .., rfl⟩
  | expires hf ha hd hl =>
    simp only [step?, expire?, hf, ha, hd, hl, Option.bind_some, Bool.not_false, decide_true,
      Bool.and_self, ↓reduceIte]
    exact ⟨_, rfl, rfl, rfl⟩

theorem turns_unique (hx : g.Turns c e x) (hy : g.Turns c e' y) : e = e' := by
  cases hx with
  | cancelWakes hf ha hd | removalWakes hf ha hd =>
    cases hy with
    | cancelWakes | removalWakes => rfl
    | deletes hf' => cases hf.symm.trans hf'
    | expires hf' ha' hd' =>
      cases hf.symm.trans hf'
      cases ha.symm.trans ha'
      simp [hd] at hd'
  | deletes hf =>
    cases hy with
    | deletes => rfl
    | cancelWakes hf' | removalWakes hf' | expires hf' => cases hf.symm.trans hf'
  | expires hf ha hd =>
    cases hy with
    | expires => rfl
    | deletes hf' => cases hf.symm.trans hf'
    | cancelWakes hf' ha' hd' | removalWakes hf' ha' hd' =>
      cases hf.symm.trans hf'
      cases ha.symm.trans ha'
      simp [hd] at hd'

theorem get?_turn (g : Gate) (c : CallId) (x : Turn) :
    (g.turn c x).calls.get? d = if d = c then x.next else g.calls.get? d := by
  simp only [turn]
  cases x.next with
  | none => exact get?_drop ..
  | some call => exact get?_hold ..

theorem get?_turn_ne (hne : d ≠ c) : (g.turn c x).calls.get? d = g.calls.get? d := by
  rw [get?_turn, if_neg hne]

theorem get?_store_turn {id : String} :
    (g.turn c x).store.get? id = some t ↔ g.store.get? id = some t ∧ x.deletes ≠ some (id, t) := by
  obtain ⟨closes, deletes, next, reply⟩ := x
  cases deletes with
  | none => simp [turn]
  | some d =>
    refine get?_unregister_eq_some.trans (and_congr_right fun _ => not_congr ?_)
    rw [Option.some.injEq, Prod.ext_iff]
    exact and_congr eq_comm eq_comm

def Turn.closings (x : Turn) (i : ContextId) : Nat :=
  x.closes.elim 0 fun a => a.connections.entries.countP (·.2 == i)

theorem context?_turn (g : Gate) (c : CallId) (x : Turn) (i : ContextId) :
    (g.turn c x).context? i =
      (g.context? i).map fun ctx => { ctx with closes := ctx.closes + x.closings i } := by
  obtain ⟨closes, deletes, next, reply⟩ := x
  cases closes with
  | none => simp [turn, context?, Turn.closings]
  | some a => exact context?_closeAll ..

theorem Turns.after_turn (hx : g.Turns c e x) (hne : c ≠ d) (y : Turn) :
    (g.turn d y).Turns c e x := by
  cases hx with
  | cancelWakes hf ha hd => exact .cancelWakes ((get?_turn_ne hne).trans hf) ha hd
  | removalWakes hf ha hd => exact .removalWakes ((get?_turn_ne hne).trans hf) ha hd
  | deletes hf => exact .deletes ((get?_turn_ne hne).trans hf)
  | expires hf ha hd hl => exact .expires ((get?_turn_ne hne).trans hf) ha hd hl

theorem Turns.after_leave (hx : g.Turns c e x) (hop : g.operation? o = some op)
    (ha : g.ticket? op.ticket = some a) (ho : o ∈ a.ongoing) (hset : g.AllSettled)
    (hclash : ¬ g.Clash e (.finish o result)) :
    (g.onTicket op.ticket (·.leave g.seconds o op.moved)).Turns c e x := by
  have hother {t : TicketId} {b : Ticket} (hne : op.ticket ≠ t) (hb : g.ticket? t = some b) :
      (g.onTicket op.ticket (·.leave g.seconds o op.moved)).ticket? t = some b := by
    rw [ticket?_onTicket, if_neg hne, hb]
  -- a ticket that has drained has no operation that could end
  have hdrained {t : TicketId} {b : Ticket} (hb : g.ticket? t = some b) (hd : b.drained = true) :
      op.ticket ≠ t := by
    rintro rfl
    cases ha.symm.trans hb
    simp [(hset _ _ hb hd).2] at ho
  cases hx with
  | cancelWakes hf hb hd => exact .cancelWakes hf (hother (hdrained hb hd) hb) hd
  | removalWakes hf hb hd => exact .removalWakes hf (hother (hdrained hb hd) hb) hd
  | deletes hf => exact .deletes hf
  | expires hf hb hd hl =>
    refine .expires hf (hother (fun ht => hclash ?_) hb) hd hl
    exact ⟨c, o, result, _, _, _, op, rfl, rfl, hf, hop, ht⟩

theorem turn_comm (hne : c ≠ d) (x y : Turn) :
    ((g.turn c x).turn d y).Alike ((g.turn d y).turn c x) where
  config := rfl
  clock := rfl
  tickets := List.forall₂_same.mpr fun a _ => .refl a
  store := Table.alike_iff.mpr fun id => Option.ext fun t => by
    rw [get?_store_turn, get?_store_turn, get?_store_turn, get?_store_turn, and_right_comm]
  operations := rfl
  contexts := List.ext_getElem? fun i => by
    have hcontexts (g : Gate) (c : CallId) (x : Turn) := context?_turn g c x i
    simp only [context?] at hcontexts
    rw [hcontexts, hcontexts, hcontexts, hcontexts, Option.map_map, Option.map_map]
    simp only [Function.comp_def, Nat.add_right_comm _ (x.closings i)]
  calls := Table.alike_iff.mpr fun j => by
    rw [get?_turn, get?_turn, get?_turn, get?_turn]
    by_cases hc : j = c
    · subst hc
      simp [hne]
    · simp [hc]
  nextCall := rfl

theorem turn_onTicket (g : Gate) (t : TicketId) (f : Ticket → Ticket) (c : CallId) (x : Turn) :
    ((g.onTicket t f).turn c x).Alike ((g.turn c x).onTicket t f) where
  config := rfl
  clock := rfl
  tickets := List.forall₂_same.mpr fun a _ => .refl a
  store := Table.alike_iff.mpr fun _ => Option.ext fun _ =>
    get?_store_turn.trans (get?_store_turn (g := g) (c := c) (x := x)).symm
  operations := rfl
  contexts := List.ext_getElem? fun i =>
    (context?_turn (g.onTicket t f) c x i).trans (context?_turn g c x i).symm
  calls := Table.alike_iff.mpr fun _ => (get?_turn ..).trans (get?_turn g c x).symm
  nextCall := rfl

theorem Commute.symm (h : Commute e e' out out') : Commute e' e out' out := by
  obtain ⟨next, next', hs', hr', hs, hr, halike⟩ := h
  exact ⟨next', next, hs, hr, hs', hr', halike.symm⟩

theorem ticket?_leave {p : OperationId} {t : TicketId} (hne : o ≠ p) (hb : g.ticket? t = some a)
    (hp : p ∈ a.ongoing) (now : Nat) (moved : ByteRange) (t' : TicketId)
    (result : Except Fault Unit) :
    ∃ b, (g.onTicket t' (·.leave now o moved)).ticket? t = some b ∧ p ∈ b.ongoing ∧
      runReply b result = runReply a result := by
  rw [ticket?_onTicket_of hb]
  split
  · exact ⟨_, rfl, (List.mem_erase_of_ne hne.symm).mpr hp, rfl⟩
  · exact ⟨_, rfl, hp, rfl⟩

theorem finish_finish {p : OperationId} {result' : Except Fault Unit} (hne : o ≠ p)
    (hs : g.step? (.finish o result) = some out) (hs' : g.step? (.finish p result') = some out') :
    Commute (.finish o result) (.finish p result') out out' := by
  obtain ⟨op, a, hop, ha, ho, hgate, hreply⟩ := finish_out hs
  obtain ⟨op', b, hop', hb, hp, hgate', hreply'⟩ := finish_out hs'
  obtain ⟨b₁, hb₁, hp₁, hr₁⟩ := ticket?_leave hne hb hp g.seconds op.moved op.ticket result'
  obtain ⟨a₁, ha₁, ho₁, hr₂⟩ := ticket?_leave hne.symm ha ho g.seconds op'.moved op'.ticket result
  rw [← hgate] at hb₁
  rw [← hgate'] at ha₁
  have hop₁ : out.gate.operation? p = some op' := by rw [hgate]; exact hop'
  have hop₂ : out'.gate.operation? o = some op := by rw [hgate']; exact hop
  obtain ⟨next', hs₁, hg₁, hrep₁⟩ := finish_step hop₁ hb₁ hp₁ result'
  obtain ⟨next, hs₂, hg₂, hrep₂⟩ := finish_step hop₂ ha₁ ho₁ result
  refine ⟨next, next', hs₁, ?_, hs₂, ?_, ?_⟩
  · rw [hrep₁, hreply', hr₁]
  · rw [hrep₂, hreply, hr₂]
  · have hcomm : next'.gate = next.gate := by
      rw [hg₁, hg₂, hgate, hgate']
      simp only [onTicket, seconds]
      congr 1
      -- the two meet only on a common ticket
      refine modify_comm fun ht x hx => ?_
      obtain rfl := Option.some.inj (ha.symm.trans hx)
      obtain rfl := Option.some.inj (hb.symm.trans (ht ▸ ha))
      exact Ticket.leave_comm hne ho hp
    exact hcomm ▸ .refl _

theorem finish_turn (hx : g.Turns c e x) (hs : g.step? (.finish o result) = some out)
    (hgate' : out'.gate = g.turn c x) (hreply' : out'.reply = x.reply) (hset : g.AllSettled)
    (hclash : ¬ g.Clash e (.finish o result)) :
    Commute (.finish o result) e out out' := by
  obtain ⟨op, a, hop, ha, ho, hgate, hreply⟩ := finish_out hs
  obtain ⟨next', hs₁, hg₁, hrep₁⟩ := turn_step (hx.after_leave hop ha ho hset hclash)
  obtain ⟨next, hs₂, hg₂, hrep₂⟩ := finish_step (g := g.turn c x) hop ha ho result
  rw [← hgate] at hs₁
  rw [← hgate'] at hs₂
  refine ⟨next, next', hs₁, hrep₁.trans hreply'.symm, hs₂, hrep₂.trans hreply.symm, ?_⟩
  rw [hg₁, hg₂]
  exact turn_onTicket ..

theorem turn_turn (hne : c ≠ d) (hx : g.Turns c e x) (hy : g.Turns d e' y)
    (hgate : out.gate = g.turn c x) (hreply : out.reply = x.reply)
    (hgate' : out'.gate = g.turn d y) (hreply' : out'.reply = y.reply) :
    Commute e e' out out' := by
  obtain ⟨next', hs₁, hg₁, hrep₁⟩ := turn_step (hy.after_turn hne.symm x)
  obtain ⟨next, hs₂, hg₂, hrep₂⟩ := turn_step (hx.after_turn hne y)
  rw [← hgate] at hs₁
  rw [← hgate'] at hs₂
  refine ⟨next, next', hs₁, hrep₁.trans hreply'.symm, hs₂, hrep₂.trans hreply.symm, ?_⟩
  rw [hg₁, hg₂]
  exact turn_comm hne x y

theorem Event.due_cases (he : e.Due ends) :
    (∃ o result, e = .finish o result ∧ ends o = some result) ∨ ∃ c, e.call? = some c := by
  cases e with
  | finish o result => exact .inl ⟨o, result, rfl, he⟩
  | wake c | delete c | expire c => exact .inr ⟨c, rfl⟩
  | _ => exact he.elim

/-- Two events that are due can happen in either order, unless the time of a call is up on a ticket
of which an operation ends. -/
theorem commute_of_due (hset : g.AllSettled) (he : e.Due ends) (he' : e'.Due ends)
    (hne : e ≠ e') (hs : g.step? e = some out) (hs' : g.step? e' = some out')
    (hclash : ¬ g.Clash e e') (hclash' : ¬ g.Clash e' e) : Commute e e' out out' := by
  obtain ⟨o, result, rfl, ho⟩ | ⟨c, hc⟩ := Event.due_cases he
  · obtain ⟨p, result', rfl, hp⟩ | ⟨d, hd⟩ := Event.due_cases he'
    · refine finish_finish ?_ hs hs'
      rintro rfl
      obtain rfl := Option.some.inj (ho.symm.trans hp)
      exact hne rfl
    · obtain ⟨y, hy, hgate, hreply⟩ := turn_out hs' hd he'
      exact finish_turn hy hs hgate hreply hset hclash'
  · obtain ⟨x, hx, hgate, hreply⟩ := turn_out hs hc he
    obtain ⟨p, result', rfl, hp⟩ | ⟨d, hd⟩ := Event.due_cases he'
    · exact (finish_turn hx hs' hgate hreply hset hclash).symm
    · obtain ⟨y, hy, hgate', hreply'⟩ := turn_out hs' hd he'
      have hcd : c ≠ d := by
        rintro rfl
        exact hne (turns_unique hx hy)
      exact turn_turn hcd hx hy hgate hreply hgate' hreply'

end Gate

end TicketGate
