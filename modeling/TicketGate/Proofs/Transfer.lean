import TicketGate.Proofs.Positions
import TicketGate.Proofs.Registration
import TicketGate.Session.Command

namespace TicketGate

theorem Access.one_lt_length {ks : List Access} (hr : read ∈ ks) (hw : write ∈ ks) :
    1 < ks.length := by
  cases ks with
  | nil => simp at hr
  | cons k ks =>
    cases ks with
    | nil =>
      cases List.mem_singleton.mp hr
      simp at hw
    | cons => simp

/-- The operation has moved the byte at `x`. Positions are cut off at the largest counter. -/
def Operation.Covers (op : Operation) (x : Nat) : Prop :=
  op.offset ≤ x ∧ x < min (op.offset + op.done) maxWord

def Session.Command.Asks : Session.Command → Prop
  | .info _ | .line _ | .fields _ => True
  | _ => False

theorem Ticket.counts_after (a : Ticket) (y : Ticket.Change) : (a.after y).counts = a.counts := by
  rw [counts, after_terms, counts]

theorem Ticket.mem_completed_after {a : Ticket} {y : Ticket.Change} (hk : a.counts = true)
    (x : Nat) :
    x ∈ (a.after y).completed ↔
      x ∈ a.completed ∨ ∃ now o moved, y = .leave now o moved ∧ a.canceled = false ∧ x ∈ moved := by
  cases y with
  | leave now o moved =>
    simp only [after, leave, touch, hk, Bool.and_true, Bool.not_eq_true']
    by_cases hc : a.canceled = false <;> simp [hc, Coverage.mem_add]
  | _ => simp [after, touch, extend, connect, disconnect, enter, cancel]

theorem Ticket.completed_after {a : Ticket} (y : Ticket.Change) (hk : a.counts = false) :
    (a.after y).completed = a.completed := by
  cases y <;> simp [after, touch, extend, connect, disconnect, enter, leave, cancel, hk]

namespace Gate

/-- An operation ends on the ticket of number `t`, which is not canceled, and has moved the byte at
`x`. -/
def Moment.Completes (t : TicketId) (x : Nat) (m : Moment) : Prop :=
  ∃ o result op a, m.event = .finish o result ∧ m.before.operation? o = some op ∧ op.ticket = t ∧
    m.before.ticket? t = some a ∧ a.canceled = false ∧ op.Covers x

variable {g : Gate} {t : TicketId} {a : Ticket} {h : List Moment} {config : Config} {clock x : Nat}

theorem mem_progress {o : OperationId} {op : Operation} (ho : g.operation? o = some op) :
    x ∈ g.progress o ↔ op.Covers x := by
  rw [progress, ho]
  exact Iff.rfl

theorem Moment.completes_iff {m : Moment} (ha : m.before.ticket? t = some a) :
    m.Completes t x ↔ ∃ now o moved, m.before.change? t a m.event = some (.leave now o moved) ∧
      a.canceled = false ∧ x ∈ moved := by
  simp only [change?_eq_leave_iff]
  constructor
  · rintro ⟨o, result, op, b, he, hop, ht, hb, hc, hx⟩
    cases hb.symm.trans ha
    exact ⟨_, o, _, ⟨result, op, he, hop, ht, rfl, rfl⟩, hc, hx⟩
  · rintro ⟨_, o, _, ⟨result, op, he, hop, ht, rfl, rfl⟩, hc, hx⟩
    exact ⟨o, result, op, a, he, hop, ht, ha, hc, hx⟩

namespace Run

theorem mem_completed_iff (r : Run (initial config clock) h g) (ha : g.ticket? t = some a)
    (hk : a.counts = true) : x ∈ a.completed ↔ ∃ m ∈ h, m.Completes t x := by
  refine r.ticket_induction ha
    (P := fun h a => a.counts = true → (x ∈ a.completed ↔ ∃ m ∈ h, m.Completes t x)) ?_ ?_ hk
  · intro h g settings now grant r hn _
    apply iff_of_false Coverage.not_mem_empty
    rintro ⟨m, hm, o, result, op, b, -, -, -, hb, -⟩
    simp [hn m hm] at hb
  · intro h g a e out r ha hs ih hk
    have hlast : Moment.Completes t x ⟨g, e, out⟩ ↔ _ := Moment.completes_iff ha
    simp only [List.mem_append, List.mem_singleton, or_and_right, exists_or, exists_eq_left, hlast]
    cases hy : g.change? t a e with
    | none =>
      rw [hy] at hk
      simpa using ih hk
    | some y =>
      rw [hy] at hk
      have hk : a.counts = true := (a.counts_after y).symm.trans hk
      simp only [Option.elim_some, Ticket.mem_completed_after hk, ih hk, Option.some.injEq]

theorem completed_eq_empty (r : Run (initial config clock) h g) (ha : g.ticket? t = some a)
    (hk : a.counts = false) : a.completed = Coverage.empty := by
  refine r.ticket_induction ha (P := fun _ a => a.counts = false → a.completed = Coverage.empty)
    (fun _ _ _ _ _ _ _ _ => rfl) ?_ hk
  intro h g a e out r ha hs ih
  refine change_keeps (P := fun b => b.counts = false → b.completed = Coverage.empty)
    (step_of_step? hs) ha ih fun y _ hk => ?_
  have hk : a.counts = false := (a.counts_after y).symm.trans hk
  exact (Ticket.completed_after y hk).trans (ih hk)

theorem mem_positions_iff (r : Run (initial config clock) h g) (ha : g.ticket? t = some a)
    (hk : a.counts = true) {os : List OperationId} (hos : os.Perm a.ongoing) :
    x ∈ a.completed.addAll (os.map g.progress) ↔
      (∃ m ∈ h, m.Completes t x) ∨ ∃ o ∈ running t h, ∃ op, g.operation? o = some op ∧ op.Covers x := by
  rw [Coverage.mem_addAll, r.mem_completed_iff ha hk]
  apply or_congr_right
  simp only [List.mem_map, exists_exists_and_eq_and, hos.mem_iff, r.ongoing_eq ha]
  apply exists_congr
  intro o
  apply and_congr_right
  intro ho
  obtain ⟨op, hop, -⟩ := r.admitted_operation (List.mem_filter.mp ho).1
  simp [mem_progress hop, hop]

end Run

theorem execute_asks {s s' : Session} {q : Session.Command} {result : Session.Result} (hq : q.Asks)
    (hs : s.execute q = .ok (s', result)) : s' = s := by
  cases q with
  | info name | line name | fields name =>
    simp only [Session.execute] at hs
    cases hi : s.snapshot name with
    | error u => simp [hi, bind, Except.bind] at hs
    | ok i =>
      simp [hi, bind, Except.bind, pure, Except.pure] at hs
      exact hs.1.symm
  | _ => exact hq.elim

namespace Run

/-- What a ticket of one kind of access has transferred is the number of bytes that were moved by
operations that ended before it was canceled or that have been moved by those that run now. A ticket
of both kinds does not count. Whoever asks changes nothing. -/
theorem transferred_eq (r : Run (initial config clock) h g) (ha : g.ticket? t = some a) :
    (∀ k, a.terms.access = [k] → ∃ S : Finset Nat,
      (∀ x, x ∈ S ↔ (∃ m ∈ h, m.Completes t x) ∨
        ∃ o ∈ running t h, ∃ op, g.operation? o = some op ∧ op.Covers x) ∧
      a.transferred g.progress = some S.card ∧
      ∀ os, os.Perm a.ongoing →
        ({ a with ongoing := os } : Ticket).transferred g.progress = some S.card) ∧
    (.read ∈ a.terms.access ∧ .write ∈ a.terms.access →
      a.transferred g.progress = none ∧ a.completed = Coverage.empty) ∧
    ∀ (s s' : Session) q result, q.Asks → s.execute q = .ok (s', result) → s' = s := by
  refine ⟨fun k hk => ?_, fun hk => ?_, fun s s' q result hq hs => execute_asks hq hs⟩
  · have hcounts : a.counts = true := by simp [Ticket.counts, hk]
    refine ⟨(a.completed.addAll (a.ongoing.map g.progress)).positions, fun x => ?_, ?_, ?_⟩
    · rw [Coverage.mem_positions, r.mem_positions_iff ha hcounts (.refl _)]
    · simp [Ticket.transferred, hk, Coverage.size_eq_card]
    · intro os hos
      have hsize : (a.completed.addAll (os.map g.progress)).size =
          (a.completed.addAll (a.ongoing.map g.progress)).size := by
        apply Coverage.size_congr
        intro x
        rw [r.mem_positions_iff ha hcounts hos, r.mem_positions_iff ha hcounts (.refl _)]
      simp [Ticket.transferred, hk, hsize, Coverage.size_eq_card]
  · have hlen : 1 < a.terms.access.length := Access.one_lt_length hk.1 hk.2
    have hcounts : a.counts = false := by simp [Ticket.counts, Nat.ne_of_gt hlen]
    exact ⟨if_pos hlen, r.completed_eq_empty ha hcounts⟩

theorem transferred_eq_of_overlap :
    ∃ h g a, Run (initial ⟨60, 60⟩ 0) h g ∧ g.ticket? 0 = some a ∧ a.terms.access = [.read] ∧
      a.transferred g.progress = some 7 ∧ ∃ S : Finset Nat, S.card = 7 ∧
        ∀ x, x ∈ S ↔ (∃ m ∈ h, m.Completes 0 x) ∨
          ∃ o ∈ running 0 h, ∃ op, g.operation? o = some op ∧ op.Covers x := by
  obtain ⟨h, g, r, -, hf⟩ := of_play_any (initial ⟨60, 60⟩ 0)
    [.issue sampleRecord, .start 0 0 5, .start 0 3 4, .finish 0 (.error (.io "broken"))]
    (fun _ g => (g.ticket? 0).any fun a =>
      a.terms.access == [.read] && a.transferred g.progress == some 7) (by decide +kernel)
  obtain ⟨a, ha, hf⟩ := (Option.any_eq_true ..).mp hf
  simp only [Bool.and_eq_true, beq_iff_eq] at hf
  obtain ⟨hk, hseven⟩ := hf
  obtain ⟨S, hS, hcard, -⟩ := (r.transferred_eq ha).1 _ hk
  exact ⟨h, g, a, r, ha, hk, hseven, S, Option.some.inj (hcard.symm.trans hseven), hS⟩

end Run

end Gate

end TicketGate
