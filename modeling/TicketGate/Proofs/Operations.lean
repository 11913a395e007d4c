import Mathlib.Data.List.Nodup
import TicketGate.Proofs.Registration

namespace TicketGate.Gate

variable {g g' : Gate} {t t' : TicketId} {a b : Ticket} {o : OperationId} {op : Operation}
  {offset done : Nat} {result : Except Fault Unit} {out out' : Outcome} {h h' : List Moment}
  {config : Config} {clock : Nat}

theorem start_reply :
    (g.start t a offset done).reply =
      if a.canceled then .fault (.denied (.stopped a.terms.transferId))
      else .running g.operations.length := by
  unfold start
  cases hc : a.canceled <;> simp [answer, Ticket.stopped]

theorem operation?_start :
    (g.start t a offset done).gate.operation? g.operations.length =
      some ⟨t, offset, done, 0, !a.canceled⟩ := by
  unfold start
  cases hc : a.canceled <;> simp [answer, operation?, onTicket]

theorem runReply_canceled (hc : a.canceled = true) :
    runReply a result = .fault (.denied (.stopped a.terms.transferId)) := by
  simp [runReply, hc, Ticket.stopped]

theorem runReply_done (hc : a.canceled = false)
    (hr : result = .ok () ∨ result = .error .operationCanceled) : runReply a result = .done := by
  obtain rfl | rfl := hr <;> simp [runReply, hc]

theorem runReply_fault {f : Fault} (hc : a.canceled = false) (hf : f ≠ .operationCanceled) :
    runReply a (.error f) = .fault f := by
  simp only [runReply, hc, Bool.false_eq_true, ↓reduceIte]

/-- Unless an operation reports so itself, a denial means that its ticket was canceled. -/
theorem runReply_denied_iff (hr : ∀ d, result ≠ .error (.denied d)) :
    (∃ d, runReply a result = .fault (.denied d)) ↔ a.canceled = true := by
  cases hc : a.canceled with
  | true => exact iff_of_true ⟨_, runReply_canceled hc⟩ rfl
  | false =>
    refine iff_of_false ?_ Bool.false_ne_true
    rintro ⟨d, hd⟩
    by_cases hdone : result = .ok () ∨ result = .error .operationCanceled
    · simp [runReply_done hc hdone] at hd
    · cases result with
      | ok => exact hdone (.inl rfl)
      | error f =>
        rw [runReply_fault hc fun hf => hdone (.inr (hf ▸ rfl)), Reply.fault.injEq] at hd
        exact hr d (hd ▸ rfl)

theorem finish_iff (hop : g.operation? o = some op) (hb : g.ticket? op.ticket = some b) :
    (∃ out, g.step? (.finish o result) = some out) ↔ o ∈ b.ongoing := by
  simp [step?, finish?, hop, hb]

theorem finish_reply (hop : g.operation? o = some op) (hb : g.ticket? op.ticket = some b)
    (hs : g.step? (.finish o result) = some out) : out.reply = runReply b result := by
  simp only [step?, finish?, hop, hb, Option.bind_eq_bind, Option.bind_some,
    Option.ite_none_right_eq_some, Option.some.injEq] at hs
  rw [← hs.2]

namespace Run

section Started

variable (r : Run (initial config clock) h g) (ha : g.ticket? t = some a)
  (hs : g.step? (.start t offset done) = some out) (r' : Run out.gate h' g')
include ha hs r'

theorem started_operation : ∃ op, g'.operation? g.operations.length = some op ∧ op.ticket = t ∧
    op.started = !a.canceled := by
  have hstart : g.step? (.start t offset done) = some (g.start t a offset done) := by
    simp [step?, ha]
  cases hs.symm.trans hstart
  obtain ⟨op, hop, hf⟩ := r'.operation? operation?_start
  simp only [Operation.fixed, Prod.mk.injEq] at hf
  exact ⟨op, hop, hf.1, hf.2.2⟩

include r

theorem mem_admitted_iff :
    g.operations.length ∈ admitted t' (h ++ ⟨g, .start t offset done, out⟩ :: h') ↔
      t' = t ∧ a.canceled = false := by
  obtain ⟨op, hop, ht, hstarted⟩ := started_operation ha hs r'
  have hall := r.through hs r'
  constructor
  · intro hmem
    obtain ⟨op', hop', ht', hstarted'⟩ := hall.admitted_operation hmem
    cases hop'.symm.trans hop
    exact ⟨ht'.symm.trans ht, by simpa [hstarted] using hstarted'⟩
  · rintro ⟨rfl, hc⟩
    refine List.mem_filterMap.mpr ⟨_, List.mem_append_right _ (List.mem_cons_self ..), ?_⟩
    refine Moment.admitted?_eq_some_iff.mpr ⟨offset, done, rfl, ?_⟩
    obtain rfl : g.start t' a offset done = out := by simpa [step?, ha] using hs
    simp [start_reply, hc]

theorem count_admitted :
    (admitted t' (h ++ ⟨g, .start t offset done, out⟩ :: h')).count g.operations.length =
      if t' = t ∧ a.canceled = false then 1 else 0 := by
  split
  · next hc =>
    have hall := r.through hs r'
    exact List.count_eq_one_of_mem (hall.admitted_pairwise.imp Nat.ne_of_lt)
      ((r.mem_admitted_iff ha hs r').mpr hc)
  · next hc => exact List.count_eq_zero_of_not_mem (mt (r.mem_admitted_iff ha hs r').mp hc)

theorem ticket_of_started : ∃ b, g'.ticket? t = some b ∧ b.terms = a.terms ∧
    (g.operations.length ∈ b.ongoing ↔ a.canceled = false ∧ g.operations.length ∉ ended h') ∧
    (b.canceled = true ↔ a.canceled = true ∨ ∃ m ∈ h', m.Cancels t) := by
  obtain ⟨b, hb, hterms⟩ := ((one hs).trans r').terms_kept ha
  have hall := r.through hs r'
  refine ⟨b, hb, hterms, ?_, ?_⟩
  · have hbefore : g.operations.length ∉ ended h := fun ho => Nat.lt_irrefl _ (r.ended_lt ho)
    have hended : g.operations.length ∈ ended (h ++ ⟨g, .start t offset done, out⟩ :: h') ↔
        g.operations.length ∈ ended h' := by
      rw [ended_append, List.mem_append, or_iff_right hbefore]
      exact Iff.rfl
    rw [hall.ongoing_eq hb, running, List.mem_filter, r.mem_admitted_iff ha hs r',
      decide_eq_true_iff, hended]
    simp
  · have hstart : ¬ Moment.Cancels t ⟨g, .start t offset done, out⟩ := by simp [Moment.Cancels]
    rw [hall.canceled_iff hb, r.canceled_iff ha]
    simp only [List.mem_append, List.mem_cons, or_and_right, exists_or, exists_eq_left,
      hstart, false_or]

end Started

/-- An operation is let start once if its ticket is not canceled, and else never. If it is, it can
come to its end, once; and whoever ran it is told that the ticket was canceled exactly if that has
happened in the meantime, whatever the operation itself ended in. Else its own error is passed on,
except that an operation may well stop by itself. -/
theorem operation_result (r : Run (initial config clock) h g) (ha : g.ticket? t = some a)
    (offset done : Nat) :
    ∃ out, g.step? (.start t offset done) = some out ∧
      out.reply = (if a.canceled then .fault (.denied (.stopped a.terms.transferId))
        else .running g.operations.length) ∧
      (a.canceled = true ↔ ∃ m ∈ h, m.Cancels t) ∧
      ∀ h' g', Run out.gate h' g' →
        (∃ op, g'.operation? g.operations.length = some op ∧ op.started = !a.canceled) ∧
        (∀ t', (admitted t' (h ++ ⟨g, .start t offset done, out⟩ :: h')).count
          g.operations.length = if t' = t ∧ a.canceled = false then 1 else 0) ∧
        (∀ result, (∃ out', g'.step? (.finish g.operations.length result) = some out') ↔
          a.canceled = false ∧ g.operations.length ∉ ended h') ∧
        ∀ result out', g'.step? (.finish g.operations.length result) = some out' →
          ((∃ m ∈ h', m.Cancels t) →
            out'.reply = .fault (.denied (.stopped a.terms.transferId))) ∧
          ((∀ m ∈ h', ¬ m.Cancels t) →
            (result = .ok () ∨ result = .error .operationCanceled → out'.reply = .done) ∧
            ∀ f, result = .error f → f ≠ .operationCanceled → out'.reply = .fault f) ∧
          ((∀ d, result ≠ .error (.denied d)) →
            ((∃ d, out'.reply = .fault (.denied d)) ↔ ∃ m ∈ h', m.Cancels t)) := by
  have hs : g.step? (.start t offset done) = some (g.start t a offset done) := by simp [step?, ha]
  refine ⟨_, hs, start_reply, r.canceled_iff ha, fun h' g' r' => ?_⟩
  obtain ⟨op, hop, rfl, hstarted⟩ := started_operation ha hs r'
  obtain ⟨b, hb, hterms, hongoing, hcanceled⟩ := r.ticket_of_started ha hs r'
  refine ⟨⟨op, hop, hstarted⟩, fun t' => r.count_admitted ha hs r',
    fun result => (finish_iff hop hb).trans hongoing, fun result out' hs' => ?_⟩
  have hlive : a.canceled = false := (hongoing.mp ((finish_iff hop hb).mp ⟨out', hs'⟩)).1
  rw [hlive, Bool.false_eq_true, false_or] at hcanceled
  rw [finish_reply hop hb hs', ← hterms, ← hcanceled]
  refine ⟨runReply_canceled, fun hnone => ?_, runReply_denied_iff⟩
  have hopen : b.canceled = false := by
    rw [Bool.eq_false_iff]
    intro hc
    obtain ⟨m, hm, hx⟩ := hcanceled.mp hc
    exact hnone m hm hx
  refine ⟨runReply_done hopen, ?_⟩
  rintro f rfl hf
  exact runReply_fault hopen hf

theorem operation_result_of_late_cancel :
    ∃ h g a out h' g' out', Run (initial ⟨60, 60⟩ 0) h g ∧ g.ticket? 0 = some a ∧
      g.step? (.start 0 0 0) = some out ∧ out.reply = .running 0 ∧ Run out.gate h' g' ∧
      h'.map Moment.event = [.progress 0 8, .cancel 0 0] ∧
      g'.step? (.finish 0 (.ok ())) = some out' ∧
      out'.reply = .fault (.denied (.stopped a.terms.transferId)) := by
  obtain ⟨h₁, m, h₂, g', r, -, hm, he, hf⟩ := of_play_at (initial ⟨60, 60⟩ 0)
    [.issue sampleRecord] (.start 0 0 0) [.progress 0 8, .cancel 0 0]
    (fun m h₂ _ => (m.before.ticket? 0).any (!·.canceled) && m.before.operations.length == 0 &&
      !(ended h₂).contains 0) (by decide +kernel)
  simp only [Bool.and_eq_true, Option.any_eq_true, beq_iff_eq, Bool.not_eq_true',
    List.contains_eq_mem, decide_eq_false_iff_not] at hf
  obtain ⟨⟨⟨a, ha, hc⟩, hlen⟩, hended⟩ := hf
  obtain ⟨r₁, hs, r₂⟩ := r.parts
  obtain ⟨out, hs', hr, -, hafter⟩ := r₁.operation_result ha 0 0
  rw [hm] at hs
  cases hs.symm.trans hs'
  rw [hlen] at hr hafter
  obtain ⟨-, -, hends, hresult⟩ := hafter h₂ g' r₂
  obtain ⟨out', hfinish⟩ := (hends (.ok ())).mpr ⟨hc, hended⟩
  have hlate : ∃ m' ∈ h₂, m'.Cancels 0 := by
    obtain ⟨m', hm', hx⟩ := List.mem_map.mp (he ▸ (by simp) : Event.cancel 0 0 ∈ h₂.map Moment.event)
    exact ⟨m', hm', .inl ⟨0, hx⟩⟩
  exact ⟨h₁, m.before, a, _, h₂, g', out', r₁, ha, hs', by simpa [hc] using hr, r₂, he, hfinish,
    (hresult _ _ hfinish).1 hlate⟩

end Run

end TicketGate.Gate
