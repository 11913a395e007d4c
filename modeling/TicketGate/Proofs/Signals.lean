import TicketGate.Proofs.Registration

namespace TicketGate.Gate

def Moment.canceled? (m : Moment) : Option TicketId :=
  match m.event with
  | .cancel t _ => some t
  | .pursue c =>
    match m.before.calls.get? c with
    | some (.found t _) => some t
    | _ => none
  | _ => none

variable {g g' : Gate} {t t' : TicketId} {a : Ticket} {o : OperationId} {op : Operation} {m : Moment}
  {e : Event} {out : Outcome} {h h₁ h₂ : List Moment} {config : Config} {clock : Nat}

theorem Moment.canceled?_eq_some_iff : m.canceled? = some t ↔ m.Cancels t := by
  obtain ⟨g, e, out⟩ := m
  cases e with
  | pursue c =>
    simp only [Moment.canceled?, Moment.Cancels]
    split
    · next t' id hc => simp [hc]
    · next hn => simpa using fun id => hn t id
  | _ => simp [Moment.canceled?, Moment.Cancels]

instance (t : TicketId) (m : Moment) : Decidable (m.Cancels t) :=
  decidable_of_iff _ Moment.canceled?_eq_some_iff

/-- How many cancellations of the ticket of number `t` a history has before operation `o` ends. -/
def cancellationsBefore (t : TicketId) (o : OperationId) (h : List Moment) : Nat :=
  (h.takeWhile (·.ended? ≠ some o)).countP (·.Cancels t)

theorem Moment.Cancels.unique (hm : m.Cancels t) (hm' : m.Cancels t') : t = t' := by
  rw [← canceled?_eq_some_iff] at hm hm'
  exact Option.some.inj (hm.symm.trans hm')

theorem Moment.Cancels.ended? (hm : m.Cancels t) : m.ended? = none := by
  obtain ⟨timeout, he⟩ | ⟨c, id, he, -⟩ := hm <;> simp [Moment.ended?, he]

theorem operation?_signalAll (g : Gate) (a : Ticket) (o : OperationId) :
    (g.signalAll a).operation? o = (g.operation? o).map fun op =>
      { op with signals := op.signals + a.ongoing.count o } := by
  simp only [operation?, signalAll]
  generalize g.operations = ops
  induction a.ongoing generalizing ops with
  | nil => simp
  | cons p ps ih =>
    rw [List.foldl_cons, ih, List.getElem?_modify, List.count_cons]
    cases ops[o]? with
    | none => rfl
    | some op =>
      by_cases hp : p = o
      · simp [hp, Operation.signal, Nat.add_assoc, Nat.add_comm 1]
      · simp [hp]

theorem operation?_stop (g : Gate) (t : TicketId) (a : Ticket) (o : OperationId) :
    (g.stop t a).operation? o = (g.operation? o).map fun op =>
      { op with signals := op.signals + a.ongoing.count o } := by
  unfold stop
  split
  · exact operation?_signalAll (g.onTicket t Ticket.cancel) a o
  · next hb =>
    have ho : a.ongoing = [] := Ticket.isActive_eq_false_iff.mp (Bool.eq_false_iff.mpr hb)
    have hid : ((g.onTicket t Ticket.cancel).closeAll a).operation? o = (g.operation? o).map id := by
      rw [Option.map_id]
      rfl
    simpa [ho] using hid

theorem operation?_unregister (g : Gate) (id : String) (t : TicketId) (o : OperationId) :
    (g.unregister id t).operation? o = g.operation? o := by
  unfold unregister
  split <;> rfl

theorem operation?_append (hop : g.operation? o = some op) (x : Operation) :
    ({ g with operations := g.operations ++ [x] } : Gate).operation? o = some op := by
  have ho : o < g.operations.length := operation?_isSome_iff.mp ⟨op, hop⟩
  simpa [operation?, List.getElem?_append_left ho] using hop

theorem not_cancels_of_mayKeep (he : m.event.MayKeep) : ¬ m.Cancels t := by
  rintro (⟨timeout, hm⟩ | ⟨c, id, hm, -⟩)
  · exact (hm ▸ he : Event.MayKeep (.cancel t timeout))
  · exact (hm ▸ he : Event.MayKeep (.pursue c))

/-- An event that cancels a ticket asks each operation that runs on it to stop, as often as it is
registered there; any other event leaves an operation as it is, or tells how far it has come. -/
theorem step_operation (hs : Step m.before m.event m.outcome.reply m.after)
    (hop : m.before.operation? o = some op) :
    (∃ t a, m.Cancels t ∧ m.before.ticket? t = some a ∧ m.after.operation? o =
      some { op with signals := op.signals + a.ongoing.count o }) ∨
    (∀ t, ¬ m.Cancels t) ∧ (m.after.operation? o = some op ∨
      ∃ done, m.event = .progress o done ∧ m.after.operation? o = some { op with done := done }) := by
  obtain ⟨g, e, g', reply, notes⟩ := m
  dsimp only [Moment.after] at hs hop ⊢
  have stopped (t : TicketId) (a : Ticket) : (g.stop t a).operation? o =
      some { op with signals := op.signals + a.ongoing.count o } := by
    rw [operation?_stop, hop]
    rfl
  cases hs with
  | keep he => exact .inr ⟨fun t => not_cancels_of_mayKeep he, .inl hop⟩
  | cancelIdle timeout ha | cancelBusy ha | cancelWaits ha =>
    exact .inl ⟨_, _, .inl ⟨_, rfl⟩, ha, stopped _ _⟩
  | pursueIdle hc ha | pursueBusy hc ha | pursueWaits hc ha =>
    exact .inl ⟨_, _, .inr ⟨_, _, rfl, hc⟩, ha, stopped _ _⟩
  | turnAway | enter =>
    exact .inr ⟨by simp [Moment.Cancels], .inl (operation?_append hop _)⟩
  | @progress p _ done =>
    refine .inr ⟨by simp [Moment.Cancels], ?_⟩
    have hop : g.operations[o]? = some op := hop
    simp only [operation?, onOperation, List.getElem?_modify]
    by_cases hp : p = o
    · subst hp
      exact .inr ⟨done, rfl, by simp [hop]⟩
    · exact .inl (by simp [hp, hop])
  | delete => exact .inr ⟨by simp [Moment.Cancels], .inl ((operation?_unregister ..).trans hop)⟩
  | _ => exact .inr ⟨by simp [Moment.Cancels], .inl hop⟩

theorem takeWhile_ended_append (h : List Moment) (m : Moment) :
    (h ++ [m]).takeWhile (·.ended? ≠ some o) = h.takeWhile (·.ended? ≠ some o) ++
      if o ∉ ended h ∧ m.ended? ≠ some o then [m] else [] := by
  induction h with
  | nil => by_cases hm : m.ended? = some o <;> simp [ended, hm]
  | cons m' h ih =>
    by_cases hm' : m'.ended? = some o
    · simp [ended, hm']
    · have hmem : o ∈ ended (m' :: h) ↔ o ∈ ended h := by simp [ended, List.mem_filterMap, hm']
      simpa [hm', hmem] using ih

theorem cancellationsBefore_append (h : List Moment) (m : Moment) :
    cancellationsBefore t o (h ++ [m]) =
      cancellationsBefore t o h + if m.Cancels t ∧ o ∉ ended h then 1 else 0 := by
  rw [cancellationsBefore, takeWhile_ended_append, List.countP_append]
  by_cases hm : m.Cancels t
  · by_cases ho : o ∈ ended h <;> simp [cancellationsBefore, hm, hm.ended?, ho]
  · split <;> simp [cancellationsBefore, hm]

namespace Run

theorem count_ongoing (r : Run (initial config clock) h g) (ha : g.ticket? t = some a)
    (hop : g.operation? o = some op) :
    a.ongoing.count o = if op.ticket = t ∧ o ∈ running op.ticket h then 1 else 0 := by
  rw [r.ongoing_eq ha, r.running_nodup.count]
  by_cases ht : op.ticket = t
  · simp [ht]
  · simp [ht, r.not_mem_running hop ht]

theorem step_signals (r : Run (initial config clock) h g) (hs : g.step? e = some out)
    (hop : g.operation? o = some op) :
    ∃ op', out.gate.operation? o = some op' ∧ op'.ticket = op.ticket ∧ op'.signals = op.signals +
      if Moment.Cancels op.ticket ⟨g, e, out⟩ ∧ o ∈ running op.ticket h then 1 else 0 := by
  obtain ⟨t, a, hm, ha, ho⟩ | ⟨hn, ho | ⟨done, -, ho⟩⟩ :=
    step_operation (m := ⟨g, e, out⟩) (step_of_step? hs) hop
  · refine ⟨_, ho, rfl, ?_⟩
    have hiff : op.ticket = t ↔ Moment.Cancels op.ticket ⟨g, e, out⟩ :=
      ⟨fun ht => ht ▸ hm, fun hm' => hm'.unique hm⟩
    simp only [r.count_ongoing ha hop, hiff]
  · exact ⟨_, ho, rfl, by simp [hn]⟩
  · exact ⟨_, ho, rfl, by simp [hn]⟩

theorem not_mem_ended_of_new (r : Run (initial config clock) h g) :
    g.operations.length ∉ ended h := fun ho => Nat.lt_irrefl _ (r.ended_lt ho)

theorem mem_running_iff (r : Run (initial config clock) (h₁ ++ m :: h₂) g)
    (hm : m.admitted? t = some o) : o ∈ running t (h₁ ++ m :: h₂) ↔ o ∉ ended h₂ := by
  obtain ⟨r₁, hs, -⟩ := r.parts
  obtain ⟨offset, done, he, hr⟩ := Moment.admitted?_eq_some_iff.mp hm
  obtain ⟨rfl, -⟩ := step_admitted (he ▸ hr ▸ step_of_step? hs)
  have hadm : m.before.operations.length ∈ admitted t (h₁ ++ m :: h₂) :=
    List.mem_filterMap.mpr ⟨m, by simp, hm⟩
  have hend : m.before.operations.length ∈ ended (h₁ ++ m :: h₂) ↔
      m.before.operations.length ∈ ended h₂ := by
    have hnone : m.ended? = none := by simp [Moment.ended?, he]
    rw [ended_append, List.mem_append, or_iff_right r₁.not_mem_ended_of_new, ended,
      List.filterMap_cons_none hnone]
    rfl
  simp [running, hadm, hend]

theorem signals_of_admitted (r : Run (initial config clock) h₁ m.before)
    (hs : m.before.step? m.event = some m.outcome) (hm : m.admitted? t = some o)
    (r₂ : Run m.after h₂ g) :
    ∃ op, g.operation? o = some op ∧ op.ticket = t ∧ op.signals = cancellationsBefore t o h₂ := by
  induction r₂ with
  | refl =>
    obtain ⟨offset, done, he, hr⟩ := Moment.admitted?_eq_some_iff.mp hm
    obtain ⟨-, -, hop⟩ := step_admitted (he ▸ hr ▸ step_of_step? hs)
    exact ⟨_, hop, rfl, rfl⟩
  | @step h₂ g e out r₂ hs' ih =>
    obtain ⟨op, hop, rfl, hsignals⟩ := ih
    have r₃ := r.through hs r₂
    obtain ⟨op', hop', ht, hsignals'⟩ := r₃.step_signals hs' hop
    refine ⟨op', hop', ht, ?_⟩
    rw [hsignals', hsignals, cancellationsBefore_append]
    simp only [r₃.mem_running_iff hm]

theorem operations_length_le (r : Run g h g') : g.operations.length ≤ g'.operations.length := by
  simpa using (map_fixed_run r).length_le

theorem not_mem_running_later {h' : List Moment} (r' : Run g h' g')
    (hop : g.operation? o = some op) (hn : o ∉ running t h) : o ∉ running t (h ++ h') := by
  intro hr
  obtain ⟨hadm, hopen⟩ := List.mem_filter.mp hr
  have hopen : o ∉ ended h := by
    have hall : o ∉ ended (h ++ h') := of_decide_eq_true hopen
    rw [ended_append, List.mem_append, not_or] at hall
    exact hall.1
  rw [admitted, List.filterMap_append, List.mem_append] at hadm
  obtain hadm | hadm := hadm
  · exact hn (List.mem_filter.mpr ⟨hadm, decide_eq_true hopen⟩)
  · obtain ⟨m, hm, ho⟩ := List.mem_filterMap.mp hadm
    obtain ⟨h₁, h₂, -, r₁, hs, -⟩ := r'.split hm
    obtain ⟨offset, done, he, hr⟩ := Moment.admitted?_eq_some_iff.mp ho
    obtain ⟨rfl, -⟩ := step_admitted (he ▸ hr ▸ step_of_step? hs)
    have hlt : m.before.operations.length < g.operations.length :=
      operation?_isSome_iff.mp ⟨op, hop⟩
    exact absurd r₁.operations_length_le (Nat.not_le_of_lt hlt)

theorem signals_kept (r : Run (initial config clock) h g) (hop : g.operation? o = some op)
    (hn : o ∉ running op.ticket h) {h' : List Moment} (r' : Run g h' g') :
    ∃ op', g'.operation? o = some op' ∧ op'.ticket = op.ticket ∧ op'.signals = op.signals := by
  induction r' with
  | refl => exact ⟨op, hop, rfl, rfl⟩
  | @step h' g' e out r' hs ih =>
    obtain ⟨op', hop', ht, hsignals⟩ := ih
    obtain ⟨op'', hop'', ht', hsignals'⟩ := (r.trans r').step_signals hs hop'
    have hn' := r'.not_mem_running_later hop hn
    refine ⟨op'', hop'', ht'.trans ht, ?_⟩
    rw [hsignals', hsignals, ht, if_neg fun hx => hn' hx.2, Nat.add_zero]

theorem signals_of_refused (r : Run (initial config clock) h g) (hm : m ∈ h) {offset done : Nat}
    {f : Fault} (he : m.event = .start t offset done) (hf : m.outcome.reply = .fault f) :
    ∃ op, g.operation? m.before.operations.length = some op ∧ op.signals = 0 := by
  obtain ⟨h₁, h₂, rfl, r₁, hs, r₂⟩ := r.split hm
  have hnew : m.after.operation? m.before.operations.length = some ⟨t, offset, done, 0, false⟩ := by
    have hs : Step m.before (.start t offset done) (.fault f) m.after :=
      he ▸ hf ▸ step_of_step? hs
    generalize m.after = g' at hs
    cases hs with
    | keep he => exact he.elim
    | turnAway => exact List.getElem?_concat_length
  have r₁ := r₁.step hs
  have hn : m.before.operations.length ∉ running t (h₁ ++ [m]) := by
    intro hr
    obtain ⟨op, hop, -, hstarted⟩ := r₁.admitted_operation (List.mem_filter.mp hr).1
    cases hop.symm.trans hnew
    simp at hstarted
  obtain ⟨op, hop, -, hsignals⟩ := r₁.signals_kept hnew hn r₂
  exact ⟨op, hop, hsignals⟩

/-- An operation that its ticket has let start has been asked to stop as often as the ticket has been
canceled since then and before the operation ended; one that was refused, never. So a cancellation
asks each operation that runs on its ticket to stop exactly once, no other event does, and what does
not run is not asked any more. -/
theorem signal_count (r : Run (initial config clock) h g) :
    (∀ h₁ m h₂ t o, h = h₁ ++ m :: h₂ → m.admitted? t = some o →
      ∃ op, g.operation? o = some op ∧ op.ticket = t ∧ op.signals = cancellationsBefore t o h₂) ∧
    (∀ m ∈ h, ∀ t offset done f, m.event = .start t offset done → m.outcome.reply = .fault f →
      ∃ op, g.operation? m.before.operations.length = some op ∧ op.signals = 0) ∧
    ∀ o op, g.operation? o = some op →
      (∀ e out, g.step? e = some out → ∃ op', out.gate.operation? o = some op' ∧
        op'.ticket = op.ticket ∧ op'.signals = op.signals +
          if Moment.Cancels op.ticket ⟨g, e, out⟩ ∧ o ∈ running op.ticket h then 1 else 0) ∧
      (o ∉ running op.ticket h → ∀ h' g', Run g h' g' →
        ∃ op', g'.operation? o = some op' ∧ op'.ticket = op.ticket ∧ op'.signals = op.signals) := by
  refine ⟨?_, fun m hm t offset done f he hf => r.signals_of_refused hm he hf, fun o op hop =>
    ⟨fun e out hs => r.step_signals hs hop, fun hn h' g' r' => r.signals_kept hop hn r'⟩⟩
  rintro h₁ m h₂ t o rfl hm
  obtain ⟨r₁, hs, r₂⟩ := r.parts
  exact r₁.signals_of_admitted hs hm r₂

theorem signal_count_of_two_waits :
    ∃ h₁ m h₂ g op, Run (initial ⟨60, 60⟩ 0) (h₁ ++ m :: h₂) g ∧ m.admitted? 0 = some 0 ∧
      h₂.map Moment.event = [.cancel 0 1000, .remove "u", .pursue 1, .finish 0 (.ok ()), .wake 0,
        .wake 1, .delete 1, .cancel 0 0] ∧
      g.operation? 0 = some op ∧ op.signals = 2 := by
  obtain ⟨h₁, m, h₂, g, r, -, -, he, hf⟩ := of_play_at (initial ⟨60, 60⟩ 0) [.add sampleRecord]
    (.start 0 0 0) [.cancel 0 1000, .remove "u", .pursue 1, .finish 0 (.ok ()), .wake 0, .wake 1,
      .delete 1, .cancel 0 0]
    (fun m h₂ _ => m.admitted? 0 == some 0 && cancellationsBefore 0 0 h₂ == 2) (by decide +kernel)
  simp only [Bool.and_eq_true, beq_iff_eq] at hf
  obtain ⟨op, hop, -, hsignals⟩ := r.signal_count.1 h₁ m h₂ 0 0 rfl hf.1
  exact ⟨h₁, m, h₂, g, op, r, hf.1, he, hop, hsignals.trans hf.2⟩

end Run

end TicketGate.Gate
