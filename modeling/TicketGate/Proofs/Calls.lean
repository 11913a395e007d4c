import TicketGate.Proofs.Change

namespace TicketGate

def Call.rank : Call → Nat
  | found _ _ => 0
  | waiting _ _ _ => 1
  | unused _ _ => 2

namespace Gate

def Event.call? : Event → Option CallId
  | .pursue c | .delete c | .wake c | .expire c => some c
  | _ => none

/-- How a call comes to stand where it stands. -/
inductive Arrives (g : Gate) : Event → CallId → Call → Prop
  | lookup {id : String} {t : TicketId} {a : Ticket} :
      g.store.get? id = some t → g.ticket? t = some a →
      Arrives g (.remove id) g.nextCall (.found t id)
  | busy {t : TicketId} {a : Ticket} {timeout : Nat} :
      g.ticket? t = some a → a.isActive = true →
      Arrives g (.cancel t timeout) g.nextCall (.waiting t (g.deadline timeout) none)
  | pursuedIdle {c : CallId} {t : TicketId} {id : String} {a : Ticket} :
      g.calls.get? c = some (.found t id) → g.ticket? t = some a → a.isActive = false →
      Arrives g (.pursue c) c (.unused t id)
  | pursuedBusy {c : CallId} {t : TicketId} {id : String} {a : Ticket} :
      g.calls.get? c = some (.found t id) → g.ticket? t = some a → a.isActive = true →
      Arrives g (.pursue c) c
        (.waiting t (g.deadline (g.config.removeTimeout * 1000)) (some id))
  | woken {c : CallId} {t : TicketId} {deadline : Nat} {id : String} {a : Ticket} :
      g.calls.get? c = some (.waiting t deadline (some id)) → g.ticket? t = some a →
      a.drained = true → Arrives g (.wake c) c (.unused t id)

def Moment.Answers (c : CallId) (m : Moment) : Prop :=
  m.event.call? = some c ∧ m.outcome.reply ≠ .pending c

/-- A call begins: a cancellation that has to wait, or a removal that has found its ticket. -/
def Moment.Opens (t : TicketId) (removal : Option String) (c : CallId) (m : Moment) : Prop :=
  m.outcome.reply = .pending c ∧
    match removal with
    | none => ∃ timeout, m.event = .cancel t timeout
    | some id => m.event = .remove id ∧ m.before.store.get? id = some t

/-- Calls are numbered in the order in which they come. -/
def Numbered (g : Gate) : Prop := ∀ c call, g.calls.get? c = some call → c < g.nextCall

variable {g g' : Gate} {t t' : TicketId} {a : Ticket} {c c' : CallId} {call call' : Call} {e : Event}
  {r : Reply} {m m' : Moment} {removal : Option String}

theorem calls_stop (g : Gate) (t : TicketId) (a : Ticket) : (g.stop t a).calls = g.calls := by
  unfold stop
  split <;> rfl

theorem nextCall_stop (g : Gate) (t : TicketId) (a : Ticket) :
    (g.stop t a).nextCall = g.nextCall := by
  unfold stop
  split <;> rfl

theorem calls_unregister (g : Gate) (id : String) (t : TicketId) :
    (g.unregister id t).calls = g.calls := by
  unfold unregister
  split <;> rfl

theorem nextCall_unregister (g : Gate) (id : String) (t : TicketId) :
    (g.unregister id t).nextCall = g.nextCall := by
  unfold unregister
  split <;> rfl

theorem get?_hold (g : Gate) (c : CallId) (call : Call) (c' : CallId) :
    (g.hold c call).calls.get? c' = if c' = c then some call else g.calls.get? c' :=
  Table.get?_insert ..

theorem get?_drop (g : Gate) (c c' : CallId) :
    (g.drop c).calls.get? c' = if c' = c then none else g.calls.get? c' := Table.get?_erase ..

theorem get?_hold_self (g : Gate) (c : CallId) (call : Call) :
    (g.hold c call).calls.get? c = some call := Table.get?_insert_self ..

theorem get?_drop_self (g : Gate) (c : CallId) : (g.drop c).calls.get? c = none :=
  Table.get?_erase_self ..

theorem get?_hold_eq_some :
    (g.hold c call).calls.get? c' = some call' ↔
      (c' = c ∧ call = call') ∨ (c' ≠ c ∧ g.calls.get? c' = some call') := by
  rw [get?_hold]
  by_cases hc : c' = c <;> simp [hc]

theorem get?_drop_eq_some :
    (g.drop c).calls.get? c' = some call' ↔ c' ≠ c ∧ g.calls.get? c' = some call' := by
  rw [get?_drop]
  by_cases hc : c' = c <;> simp [hc]

theorem call?_of_mayKeep (he : e.MayKeep) : e.call? = none := by
  cases e <;> first | rfl | exact he.elim

theorem step_call (hs : Step g e r g') (hc : g'.calls.get? c = some call) :
    (g.calls.get? c = some call ∧ e.call? ≠ some c) ∨ Arrives g e c call := by
  cases hs with
  | keep he => exact .inl ⟨hc, by simp [call?_of_mayKeep he]⟩
  | cancelIdle | cancelBusy =>
    rw [calls_stop] at hc
    exact .inl ⟨hc, by simp [Event.call?]⟩
  | cancelWaits ha hb =>
    obtain ⟨rfl, rfl⟩ | ⟨-, hc⟩ := get?_hold_eq_some.mp hc
    · exact .inr (.busy ha hb)
    · rw [calls_stop] at hc
      exact .inl ⟨hc, by simp [Event.call?]⟩
  | find ht ha =>
    obtain ⟨rfl, rfl⟩ | ⟨-, hc⟩ := get?_hold_eq_some.mp hc
    · exact .inr (.lookup ht ha)
    · exact .inl ⟨hc, by simp [Event.call?]⟩
  | pursueIdle hf ha hb =>
    obtain ⟨rfl, rfl⟩ | ⟨hn, hc⟩ := get?_hold_eq_some.mp hc
    · exact .inr (.pursuedIdle hf ha hb)
    · rw [calls_stop] at hc
      exact .inl ⟨hc, by simpa [Event.call?] using hn.symm⟩
  | pursueWaits hf ha hb =>
    obtain ⟨rfl, rfl⟩ | ⟨hn, hc⟩ := get?_hold_eq_some.mp hc
    · exact .inr (.pursuedBusy hf ha hb)
    · rw [calls_stop] at hc
      exact .inl ⟨hc, by simpa [Event.call?] using hn.symm⟩
  | wakeRemoval hf ha hd =>
    obtain ⟨rfl, rfl⟩ | ⟨hn, hc⟩ := get?_hold_eq_some.mp hc
    · exact .inr (.woken hf ha hd)
    · exact .inl ⟨hc, by simpa [Event.call?] using hn.symm⟩
  | pursueBusy =>
    obtain ⟨hn, hc⟩ := get?_drop_eq_some.mp hc
    rw [calls_stop] at hc
    exact .inl ⟨hc, by simpa [Event.call?] using hn.symm⟩
  | delete =>
    obtain ⟨hn, hc⟩ := get?_drop_eq_some.mp hc
    rw [calls_unregister] at hc
    exact .inl ⟨hc, by simpa [Event.call?] using hn.symm⟩
  | wakeCancel | expire =>
    obtain ⟨hn, hc⟩ := get?_drop_eq_some.mp hc
    exact .inl ⟨hc, by simpa [Event.call?] using hn.symm⟩
  | _ => exact .inl ⟨hc, by simp [Event.call?]⟩

theorem step_call_stays (hs : Step g e r g') (hn : c < g.nextCall) (he : e.call? ≠ some c) :
    g'.calls.get? c = g.calls.get? c := by
  have hnew : c ≠ g.nextCall := Nat.ne_of_lt hn
  have hown {c' : CallId} (h : e.call? = some c') : c ≠ c' := fun hc => he (hc ▸ h)
  cases hs with
  | cancelIdle | cancelBusy => rw [calls_stop]
  | cancelWaits => exact (get?_hold ..).trans (by rw [if_neg hnew, calls_stop])
  | find => exact (get?_hold ..).trans (if_neg hnew)
  | pursueIdle | pursueWaits => exact (get?_hold ..).trans (by rw [if_neg (hown rfl), calls_stop])
  | wakeRemoval => exact (get?_hold ..).trans (if_neg (hown rfl))
  | pursueBusy => exact (get?_drop ..).trans (by rw [if_neg (hown rfl), calls_stop])
  | delete => exact (get?_drop ..).trans (by rw [if_neg (hown rfl), calls_unregister])
  | wakeCancel | expire => exact (get?_drop ..).trans (if_neg (hown rfl))
  | _ => rfl

theorem step_nextCall (hs : Step g e r g') : g.nextCall ≤ g'.nextCall := by
  cases hs with
  | cancelIdle | cancelBusy | pursueIdle | pursueBusy | pursueWaits =>
    exact Nat.le_of_eq (nextCall_stop ..).symm
  | delete => exact Nat.le_of_eq (nextCall_unregister ..).symm
  | cancelWaits | find => exact Nat.le_succ _
  | _ => exact Nat.le_refl _

theorem step_numbered (hs : Step g e r g') (hg : g.Numbered) : g'.Numbered := by
  intro c call hc
  obtain ⟨hc, -⟩ | hx := step_call hs hc
  · exact Nat.lt_of_lt_of_le (hg c call hc) (step_nextCall hs)
  · cases hx with
    | lookup ht ha =>
      cases hs with
      | keep he => exact he.elim
      | missing => exact hg _ _ hc
      | find => exact Nat.lt_succ_self _
    | busy ha hb =>
      cases hs with
      | keep he => exact he.elim
      | cancelIdle | cancelBusy =>
        rw [nextCall_stop]
        rw [calls_stop] at hc
        exact hg _ _ hc
      | cancelWaits => exact Nat.lt_succ_self _
    | pursuedIdle hf | pursuedBusy hf | woken hf =>
      exact Nat.lt_of_lt_of_le (hg c _ hf) (step_nextCall hs)

theorem step_own_call (hs : Step g e r g') (he : e.call? = some c) :
    ∃ call, g.calls.get? c = some call ∧
      ((g'.calls.get? c = none ∧ r ≠ .pending c) ∨
        ∃ call', g'.calls.get? c = some call' ∧ r = .pending c ∧ call'.ticket = call.ticket ∧
          call'.removal = call.removal ∧ call.rank < call'.rank) := by
  cases hs with
  | keep hk => simp [call?_of_mayKeep hk] at he
  | pursueIdle hf | pursueWaits hf | wakeRemoval hf =>
    obtain rfl := Option.some.inj he
    exact ⟨_, hf, .inr ⟨_, get?_hold_self .., rfl, rfl, rfl, by simp [Call.rank]⟩⟩
  | pursueBusy hf | wakeCancel hf | delete hf | expire hf =>
    obtain rfl := Option.some.inj he
    exact ⟨_, hf, .inl ⟨get?_drop_self .., by simp⟩⟩
  | _ => simp [Event.call?] at he

theorem Moment.Opens.ticket_unique {removal' : Option String} (hm : m.Opens t removal c)
    (hm' : m.Opens t' removal' c) : t' = t := by
  obtain ⟨-, hm⟩ := hm
  obtain ⟨-, hm'⟩ := hm'
  cases removal with
  | none =>
    obtain ⟨timeout, he⟩ := hm
    cases removal' with
    | none =>
      obtain ⟨timeout', he'⟩ := hm'
      cases he.symm.trans he'
      rfl
    | some id' => simp [he] at hm'
  | some id =>
    obtain ⟨he, ht⟩ := hm
    cases removal' with
    | none => simp [he] at hm'
    | some id' =>
      obtain ⟨he', ht'⟩ := hm'
      cases he.symm.trans he'
      exact Option.some.inj (ht'.symm.trans ht)

theorem opens_nextCall (hs : Step m.before m.event m.outcome.reply m.after)
    (hm : m.Opens t removal c) : c = m.before.nextCall ∧ c < m.after.nextCall := by
  obtain ⟨hr, hm⟩ := hm
  obtain ⟨g, e, g', reply, notes⟩ := m
  dsimp only [Moment.after] at *
  subst hr
  cases removal with
  | none =>
    obtain ⟨timeout, rfl⟩ := hm
    cases hs with
    | keep he => exact he.elim
    | cancelWaits => exact ⟨rfl, Nat.lt_succ_self _⟩
  | some id =>
    obtain ⟨rfl, -⟩ := hm
    cases hs with
    | keep he => exact he.elim
    | find => exact ⟨rfl, Nat.lt_succ_self _⟩

theorem step_opens (hs : Step m.before m.event m.outcome.reply m.after) (hg : m.before.Numbered)
    (hc : m.after.calls.get? c = some call) :
    (∃ call', m.before.calls.get? c = some call' ∧ call'.ticket = call.ticket ∧
      call'.removal = call.removal) ∨ m.Opens call.ticket call.removal c := by
  obtain ⟨hc, -⟩ | hx := step_call hs hc
  · exact .inl ⟨call, hc, rfl, rfl⟩
  obtain ⟨g, e, g', reply, notes⟩ := m
  dsimp only [Moment.after] at *
  cases hx with
  | lookup ht ha =>
    cases hs with
    | keep he => exact he.elim
    | missing hn => simp [find?, ht, ha] at hn
    | find => exact .inr ⟨rfl, rfl, ht⟩
  | busy ha hb =>
    cases hs with
    | keep he => exact he.elim
    | cancelIdle | cancelBusy =>
      rw [calls_stop] at hc
      exact absurd (hg _ _ hc) (Nat.lt_irrefl _)
    | cancelWaits => exact .inr ⟨rfl, _, rfl⟩
  | pursuedIdle hf | pursuedBusy hf | woken hf => exact .inl ⟨_, hf, rfl, rfl⟩

namespace Run

variable {config : Config} {clock : Nat} {h : List Moment}

theorem numbered (r : Run (initial config clock) h g) : g.Numbered :=
  r.invariant (fun _ _ hc => by simp [initial, Table.get?_empty] at hc)
    fun _ _ _ hg hs => step_numbered (step_of_step? hs) hg

theorem nextCall_le (r : Run g h g') : g.nextCall ≤ g'.nextCall := by
  induction r with
  | refl => exact Nat.le_refl _
  | step _ hs ih => exact Nat.le_trans ih (step_nextCall (step_of_step? hs))

theorem opens_of_call (r : Run (initial config clock) h g) (hc : g.calls.get? c = some call) :
    ∃ m ∈ h, m.Opens call.ticket call.removal c := by
  induction r generalizing call with
  | refl => simp [initial, Table.get?_empty] at hc
  | @step h g e out r hs ih =>
    obtain ⟨call', hc', ht, hr⟩ | hm :=
      step_opens (m := ⟨g, e, out⟩) (step_of_step? hs) r.numbered hc
    · obtain ⟨m, hm, hx⟩ := ih hc'
      exact ⟨m, List.mem_append_left _ hm, ht ▸ hr ▸ hx⟩
    · exact ⟨_, List.mem_append_right _ (List.mem_singleton_self _), hm⟩

theorem opens_unique {removal' : Option String} (r : Run g h g') (hm : m ∈ h)
    (hm' : m' ∈ h) (hx : m.Opens t removal c) (hx' : m'.Opens t' removal' c) : m' = m := by
  obtain ⟨h₁, h₂, rfl, r₁, hs, r₂⟩ := r.split hm
  obtain ⟨hc, hlt⟩ := opens_nextCall (step_of_step? hs) hx
  obtain hm' | hm' := List.mem_append.mp hm'
  · obtain ⟨h₃, h₄, -, -, hs', r₄⟩ := r₁.split hm'
    obtain ⟨-, hlt'⟩ := opens_nextCall (step_of_step? hs') hx'
    exact absurd (hc ▸ Nat.lt_of_lt_of_le hlt' r₄.nextCall_le) (Nat.lt_irrefl _)
  · obtain rfl | hm' := List.mem_cons.mp hm'
    · rfl
    · obtain ⟨h₃, h₄, -, r₃, hs', -⟩ := r₂.split hm'
      obtain ⟨hc', -⟩ := opens_nextCall (step_of_step? hs') hx'
      exact absurd (hc' ▸ Nat.lt_of_lt_of_le hlt r₃.nextCall_le) (Nat.lt_irrefl _)

theorem call_stays (r : Run g h g') (hn : c < g.nextCall) (hh : ∀ m ∈ h, m.event.call? ≠ some c) :
    g'.calls.get? c = g.calls.get? c := by
  induction r with
  | refl => rfl
  | @step h g' e out r hs ih =>
    have he : e.call? ≠ some c := hh ⟨g', e, out⟩ (by simp)
    have hn' := Nat.lt_of_lt_of_le hn r.nextCall_le
    exact (step_call_stays (step_of_step? hs) hn' he).trans
      (ih fun m hm => hh m (List.mem_append_left _ hm))

/-- A call that has no answer yet is for the same ticket and the same uuid as ever, and has come
closer to its answer with each event of its own. -/
theorem call_goes_on (r : Run g h g') (hn : c < g.nextCall) (hc : g.calls.get? c = some call) :
    ((∃ m ∈ h, m.Answers c) ∧ g'.calls.get? c = none) ∨
      (∀ m ∈ h, ¬ m.Answers c) ∧ ∃ call', g'.calls.get? c = some call' ∧
        call'.ticket = call.ticket ∧ call'.removal = call.removal ∧
        call.rank + h.countP (·.event.call? == some c) ≤ call'.rank := by
  induction r with
  | refl => exact .inr ⟨by simp, call, hc, rfl, rfl, Nat.le_refl _⟩
  | @step h g' e out r hs ih =>
    have step := step_of_step? hs
    by_cases he : e.call? = some c
    · obtain ⟨call', hc', hown⟩ := step_own_call step he
      obtain ⟨-, ih⟩ | ⟨hh, call'', hc'', ht, hr, hrank⟩ := ih
      · simp [ih] at hc'
      · cases hc'.symm.trans hc''
        obtain ⟨hnone, hp⟩ | ⟨next, hnext, hp, ht', hr', hrank'⟩ := hown
        · exact .inl ⟨⟨⟨g', e, out⟩, by simp, he, hp⟩, hnone⟩
        · refine .inr ⟨?_, next, hnext, ht'.trans ht, hr'.trans hr, ?_⟩
          · have hlast : ¬ Moment.Answers c ⟨g', e, out⟩ := fun hx => hx.2 hp
            exact List.forall_mem_append.mpr ⟨hh, List.forall_mem_singleton.mpr hlast⟩
          · have hone : [(⟨g', e, out⟩ : Moment)].countP (·.event.call? == some c) = 1 := by simp [he]
            rw [List.countP_append, hone]
            omega
    -- an event of another call changes nothing on either side
    · have hstay := step_call_stays step (Nat.lt_of_lt_of_le hn r.nextCall_le) he
      obtain ⟨⟨m, hm, hx⟩, ih⟩ | ⟨hh, call', hc', h⟩ := ih
      · exact .inl ⟨⟨m, List.mem_append_left _ hm, hx⟩, hstay.trans ih⟩
      · have hnone : [(⟨g', e, out⟩ : Moment)].countP (·.event.call? == some c) = 0 := by simp [he]
        refine .inr ⟨?_, call', hstay.trans hc', ?_⟩
        · have hlast : ¬ Moment.Answers c ⟨g', e, out⟩ := fun hx => he hx.1
          exact List.forall_mem_append.mpr ⟨hh, List.forall_mem_singleton.mpr hlast⟩
        · rw [List.countP_append, hnone]
          exact h

theorem not_answered (r : Run g h g') (hn : c < g.nextCall) (hc : g.calls.get? c = some call)
    (hc' : g'.calls.get? c = some call') : ∀ m ∈ h, ¬ m.Answers c := by
  obtain ⟨-, hnone⟩ | ⟨hh, -⟩ := r.call_goes_on hn hc
  · simp [hnone] at hc'
  · exact hh

theorem answered_once (r : Run g h g') (hn : c < g.nextCall) (hc : g.calls.get? c = some call) :
    h.Pairwise fun m m' => ¬ (m.Answers c ∧ m'.Answers c) := by
  induction r with
  | refl => exact List.Pairwise.nil
  | @step h g' e out r hs ih =>
    refine List.pairwise_append.mpr ⟨ih, List.pairwise_singleton .., ?_⟩
    rintro m hm m' hm' ⟨hx, hx'⟩
    obtain rfl := List.mem_singleton.mp hm'
    obtain ⟨call', hc', -⟩ := step_own_call (step_of_step? hs) hx'.1
    exact r.not_answered hn hc hc' m hm hx

theorem answer_unique (r : Run g h g') (hn : c < g.nextCall) (hc : g.calls.get? c = some call)
    {m m' : Moment} (hm : m ∈ h) (hx : m.Answers c) (hm' : m' ∈ h) (hx' : m'.Answers c) :
    m' = m := by
  obtain ⟨h₁, h₂, rfl⟩ := List.append_of_mem hm
  obtain ⟨-, hlater, hearlier⟩ := List.pairwise_append.mp (r.answered_once hn hc)
  obtain hm' | hm' := List.mem_append.mp hm'
  · exact absurd ⟨hx', hx⟩ (hearlier m' hm' m (List.mem_cons_self ..))
  · obtain rfl | hm' := List.mem_cons.mp hm'
    · rfl
    · exact absurd ⟨hx, hx'⟩ (List.rel_of_pairwise_cons hlater hm')

theorem split_own (r : Run g h g') (hn : c < g.nextCall) (hc : g.calls.get? c = some call)
    {m : Moment} (hm : m ∈ h) (he : m.event.call? = some c) :
    ∃ h₁ h₂, h = h₁ ++ m :: h₂ ∧ Run g h₁ m.before ∧ m.before.step? m.event = some m.outcome ∧
      Run m.after h₂ g' ∧ (∀ m' ∈ h₁, ¬ m'.Answers c) ∧
      ∃ call', m.before.calls.get? c = some call' ∧ call'.ticket = call.ticket ∧
        call'.removal = call.removal := by
  obtain ⟨h₁, h₂, hh, r₁, hs, r₂⟩ := r.split hm
  refine ⟨h₁, h₂, hh, r₁, hs, r₂, ?_⟩
  obtain ⟨call', hc', -⟩ := step_own_call (step_of_step? hs) he
  obtain ⟨-, hnone⟩ | ⟨hopen, call'', hc'', ht, hr, -⟩ := r₁.call_goes_on hn hc
  · simp [hnone] at hc'
  · exact ⟨hopen, call'', hc'', ht, hr⟩

theorem own_call (r : Run g h g') (hn : c < g.nextCall) (hc : g.calls.get? c = some call)
    {m : Moment} (hm : m ∈ h) (he : m.event.call? = some c) :
    ∃ call', m.before.calls.get? c = some call' ∧ call'.ticket = call.ticket ∧
      call'.removal = call.removal := by
  obtain ⟨-, -, -, -, -, -, -, hcall⟩ := r.split_own hn hc hm he
  exact hcall

end Run

end Gate

end TicketGate
