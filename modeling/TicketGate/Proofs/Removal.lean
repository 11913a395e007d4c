import TicketGate.Proofs.Drain
import TicketGate.Proofs.Store

namespace TicketGate.Gate

/-- A removal finds the ticket of number `t` under a uuid. -/
def Moment.Finds (t : TicketId) (id : String) (c : CallId) (m : Moment) : Prop :=
  m.event = .remove id ∧ m.outcome.reply = .pending c ∧ m.before.store.get? id = some t

/-- Nothing but the ticket of number `t` is touched. It may be lost to the store under its uuid, but
only if it is canceled and nothing runs on it. -/
structure Moment.Confined (t : TicketId) (id : String) (m : Moment) : Prop where
  tickets : ∀ t', t' ≠ t → m.after.ticket? t' = m.before.ticket? t'
  entries : ∀ id' t', m.after.store.get? id' = some t' → m.before.store.get? id' = some t'
  losses : ∀ id' t', m.before.store.get? id' = some t' → m.after.store.get? id' ≠ some t' →
    id' = id ∧ t' = t ∧ ∃ a, m.before.ticket? t = some a ∧ a.canceled = true ∧ a.ongoing = []

/-- No time passes before the call is answered, and it can get its answer by events of its own. -/
def Ready (g : Gate) (c : CallId) : Prop :=
  (∀ ms, g.step? (.pass ms) = none) ∧
    ∃ h g', Run g h g' ∧ (∀ m ∈ h, m.event.call? = some c) ∧ ∃ m ∈ h, m.Answers c

variable {g g' : Gate} {t t' : TicketId} {id : String} {a : Ticket} {c : CallId} {call : Call}
  {e : Event} {r : Reply} {out : Outcome}

theorem step_own_tickets (hs : Step g e r g') (he : e.call? = some c)
    (hc : g.calls.get? c = some call) (hne : t ≠ call.ticket) : g'.ticket? t = g.ticket? t := by
  cases hs with
  | keep hk => simp [call?_of_mayKeep hk] at he
  | pursueIdle hf | pursueBusy hf | pursueWaits hf =>
    obtain rfl := Option.some.inj he
    cases hf.symm.trans hc
    exact (ticket?_stop ..).trans ((ticket?_onTicket ..).trans (if_neg hne.symm))
  | delete => exact ticket?_unregister ..
  | wakeCancel | wakeRemoval | expire => rfl
  | _ => simp [Event.call?] at he

theorem step_confined {m : Moment} (hs : Step m.before m.event r m.after)
    (he : m.event.call? = some c) (hc : m.before.calls.get? c = some call)
    (hr : call.removal = some id) (hg : m.before.CallsSound) : m.Confined call.ticket id where
  tickets t' hne := step_own_tickets hs he hc hne
  entries id' t' ht' := by
    obtain h | ⟨-, -, record, hx⟩ := step_store hs ht'
    · exact h
    · simp [hx, Event.call?] at he
  losses id' t' ht' hn := by
    obtain hx | ⟨record, hx⟩ | ⟨c', hx, hc'⟩ := step_store_lost hs ht' hn
    · simp [hx, Event.call?] at he
    · simp [hx, Event.call?] at he
    · rw [hx] at he
      obtain rfl := Option.some.inj he
      cases hc'.symm.trans hc
      obtain ⟨a, ha, hsound⟩ := hg c' _ hc
      exact ⟨Option.some.inj hr, rfl, a, ha, hsound⟩

theorem step_removal_answer (hs : Step g e r g') (he : e.call? = some c) (hp : r ≠ .pending c)
    (hc : g.calls.get? c = some call) (hr : call.removal = some id)
    (ha : g.ticket? call.ticket = some a) :
    (r = .done ∧ call = .found call.ticket id ∧ g.config.removeTimeout = 0 ∧ a.ongoing ≠ [] ∧
        g'.store = g.store) ∨
      (r = .done ∧ call = .unused call.ticket id ∧ g'.store.get? id ≠ some call.ticket) ∨
      (r = .fault (.cancelTimeout a.terms.transferId) ∧ a.drained = false ∧
        ∃ deadline, call = .waiting call.ticket deadline (some id) ∧ deadline ≤ g.clock) := by
  cases hs with
  | keep hk => simp [call?_of_mayKeep hk] at he
  | pursueBusy hf hb hact hz =>
    obtain rfl := Option.some.inj he
    cases hf.symm.trans hc
    cases hb.symm.trans ha
    obtain rfl := Option.some.inj hr
    exact .inl ⟨rfl, rfl, hz, Ticket.isActive_iff.mp hact, store_stop ..⟩
  | wakeCancel hf =>
    obtain rfl := Option.some.inj he
    cases hf.symm.trans hc
    simp [Call.removal] at hr
  | delete hf =>
    obtain rfl := Option.some.inj he
    cases hf.symm.trans hc
    obtain rfl := Option.some.inj hr
    exact .inr (.inl ⟨rfl, rfl, fun ht => (get?_unregister_eq_some.mp ht).2 ⟨rfl, rfl⟩⟩)
  | expire hf hb hd hl =>
    obtain rfl := Option.some.inj he
    cases hf.symm.trans hc
    cases hb.symm.trans ha
    obtain rfl : _ = some id := hr
    exact .inr (.inr ⟨rfl, hd, _, rfl, hl⟩)
  | pursueIdle | pursueWaits | wakeRemoval =>
    obtain rfl := Option.some.inj he
    exact absurd rfl hp
  | _ => simp [Event.call?] at he

theorem step_answer_drained (hs : Step g e r g') (he : e.call? = some c) (hp : r ≠ .pending c)
    (hc : g.calls.get? c = some call) (hr : call.removal = some id)
    (ha : g.ticket? call.ticket = some a) (ho : a.ongoing = []) (hsound : call.Sound a) :
    r = .done ∧ g'.store.get? id ≠ some call.ticket := by
  obtain ⟨-, -, -, hne, -⟩ | ⟨hr, -, hn⟩ | ⟨-, hd, deadline, hw, -⟩ :=
    step_removal_answer hs he hp hc hr ha
  · exact absurd ho hne
  · exact ⟨hr, hn⟩
  · rw [hw] at hsound
    simp [hsound.2 ho] at hd

theorem answers_of_unused (hc : g.calls.get? c = some (.unused t id)) :
    ∃ h g', Run g h g' ∧ (∀ m ∈ h, m.event.call? = some c) ∧ ∃ m ∈ h, m.Answers c := by
  have hs : g.step? (.delete c) =
      some ⟨(g.unregister id t).drop c, .done, g.unregisterNote id t⟩ := by
    simp [step?, delete?, hc]
  exact ⟨_, _, Run.one hs, by simp [Event.call?], _, List.mem_singleton_self _, rfl, by simp⟩

theorem answers_of_step (hs : g.step? e = some out) (he : e.call? = some c)
    (hc : out.gate.calls.get? c = some (.unused t id)) :
    ∃ h g', Run g h g' ∧ (∀ m ∈ h, m.event.call? = some c) ∧ ∃ m ∈ h, m.Answers c := by
  obtain ⟨h, g', r, hh, m, hm, hx⟩ := answers_of_unused hc
  refine ⟨_, g', (Run.one hs).trans r, fun m' hm' => ?_, m, List.mem_append_right _ hm, hx⟩
  obtain hm' | hm' := List.mem_append.mp hm'
  · obtain rfl := List.mem_singleton.mp hm'
    exact he
  · exact hh m' hm'

theorem ready_of_drained (hc : g.calls.get? c = some call) (hr : call.removal = some id)
    (ha : g.ticket? call.ticket = some a) (ho : a.ongoing = []) (hsound : call.Sound a) :
    g.Ready c := by
  refine ⟨pass_eq_none hc ha ho hsound, ?_⟩
  have hidle : a.isActive = false := Ticket.isActive_eq_false_iff.mpr ho
  cases call with
  | found t id =>
    have hs : g.step? (.pursue c) =
        some ⟨(g.stop t a).hold c (.unused t id), .pending c,
          g.stopNotes a (g.config.removeTimeout * 1000)⟩ := by
      simp [step?, pursue?, hc, show g.ticket? t = some a from ha, hidle]
    exact answers_of_step hs rfl (get?_hold_self ..)
  | waiting t deadline removal =>
    obtain rfl : removal = some id := hr
    have hs : g.step? (.wake c) =
        some ⟨(g.closeAll a).hold c (.unused t id), .pending c,
          .canceledDrained a.terms.transferId :: g.closeNotes a⟩ := by
      simp [step?, wake?, hc, show g.ticket? t = some a from ha, hsound.2 ho]
    exact answers_of_step hs rfl (get?_hold_self ..)
  | unused t id => exact answers_of_unused hc

theorem step_finds {m : Moment} (hs : Step m.before m.event m.outcome.reply m.after)
    (hm : m.Finds t id c) :
    m.after.calls.get? c = some (.found t id) ∧ m.after.tickets = m.before.tickets ∧
      m.after.store = m.before.store := by
  obtain ⟨he, hr, ht⟩ := hm
  obtain ⟨g, e, g', reply, notes⟩ := m
  dsimp only [Moment.after] at *
  subst he hr
  cases hs with
  | keep he => exact he.elim
  | find ht' ha =>
    cases ht.symm.trans ht'
    exact ⟨get?_hold_self .., rfl, rfl⟩

namespace Run

variable {h h₁ h₂ : List Moment} {m₀ : Moment} {config : Config} {clock : Nat}

theorem drained_removal (r : Run (initial config clock) h g) (hc : g.calls.get? c = some call)
    (hr : call.removal = some id) (ha : g.ticket? call.ticket = some a) (hu : a.terms.uuid = id)
    (hcan : a.canceled = true) (ho : a.ongoing = []) {h' : List Moment} (r' : Run g h' g') :
    (∀ m ∈ h', m.Answers c →
      m.outcome.reply = .done ∧ ∀ id', g'.store.get? id' ≠ some call.ticket) ∧
    ((∀ m ∈ h', ¬ m.Answers c) → h'.countP (·.event.call? == some c) ≤ 2 ∧ g'.Ready c) := by
  have hn := r.numbered c call hc
  constructor
  · rintro m hm ⟨he, hp⟩
    obtain ⟨h₁, h₂, -, r₁, hs, r₂, -, call', hc', ht', hr'⟩ := r'.split_own hn hc hm he
    obtain ⟨b, hb, -, -, hob⟩ := r₁.drained_stays ha hcan ho
    obtain ⟨b', hb', hsound⟩ := (r.trans r₁).callsSound c call' hc'
    cases hb.symm.trans (ht' ▸ hb')
    have hend := step_answer_drained (step_of_step? hs) he hp hc' (hr'.trans hr) hb' hob hsound
    refine ⟨hend.1, r₂.unregistered (step_ticket (step_of_step? hs) hb) fun id' hid => ?_⟩
    have hid' := (r₁.step hs).uuid_of_stored ((r.trans r₁).step hs).filed ha hid
    rw [hid', hu, ← ht'] at hid
    exact hend.2 hid
  · intro hh
    obtain ⟨⟨m, hm, hx⟩, -⟩ | ⟨-, call', hc', ht', hr', hrank⟩ := r'.call_goes_on hn hc
    · exact absurd hx (hh m hm)
    · obtain ⟨b, hb, -, -, hob⟩ := r'.drained_stays ha hcan ho
      obtain ⟨b', hb', hsound⟩ := (r.trans r').callsSound c call' hc'
      cases hb.symm.trans (ht' ▸ hb')
      have hle : call'.rank ≤ 2 := by cases call' <;> simp [Call.rank]
      exact ⟨by omega, ready_of_drained hc' (hr'.trans hr) hb' hob hsound⟩

/-- A removal touches only the ticket that it has found, and takes it out of the store only when it
is canceled and nothing runs on it; at most one removal does. If the ticket drains before the
removal has its answer, the answer is that it is done, and the ticket is then in the store no more. -/
theorem removal_confined (r : Run (initial config clock) (h₁ ++ m₀ :: h₂) g) (hm : m₀.Finds t id c) :
    (m₀.after.tickets = m₀.before.tickets ∧ m₀.after.store = m₀.before.store) ∧
    (∀ m ∈ h₂, m.event.call? = some c → m.Confined t id ∧
      ∀ t', m₀.before.ticket? t' = none → m.after.ticket? t' = m.before.ticket? t' ∧
        ∀ id', m.before.store.get? id' = some t' → m.after.store.get? id' = some t') ∧
    ((∀ m ∈ h₂, ¬ m.Answers c) →
      ∀ a, g.ticket? t = some a → a.canceled = true → a.ongoing = [] → ∀ h' g', Run g h' g' →
        (∀ m ∈ h', m.Answers c →
          m.outcome.reply = .done ∧ ∀ id', g'.store.get? id' ≠ some t) ∧
        ((∀ m ∈ h', ¬ m.Answers c) →
          h'.countP (·.event.call? == some c) ≤ 2 ∧ g'.Ready c)) ∧
    ((h₁ ++ m₀ :: h₂).Pairwise fun m m' => ¬ (m.Drops t ∧ m'.Drops t)) ∧
    ((∀ id', g.store.get? id' ≠ some t) → ∀ h' g', Run g h' g' → ∀ m ∈ h', ¬ m.Drops t) := by
  obtain ⟨r₁, hs, r₂⟩ := r.parts
  obtain ⟨hc, hkept⟩ := step_finds (step_of_step? hs) hm
  obtain ⟨a₀, ha₀, hu⟩ := r₁.filed id t hm.2.2
  have hn : c < m₀.after.nextCall := (r₁.step hs).numbered c _ hc
  obtain ⟨a, ha, hterms⟩ := ((one hs).trans r₂).terms_kept ha₀
  refine ⟨hkept, fun m hm₂ he => ?_, fun hh b hb hcan ho h' g' r' => ?_, r.drops_once,
    fun hn h' g' r' => r'.not_drops ha hn⟩
  · obtain ⟨h₃, h₄, -, r₃, hs', -⟩ := r₂.split hm₂
    obtain ⟨call, hc', ht', hr'⟩ := r₂.own_call hn hc hm₂ he
    have ht' : call.ticket = t := ht'
    have hx : m.Confined t id :=
      ht' ▸ step_confined (step_of_step? hs') he hc' hr' ((r₁.step hs).trans r₃).callsSound
    refine ⟨hx, fun t' hnone => ?_⟩
    have hne : t' ≠ t := by
      rintro rfl
      simp [hnone] at ha₀
    refine ⟨hx.tickets t' hne, fun id' hid => Decidable.byContradiction fun hlost => ?_⟩
    exact hne (hx.losses id' t' hid hlost).2.1
  · obtain ⟨⟨m, hm', hx⟩, -⟩ | ⟨-, call, hc', rfl, hr', -⟩ := r₂.call_goes_on hn hc
    · exact absurd hx (hh m hm')
    · cases hb.symm.trans ha
      exact r.drained_removal hc' hr' ha (hterms ▸ hu) hcan ho r'

theorem removal_confined_while_replaced :
    ∃ h₁ m₀ h₂ g a, Run (initial ⟨60, 60⟩ 0) (h₁ ++ m₀ :: h₂) g ∧ m₀.Finds 0 "u" 0 ∧
      g.ticket? 0 = some a ∧ a.canceled = true ∧ a.ongoing = [] ∧ g.store.get? "u" = some 1 ∧
      g.Ready 0 := by
  obtain ⟨h, g, r, he, hf⟩ := of_play_any (initial ⟨60, 60⟩ 0)
    [.add sampleRecord, .start 0 0 0, .remove "u", .pursue 0, .add sampleRecord,
      .finish 0 (.ok ())]
    (fun h g =>
      (h[2]?.any fun m => m.outcome.reply == .pending 0 && m.before.store.get? "u" == some 0) &&
        (h[3]?.any fun m => m.outcome.reply == .pending 0) &&
        (g.ticket? 0).any (fun a => a.canceled && a.ongoing == []) && g.store.get? "u" == some 1)
    (by decide +kernel)
  obtain ⟨m₀, h, rfl, -, he⟩ := List.map_eq_cons_iff.mp he
  obtain ⟨m₁, h, rfl, -, he⟩ := List.map_eq_cons_iff.mp he
  obtain ⟨m, h, rfl, hm, he⟩ := List.map_eq_cons_iff.mp he
  obtain ⟨m₃, h, rfl, hm₃, he⟩ := List.map_eq_cons_iff.mp he
  obtain ⟨m₄, h, rfl, hm₄, he⟩ := List.map_eq_cons_iff.mp he
  obtain ⟨m₅, h, rfl, hm₅, he⟩ := List.map_eq_cons_iff.mp he
  obtain rfl := List.map_eq_nil_iff.mp he
  simp only [List.getElem?_cons_succ, List.getElem?_cons_zero, Option.any_some, Bool.and_eq_true,
    Option.any_eq_true, beq_iff_eq] at hf
  obtain ⟨⟨⟨⟨hr, ht⟩, hr₃⟩, a, ha, hc, ho⟩, hu⟩ := hf
  have hfinds : m.Finds 0 "u" 0 := ⟨hm, hr, ht⟩
  have hopen : ∀ m ∈ [m₃, m₄, m₅], ¬ m.Answers 0 := by
    simp [Moment.Answers, hm₃, hm₄, hm₅, hr₃, Event.call?]
  have r : Run _ ([m₀, m₁] ++ m :: [m₃, m₄, m₅]) g := r
  have hall := (r.removal_confined hfinds).2.2.1 hopen a ha hc ho [] g .refl
  exact ⟨[m₀, m₁], m, _, g, a, r, hfinds, ha, hc, ho, hu, (hall.2 (by simp)).2⟩

end Run

end TicketGate.Gate
