import TicketGate.Proofs.Clock
import TicketGate.Proofs.Removal

namespace TicketGate

/-- What a removal keeps to that was called for at the gate `g`: it goes after its ticket at once,
waits only if it may and for as long as it may, and else takes an unused ticket out at once. -/
def Call.KeepsTo (g g' : Gate) : Call → Prop
  | .found _ _ => g'.clock = g.clock
  | .waiting _ deadline _ =>
    g.config.removeTimeout ≠ 0 ∧ deadline = g.deadline (g.config.removeTimeout * 1000)
  | .unused _ _ => g.config.removeTimeout = 0 → g'.clock = g.clock

namespace Gate

/-- In a run up to the gate `g`, a removal is done at the time at which it was called for, and the
ticket of number `t` is in the store no more. -/
structure RemovesAtOnce (c : CallId) (t : TicketId) (time : Nat) (h : List Moment) (g : Gate) :
    Prop where
  answer : ∀ m ∈ h, m.Answers c → m.outcome.reply = .done ∧ m.before.clock = time ∧
    ∀ id, g.store.get? id ≠ some t
  due : (∀ m ∈ h, ¬ m.Answers c) → g.clock = time ∧ g.Ready c

/-- What the answer to a removal means. It was called for at the gate `g`, where it found the ticket
of number `t`, then `a`, under the uuid `id`. It was answered at the moment `m` of the history `h`,
which leads from there to the gate `g'`. -/
structure RemovalEnds (g : Gate) (id : String) (t : TicketId) (a : Ticket) (h : List Moment)
    (m : Moment) (g' : Gate) : Prop where
  reply : m.outcome.reply = .done ∨ m.outcome.reply = .fault (.cancelTimeout a.terms.transferId)
  canceled : ∃ b, g'.ticket? t = some b ∧ b.canceled = true
  removed : m.outcome.reply = .done → g.config.removeTimeout ≠ 0 →
    (∃ b, g'.ticket? t = some b ∧ b.ongoing = []) ∧ ∀ id', g'.store.get? id' ≠ some t
  atOnce : g.config.removeTimeout = 0 → m.outcome.reply = .done ∧ m.before.clock = g.clock
  stored : g.config.removeTimeout = 0 → (∃ p ∈ h, p.event = .pursue g.nextCall) ∧
    ∀ p ∈ h, p.event = .pursue g.nextCall → ∃ x, p.before.ticket? t = some x ∧
      ((∃ id', m.after.store.get? id' = some t) ↔
        x.ongoing ≠ [] ∧ ∃ id', p.before.store.get? id' = some t)
  storedAlone : g.config.removeTimeout = 0 → (∀ p ∈ h, p.event.call? = some g.nextCall) →
    ((∃ id', m.after.store.get? id' = some t) ↔ a.ongoing ≠ [])
  failed : m.outcome.reply ≠ .done → g.config.removeTimeout ≠ 0 ∧
    m.before.clock = g.deadline (g.config.removeTimeout * 1000) ∧
    (∃ b, m.before.ticket? t = some b ∧ b.ongoing ≠ []) ∧
    ∀ p ∈ h, p.event.call? = some g.nextCall → p.after.store = p.before.store
  again : ∀ b, g'.ticket? t = some b → b.ongoing = [] → g'.store.get? id = some t →
    ∃ out, g'.step? (.remove id) = some out ∧ out.reply = .pending g'.nextCall ∧
      ∀ h' g'', Run out.gate h' g'' → RemovesAtOnce g'.nextCall t g'.clock h' g''

variable {g g' : Gate} {t : TicketId} {id : String} {a b : Ticket} {c : CallId} {call call' : Call}
  {e : Event} {reply : Reply} {out : Outcome} {h h' : List Moment} {m p : Moment} {config : Config}
  {clock : Nat}

theorem deadline_congr (hclock : g'.clock = g.clock) (timeout : Nat) :
    g'.deadline timeout = g.deadline timeout := by
  rw [deadline, deadline, hclock]

theorem step_remove_missing (hn : g.store.get? id = none) :
    g.step? (.remove id) = some ⟨g, .done, [.ticketMissing id]⟩ := by
  simp [step?, remove, find?, hn]

theorem step_remove_found (ht : g.store.get? id = some t) (ha : g.ticket? t = some a) :
    g.step? (.remove id) =
      some ⟨{ g.hold g.nextCall (.found t id) with nextCall := g.nextCall + 1 },
        .pending g.nextCall, []⟩ := by
  simp [step?, remove, find?_eq_some.mpr ⟨ht, ha⟩]

theorem event_of_found (hs : Step g e reply g') (he : e.call? = some c)
    (hc : g.calls.get? c = some (.found t id)) : e = .pursue c := by
  cases hs with
  | keep hk => simp [call?_of_mayKeep hk] at he
  | pursueIdle | pursueBusy | pursueWaits =>
    obtain rfl := Option.some.inj he
    rfl
  | wakeCancel hf | wakeRemoval hf | delete hf | expire hf =>
    obtain rfl := Option.some.inj he
    cases hf.symm.trans hc
  | _ => simp [Event.call?] at he

theorem found_of_pursue (hs : Step g (.pursue c) reply g') :
    ∃ t id, g.calls.get? c = some (.found t id) := by
  cases hs with
  | keep hk => exact hk.elim
  | pursueIdle hf | pursueBusy hf | pursueWaits hf => exact ⟨_, _, hf⟩

theorem step_own_store (hs : Step g e reply g') (he : e.call? = some c) :
    g'.store = g.store ∨ reply = .done := by
  cases hs with
  | keep hk => simp [call?_of_mayKeep hk] at he
  | pursueIdle | pursueWaits => exact .inl (store_stop ..)
  | pursueBusy | delete => exact .inr rfl
  | wakeCancel | wakeRemoval | expire => exact .inl rfl
  | _ => simp [Event.call?] at he

theorem step_pursue_found (hs : Step g (.pursue c) reply g')
    (hc : g.calls.get? c = some (.found t id)) (ha : g.ticket? t = some a) :
    (a.ongoing = [] ∧ reply = .pending c ∧ g'.calls.get? c = some (.unused t id)) ∨
      (a.ongoing ≠ [] ∧ g.config.removeTimeout = 0 ∧ reply = .done ∧ g'.store = g.store ∧
        g'.calls.get? c = none) ∨
      (a.ongoing ≠ [] ∧ g.config.removeTimeout ≠ 0 ∧ reply = .pending c) := by
  cases hs with
  | keep hk => exact hk.elim
  | pursueIdle hf hx hb =>
    cases hf.symm.trans hc
    cases hx.symm.trans ha
    exact .inl ⟨Ticket.isActive_eq_false_iff.mp hb, rfl, get?_hold_self ..⟩
  | pursueBusy hf hx hb hz =>
    cases hf.symm.trans hc
    cases hx.symm.trans ha
    exact .inr (.inl ⟨Ticket.isActive_iff.mp hb, hz, rfl, store_stop ..,
      get?_drop_self ..⟩)
  | pursueWaits hf hx hb hz =>
    cases hf.symm.trans hc
    cases hx.symm.trans ha
    exact .inr (.inr ⟨Ticket.isActive_iff.mp hb, hz, rfl⟩)

theorem step_keepsTo {g₀ : Gate} (hs : g.step? e = some out) (hconfig : g.config = g₀.config)
    (hg : g.CallsSound) (hn : c < g.nextCall)
    (hk : ∀ call, g.calls.get? c = some call → call.KeepsTo g₀ g)
    (hc : out.gate.calls.get? c = some call) : call.KeepsTo g₀ out.gate := by
  -- while a call can go on, the clock does not
  have hstill (hgo : ∀ a, call.CanGoOn a) (hc : g.calls.get? c = some call) :
      out.gate.clock = g.clock := by
    apply step_clock_eq (step_of_step? hs)
    rintro ms rfl
    obtain ⟨a, ha, -⟩ := hg c call hc
    simp [pass_eq_none_of_canGoOn hc ha (hgo a) ms] at hs
  obtain ⟨hc, -⟩ | hx := step_call (step_of_step? hs) hc
  · have hcall := hk call hc
    cases call with
    | found => exact (hstill (fun _ => trivial) hc).trans hcall
    | waiting => exact hcall
    | unused => exact fun hz => (hstill (fun _ => trivial) hc).trans (hcall hz)
  · cases hx with
    | lookup | busy => exact absurd hn (Nat.lt_irrefl _)
    | pursuedIdle hf =>
      exact fun _ => (step_clock_eq (step_of_step? hs) (by simp)).trans (hk _ hf)
    | pursuedBusy hf ha hb =>
      have hclock : g.clock = g₀.clock := hk _ hf
      refine ⟨fun hz => ?_, hconfig ▸ deadline_congr hclock _⟩
      obtain ⟨ho, -⟩ | ⟨-, -, -, -, hnone⟩ | ⟨-, hnz, -⟩ :=
        step_pursue_found (step_of_step? hs) hf ha
      · exact Ticket.isActive_iff.mp hb ho
      · simp [hnone] at hc
      · exact hnz (hconfig ▸ hz)
    | woken hf => exact fun hz => absurd hz (hk _ hf).1

theorem answers_of_busy (hc : g.calls.get? c = some (.found t id)) (ha : g.ticket? t = some a)
    (hne : a.ongoing ≠ []) (hz : g.config.removeTimeout = 0) :
    ∃ h g', Run g h g' ∧ (∀ m ∈ h, m.event.call? = some c) ∧ ∃ m ∈ h, m.Answers c := by
  have hs : g.step? (.pursue c) = some ⟨(g.stop t a).drop c, .done, g.stopNotes a 0⟩ := by
    simp [step?, pursue?, hc, ha, Ticket.isActive_iff.mpr hne, hz]
  exact ⟨_, _, Run.one hs, by simp [Event.call?], _, List.mem_singleton_self _, rfl, by simp⟩

namespace Run

section Found

variable (r : Run (initial config clock) h g) (hc : g.calls.get? c = some (.found t id))
  (r' : Run g h' g')
include r hc r'

theorem keepsTo (hc' : g'.calls.get? c = some call) : call.KeepsTo g g' := by
  induction r' generalizing call with
  | refl =>
    cases hc.symm.trans hc'
    exact rfl
  | step r' hs ih =>
    have hn := Nat.lt_of_lt_of_le (r.numbered c _ hc) r'.nextCall_le
    exact step_keepsTo hs r'.config_eq (r.trans r').callsSound hn (fun _ => ih) hc'

theorem found_stays (hh : ∀ m ∈ h', m.event ≠ .pursue c) :
    g'.calls.get? c = some (.found t id) := by
  induction r' with
  | refl => exact hc
  | @step h' g' e out r' hs ih =>
    have hf := ih fun m hm => hh m (List.mem_append_left _ hm)
    have hn := Nat.lt_of_lt_of_le (r.numbered c _ hc) r'.nextCall_le
    refine (step_call_stays (step_of_step? hs) hn fun he => ?_).trans hf
    exact hh _ (List.mem_append_right _ (List.mem_singleton_self _))
      (event_of_found (step_of_step? hs) he hf)

theorem exists_pursuit (hm : m ∈ h') (he : m.event.call? = some c) :
    ∃ p ∈ h', p.event = .pursue c := by
  obtain ⟨h₁, h₂, rfl, r₁, hs, -⟩ := r'.split hm
  by_cases hx : ∃ p ∈ h₁, p.event = .pursue c
  · obtain ⟨p, hp, hx⟩ := hx
    exact ⟨p, List.mem_append_left _ hp, hx⟩
  · have hf := r.found_stays hc r₁ fun p hp hpe => hx ⟨p, hp, hpe⟩
    exact ⟨m, hm, event_of_found (step_of_step? hs) he hf⟩

theorem found_of_pursuit (hp : p ∈ h') (he : p.event = .pursue c) :
    p.before.calls.get? c = some (.found t id) := by
  obtain ⟨-, -, -, -, hs, -, -, call, hcall, ht, hr⟩ :=
    r'.split_own (r.numbered c _ hc) hc hp (he ▸ rfl)
  obtain ⟨t', id', hf⟩ := found_of_pursue (he ▸ step_of_step? hs)
  cases hf.symm.trans hcall
  obtain rfl : t' = t := ht
  obtain rfl := Option.some.inj hr
  exact hf

theorem ready_of_no_wait (hz : g.config.removeTimeout = 0) (hh : ∀ m ∈ h', ¬ m.Answers c) :
    g'.clock = g.clock ∧ g'.Ready c := by
  obtain ⟨⟨m, hm, hx⟩, -⟩ | ⟨-, call, hc', -, hr, -⟩ := r'.call_goes_on (r.numbered c _ hc) hc
  · exact absurd hx (hh m hm)
  · have hkeeps := r.keepsTo hc r' hc'
    obtain ⟨b, hb, hsound⟩ := (r.trans r').callsSound c call hc'
    cases call with
    | found t' id' =>
      refine ⟨hkeeps, ?_⟩
      by_cases ho : b.ongoing = []
      · exact ready_of_drained hc' hr hb ho hsound
      · exact ⟨pass_eq_none_of_canGoOn hc' hb trivial,
          answers_of_busy hc' hb ho (r'.config_eq ▸ hz)⟩
    | waiting => exact absurd hz hkeeps.1
    | unused => exact ⟨hkeeps hz, ready_of_drained hc' hr hb hsound.2 hsound⟩

theorem store_kept_of_fault (hm : m ∈ h') (hx : m.Answers c) (hr : m.outcome.reply ≠ .done)
    (hp : p ∈ h') (he : p.event.call? = some c) : p.after.store = p.before.store := by
  obtain ⟨h₁, h₂, -, -, hs, -⟩ := r'.split hp
  obtain hstore | hdone := step_own_store (step_of_step? hs) he
  · exact hstore
  · obtain rfl : m = p :=
      r'.answer_unique (r.numbered c _ hc) hc hp ⟨he, by simp [hdone]⟩ hm hx
    exact absurd hdone hr

variable (ha : g.ticket? t = some a)
include ha

/-- How a removal comes to its answer: it has not waited; or its ticket is unused; or some operation
has run for longer than it could wait. -/
theorem removal_answer (hm : m ∈ h') (hx : m.Answers c) :
    ∃ b, m.before.ticket? t = some b ∧
      ((m.outcome.reply = .done ∧ g.config.removeTimeout = 0 ∧ m.before.clock = g.clock) ∨
        (m.outcome.reply = .done ∧ m.before.calls.get? c = some (.unused t id) ∧
          b.canceled = true ∧ b.ongoing = [] ∧
          (g.config.removeTimeout = 0 → m.before.clock = g.clock)) ∨
        (m.outcome.reply = .fault (.cancelTimeout a.terms.transferId) ∧
          g.config.removeTimeout ≠ 0 ∧
          m.before.clock = g.deadline (g.config.removeTimeout * 1000) ∧ b.ongoing ≠ [])) := by
  obtain ⟨h₁, h₂, -, r₁, hs, -, -, call, hcall, rfl, hrem⟩ :=
    r'.split_own (r.numbered c _ hc) hc hm hx.1
  have hrem : call.removal = some id := hrem
  have hkeeps := r.keepsTo hc r₁ hcall
  obtain ⟨b, hb, hterms⟩ := r₁.terms_kept ha
  obtain ⟨b', hb', hsound⟩ := (r.trans r₁).callsSound c call hcall
  cases hb'.symm.trans hb
  refine ⟨b, hb, ?_⟩
  obtain ⟨hr, hf, hz, -⟩ | ⟨hr, hu, -⟩ | ⟨hr, hd, deadline, hw, hl⟩ :=
    step_removal_answer (step_of_step? hs) hx.1 hx.2 hcall hrem hb
  · rw [hf] at hkeeps
    exact .inl ⟨hr, r₁.config_eq ▸ hz, hkeeps⟩
  · rw [hu] at hkeeps hsound
    exact .inr (.inl ⟨hr, hu ▸ hcall, hsound.1, hsound.2, hkeeps⟩)
  · rw [hw] at hkeeps hsound hcall
    obtain ⟨hnz, rfl⟩ := hkeeps
    -- the deadline has come, and the clock does not go beyond it while the call waits
    have hle := (r.trans r₁).inTime c _ _ _ hcall
    exact .inr (.inr ⟨hterms ▸ hr, hnz, Nat.le_antisymm hle hl, fun ho => by
      simp [hsound.2 ho] at hd⟩)

theorem stored_iff_of_pursuit (hu : a.terms.uuid = id) (hz : g.config.removeTimeout = 0)
    (hm : m ∈ h') (hx : m.Answers c) (hp : p ∈ h') (he : p.event = .pursue c) :
    ∃ x, p.before.ticket? t = some x ∧ ((∃ id', m.after.store.get? id' = some t) ↔
      x.ongoing ≠ [] ∧ ∃ id', p.before.store.get? id' = some t) := by
  have hn := r.numbered c _ hc
  have hf := r.found_of_pursuit hc r' hp he
  obtain ⟨h₁, h₂, rfl, r₁, hs, r₂⟩ := r'.split hp
  obtain ⟨x, hxa, hterms⟩ := r₁.terms_kept ha
  rw [he] at hs
  refine ⟨x, hxa, ?_⟩
  obtain ⟨ho, hr, hunused⟩ | ⟨hne, -, hr, hstore, -⟩ | ⟨-, hnz, -⟩ :=
    step_pursue_found (step_of_step? hs) hf hxa
  · -- An idle ticket: the answer comes later, when the removal has taken the ticket out.
    have hlater : m ∈ h₂ := by
      obtain hm | hm := List.mem_append.mp hm
      · exact absurd hx (r₁.not_answered hn hc hf m hm)
      · obtain rfl | hm := List.mem_cons.mp hm
        · exact absurd hr hx.2
        · exact hm
    obtain ⟨h₃, h₄, -, r₃, hs', -⟩ := r₂.split hlater
    have hxc : p.after.ticket? t = some x.cancel := by
      simpa [change?, hf, Ticket.after, Moment.after] using step_ticket (step_of_step? hs) hxa
    have hdone := (((r.trans r₁).step hs).drained_removal hunused rfl hxc
      (by rw [← hu, ← hterms]; rfl) rfl ho (r₃.step hs')).1 m (by simp) hx
    refine iff_of_false ?_ fun hbusy => hbusy.1 ho
    rintro ⟨id', hid⟩
    exact hdone.2 id' hid
  · -- A busy one: this is the answer already.
    obtain rfl : m = p :=
      r'.answer_unique hn hc hp ⟨by rw [he]; rfl, by simp [hr]⟩ hm hx
    rw [show m.after.store = m.before.store from hstore, and_iff_right hne]
  · exact absurd (r₁.config_eq ▸ hz) hnz

theorem canceled_of_own (hm : m ∈ h') (he : m.event.call? = some c) :
    ∃ b, g'.ticket? t = some b ∧ b.canceled = true := by
  obtain ⟨p, hp, hpursue⟩ := r.exists_pursuit hc r' hm he
  have hf := r.found_of_pursuit hc r' hp hpursue
  obtain ⟨b, hb, -⟩ := r'.terms_kept ha
  exact ⟨b, hb, ((r.trans r').canceled_iff hb).mpr
    ⟨p, List.mem_append_right _ hp, .inr ⟨c, id, hpursue, hf⟩⟩⟩

theorem removed_of_done (hu : a.terms.uuid = id) (hnz : g.config.removeTimeout ≠ 0) (hm : m ∈ h')
    (hx : m.Answers c) (hr : m.outcome.reply = .done) :
    (∃ b, g'.ticket? t = some b ∧ b.ongoing = []) ∧ ∀ id', g'.store.get? id' ≠ some t := by
  obtain ⟨b, hb, ⟨-, hz, -⟩ | ⟨-, hunused, hcan, ho, -⟩ | ⟨hfault, -⟩⟩ :=
    r.removal_answer hc r' ha hm hx
  · exact absurd hz hnz
  · obtain ⟨h₁, h₂, -, r₁, hs, r₂⟩ := r'.split hm
    obtain ⟨b', hb', hterms⟩ := r₁.terms_kept ha
    cases hb'.symm.trans hb
    have r₃ := (one hs).trans r₂
    obtain ⟨x, hxb, -, -, hox⟩ := r₃.drained_stays hb hcan ho
    exact ⟨⟨x, hxb, hox⟩, (((r.trans r₁).drained_removal hunused rfl hb (hterms ▸ hu) hcan ho
      r₃).1 m (by simp) hx).2⟩
  · simp [hr] at hfault

theorem stored_iff_alone (hu : a.terms.uuid = id) (ht : g.store.get? id = some t)
    (hz : g.config.removeTimeout = 0) (hm : m ∈ h') (hx : m.Answers c)
    (hown : ∀ p ∈ h', p.event.call? = some c) :
    (∃ id', m.after.store.get? id' = some t) ↔ a.ongoing ≠ [] := by
  cases h' with
  | nil => simp at hm
  | cons p h₂ =>
    have hp : p ∈ p :: h₂ := List.mem_cons_self ..
    have hall : Run g ([] ++ p :: h₂) g' := r'
    obtain ⟨r₀, hs, -⟩ := hall.parts
    obtain rfl := r₀.eq_of_nil
    have he := event_of_found (step_of_step? hs) (hown p hp) hc
    obtain ⟨x, hxa, hstored⟩ := r.stored_iff_of_pursuit hc r' ha hu hz hm hx hp he
    cases hxa.symm.trans ha
    rw [hstored, and_iff_left ⟨id, ht⟩]

end Found

theorem remove_again (r : Run (initial config clock) h g) (ht : g.store.get? id = some t)
    (ha : g.ticket? t = some a) (hcan : a.canceled = true) (ho : a.ongoing = []) :
    ∃ out, g.step? (.remove id) = some out ∧ out.reply = .pending g.nextCall ∧
      ∀ h' g', Run out.gate h' g' → RemovesAtOnce g.nextCall t g.clock h' g' := by
  have hs := step_remove_found ht ha
  refine ⟨_, hs, rfl, fun h' g' r' => ?_⟩
  have r₁ := r.step hs
  have hc : (g.hold g.nextCall (.found t id)).calls.get? g.nextCall = some (.found t id) :=
    get?_hold_self ..
  obtain ⟨a', ha', hu⟩ := r.filed id t ht
  cases ha'.symm.trans ha
  obtain ⟨hanswer, hdue⟩ := r₁.drained_removal hc rfl ha hu hcan ho r'
  constructor
  · intro m hm hx
    obtain ⟨h₁, h₂, -, r₂, -, -, hopen, -⟩ := r'.split_own (r₁.numbered _ _ hc) hc hm hx.1
    have hclock := r₁.clock_eq_of_drained hc ha hcan ho r₂ hopen
    exact ⟨(hanswer m hm hx).1, hclock, (hanswer m hm hx).2⟩
  · exact fun hh => ⟨r₁.clock_eq_of_drained hc ha hcan ho r' hh, (hdue hh).2⟩

/-- A removal of a uuid that is not in the store is done at once. Else it is answered at once if it is
not to wait, and in any case it ends as `RemovalEnds` says. -/
theorem removal_outcome (r : Run (initial config clock) h g) (id : String) :
    (g.store.get? id = none →
      ∃ out, g.step? (.remove id) = some out ∧ out.reply = .done ∧ out.gate = g) ∧
    ∀ t, g.store.get? id = some t →
      ∃ a out, g.ticket? t = some a ∧ g.step? (.remove id) = some out ∧
        out.reply = .pending g.nextCall ∧ out.gate.tickets = g.tickets ∧
        out.gate.store = g.store ∧
        (g.config.removeTimeout < timerLimit →
          g.deadline (g.config.removeTimeout * 1000) =
            g.clock + g.config.removeTimeout * 1000) ∧
        ∀ h' g', Run out.gate h' g' →
          (g.config.removeTimeout = 0 → (∀ m ∈ h', ¬ m.Answers g.nextCall) →
            g'.clock = g.clock ∧ g'.Ready g.nextCall) ∧
          ∀ m ∈ h', m.Answers g.nextCall → RemovalEnds g id t a h' m g' := by
  refine ⟨fun hn => ⟨_, step_remove_missing hn, rfl, rfl⟩, fun t ht => ?_⟩
  obtain ⟨a, ha, hu⟩ := r.filed id t ht
  have hs := step_remove_found ht ha
  have r₁ := r.step hs
  have hc : (g.hold g.nextCall (.found t id)).calls.get? g.nextCall = some (.found t id) :=
    get?_hold_self ..
  refine ⟨a, _, ha, hs, rfl, rfl, rfl, fun hlt => deadline_eq (by omega), fun h' g' r' => ?_⟩
  refine ⟨r₁.ready_of_no_wait hc r', fun m hm hx => ?_⟩
  have hcanceled := r₁.canceled_of_own hc r' ha hm hx.1
  obtain ⟨x, hxb, hanswer⟩ := r₁.removal_answer hc r' ha hm hx
  constructor
  case reply => exact hanswer.elim (.inl ·.1) fun hanswer => hanswer.imp And.left And.left
  case canceled => exact hcanceled
  case removed => exact fun hr hnz => r₁.removed_of_done hc r' ha hu hnz hm hx hr
  case atOnce =>
    intro hz
    obtain ⟨hr, -, hclock⟩ | ⟨hr, -, -, -, hclock⟩ | ⟨-, hnz, -⟩ := hanswer
    · exact ⟨hr, hclock⟩
    · exact ⟨hr, hclock hz⟩
    · exact absurd hz hnz
  case stored =>
    exact fun hz => ⟨r₁.exists_pursuit hc r' hm hx.1, fun p hp he =>
      r₁.stored_iff_of_pursuit hc r' ha hu hz hm hx hp he⟩
  case storedAlone => exact fun hz hown => r₁.stored_iff_alone hc r' ha hu ht hz hm hx hown
  case failed =>
    intro hr
    obtain ⟨hdone, -⟩ | ⟨hdone, -⟩ | ⟨-, hnz, hclock, hne⟩ := hanswer
    · exact absurd hdone hr
    · exact absurd hdone hr
    · exact ⟨hnz, hclock, ⟨x, hxb, hne⟩, fun p hp he =>
        r₁.store_kept_of_fault hc r' hm hx hr hp he⟩
  case again =>
    intro b hb ho ht'
    obtain ⟨b', hb', hcan⟩ := hcanceled
    cases hb'.symm.trans hb
    exact (r₁.trans r').remove_again ht' hb hcan ho

theorem removal_outcome_of_timeout :
    ∃ h g a out h' m g' out', Run (initial ⟨60, 60⟩ 0) h g ∧ g.ticket? 0 = some a ∧
      g.step? (.remove "u") = some out ∧ Run out.gate h' g' ∧
      h'.map Moment.event = [.pursue 0, .pass 60000, .expire 0, .finish 0 (.ok ())] ∧
      m ∈ h' ∧ m.Answers 0 ∧ RemovalEnds g "u" 0 a h' m g' ∧
      m.outcome.reply = .fault (.cancelTimeout a.terms.transferId) ∧
      g'.step? (.remove "u") = some out' ∧
      ∀ h'' g'', Run out'.gate h'' g'' → RemovesAtOnce 1 0 60000 h'' g'' := by
  obtain ⟨h₁, m, h₂, g', r, -, hm, he, hf⟩ := of_play_at (initial ⟨60, 60⟩ 0)
    [.add sampleRecord, .start 0 0 0] (.remove "u")
    [.pursue 0, .pass 60000, .expire 0, .finish 0 (.ok ())]
    (fun m h₂ g' => m.before.store.get? "u" == some 0 && m.before.nextCall == 0 &&
      (h₂.any fun x => x.event.call? == some 0 && x.outcome.reply != .pending 0 &&
        x.outcome.reply != .done) &&
      (g'.ticket? 0).any (·.ongoing == []) && g'.store.get? "u" == some 0 && g'.nextCall == 1 &&
      g'.clock == 60000) (by decide +kernel)
  simp only [Bool.and_eq_true, beq_iff_eq, List.any_eq_true, bne_iff_ne, Option.any_eq_true] at hf
  obtain ⟨⟨⟨⟨⟨⟨ht, hnext⟩, x, hx, ⟨hcall, hp⟩, hnd⟩, b, hb, ho⟩, ht'⟩, hnext'⟩, hclock⟩ := hf
  obtain ⟨r₁, hs, r₂⟩ := r.parts
  obtain ⟨a, out, ha, hs', -, -, -, -, hafter⟩ := (r₁.removal_outcome "u").2 0 ht
  rw [hm] at hs
  cases hs.symm.trans hs'
  have hends := (hafter h₂ g' r₂).2 x hx (hnext.symm ▸ ⟨hcall, hp⟩)
  obtain ⟨out', hagain, -, hdone⟩ := hends.again b hb ho ht'
  rw [hnext', hclock] at hdone
  exact ⟨h₁, m.before, a, _, h₂, x, g', out', r₁, ha, hs', r₂, he, hx, ⟨hcall, hp⟩, hends,
    hends.reply.resolve_left hnd, hagain, hdone⟩

end Run

end Gate

end TicketGate
