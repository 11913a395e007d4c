import TicketGate.Proofs.Clock

namespace TicketGate.Gate

/-- The last one of some operations ends, and the clock shows `time`. -/
structure LastEnds (os : List OperationId) (h : List Moment) (time : Nat) : Prop where
  all : ∀ o ∈ os, o ∈ ended h
  last : ∃ m ∈ h, ∃ o ∈ os, m.ended? = some o ∧ m.before.clock = time
  le : ∀ m ∈ h, ∀ o ∈ os, m.ended? = some o → m.before.clock ≤ time

instance (os : List OperationId) (h : List Moment) (time : Nat) :
    Decidable (LastEnds os h time) :=
  decidable_of_iff
    ((∀ o ∈ os, o ∈ ended h) ∧ (∃ m ∈ h, ∃ o ∈ os, m.ended? = some o ∧ m.before.clock = time) ∧
      ∀ m ∈ h, ∀ o ∈ os, m.ended? = some o → m.before.clock ≤ time)
    ⟨fun ⟨hall, hlast, hle⟩ => ⟨hall, hlast, hle⟩, fun hl => ⟨hl.all, hl.last, hl.le⟩⟩

/-- In a run up to the gate `g`, a call has its one answer, and has got it when the clock showed
`time`; or it has none yet, and as soon as the clock shows that time it can get it and the clock
stands still until it does. -/
structure Returns (c : CallId) (reply : Reply) (time : Nat) (h : List Moment) (g : Gate) : Prop where
  once : h.Pairwise fun m m' => ¬ (m.Answers c ∧ m'.Answers c)
  answer : ∀ m ∈ h, m.Answers c → m.outcome.reply = reply ∧ m.before.clock = time
  due : (∀ m ∈ h, ¬ m.Answers c) → g.clock ≤ time ∧ (g.clock = time →
    (∃ e out, e.call? = some c ∧ g.step? e = some out ∧ out.reply = reply) ∧
      ∀ ms, 0 < ms → g.step? (.pass ms) = none)

variable {g g' : Gate} {t : TicketId} {a b : Ticket} {c : CallId} {e : Event}
  {reply : Reply} {out : Outcome} {h h' : List Moment} {os : List OperationId}
  {deadline time time' : Nat}
  {removal : Option String} {config : Config} {clock : Nat}

theorem LastEnds.eq_of_append (hl : LastEnds os h time) (hl' : LastEnds os (h ++ h') time')
    (hn : (ended (h ++ h')).Nodup) : time = time' := by
  apply Nat.le_antisymm
  · obtain ⟨m, hm, o, ho, he, rfl⟩ := hl.last
    exact hl'.le m (List.mem_append_left _ hm) o ho he
  · obtain ⟨m, hm, o, ho, he, rfl⟩ := hl'.last
    obtain hm | hm := List.mem_append.mp hm
    · exact hl.le m hm o ho he
    · rw [ended_append] at hn
      have ho' : o ∈ ended h' := List.mem_filterMap.mpr ⟨m, hm, he⟩
      exact absurd rfl ((List.nodup_append.mp hn).2.2 o (hl.all o ho) o ho')

theorem step_empties (hs : Step g e reply g') (ha : g.ticket? t = some a) (hne : a.ongoing ≠ [])
    (hb : g'.ticket? t = some b) (ho : b.ongoing = []) :
    ∃ o ∈ a.ongoing, ∃ result, e = .finish o result := by
  obtain rfl := Option.some.inj ((step_ticket hs ha).symm.trans hb)
  cases hx : g.change? t a e with
  | none =>
    rw [hx] at ho
    exact absurd ho hne
  | some x =>
    rw [hx] at ho
    cases x with
    | leave now o moved =>
      obtain ⟨result, op, he, -⟩ := change?_eq_leave_iff.mp hx
      exact ⟨o, change?_allowed hs ha hx, result, he⟩
    | enter o =>
      simp [Ticket.after, Ticket.enter] at ho
    | _ => exact absurd ho hne

theorem step_own_waiting (hs : Step g e reply g') (he : e.call? = some c)
    (hc : g.calls.get? c = some (.waiting t deadline removal)) (ha : g.ticket? t = some a) :
    (a.drained = true ∧ (removal = none → reply = .flag true)) ∨
      (a.drained = false ∧ deadline ≤ g.clock ∧
        reply = .fault (.cancelTimeout a.terms.transferId)) := by
  cases hs with
  | keep hk => simp [call?_of_mayKeep hk] at he
  | pursueIdle hf | pursueBusy hf | pursueWaits hf | delete hf =>
    obtain rfl := Option.some.inj he
    cases hf.symm.trans hc
  | wakeCancel hf hx hd =>
    obtain rfl := Option.some.inj he
    cases hf.symm.trans hc
    cases hx.symm.trans ha
    exact .inl ⟨hd, fun _ => rfl⟩
  | wakeRemoval hf hx hd =>
    obtain rfl := Option.some.inj he
    cases hf.symm.trans hc
    cases hx.symm.trans ha
    exact .inl ⟨hd, fun hn => by simp at hn⟩
  | expire hf hx hd hl =>
    obtain rfl := Option.some.inj he
    cases hf.symm.trans hc
    cases hx.symm.trans ha
    exact .inr ⟨hd, hl, rfl⟩
  | _ => simp [Event.call?] at he

theorem step_wake_cancel (hc : g.calls.get? c = some (.waiting t deadline none))
    (ha : g.ticket? t = some a) (hd : a.drained = true) :
    ∃ out, g.step? (.wake c) = some out ∧ out.reply = .flag true := by
  simp [step?, wake?, hc, ha, hd]

theorem step_expire_waiting (hc : g.calls.get? c = some (.waiting t deadline removal))
    (ha : g.ticket? t = some a) (hd : a.drained = false) (hl : deadline ≤ g.clock) :
    ∃ out, g.step? (.expire c) = some out ∧
      out.reply = .fault (.cancelTimeout a.terms.transferId) := by
  simp [step?, expire?, hc, ha, hd, hl]

theorem step_cancel_reply {timeout : Nat} (hs : Step g (.cancel t timeout) reply g')
    (ha : g.ticket? t = some a) :
    (reply = .flag true ↔ a.ongoing = []) ∧
      (a.ongoing ≠ [] → timeout = 0 → reply = .flag false) ∧
      (a.ongoing ≠ [] → timeout ≠ 0 → reply = .pending g.nextCall ∧
        g'.calls.get? g.nextCall = some (.waiting t (g.deadline timeout) none)) := by
  cases hs with
  | keep he => exact he.elim
  | cancelIdle _ hx hb =>
    cases hx.symm.trans ha
    have ho := Ticket.isActive_eq_false_iff.mp hb
    exact ⟨iff_of_true rfl ho, fun hne => absurd ho hne, fun hne => absurd ho hne⟩
  | cancelBusy hx hb =>
    cases hx.symm.trans ha
    have hne := Ticket.isActive_iff.mp hb
    exact ⟨iff_of_false (by simp) hne, fun _ _ => rfl, fun _ hnz => absurd rfl hnz⟩
  | cancelWaits hx hb hz =>
    cases hx.symm.trans ha
    have hne := Ticket.isActive_iff.mp hb
    exact ⟨iff_of_false (by simp) hne, fun _ h => absurd h hz,
      fun _ _ => ⟨rfl, get?_hold_self ..⟩⟩

namespace Run

/-- From a ticket in use to one that is not, some operation is the last one to end. -/
theorem exists_last (r : Run g h g') (ha : g.ticket? t = some a) (hcan : a.canceled = true)
    (hne : a.ongoing ≠ []) (hb : g'.ticket? t = some b) (ho : b.ongoing = []) :
    ∃ h₁ m h₂ b', h = h₁ ++ m :: h₂ ∧ (∃ o ∈ a.ongoing, m.ended? = some o) ∧
      Run g (h₁ ++ [m]) m.after ∧ Run m.after h₂ g' ∧ m.after.ticket? t = some b' ∧
      b'.canceled = true ∧ b'.ongoing = [] := by
  induction r generalizing b with
  | refl =>
    cases ha.symm.trans hb
    exact absurd ho hne
  | @step h g' e out r hs ih =>
    obtain ⟨x, hx, hxc, hxs, -⟩ := r.canceled_shrinks ha hcan
    by_cases hxo : x.ongoing = []
    · obtain ⟨h₁, m, h₂, b', rfl, he, r₁, r₂, hb'⟩ := ih hx hxo
      exact ⟨h₁, m, h₂ ++ [⟨g', e, out⟩], b', by simp, he, r₁, r₂.step hs, hb'⟩
    -- something runs up to this step, so it is this step that ends the last operation
    · obtain ⟨o, hox, result, rfl⟩ := step_empties (step_of_step? hs) hx hxo hb ho
      obtain ⟨b', hb', hcb, -⟩ := (one hs).canceled_shrinks hx hxc
      cases hb'.symm.trans hb
      exact ⟨h, ⟨g', _, out⟩, [], b, rfl, ⟨o, hxs.subset hox, rfl⟩, r.step hs, refl, hb, hcb, ho⟩

theorem waiting_stays (r : Run g h g') (hn : c < g.nextCall)
    (hc : g.calls.get? c = some (.waiting t deadline none)) (hh : ∀ m ∈ h, ¬ m.Answers c) :
    g'.calls.get? c = some (.waiting t deadline none) := by
  refine (r.call_stays hn fun m hm he => hh m hm ⟨he, fun hp => ?_⟩).trans hc
  obtain ⟨h₁, h₂, rfl, r₁, hs, r₂⟩ := r.split hm
  obtain ⟨call, hcall, hown⟩ := step_own_call (step_of_step? hs) he
  obtain ⟨⟨m', hm', hx⟩, -⟩ | ⟨-, call', hcall', -, hrem, hrank⟩ := r₁.call_goes_on hn hc
  · exact hh m' (List.mem_append_left _ hm') hx
  · cases hcall.symm.trans hcall'
    obtain ⟨-, hp'⟩ | ⟨next, -, -, -, hrem', hrank'⟩ := hown
    · exact hp' hp
    · -- It would have to be a removal by then.
      have hnone : next.removal = none := hrem'.trans hrem
      cases next with
      | found | unused => simp [Call.removal] at hnone
      | waiting =>
        simp only [Call.rank] at hrank hrank'
        omega

section Waiting

variable {h' : List Moment} (r : Run (initial config clock) h g)
  (hc : g.calls.get? c = some (.waiting t deadline none)) (ha : g.ticket? t = some a)
  (hcan : a.canceled = true) (r' : Run g h' g')
include r hc ha hcan r'

theorem waiting_ticket (hh : ∀ m ∈ h', ¬ m.Answers c) :
    ∃ b, g'.ticket? t = some b ∧ g'.calls.get? c = some (.waiting t deadline none) ∧
      b.terms = a.terms ∧ (b.drained = true ↔ ∀ o ∈ a.ongoing, o ∈ ended h') := by
  have hc' := r'.waiting_stays (r.numbered c _ hc) hc hh
  obtain ⟨b, hb, hterms⟩ := r'.terms_kept ha
  obtain ⟨b', hb', hsound⟩ := (r.trans r').callsSound c _ hc'
  cases hb.symm.trans hb'
  refine ⟨b, hb, hc', hterms, ?_⟩
  have hiff : b.drained = true ↔ b.ongoing = [] :=
    ⟨fun hd => ((r.trans r').settled hb hd).2, hsound.2⟩
  rw [hiff, List.eq_nil_iff_forall_not_mem]
  refine forall_congr' fun o => ?_
  rw [r.mem_ongoing_iff ha hcan r' hb]
  by_cases ho : o ∈ a.ongoing <;> simp [ho]

theorem lastEnds_of_waiting (hne : a.ongoing ≠ []) (hh : ∀ m ∈ h', ¬ m.Answers c)
    (hall : ∀ o ∈ a.ongoing, o ∈ ended h') : LastEnds a.ongoing h' g'.clock where
  all := hall
  last := by
    obtain ⟨b, hb, -, -, hiff⟩ := r.waiting_ticket hc ha hcan r' hh
    have ho := ((r.trans r').settled hb (hiff.mpr hall)).2
    obtain ⟨h₁, m, h₂, b', rfl, ⟨o, hoa, he⟩, r₁, r₂, hb', hcb, hob⟩ :=
      r'.exists_last ha hcan hne hb ho
    refine ⟨m, by simp, o, hoa, he, ?_⟩
    have hh₁ : ∀ m' ∈ h₁ ++ [m], ¬ m'.Answers c := fun m' hm' => hh m' (by
      simp only [List.mem_append, List.mem_cons, List.not_mem_nil, or_false] at hm' ⊢
      exact hm'.elim .inl fun h => .inr (.inl h))
    have hc₁ := r₁.waiting_stays (r.numbered c _ hc) hc hh₁
    have hlast : g'.clock = m.after.clock :=
      (r.trans r₁).clock_eq_of_drained hc₁ hb' hcb hob r₂ fun m' hm' => hh m' (by simp [hm'])
    obtain ⟨result, hm⟩ := Moment.ended?_eq_some_iff.mp he
    obtain ⟨-, hs, -⟩ := parts r₁
    rw [hlast]
    exact (step_clock_eq (step_of_step? hs) (by simp [hm])).symm
  le m hm o _ _ := (r'.clock_le_of_mem hm).2

theorem returns_of_lastEnds (hne : a.ongoing ≠ []) (hl : LastEnds a.ongoing h' time)
    (ht : time < deadline) :
    Returns c (.flag true) time h' g' where
  once := r'.answered_once (r.numbered c _ hc) hc
  answer m hm hx := by
    obtain ⟨h₁, h₂, rfl, r₁, hs, r₂, hh, -⟩ := r'.split_own (r.numbered c _ hc) hc hm hx.1
    obtain ⟨b, hb, hc', -, hiff⟩ := r.waiting_ticket hc ha hcan r₁ hh
    obtain ⟨hd, hr⟩ | ⟨hd, hlate, -⟩ := step_own_waiting (step_of_step? hs) hx.1 hc' hb
    · refine ⟨hr rfl, ?_⟩
      have hl₁ := r.lastEnds_of_waiting hc ha hcan r₁ hne hh (hiff.mp hd)
      exact hl₁.eq_of_append hl (r.ended_nodup_later r')
    · -- Whatever has ended had ended before the deadline, and so before this moment.
      refine absurd (hiff.mpr fun o ho => ?_) (Bool.eq_false_iff.mp hd)
      obtain ⟨m', hm', he⟩ := List.mem_filterMap.mp (hl.all o ho)
      obtain hm' | hm' := List.mem_append.mp hm'
      · exact List.mem_filterMap.mpr ⟨m', hm', he⟩
      · have hle := (((refl (g := m.before)).step hs).trans r₂).clock_le_of_mem hm'
        have hle' := hl.le m' (List.mem_append_right _ hm') o ho he
        omega
  due hh := by
    obtain ⟨b, hb, hc', -, hiff⟩ := r.waiting_ticket hc ha hcan r' hh
    have hl' := r.lastEnds_of_waiting hc ha hcan r' hne hh hl.all
    have hd := hiff.mpr hl.all
    have hnodup := r.ended_nodup_later r'
    rw [← List.append_nil h'] at hl hnodup
    have htime : g'.clock = time := hl'.eq_of_append hl hnodup
    obtain ⟨out, hs, hr⟩ := step_wake_cancel hc' hb hd
    exact ⟨Nat.le_of_eq htime, fun _ => ⟨⟨.wake c, out, rfl, hs, hr⟩, fun ms _ =>
      pass_eq_none_of_canGoOn hc' hb hd ms⟩⟩

theorem returns_of_late {o : OperationId} (ho : o ∈ a.ongoing)
    (hlate : ∀ m ∈ h', m.ended? = some o → deadline < m.before.clock) :
    Returns c (.fault (.cancelTimeout a.terms.transferId)) deadline h' g' where
  once := r'.answered_once (r.numbered c _ hc) hc
  answer m hm hx := by
    obtain ⟨h₁, h₂, rfl, r₁, hs, r₂, hh, -⟩ := r'.split_own (r.numbered c _ hc) hc hm hx.1
    obtain ⟨b, hb, hc', hterms, hiff⟩ := r.waiting_ticket hc ha hcan r₁ hh
    have hle := (r.trans r₁).inTime c t deadline none hc'
    obtain ⟨hd, -⟩ | ⟨-, hge, hr⟩ := step_own_waiting (step_of_step? hs) hx.1 hc' hb
    -- it cannot wake: the late operation would have ended before, and the clock does not run back
    · obtain ⟨m', hm', he⟩ := List.mem_filterMap.mp (hiff.mp hd o ho)
      have hm'' := hlate m' (List.mem_append_left _ hm') he
      have hle' := (r₁.clock_le_of_mem hm').2
      omega
    · exact ⟨hterms ▸ hr, Nat.le_antisymm hle hge⟩
  due hh := by
    obtain ⟨b, hb, hc', hterms, hiff⟩ := r.waiting_ticket hc ha hcan r' hh
    refine ⟨(r.trans r').inTime c t deadline none hc', fun htime => ⟨?_, fun ms hms => ?_⟩⟩
    · have hd : b.drained = false := by
        rw [Bool.eq_false_iff]
        intro hd
        obtain ⟨m, hm, he⟩ := List.mem_filterMap.mp (hiff.mp hd o ho)
        have hlt := hlate m hm he
        have hle := (r'.clock_le_of_mem hm).2
        omega
      obtain ⟨out, hs, hr⟩ := step_expire_waiting hc' hb hd (Nat.le_of_eq htime.symm)
      exact ⟨.expire c, out, rfl, hs, hterms ▸ hr⟩
    · exact pass_eq_none_of_deadline hc' (by omega)

/-- Whoever is told that a ticket is unused is told so when nothing runs on it, and nothing ever
will. -/
theorem ongoing_of_flag {m : Moment} (hm : m ∈ h') (hx : m.Answers c)
    (hr : m.outcome.reply = .flag true) : ∃ b, g'.ticket? t = some b ∧ b.ongoing = [] := by
  obtain ⟨h₁, h₂, rfl, r₁, hs, r₂, hh, -⟩ := r'.split_own (r.numbered c _ hc) hc hm hx.1
  obtain ⟨b, hb, hc', -⟩ := r.waiting_ticket hc ha hcan r₁ hh
  obtain ⟨hd, -⟩ | ⟨-, -, hr'⟩ := step_own_waiting (step_of_step? hs) hx.1 hc' hb
  · obtain ⟨hcb, hob⟩ := (r.trans r₁).settled hb hd
    obtain ⟨b', hb', -, -, hob'⟩ := ((one hs).trans r₂).drained_stays hb hcb hob
    exact ⟨b', hb', hob'⟩
  · simp [hr] at hr'

end Waiting

/-- A cancellation succeeds at once if nothing runs on its ticket; else, if it has no time to wait, it
is told so at once. If it has, it succeeds at the moment at which the last of the operations ends
that ran on the ticket, if that comes before its deadline, and fails at the deadline if one of them
runs longer. The ticket is canceled from the first, and once a cancellation has succeeded nothing
runs on it any more. -/
theorem cancel_outcome (r : Run (initial config clock) h g) (ha : g.ticket? t = some a)
    (timeout : Nat) :
    ∃ out, g.step? (.cancel t timeout) = some out ∧
      (a.ongoing = [] → out.reply = .flag true) ∧
      (a.ongoing ≠ [] → timeout = 0 → out.reply = .flag false) ∧
      (a.ongoing ≠ [] → timeout ≠ 0 → out.reply = .pending g.nextCall) ∧
      (timeout / 1000 < timerLimit → g.deadline timeout = g.clock + timeout) ∧
      ∀ h' g', Run out.gate h' g' → ∃ b, g'.ticket? t = some b ∧ b.canceled = true ∧
        (out.reply = .flag true → b.ongoing = []) ∧
        (a.ongoing ≠ [] → timeout ≠ 0 →
          (∀ time, LastEnds a.ongoing h' time → time < g.deadline timeout →
            Returns g.nextCall (.flag true) time h' g') ∧
          (∀ o ∈ a.ongoing,
            (∀ m ∈ h', m.ended? = some o → g.deadline timeout < m.before.clock) →
            Returns g.nextCall (.fault (.cancelTimeout a.terms.transferId)) (g.deadline timeout) h'
              g') ∧
          ∀ m ∈ h', m.Answers g.nextCall → m.outcome.reply = .flag true → b.ongoing = []) := by
  have hs : g.step? (.cancel t timeout) = some (g.cancel t a timeout) := by simp [step?, ha]
  have ha' : (g.cancel t a timeout).gate.ticket? t = some a.cancel := by
    simpa [change?, Ticket.after] using step_ticket (step_of_step? hs) ha
  obtain ⟨hidle, hbusy, hwaits⟩ := step_cancel_reply (step_of_step? hs) ha
  refine ⟨_, hs, hidle.mpr, hbusy, fun hne hnz => (hwaits hne hnz).1, deadline_eq,
    fun h' g' r' => ?_⟩
  obtain ⟨b, hb, hcb, hsub, -⟩ := r'.canceled_shrinks ha' rfl
  refine ⟨b, hb, hcb, fun hr => List.sublist_nil.mp (hidle.mp hr ▸ hsub), fun hne hnz => ?_⟩
  have r₁ := r.step hs
  have hc := (hwaits hne hnz).2
  have hlate := fun o => r₁.returns_of_late hc ha' rfl r' (o := o)
  refine ⟨fun time hl ht => r₁.returns_of_lastEnds hc ha' rfl r' hne hl ht, hlate, ?_⟩
  intro m hm hx hr
  obtain ⟨b', hb', hob⟩ := r₁.ongoing_of_flag hc ha' rfl r' hm hx hr
  cases hb'.symm.trans hb
  exact hob

theorem cancel_outcome_of_two :
    ∃ h g a out h' g', Run (initial ⟨60, 60⟩ 0) h g ∧ g.ticket? 0 = some a ∧ g.clock = 0 ∧
      g.step? (.cancel 0 1000) = some out ∧ Run out.gate h' g' ∧ LastEnds a.ongoing h' 500 ∧
      Returns 0 (.flag true) 500 h' g' ∧
      h'.map Moment.event = [.cancel 0 300, .pass 300, .expire 1, .finish 0 (.ok ()), .pass 200,
        .finish 1 (.ok ()), .wake 0] := by
  obtain ⟨h₁, m, h₂, g', r, -, hm, he, hf⟩ := of_play_at (initial ⟨60, 60⟩ 0)
    [.issue sampleRecord, .start 0 0 0, .start 0 0 0] (.cancel 0 1000)
    [.cancel 0 300, .pass 300, .expire 1, .finish 0 (.ok ()), .pass 200, .finish 1 (.ok ()), .wake 0]
    (fun m h₂ _ => (m.before.ticket? 0).any (fun a =>
        a.ongoing == [0, 1] && decide (LastEnds a.ongoing h₂ 500)) && m.before.clock == 0 &&
      m.before.nextCall == 0) (by decide +kernel)
  simp only [Bool.and_eq_true, Option.any_eq_true, beq_iff_eq, decide_eq_true_eq] at hf
  obtain ⟨⟨⟨a, ha, ho, hl⟩, hclock⟩, hnext⟩ := hf
  obtain ⟨r₁, hs, r₂⟩ := r.parts
  obtain ⟨out, hs', -, -, -, hdeadline, hafter⟩ := r₁.cancel_outcome ha 1000
  rw [hm] at hs
  cases hs.symm.trans hs'
  obtain ⟨b, -, -, -, hwait⟩ := hafter h₂ g' r₂
  have hreturns := (hwait (by simp [ho]) (by decide)).1 500 hl
    (by rw [hdeadline (by decide), hclock]; decide)
  exact ⟨h₁, m.before, a, _, h₂, g', r₁, ha, hclock, hs', r₂, hl, hnext ▸ hreturns, he⟩

end Run

end TicketGate.Gate
