import TicketGate.Proofs.Drain

namespace TicketGate.Gate

/-- No call has waited for longer than it may. -/
def InTime (g : Gate) : Prop :=
  ∀ c t deadline removal, g.calls.get? c = some (.waiting t deadline removal) → g.clock ≤ deadline

variable {g g' : Gate} {t : TicketId} {a : Ticket} {c : CallId} {call : Call} {e : Event}
  {r : Reply} {out : Outcome}

theorem clock_stop (g : Gate) (t : TicketId) (a : Ticket) : (g.stop t a).clock = g.clock := by
  unfold stop
  split <;> rfl

theorem config_stop (g : Gate) (t : TicketId) (a : Ticket) : (g.stop t a).config = g.config := by
  unfold stop
  split <;> rfl

theorem clock_unregister (g : Gate) (id : String) (t : TicketId) :
    (g.unregister id t).clock = g.clock := by
  unfold unregister
  split <;> rfl

theorem config_unregister (g : Gate) (id : String) (t : TicketId) :
    (g.unregister id t).config = g.config := by
  unfold unregister
  split <;> rfl

theorem step_config (hs : Step g e r g') : g'.config = g.config := by
  cases hs with
  | cancelIdle | cancelBusy | cancelWaits | pursueIdle | pursueBusy | pursueWaits =>
    exact config_stop ..
  | delete => exact config_unregister ..
  | _ => rfl

theorem step_clock (hs : Step g e r g') :
    g'.clock = g.clock ∨ ∃ ms, e = .pass ms ∧ g'.clock = g.clock + ms := by
  cases hs with
  | pass => exact .inr ⟨_, rfl, rfl⟩
  | cancelIdle | cancelBusy | cancelWaits | pursueIdle | pursueBusy | pursueWaits =>
    exact .inl (clock_stop ..)
  | delete => exact .inl (clock_unregister ..)
  | _ => exact .inl rfl

theorem step_clock_le (hs : Step g e r g') : g.clock ≤ g'.clock := by
  obtain h | ⟨ms, -, h⟩ := step_clock hs <;> omega

theorem step_clock_eq (hs : Step g e r g') (he : ∀ ms, e ≠ .pass ms) : g'.clock = g.clock := by
  obtain h | ⟨ms, h, -⟩ := step_clock hs
  · exact h
  · exact absurd h (he ms)

theorem pass_eq_none_of_deadline {deadline : Nat} {removal : Option String} {ms : Nat}
    (hc : g.calls.get? c = some (.waiting t deadline removal)) (hms : deadline < g.clock + ms) :
    g.step? (.pass ms) = none := by
  rw [Option.eq_none_iff_forall_ne_some]
  intro out hs
  have hpause := allowsPause_of_pass hs hc
  simp only [allowsPause, Bool.and_eq_true, decide_eq_true_eq] at hpause
  omega

theorem clock_le_deadline (g : Gate) (timeout : Nat) : g.clock ≤ g.deadline timeout :=
  Nat.le_add_right ..

theorem deadline_eq {timeout : Nat} (h : timeout / 1000 < timerLimit) :
    g.deadline timeout = g.clock + timeout := by
  rw [deadline, if_pos h]

theorem step_inTime (hs : g.step? e = some out) (hg : g.InTime) : out.gate.InTime := by
  intro c t deadline removal hc
  obtain ⟨hc, -⟩ | hx := step_call (step_of_step? hs) hc
  · obtain h | ⟨ms, rfl, h⟩ := step_clock (step_of_step? hs)
    · exact h ▸ hg c t deadline removal hc
    · have hpause := allowsPause_of_pass hs hc
      simp only [allowsPause, Bool.and_eq_true, decide_eq_true_eq] at hpause
      exact h ▸ hpause.1
  · have hclock : out.gate.clock = g.clock := by
      apply step_clock_eq (step_of_step? hs)
      rintro ms rfl
      cases hx
    rw [hclock]
    cases hx with
    | busy | pursuedBusy => exact clock_le_deadline ..

namespace Run

variable {config : Config} {clock : Nat} {h h' : List Moment} {m : Moment}

theorem config_eq (r : Run g h g') : g'.config = g.config := by
  induction r with
  | refl => rfl
  | step _ hs ih => exact (step_config (step_of_step? hs)).trans ih

theorem clock_le (r : Run g h g') : g.clock ≤ g'.clock := by
  induction r with
  | refl => exact Nat.le_refl _
  | step _ hs ih => exact Nat.le_trans ih (step_clock_le (step_of_step? hs))

theorem clock_le_of_mem (r : Run g h g') (hm : m ∈ h) :
    g.clock ≤ m.before.clock ∧ m.before.clock ≤ g'.clock := by
  obtain ⟨h₁, h₂, -, r₁, hs, r₂⟩ := r.split hm
  exact ⟨r₁.clock_le, ((one hs).trans r₂).clock_le⟩

theorem inTime (r : Run (initial config clock) h g) : g.InTime :=
  r.invariant (fun _ _ _ _ hc => by simp [initial, Table.get?_empty] at hc)
    fun _ _ _ hg hs => step_inTime hs hg

theorem clock_eq_of_canGoOn (r : Run g h g')
    (hh : ∀ m ∈ h, ∃ c call a, m.before.calls.get? c = some call ∧
      m.before.ticket? call.ticket = some a ∧ call.CanGoOn a) : g'.clock = g.clock := by
  induction r with
  | refl => rfl
  | @step h g' e out r hs ih =>
    have hlast : out.gate.clock = g'.clock := by
      apply step_clock_eq (step_of_step? hs)
      rintro ms rfl
      obtain ⟨c, call, a, hc, ha, hgo⟩ := hh _ (List.mem_append_right _ (List.mem_singleton_self _))
      simp [pass_eq_none_of_canGoOn hc ha hgo ms] at hs
    exact hlast.trans (ih fun m hm => hh m (List.mem_append_left _ hm))

theorem clock_eq_of_drained (r : Run (initial config clock) h g) (hc : g.calls.get? c = some call)
    (ha : g.ticket? call.ticket = some a) (hcan : a.canceled = true) (ho : a.ongoing = [])
    (r' : Run g h' g') (hh : ∀ m ∈ h', ¬ m.Answers c) : g'.clock = g.clock := by
  apply r'.clock_eq_of_canGoOn
  intro m hm
  obtain ⟨h₁, h₂, rfl, r₁, -, -⟩ := r'.split hm
  have hn := r.numbered c call hc
  obtain ⟨⟨m', hm', hx⟩, -⟩ | ⟨-, call', hc', ht, -⟩ := r₁.call_goes_on hn hc
  · exact absurd hx (hh m' (List.mem_append_left _ hm'))
  · obtain ⟨b, hb, -, -, hob⟩ := r₁.drained_stays ha hcan ho
    obtain ⟨b', hb', hsound⟩ := (r.trans r₁).callsSound c call' hc'
    cases hb.symm.trans (ht ▸ hb')
    exact ⟨c, call', b, hc', hb', hsound.canGoOn hob⟩

end Run

end TicketGate.Gate
