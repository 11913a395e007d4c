import TicketGate.Proofs.Closing

namespace TicketGate.Gate

/-- Another context is accepted in the place of the one of number `x`, which nobody takes out. -/
def Moment.Displaces (t : TicketId) (c : ConnectionId) (x : ContextId) (m : Moment) : Prop :=
  (m.accepted? t c).isSome = true ∧ m.before.connected? t c = some x

instance (t : TicketId) (c : ConnectionId) (x : ContextId) (m : Moment) :
    Decidable (m.Displaces t c x) := inferInstanceAs (Decidable (_ ∧ _))

variable {g g' : Gate} {t : TicketId} {c : ConnectionId} {x : ContextId} {m : Moment}
  {h h₁ h₂ : List Moment} {config : Config} {clock : Nat}

theorem succeeded?_of_accepted (hm : m.accepted? t c = some x) : m.succeeded? = none := by
  obtain ⟨⟨failure, he⟩, -⟩ := Moment.accepted?_eq_some_iff.mp hm
  simp [Moment.succeeded?, he]

theorem takenOut?_of_accepted (hm : m.accepted? t c = some x) : m.takenOut? t c = none := by
  obtain ⟨⟨failure, he⟩, -⟩ := Moment.accepted?_eq_some_iff.mp hm
  simp [Moment.takenOut?, he]

namespace Run

theorem canceled_of_succeeded (r : Run (initial config clock) h m.before)
    (hs : Step m.before m.event m.outcome.reply m.after) (hm : m.succeeded? = some t) :
    ∃ b, m.after.ticket? t = some b ∧ b.canceled = true := by
  obtain ⟨-, hb⟩ | ⟨-, -, b, -, -, -, hb, hd, hb'⟩ := step_succeeded hs hm
  · exact hb
  · exact ⟨b, hb', (r.settled hb hd).1⟩

theorem succeeded?_ne (r : Run (initial config clock) h g) {a : Ticket} (ha : g.ticket? t = some a)
    (hc : a.canceled = false) : ∀ m ∈ h, m.succeeded? ≠ some t := by
  intro m hm hs
  obtain ⟨h₁, h₂, -, r₁, hstep, r₂⟩ := r.split hm
  obtain ⟨b, hb, hcan⟩ := r₁.canceled_of_succeeded (step_of_step? hstep) hs
  obtain ⟨b', hb', hcan'⟩ := r₂.keeps (P := fun b => b.canceled = true) hb hcan
    fun _ x _ hcan => Ticket.canceled_after x hcan
  cases hb'.symm.trans ha
  simp [hc] at hcan'

theorem connected_stays (r : Run g h g') (hx : g.connected? t c = some x)
    (ht : ∀ m ∈ h, m.takenOut? t c ≠ some x) (hd : ∀ m ∈ h, ¬ m.Displaces t c x) :
    g'.connected? t c = some x := by
  induction r with
  | refl => exact hx
  | @step h g' e out r hs ih =>
    rw [List.forall_mem_append, List.forall_mem_singleton] at ht hd
    have hc := ih ht.1 hd.1
    refine (step_connected (m := ⟨g', e, out⟩) (step_of_step? hs)).mpr (.inr ⟨?_, ?_, hc⟩)
    · rw [← Option.not_isSome_iff_eq_none]
      exact fun hm => hd.2 ⟨hm, hc⟩
    · exact fun he => ht.2 (Moment.takenOut?_eq_some_iff.mpr ⟨he, hc⟩)

/-- Once displaced, a context is out of reach: it has not been closed before, and it is not after. -/
theorem not_closed_of_displaced (r : Run (initial config clock) (h₁ ++ m :: h₂) g)
    (hd : m.Displaces t c x) :
    (∀ m' ∈ h₁ ++ m :: h₂, m'.takenOut? t c ≠ some x) ∧
      ∀ m' ∈ h₁ ++ m :: h₂, ¬ m'.Sweeps t c x := by
  obtain ⟨hacc, hx⟩ := hd
  obtain ⟨y, hy⟩ := Option.isSome_iff_exists.mp hacc
  obtain ⟨r₁, hs, r₂⟩ := r.parts
  obtain ⟨rfl, hlen, a, ha, hcan⟩ := step_accepted (step_of_step? hs) hy
  have hlt : x < m.before.contexts.length := r₁.connected.lt t c x hx
  have hafter : m.after.connected? t c ≠ some x := by
    rw [Ne, step_connected (step_of_step? hs), hy]
    simpa using Nat.ne_of_gt hlt
  have hlater := r₂.before_connected_ne (hlen ▸ Nat.lt_succ_of_lt hlt) hafter
  rw [List.forall_mem_append, List.forall_mem_cons, List.forall_mem_append, List.forall_mem_cons]
  refine ⟨⟨fun m' hm' ht => r₁.connected_ne_of_takenOut hm' ht hx, ?_, fun m' hm' ht => ?_⟩,
    fun m' hm' hw => r₁.succeeded?_ne ha hcan m' hm' hw.1, ?_, fun m' hm' hw => ?_⟩
  · simp [takenOut?_of_accepted hy]
  · exact hlater m' hm' (Moment.takenOut?_eq_some_iff.mp ht).2
  · exact fun hw => by simpa [succeeded?_of_accepted hy] using hw.1
  · exact hlater m' hm' hw.2

theorem sweeps_of_kept (r : Run (initial config clock) (h₁ ++ m :: h₂) g)
    (hm : m.accepted? t c = some x) (ht : ∀ m' ∈ h₁ ++ m :: h₂, m'.takenOut? t c ≠ some x)
    (hd : ∀ m' ∈ h₁ ++ m :: h₂, ¬ m'.Displaces t c x)
    (hs : ∃ m' ∈ h₁ ++ m :: h₂, m'.succeeded? = some t) :
    ∃ m' ∈ h₁ ++ m :: h₂, m'.Sweeps t c x := by
  obtain ⟨r₁, hstep, r₂⟩ := r.parts
  obtain ⟨-, -, a, ha, hcan⟩ := step_accepted (step_of_step? hstep) hm
  have hx : m.after.connected? t c = some x := (step_connected (step_of_step? hstep)).mpr (.inl hm)
  obtain ⟨m', hm', hsucc⟩ := hs
  refine ⟨m', hm', hsucc, ?_⟩
  rw [List.mem_append, List.mem_cons] at hm'
  obtain hm' | rfl | hm' := hm'
  · exact absurd hsucc (r₁.succeeded?_ne ha hcan m' hm')
  · simp [succeeded?_of_accepted hm] at hsucc
  · obtain ⟨h₃, h₄, rfl, r₃, -⟩ := r₂.split hm'
    exact r₃.connected_stays hx (fun m'' hm'' => ht m'' (by simp [hm'']))
      fun m'' hm'' => hd m'' (by simp [hm''])

/-- Once a cancellation of a ticket has succeeded, a context that the ticket has accepted has been
closed, unless another one was accepted in its place before. -/
theorem closed_iff_not_displaced (r : Run (initial config clock) h g) (hm : m ∈ h)
    (hacc : m.accepted? t c = some x) (hs : ∃ m' ∈ h, m'.succeeded? = some t) :
    ∃ ctx, g.context? x = some ctx ∧ (0 < ctx.closes ↔ ∀ m' ∈ h, ¬ m'.Displaces t c x) := by
  obtain ⟨⟨failure, he⟩, hr⟩ := Moment.accepted?_eq_some_iff.mp hacc
  obtain ⟨h₁, h₂, rfl, -, hstep, -⟩ := r.split hm
  obtain ⟨rfl, -⟩ := step_accepted (step_of_step? hstep) hacc
  refine ⟨_, r.context?_of_given he, ?_⟩
  simp only [Nat.add_pos_iff_pos_or_pos, List.countP_pos_iff, decide_eq_true_eq]
  constructor
  -- a displaced context is out of reach of all that closes
  · intro hclosed m' hm' hd
    obtain ⟨h₃, h₄, heq⟩ := List.append_of_mem hm'
    rw [heq] at r hclosed
    obtain ⟨ht, hw⟩ := r.not_closed_of_displaced hd
    obtain ⟨m'', hm'', hx⟩ | ⟨m'', hm'', hx⟩ := hclosed
    · exact ht m'' hm'' hx
    · exact hw m'' hm'' hx
  · intro hd
    by_cases ht : ∃ m' ∈ h₁ ++ m :: h₂, m'.takenOut? t c = some m.before.contexts.length
    · exact .inl ht
    · exact .inr (r.sweeps_of_kept hacc (fun m' hm' hx => ht ⟨m', hm', hx⟩) hd hs)

theorem closed_of_successor :
    ∃ h g ctx, Run (initial ⟨60, 60⟩ 0) h g ∧ h.map Moment.event =
        [.issue sampleRecord, .addContext 0 1 none, .addContext 0 1 none, .cancel 0 0] ∧
      g.context? 1 = some ctx ∧ 0 < ctx.closes := by
  obtain ⟨h, g, r, he, hf⟩ := of_play_any (initial ⟨60, 60⟩ 0)
    [.issue sampleRecord, .addContext 0 1 none, .addContext 0 1 none, .cancel 0 0]
    (fun h _ => decide (∃ m ∈ h, m.accepted? 0 1 = some 1) &&
      decide (∃ m ∈ h, m.succeeded? = some 0) && decide (∀ m ∈ h, ¬ m.Displaces 0 1 1))
    (by decide +kernel)
  simp only [Bool.and_eq_true, decide_eq_true_eq] at hf
  obtain ⟨⟨⟨m, hm, hacc⟩, hs⟩, hd⟩ := hf
  obtain ⟨ctx, hctx, hiff⟩ := r.closed_iff_not_displaced hm hacc hs
  exact ⟨h, g, ctx, r, he, hctx, hiff.mpr hd⟩

theorem not_closed_of_predecessor :
    ∃ h g, Run (initial ⟨60, 60⟩ 0) h g ∧ h.map Moment.event =
        [.issue sampleRecord, .addContext 0 1 none, .addContext 0 1 none, .cancel 0 0] ∧
      (∃ m ∈ h, m.accepted? 0 1 = some 0) ∧ (∃ m ∈ h, m.succeeded? = some 0) ∧
      g.context? 0 = some ⟨none, 0⟩ := by
  obtain ⟨h, g, r, he, hf⟩ := of_play_any (initial ⟨60, 60⟩ 0)
    [.issue sampleRecord, .addContext 0 1 none, .addContext 0 1 none, .cancel 0 0]
    (fun h g => decide (∃ m ∈ h, m.accepted? 0 1 = some 0) &&
      decide (∃ m ∈ h, m.succeeded? = some 0) && decide (g.context? 0 = some ⟨none, 0⟩))
    (by decide +kernel)
  simp only [Bool.and_eq_true, decide_eq_true_eq] at hf
  exact ⟨h, g, r, he, hf.1.1, hf.1.2, hf.2⟩

end Run

end TicketGate.Gate
