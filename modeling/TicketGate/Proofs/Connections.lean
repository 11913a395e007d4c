import TicketGate.Proofs.Registration

namespace TicketGate.Gate

def connected? (g : Gate) (t : TicketId) (c : ConnectionId) : Option ContextId :=
  (g.ticket? t).bind (·.connections.get? c)

/-- The context that the ticket of number `t` accepts for a connection. -/
def Moment.accepted? (t : TicketId) (c : ConnectionId) (m : Moment) : Option ContextId :=
  match m.event, m.outcome.reply with
  | .addContext t' c' _, .context x => if t' = t ∧ c' = c then some x else none
  | _, _ => none

/-- The context that is taken out of the table of the ticket of number `t`, for a connection. -/
def Moment.takenOut? (t : TicketId) (c : ConnectionId) (m : Moment) : Option ContextId :=
  match m.event with
  | .removeContext t' c' => if t' = t ∧ c' = c then m.before.connected? t c else none
  | _ => none

/-- The context of number `x` is the one that the ticket of number `t` has accepted last for a
connection, and none was taken out since. -/
def LastAccepted (t : TicketId) (c : ConnectionId) (x : ContextId) : List Moment → Prop :=
  Since (fun m => m.accepted? t c = some x)
    fun m => m.accepted? t c = none ∧ m.event ≠ .removeContext t c

/-- Each context that a connection has is there, and no other connection has it. -/
structure Connected (g : Gate) : Prop where
  lt : ∀ t c x, g.connected? t c = some x → x < g.contexts.length
  unique : ∀ t c t' c' x, g.connected? t c = some x → g.connected? t' c' = some x →
    t = t' ∧ c = c'

variable {g g' : Gate} {t t' : TicketId} {a : Ticket} {c d : ConnectionId} {x : ContextId}
  {m : Moment} {e : Event} {r : Reply} {h : List Moment} {config : Config} {clock : Nat}

theorem connected?_eq_some_iff :
    g.connected? t c = some x ↔ ∃ a, g.ticket? t = some a ∧ a.connections.get? c = some x :=
  Option.bind_eq_some_iff

theorem connected?_congr (ht : g'.ticket? t = g.ticket? t) :
    g'.connected? t c = g.connected? t c := congrArg (·.bind (·.connections.get? c)) ht

theorem connected?_onTicket (g : Gate) (t' : TicketId) {f : Ticket → Ticket}
    (hf : ∀ a, (f a).connections = a.connections) :
    (g.onTicket t' f).connected? t c = g.connected? t c := by
  rw [connected?, ticket?_onTicket]
  split
  · rw [Option.bind_map]
    exact congrArg _ (funext fun a => congrArg (·.get? c) (hf a))
  · rfl

theorem connected?_connect (ha : g.ticket? t' = some a) :
    (g.onTicket t' (·.connect d x)).connected? t c =
      if t' = t ∧ d = c then some x else g.connected? t c := by
  rw [connected?, ticket?_onTicket]
  by_cases ht : t' = t
  · subst ht
    simp [connected?, ha, Ticket.connect, Table.get?_insert, eq_comm]
  · simp [ht, connected?]

theorem connected?_disconnect (ha : g.ticket? t' = some a) :
    (g.onTicket t' (·.disconnect d)).connected? t c =
      if t' = t ∧ d = c then none else g.connected? t c := by
  rw [connected?, ticket?_onTicket]
  by_cases ht : t' = t
  · subst ht
    simp [connected?, ha, Ticket.disconnect, Table.get?_erase, eq_comm]
  · simp [ht, connected?]

theorem connected?_append (g : Gate) (s : Table String TicketId) (grant : Grant) :
    ({ g with tickets := g.tickets ++ [Ticket.ofGrant g.config g.seconds grant], store := s } :
      Gate).connected? t c = g.connected? t c := by
  simp only [connected?, ticket?, List.getElem?_append, List.getElem?_singleton]
  split
  · rfl
  · next ht =>
    rw [List.getElem?_eq_none (Nat.le_of_not_lt ht)]
    split <;> rfl

theorem Moment.accepted?_eq_some_iff :
    m.accepted? t c = some x ↔
      (∃ failure, m.event = .addContext t c failure) ∧ m.outcome.reply = .context x := by
  unfold Moment.accepted?
  split
  · next t' c' failure y he hr =>
    rw [he, hr]
    simp only [Option.ite_none_right_eq_some, Option.some.injEq, Event.addContext.injEq,
      Reply.context.injEq]
    exact ⟨fun ⟨⟨ht, hc⟩, hy⟩ => ⟨⟨failure, ht, hc, rfl⟩, hy⟩,
      fun ⟨⟨_, ht, hc, _⟩, hy⟩ => ⟨⟨ht, hc⟩, hy⟩⟩
  · next hn =>
    simp only [reduceCtorEq, false_iff, not_and, forall_exists_index]
    exact fun failure he hr => hn t c failure x he hr

theorem Moment.takenOut?_eq_some_iff :
    m.takenOut? t c = some x ↔
      m.event = .removeContext t c ∧ m.before.connected? t c = some x := by
  unfold Moment.takenOut?
  split
  · next t' c' he => simp [he]
  · next hn => simpa using fun he => absurd he (hn t c)

theorem step_accepted (hs : Step m.before m.event m.outcome.reply m.after)
    (hm : m.accepted? t c = some x) :
    x = m.before.contexts.length ∧ m.after.contexts.length = m.before.contexts.length + 1 ∧
      ∃ a, m.before.ticket? t = some a ∧ a.canceled = false := by
  obtain ⟨⟨failure, he⟩, hr⟩ := Moment.accepted?_eq_some_iff.mp hm
  rw [he, hr] at hs
  generalize hg : m.after = g' at hs ⊢
  cases hs with
  | keep he => exact he.elim
  | connect c failure ha hc => exact ⟨rfl, by simp [onTicket], _, ha, hc⟩

theorem connected_iff_of_kept (ha : m.accepted? t c = none) (he : m.event ≠ .removeContext t c)
    (hk : m.after.connected? t c = m.before.connected? t c) :
    m.after.connected? t c = some x ↔ m.accepted? t c = some x ∨
      (m.accepted? t c = none ∧ m.event ≠ .removeContext t c ∧
        m.before.connected? t c = some x) := by
  simp [ha, he, hk]

theorem step_connected (hs : Step m.before m.event m.outcome.reply m.after) :
    m.after.connected? t c = some x ↔ m.accepted? t c = some x ∨
      (m.accepted? t c = none ∧ m.event ≠ .removeContext t c ∧
        m.before.connected? t c = some x) := by
  obtain ⟨g, e, g', r, notes⟩ := m
  dsimp only [Moment.after] at hs
  cases hs with
  | keep he =>
    cases e <;> first | exact he.elim | exact connected_iff_of_kept rfl (by simp) rfl
  | add record grant | issue record grant =>
    exact connected_iff_of_kept rfl (by simp) (connected?_append ..)
  | touch | extend | enter | leave =>
    exact connected_iff_of_kept rfl (by simp) (connected?_onTicket _ _ fun _ => rfl)
  | @connect t' a d failure ha hc =>
    have hk := connected?_connect (t := t) (c := c) (d := d) (x := g.contexts.length)
      (g := { g with contexts := g.contexts ++ [⟨failure, 0⟩] }) ha
    by_cases hx : t' = t ∧ d = c
    · obtain ⟨rfl, rfl⟩ := hx
      simp [Moment.accepted?, Moment.after, hk]
    · have hn (g' : Gate) : Moment.accepted? t c
          ⟨g, .addContext t' d failure, g', .context g.contexts.length, notes⟩ = none := if_neg hx
      exact connected_iff_of_kept (hn _) (by simp) (hk.trans (if_neg hx))
  | @disconnect t' a d y ha hy =>
    have hk := connected?_disconnect (t := t) (c := c) (d := d) ha
    by_cases hx : t' = t ∧ d = c
    · obtain ⟨rfl, rfl⟩ := hx
      rw [if_pos ⟨rfl, rfl⟩] at hk
      refine iff_of_false (fun h => ?_) (by simp [Moment.accepted?])
      cases hk.symm.trans h
    · have hne : Event.removeContext t' d ≠ .removeContext t c := by simpa using hx
      exact connected_iff_of_kept rfl hne (hk.trans (if_neg hx))
  | @noContext t' a d ha hy =>
    by_cases hx : t' = t ∧ d = c
    · obtain ⟨rfl, rfl⟩ := hx
      simp [Moment.accepted?, Moment.after, connected?, ha, hy]
    · have hne : Event.removeContext t' d ≠ .removeContext t c := by simpa using hx
      exact connected_iff_of_kept rfl hne rfl
  | cancelIdle | cancelBusy | cancelWaits | pursueIdle | pursueBusy | pursueWaits =>
    exact connected_iff_of_kept rfl (by simp) ((connected?_congr (ticket?_stop ..)).trans
      (connected?_onTicket _ _ fun _ => rfl))
  | delete => exact connected_iff_of_kept rfl (by simp) (connected?_congr (ticket?_unregister ..))
  | _ => exact connected_iff_of_kept rfl (by simp) rfl

theorem Connected.ne_new (hg : g.Connected) (t : TicketId) (c : ConnectionId) :
    g.connected? t c ≠ some g.contexts.length :=
  fun hc => Nat.lt_irrefl _ (hg.lt t c _ hc)

theorem length_closeAll (g : Gate) (a : Ticket) :
    (g.closeAll a).contexts.length = g.contexts.length := by
  simp only [closeAll]
  generalize g.contexts = xs
  induction a.connections.entries generalizing xs with
  | nil => rfl
  | cons e es ih => exact (ih _).trans (List.length_modify ..)

theorem length_contexts_stop (g : Gate) (t : TicketId) (a : Ticket) :
    (g.stop t a).contexts.length = g.contexts.length := by
  unfold stop
  split
  · rfl
  · exact length_closeAll (g.onTicket t Ticket.cancel) a

theorem step_contexts_length (hs : Step g e r g') : g.contexts.length ≤ g'.contexts.length := by
  cases hs with
  | refuse | connect =>
    simp [onTicket]
  | disconnect => exact Nat.le_of_eq (List.length_modify ..).symm
  | cancelIdle | cancelBusy | cancelWaits | pursueIdle | pursueBusy | pursueWaits =>
    exact Nat.le_of_eq (length_contexts_stop ..).symm
  | wakeCancel | wakeRemoval => exact Nat.le_of_eq (length_closeAll ..).symm
  | delete =>
    unfold unregister
    split <;> exact Nat.le_refl _
  | _ => exact Nat.le_refl _

theorem step_keeps_connected (hs : Step m.before m.event m.outcome.reply m.after)
    (hg : m.before.Connected) : m.after.Connected where
  lt t c x hx := by
    obtain hm | ⟨-, -, hx⟩ := (step_connected hs).mp hx
    · obtain ⟨rfl, hlen, -⟩ := step_accepted hs hm
      exact hlen ▸ Nat.lt_succ_self _
    · exact Nat.lt_of_lt_of_le (hg.lt t c x hx) (step_contexts_length hs)
  unique t c t' c' x hx hx' := by
    obtain hm | ⟨-, -, hx⟩ := (step_connected hs).mp hx
    · obtain hm' | ⟨-, -, hx'⟩ := (step_connected hs).mp hx'
      · obtain ⟨⟨failure, he⟩, -⟩ := Moment.accepted?_eq_some_iff.mp hm
        obtain ⟨⟨failure', he'⟩, -⟩ := Moment.accepted?_eq_some_iff.mp hm'
        cases he.symm.trans he'
        exact ⟨rfl, rfl⟩
      · exact absurd (step_accepted hs hm).1 (Nat.ne_of_lt (hg.lt t' c' x hx'))
    · obtain hm' | ⟨-, -, hx'⟩ := (step_connected hs).mp hx'
      · exact absurd (step_accepted hs hm').1 (Nat.ne_of_lt (hg.lt t c x hx))
      · exact hg.unique t c t' c' x hx hx'

namespace Run

theorem contexts_length_le (r : Run g h g') : g.contexts.length ≤ g'.contexts.length := by
  induction r with
  | refl => exact Nat.le_refl _
  | step _ hs ih => exact Nat.le_trans ih (step_contexts_length (step_of_step? hs))

theorem connected (r : Run (initial config clock) h g) : g.Connected := by
  refine r.invariant ⟨?_, ?_⟩ fun g e out hg hs =>
    step_keeps_connected (m := ⟨g, e, out⟩) (step_of_step? hs) hg
  · intro t c x hx
    simp [connected?, ticket?, initial] at hx
  · intro t c t' c' x hx
    simp [connected?, ticket?, initial] at hx

/-- A connection has the context that was accepted last for it and that was not taken out since. -/
theorem connected_iff (r : Run (initial config clock) h g) :
    g.connected? t c = some x ↔ LastAccepted t c x h := by
  induction r with
  | refl => exact iff_of_false (by simp [connected?, ticket?, initial]) not_since_nil
  | @step h g e out r hs ih =>
    rw [LastAccepted, since_concat, and_assoc]
    have hstep := step_connected (m := ⟨g, e, out⟩) (t := t) (c := c) (x := x) (step_of_step? hs)
    rw [ih] at hstep
    exact hstep

theorem connected_ne (r : Run g h g') (hx : x < g.contexts.length)
    (hn : g.connected? t c ≠ some x) : g'.connected? t c ≠ some x := by
  induction r with
  | refl => exact hn
  | @step h g' e out r hs ih =>
    intro hc
    have hs := step_of_step? hs
    obtain hm | ⟨-, -, hc⟩ := (step_connected (m := ⟨g', e, out⟩) hs).mp hc
    · have hlen : x = g'.contexts.length := (step_accepted (m := ⟨g', e, out⟩) hs hm).1
      exact absurd hlen (Nat.ne_of_lt (Nat.lt_of_lt_of_le hx r.contexts_length_le))
    · exact ih hc

theorem before_connected_ne (r : Run g h g') (hx : x < g.contexts.length)
    (hn : g.connected? t c ≠ some x) : ∀ m ∈ h, m.before.connected? t c ≠ some x := by
  intro m hm
  obtain ⟨h₁, h₂, -, r₁, -⟩ := r.split hm
  exact r₁.connected_ne hx hn

end Run

end TicketGate.Gate
