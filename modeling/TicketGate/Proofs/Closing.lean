import Mathlib.Data.List.Nodup
import TicketGate.Proofs.Connections
import TicketGate.Proofs.Drain
import TicketGate.Proofs.Failures

namespace TicketGate.Gate

/-- The ticket of which a cancellation succeeds: whoever called for it is told so, or the removal that
it is part of has the ticket unused from now on. -/
def Moment.succeeded? (m : Moment) : Option TicketId :=
  match m.event, m.outcome.reply with
  | .cancel t _, .flag true => some t
  | .wake c, .flag true => (m.before.calls.get? c).map Call.ticket
  | .pursue c, _ | .wake c, _ =>
    match m.after.calls.get? c with
    | some (.unused t _) => some t
    | _ => none
  | _, _ => none

/-- A cancellation of the ticket of number `t` succeeds while a connection has the context of number
`x` there. -/
def Moment.Sweeps (t : TicketId) (c : ConnectionId) (x : ContextId) (m : Moment) : Prop :=
  m.succeeded? = some t ∧ m.before.connected? t c = some x

instance (t : TicketId) (c : ConnectionId) (x : ContextId) (m : Moment) :
    Decidable (m.Sweeps t c x) := inferInstanceAs (Decidable (_ ∧ _))

/-- How often an event closes a context that the ticket of number `t` has accepted for a connection. -/
def Moment.closings (t : TicketId) (c : ConnectionId) (x : ContextId) (m : Moment) : Nat :=
  (if m.takenOut? t c = some x then 1 else 0) + if m.Sweeps t c x then 1 else 0

variable {g g' : Gate} {t : TicketId} {a : Ticket} {c : ConnectionId} {x : ContextId} {ctx : Context}
  {m : Moment} {h : List Moment} {config : Config} {clock : Nat}

theorem context?_closeContext (g : Gate) (x y : ContextId) :
    (g.closeContext y).context? x =
      (g.context? x).map fun ctx => if y = x then ctx.close else ctx := by
  simp only [context?, closeContext, List.getElem?_modify]
  split <;> simp

theorem context?_closeAll (g : Gate) (a : Ticket) (x : ContextId) :
    (g.closeAll a).context? x = (g.context? x).map fun ctx =>
      { ctx with closes := ctx.closes + a.connections.entries.countP (·.2 == x) } := by
  simp only [context?, closeAll]
  generalize g.contexts = xs
  induction a.connections.entries generalizing xs with
  | nil => simp
  | cons e es ih =>
    rw [List.foldl_cons, ih, List.getElem?_modify, List.countP_cons]
    cases xs[x]? with
    | none => rfl
    | some ctx =>
      by_cases he : e.2 = x
      · simp [he, Context.close, Nat.add_assoc, Nat.add_comm 1]
      · simp [he]

theorem countP_connections {t' : TicketId} (ha : g.ticket? t' = some a)
    (hx : ∀ t' c', g.connected? t' c' = some x → t' = t ∧ c' = c) :
    a.connections.entries.countP (·.2 == x) =
      if t' = t ∧ g.connected? t c = some x then 1 else 0 := by
  have hmem (c' : ConnectionId) :
      (c', x) ∈ a.connections.entries ↔ g.connected? t' c' = some x := by
    rw [← Table.get?_eq_some_iff, connected?, ha]
    rfl
  -- a context is on one connection only, so to count it is to count that entry
  have hcount : a.connections.entries.countP (·.2 == x) = a.connections.entries.count (c, x) := by
    apply List.countP_congr
    intro e he
    simp only [beq_iff_eq, Prod.ext_iff]
    refine ⟨fun hex => ⟨?_, hex⟩, And.right⟩
    exact (hx t' e.1 ((hmem e.1).mp (hex ▸ he))).2
  have hnodup : a.connections.entries.Nodup := List.Nodup.of_map _ a.connections.nodup
  rw [hcount, hnodup.count]
  congr 1
  rw [hmem, eq_iff_iff]
  constructor
  · intro hc
    obtain ⟨rfl, -⟩ := hx _ _ hc
    exact ⟨rfl, hc⟩
  · rintro ⟨rfl, hc⟩
    exact hc

theorem context?_stop_busy (hb : a.isActive = true) :
    (g.stop t a).context? x = g.context? x := by
  rw [stop, if_pos hb]
  rfl

theorem context?_stop_idle (hb : a.isActive = false) :
    (g.stop t a).context? x = (g.closeAll a).context? x := by
  rw [stop, if_neg (Bool.eq_false_iff.mp hb)]
  rfl

theorem step_succeeded (hs : Step m.before m.event m.outcome.reply m.after)
    (hm : m.succeeded? = some t) :
    (m.Cancels t ∧ ∃ a, m.after.ticket? t = some a ∧ a.canceled = true) ∨
      ∃ c call a, m.event = .wake c ∧ m.before.calls.get? c = some call ∧ call.ticket = t ∧
        m.before.ticket? t = some a ∧ a.drained = true ∧ m.after.ticket? t = some a := by
  obtain ⟨g, e, g', reply, notes⟩ := m
  dsimp only [Moment.after] at hs ⊢
  cases hs with
  | keep he => cases e <;> first | exact he.elim | simp [Moment.succeeded?] at hm
  | cancelIdle timeout ha =>
    obtain rfl := Option.some.inj hm
    exact .inl ⟨.inl ⟨timeout, rfl⟩, _, ticket?_stop_of ha .., by simp [Ticket.cancel]⟩
  | pursueIdle hc ha =>
    simp only [Moment.succeeded?, Moment.after, get?_hold_self, Option.some.injEq] at hm
    subst hm
    exact .inl ⟨.inr ⟨_, _, rfl, hc⟩, _, ticket?_stop_of ha .., by simp [Ticket.cancel]⟩
  | wakeCancel hc ha hd =>
    simp only [Moment.succeeded?, hc, Option.map_some, Call.ticket, Option.some.injEq] at hm
    subst hm
    exact .inr ⟨_, _, _, rfl, hc, rfl, ha, hd, ha⟩
  | wakeRemoval hc ha hd =>
    simp only [Moment.succeeded?, Moment.after, get?_hold_self, Option.some.injEq] at hm
    subst hm
    exact .inr ⟨_, _, _, rfl, hc, rfl, ha, hd, ha⟩
  | pursueBusy => simp [Moment.succeeded?, Moment.after, get?_drop_self] at hm
  | pursueWaits => simp [Moment.succeeded?, Moment.after, get?_hold_self] at hm
  | _ => simp [Moment.succeeded?] at hm

section Step

variable (hx : ∀ t' c', m.before.connected? t' c' = some x → t' = t ∧ c' = c)
  (hctx : m.before.context? x = some ctx)
include hctx

theorem closes_of_kept (hk : m.after.context? x = m.before.context? x) (ht : m.takenOut? t c = none)
    (hn : m.succeeded? = none) :
    m.after.context? x = some { ctx with closes := ctx.closes + m.closings t c x } := by
  rw [hk, hctx]
  simp [Moment.closings, Moment.Sweeps, ht, hn]

include hx

theorem closes_of_success {t' : TicketId} (ha : m.before.ticket? t' = some a)
    (hk : m.after.context? x = (m.before.closeAll a).context? x) (ht : m.takenOut? t c = none)
    (hn : m.succeeded? = some t') :
    m.after.context? x = some { ctx with closes := ctx.closes + m.closings t c x } := by
  rw [hk, context?_closeAll, hctx, countP_connections ha hx]
  simp [Moment.closings, Moment.Sweeps, ht, hn]

theorem step_closes (hs : Step m.before m.event m.outcome.reply m.after) :
    m.after.context? x = some { ctx with closes := ctx.closes + m.closings t c x } := by
  obtain ⟨g, e, g', r, notes⟩ := m
  dsimp only [Moment.after] at hs
  cases hs with
  | keep he =>
    cases e <;> first | exact he.elim | exact closes_of_kept hctx rfl rfl rfl
  | refuse c' failure | connect c' failure =>
    have hlt := (List.getElem?_eq_some_iff.mp hctx).1
    exact closes_of_kept hctx (List.getElem?_append_left hlt) rfl rfl
  | @disconnect t' a c' y ha hy =>
    have hc : g.connected? t' c' = some y := connected?_eq_some_iff.mpr ⟨a, ha, hy⟩
    have hk := context?_closeContext (g.onTicket t' (·.disconnect c')) x y
    rw [show (g.onTicket t' (·.disconnect c')).context? x = some ctx from hctx] at hk
    refine hk.trans ?_
    by_cases hyx : y = x
    · subst hyx
      obtain ⟨rfl, rfl⟩ := hx t' c' hc
      simp [Moment.closings, Moment.Sweeps, Moment.takenOut?, Moment.succeeded?, hc, Context.close]
    · have hn (g' : Gate) :
          Moment.takenOut? t c ⟨g, .removeContext t' c', g', .done, notes⟩ ≠ some x := by
        intro ht
        obtain ⟨he, hc'⟩ := Moment.takenOut?_eq_some_iff.mp ht
        cases he
        exact hyx (Option.some.inj (hc.symm.trans hc'))
      simp [Moment.closings, Moment.Sweeps, hn, Moment.succeeded?, hyx]
  | cancelIdle _ ha hb => exact closes_of_success hx hctx ha (context?_stop_idle hb) rfl rfl
  | cancelBusy ha hb => exact closes_of_kept hctx (context?_stop_busy hb) rfl rfl
  | cancelWaits ha hb => exact closes_of_kept hctx (context?_stop_busy hb) rfl rfl
  | pursueIdle hc ha hb =>
    exact closes_of_success hx hctx ha (context?_stop_idle hb) rfl
      (by simp [Moment.succeeded?, Moment.after, get?_hold_self])
  | pursueBusy hc ha hb =>
    exact closes_of_kept hctx (context?_stop_busy hb) rfl
      (by simp [Moment.succeeded?, Moment.after, get?_drop_self])
  | pursueWaits hc ha hb =>
    exact closes_of_kept hctx (context?_stop_busy hb) rfl
      (by simp [Moment.succeeded?, Moment.after, get?_hold_self])
  | wakeCancel hc ha =>
    exact closes_of_success hx hctx ha rfl rfl (by simp [Moment.succeeded?, hc, Call.ticket])
  | wakeRemoval hc ha =>
    exact closes_of_success hx hctx ha rfl rfl
      (by simp [Moment.succeeded?, Moment.after, get?_hold_self])
  | delete =>
    refine closes_of_kept hctx ?_ rfl rfl
    dsimp only [unregister, drop]
    split <;> rfl
  | @noContext t' a c' ha hc =>
    have hn : g.connected? t' c' = none := by simp [connected?, ha, hc]
    refine closes_of_kept hctx rfl (ite_eq_right_iff.mpr ?_) rfl
    rintro ⟨rfl, rfl⟩
    exact hn
  | _ => exact closes_of_kept hctx rfl rfl rfl

end Step

theorem countP_eq_zero_of_ne (hh : ∀ m ∈ h, m.before.connected? t c ≠ some x) :
    h.countP (·.takenOut? t c = some x) = 0 ∧ h.countP (·.Sweeps t c x) = 0 := by
  simp only [List.countP_eq_zero, decide_eq_true_eq]
  exact ⟨fun m hm ht => hh m hm (Moment.takenOut?_eq_some_iff.mp ht).2, fun m hm hw => hh m hm hw.2⟩

theorem step_takenOut (hs : Step m.before m.event m.outcome.reply m.after)
    (hm : m.takenOut? t c = some x) : m.after.connected? t c ≠ some x := by
  obtain ⟨he, -⟩ := Moment.takenOut?_eq_some_iff.mp hm
  rw [Ne, step_connected hs]
  simp [he, Moment.accepted?]

theorem step_accepts (hs : m.before.step? m.event = some m.outcome) {failure : Option String}
    (he : m.event = .addContext t c failure) :
    m.after.context? m.before.contexts.length = some ⟨failure, 0⟩ ∧
      (m.accepted? t c = some m.before.contexts.length ∨
        m.accepted? t c = none ∧ ∃ f, m.outcome.reply = .fault f) := by
  obtain ⟨g, e, g', reply, notes⟩ := m
  dsimp only [Moment.after] at *
  subst he
  have hs := step_of_step? hs
  cases hs with
  | keep he => exact he.elim
  | refuse c failure ha hc => exact ⟨by simp [context?], .inr ⟨rfl, _, rfl⟩⟩
  | connect c failure ha hc => exact ⟨by simp [context?], .inl (by simp [Moment.accepted?])⟩

namespace Run

theorem connected_only {h' : List Moment} (r' : Run g h' g') (hctx : g.context? x = some ctx)
    (hx : ∀ t' c', g.connected? t' c' = some x → t' = t ∧ c' = c) (t' : TicketId) (c' : ConnectionId)
    (hc : g'.connected? t' c' = some x) : t' = t ∧ c' = c := by
  have hlt : x < g.contexts.length := (List.getElem?_eq_some_iff.mp hctx).1
  by_cases hg : g.connected? t' c' = some x
  · exact hx t' c' hg
  · exact absurd hc (r'.connected_ne hlt hg)

theorem context?_eq (r : Run g h g') (hctx : g.context? x = some ctx)
    (hx : ∀ t' c', g.connected? t' c' = some x → t' = t ∧ c' = c) :
    g'.context? x = some { ctx with closes := ctx.closes +
      (h.countP (·.takenOut? t c = some x) + h.countP (·.Sweeps t c x)) } := by
  induction r with
  | refl => simpa using hctx
  | @step h g' e out r hs ih =>
    have hstep := step_closes (m := ⟨g', e, out⟩) (r.connected_only hctx hx) ih (step_of_step? hs)
    refine hstep.trans ?_
    simp only [Moment.closings, List.countP_append, List.countP_singleton, decide_eq_true_eq]
    congr 2
    omega

theorem connected_ne_of_takenOut (r : Run (initial config clock) h g) (hm : m ∈ h)
    (ht : m.takenOut? t c = some x) : g.connected? t c ≠ some x := by
  obtain ⟨h₁, h₂, -, r₁, hs, r₂⟩ := r.split hm
  have hlt := r₁.connected.lt t c x (Moment.takenOut?_eq_some_iff.mp ht).2
  have hle := (one hs).contexts_length_le
  exact r₂.connected_ne (Nat.lt_of_lt_of_le hlt hle) (step_takenOut (step_of_step? hs) ht)

theorem countP_takenOut (r : Run (initial config clock) h g) :
    h.countP (·.takenOut? t c = some x) =
      if ∃ m ∈ h, m.takenOut? t c = some x then 1 else 0 := by
  induction r with
  | refl => simp
  | @step h g e out r hs ih =>
    have hlast : (∃ m ∈ h ++ [⟨g, e, out⟩], m.takenOut? t c = some x) ↔
        (∃ m ∈ h, m.takenOut? t c = some x) ∨
          Moment.takenOut? t c ⟨g, e, out⟩ = some x := by simp
    rw [List.countP_append, List.countP_singleton, ih]
    simp only [hlast, decide_eq_true_eq]
    by_cases hm : Moment.takenOut? t c ⟨g, e, out⟩ = some x
    · have hnone : ¬ ∃ m ∈ h, m.takenOut? t c = some x := by
        rintro ⟨m, hm', ht⟩
        exact r.connected_ne_of_takenOut hm' ht (Moment.takenOut?_eq_some_iff.mp hm).2
      simp [hm, hnone]
    · simp [hm]

theorem connected_ne_of_new (r : Run (initial config clock) h g) (hx : g.contexts.length ≤ x)
    (hm : m ∈ h) : m.before.connected? t c ≠ some x := by
  obtain ⟨h₁, h₂, -, r₁, hs, r₂⟩ := r.split hm
  intro hc
  have hle := Nat.le_trans ((one hs).trans r₂).contexts_length_le hx
  exact absurd (r₁.connected.lt t c x hc) (Nat.not_lt_of_le hle)

/-- The account of a context that was given to a ticket for a connection. -/
theorem context?_of_given {h₁ h₂ : List Moment} {failure : Option String}
    (r : Run (initial config clock) (h₁ ++ m :: h₂) g) (he : m.event = .addContext t c failure) :
    g.context? m.before.contexts.length = some ⟨failure,
      (h₁ ++ m :: h₂).countP (·.takenOut? t c = some m.before.contexts.length) +
        (h₁ ++ m :: h₂).countP (·.Sweeps t c m.before.contexts.length)⟩ := by
  obtain ⟨r₁, hs, r₂⟩ := r.parts
  have hold := r₁.connected.ne_new
  have honly (t' : TicketId) (c' : ConnectionId)
      (hc : m.after.connected? t' c' = some m.before.contexts.length) : t' = t ∧ c' = c := by
    obtain hm | ⟨-, -, hc⟩ := (step_connected (step_of_step? hs)).mp hc
    · obtain ⟨⟨failure', he'⟩, -⟩ := Moment.accepted?_eq_some_iff.mp hm
      cases he.symm.trans he'
      exact ⟨rfl, rfl⟩
    · exact absurd hc (hold t' c')
  have hbefore : ∀ m' ∈ h₁ ++ [m], m'.before.connected? t c ≠ some m.before.contexts.length :=
    List.forall_mem_append.mpr ⟨fun m' hm' => r₁.connected_ne_of_new (Nat.le_refl _) hm',
      List.forall_mem_singleton.mpr (hold t c)⟩
  obtain ⟨htaken, hswept⟩ := countP_eq_zero_of_ne hbefore
  rw [r₂.context?_eq (step_accepts hs he).1 honly, ← List.singleton_append, ← List.append_assoc,
    List.countP_append, htaken, List.countP_append, hswept]
  simp only [Nat.zero_add]

theorem connected_ne_of_refused {h₁ h₂ : List Moment}
    (r : Run (initial config clock) (h₁ ++ m :: h₂) g) (hn : m.accepted? t c = none)
    (hlt : m.before.contexts.length < m.after.contexts.length) :
    ∀ m' ∈ h₁ ++ m :: h₂, m'.before.connected? t c ≠ some m.before.contexts.length := by
  obtain ⟨r₁, hs, r₂⟩ := r.parts
  have hold := r₁.connected.ne_new t c
  have hafter : m.after.connected? t c ≠ some m.before.contexts.length := by
    rw [Ne, step_connected (step_of_step? hs)]
    simp [hn, hold]
  intro m' hm'
  obtain hm' | hm' := List.mem_append.mp hm'
  · exact r₁.connected_ne_of_new (Nat.le_refl _) hm'
  · obtain rfl | hm' := List.mem_cons.mp hm'
    · exact hold
    · exact r₂.before_connected_ne hlt hafter m' hm'

theorem closes_of_given (r : Run (initial config clock) h g) (hm : m ∈ h) {failure : Option String}
    (he : m.event = .addContext t c failure) :
    ∃ ctx, g.context? m.before.contexts.length = some ctx ∧ ctx.failure = failure ∧
      ((∃ f, m.outcome.reply = .fault f) ∧ ctx.closes = 0 ∨
        m.accepted? t c = some m.before.contexts.length ∧ ctx.closes =
          (if ∃ m' ∈ h, m'.takenOut? t c = some m.before.contexts.length then 1 else 0) +
            h.countP (·.Sweeps t c m.before.contexts.length)) := by
  obtain ⟨h₁, h₂, rfl, -, hs, -⟩ := r.split hm
  obtain ⟨hnew, hacc⟩ := step_accepts hs he
  refine ⟨_, r.context?_of_given he, rfl, ?_⟩
  obtain hacc | ⟨hn, hf⟩ := hacc
  · exact .inr ⟨hacc, by rw [r.countP_takenOut]⟩
  · have hlt := (List.getElem?_eq_some_iff.mp hnew).1
    obtain ⟨htaken, hswept⟩ := countP_eq_zero_of_ne (r.connected_ne_of_refused hn hlt)
    exact .inl ⟨hf, by rw [htaken, hswept]⟩

theorem context?_kept (r : Run (initial config clock) h m.before)
    (hs : Step m.before m.event m.outcome.reply m.after) (he : ∀ t c, m.event ≠ .removeContext t c)
    (hn : m.succeeded? = none) (hctx : m.before.context? x = some ctx) :
    m.after.context? x = some ctx := by
  obtain ⟨t, c, hx⟩ : ∃ t c, ∀ t' c', m.before.connected? t' c' = some x → t' = t ∧ c' = c := by
    by_cases hc : ∃ t c, m.before.connected? t c = some x
    · obtain ⟨t, c, hc⟩ := hc
      exact ⟨t, c, fun t' c' hc' => r.connected.unique t' c' t c x hc' hc⟩
    · exact ⟨0, 0, fun t' c' hc' => absurd ⟨t', c', hc'⟩ hc⟩
  have ht : m.takenOut? t c ≠ some x := fun ht => he t c (Moment.takenOut?_eq_some_iff.mp ht).1
  simpa [Moment.closings, Moment.Sweeps, ht, hn] using step_closes hx hctx hs

theorem getContext_reply (r : Run (initial config clock) h g) (ha : g.ticket? t = some a)
    (c : ConnectionId) :
    ∃ out, g.step? (.getContext t c) = some out ∧ out.gate = g ∧
      (∀ x, out.reply = .context x ↔ LastAccepted t c x h) ∧
      ((∀ x, ¬ LastAccepted t c x h) →
        out.reply = .fault (.unknownConnection a.terms.transferId c)) := by
  refine ⟨g.getContext a c, by simp [step?, ha], ?_⟩
  have hx (x : ContextId) : a.connections.get? c = some x ↔ LastAccepted t c x h := by
    rw [← r.connected_iff, connected?, ha]
    rfl
  simp only [← hx, getContext]
  cases a.connections.get? c with
  | none => exact ⟨rfl, by simp [answer], fun _ => rfl⟩
  | some y => exact ⟨rfl, by simp [answer], fun hn => absurd rfl (hn y)⟩

/-- The account of all closing. A context that was refused is never closed; one that was accepted is
closed once if it is taken out, and once for each cancellation that succeeds while it is there. So
nothing is closed by a cancellation that is not done or runs out of time, by the end of an operation,
by a new ticket of the same uuid or by clearing the store. A connection has the context that was
accepted last for it and not taken out since. Failures to close make no difference to any of this. -/
theorem close_accounting (r : Run (initial config clock) h g) :
    (∀ m ∈ h, ∀ t c failure, m.event = .addContext t c failure →
      ∃ ctx, g.context? m.before.contexts.length = some ctx ∧ ctx.failure = failure ∧
        ((∃ f, m.outcome.reply = .fault f) ∧ ctx.closes = 0 ∨
          m.accepted? t c = some m.before.contexts.length ∧ ctx.closes =
            (if ∃ m' ∈ h, m'.takenOut? t c = some m.before.contexts.length then 1 else 0) +
              h.countP (·.Sweeps t c m.before.contexts.length))) ∧
    (∀ e out, g.step? e = some out → (∀ t c, e ≠ .removeContext t c) →
      Moment.succeeded? ⟨g, e, out⟩ = none →
      ∀ x ctx, g.context? x = some ctx → out.gate.context? x = some ctx) ∧
    (∀ t a c, g.ticket? t = some a → ∃ out, g.step? (.getContext t c) = some out ∧ out.gate = g ∧
      (∀ x, out.reply = .context x ↔ LastAccepted t c x h) ∧
      ((∀ x, ¬ LastAccepted t c x h) →
        out.reply = .fault (.unknownConnection a.terms.transferId c))) ∧
    ∃ h', Run (initial config clock) h' g.quiet ∧ h'.map Moment.event = h.map (·.event.quiet) ∧
      h'.map (·.outcome.reply) = h.map (·.outcome.reply) :=
  ⟨fun _ hm _ _ _ he => r.closes_of_given hm he,
    fun e out hs he hn _ _ hctx =>
      context?_kept (m := ⟨g, e, out⟩) r (step_of_step? hs) he hn hctx,
    fun _ _ c ha => r.getContext_reply ha c, r.quiet⟩

theorem close_accounting_of_two_cancellations :
    ∃ h g ctx, Run (initial ⟨60, 60⟩ 0) h g ∧ h.map Moment.event =
        [.issue sampleRecord, .addContext 0 1 (some "broken"), .addContext 0 2 none, .start 0 0 0,
          .cancel 0 1000, .removeContext 0 2, .finish 0 (.ok ()), .wake 0, .cancel 0 0] ∧
      g.context? 0 = some ctx ∧ ctx.closes = 2 := by
  obtain ⟨h, g, r, he, hf⟩ := of_play_any (initial ⟨60, 60⟩ 0)
    [.issue sampleRecord, .addContext 0 1 (some "broken"), .addContext 0 2 none, .start 0 0 0,
      .cancel 0 1000, .removeContext 0 2, .finish 0 (.ok ()), .wake 0, .cancel 0 0]
    (fun h _ => (h[1]?.any fun m => m.before.contexts.length == 0 && m.outcome.reply == .context 0) &&
      decide (∀ m ∈ h, m.takenOut? 0 1 ≠ some 0) && h.countP (·.Sweeps 0 1 0) == 2)
    (by decide +kernel)
  simp only [Bool.and_eq_true, Option.any_eq_true, beq_iff_eq, decide_eq_true_eq] at hf
  obtain ⟨⟨⟨m, hm, hlen, hr⟩, ht⟩, hw⟩ := hf
  have hme : m.event = .addContext 0 1 (some "broken") := by
    have h1 := congrArg (·[1]?) he
    simpa [List.getElem?_map, hm] using h1
  obtain ⟨ctx, hctx, -, ⟨⟨f, hf⟩, -⟩ | ⟨-, hcloses⟩⟩ :=
    r.close_accounting.1 m (List.mem_of_getElem? hm) 0 1 _ hme
  · simp [hr] at hf
  · rw [hlen] at hctx hcloses
    rw [hw, if_neg fun ⟨m', hm', ht'⟩ => ht m' hm' ht'] at hcloses
    exact ⟨h, g, ctx, r, he, hctx, hcloses⟩

end Run

end TicketGate.Gate
