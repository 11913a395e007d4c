import TicketGate.Proofs.Authorization
import TicketGate.Proofs.Clock
import TicketGate.Proofs.Transfer

namespace TicketGate

theorem Ticket.accessed_after {a : Ticket} (x : Ticket.Change) :
    (a.after x).accessed = match x with
      | .touch now | .leave now _ _ => now
      | _ => a.accessed := by
  cases x <;> rfl

namespace Gate

/-- The ticket of number `t` is used: it is granted for its own timeout, not just extended. -/
def Moment.Uses (t : TicketId) (m : Moment) : Prop :=
  (∃ d, m.Grants t d) ∧ ∀ s, m.event ≠ .extend t s

/-- Looking a ticket up, asking it for access, giving it contexts, canceling and removing it, and
running what it refuses to run. -/
def Moment.Spares (m : Moment) : Prop :=
  match m.event with
  | .get _ | .authorize _ _ | .remove _ | .pursue _ | .delete _ | .clear | .addContext _ _ _
  | .getContext _ _ | .removeContext _ _ | .cancel _ _ | .wake _ | .expire _ => True
  | .start _ _ _ => ∃ f, m.outcome.reply = .fault f
  | _ => False

variable {g : Gate} {t : TicketId} {a b : Ticket} {m : Moment} {e : Event} {h : List Moment}
  {config : Config} {clock : Nat}

theorem uses_of_new (hs : m.before.step? m.event = some m.outcome)
    (hn : m.before.ticket? t = none) (hb : m.after.ticket? t = some b) :
    m.Uses t ∧ b.expires = clippedAdd m.before.seconds b.terms.timeout ∧
      b.accessed = m.before.seconds := by
  obtain ⟨record, grant, he, hok, ht, rfl⟩ := granted_of_new hs hn hb
  refine ⟨⟨⟨_, .create he hok ht⟩, fun s hx => ?_⟩, rfl, rfl⟩
  obtain he | he := he <;> simp [he] at hx

theorem uses_iff (ha : m.before.ticket? t = some a) :
    m.Uses t ↔ (∃ now, m.before.change? t a m.event = some (.touch now)) ∨
      ∃ now o moved, m.before.change? t a m.event = some (.leave now o moved) := by
  simp only [change?_eq_touch_iff, change?_eq_leave_iff]
  constructor
  · rintro ⟨⟨d, hm⟩, hx⟩
    cases hm with
    | create he hok ht =>
      subst ht
      exact absurd (List.getElem?_eq_some_iff.mp ha).1 (Nat.lt_irrefl _)
    | touch he => exact .inl ⟨_, he, rfl⟩
    | extend he => exact absurd he (hx d)
    | leave he hop ht => exact .inr ⟨_, _, _, _, _, he, hop, ht, rfl, rfl⟩
  · rintro (⟨now, he, -⟩ | ⟨now, o, moved, result, op, he, hop, ht, -⟩)
    · exact ⟨⟨_, .touch he ha⟩, fun s hx => by simp [he] at hx⟩
    · exact ⟨⟨_, .leave he hop ht ha⟩, fun s hx => by simp [he] at hx⟩

theorem change?_eq_enter {o : OperationId} (hx : g.change? t a e = some (.enter o)) :
    (∃ offset done, e = .start t offset done) ∧ a.canceled = false := by
  cases e with
  | start t' offset done =>
    obtain ⟨⟨rfl, hc⟩, -⟩ := Option.ite_none_right_eq_some.mp hx
    exact ⟨⟨offset, done, rfl⟩, hc⟩
  | finish o result =>
    simp only [change?] at hx
    split at hx <;> simp at hx
  | pursue c =>
    simp only [change?] at hx
    split at hx <;> simp at hx
  | _ => simp [change?] at hx

section Step

variable (hs : Step m.before m.event m.outcome.reply m.after) (ha : m.before.ticket? t = some a)
include hs ha

theorem times_step (hb : m.after.ticket? t = some b) :
    (m.Uses t ∧ b.expires = clippedAdd m.before.seconds b.terms.timeout ∧
        b.accessed = m.before.seconds) ∨
      ¬ m.Uses t ∧ b.accessed = a.accessed ∧
        ((∃ s, m.event = .extend t s ∧ b.expires = clippedAdd m.before.seconds s) ∨
          (∀ s, m.event ≠ .extend t s) ∧ b.expires = a.expires ∧ b.terms = a.terms) := by
  obtain rfl := Option.some.inj ((step_ticket hs ha).symm.trans hb)
  have hextend (hx : ∀ now s, m.before.change? t a m.event ≠ some (.extend now s)) (s : Nat) :
      m.event ≠ .extend t s := fun he => hx _ s (change?_eq_extend_iff.mpr ⟨he, rfl⟩)
  rw [uses_iff ha]
  cases hx : m.before.change? t a m.event with
  | none => exact .inr ⟨by simp, rfl, .inr ⟨hextend (by simp [hx]), rfl, rfl⟩⟩
  | some x =>
    simp only [Option.elim_some, Ticket.after_terms, Ticket.expires_after, Ticket.accessed_after,
      Option.some.injEq]
    cases x with
    | touch now =>
      obtain ⟨-, rfl⟩ := change?_eq_touch_iff.mp hx
      simp
    | leave now o moved =>
      obtain ⟨_, _, -, -, -, rfl, -⟩ := change?_eq_leave_iff.mp hx
      simp
    | extend now s =>
      obtain ⟨he, rfl⟩ := change?_eq_extend_iff.mp hx
      exact .inr ⟨by simp, rfl, .inl ⟨s, he, rfl⟩⟩
    | _ => exact .inr ⟨by simp, rfl, .inr ⟨hextend (by simp [hx]), rfl, trivial⟩⟩

theorem not_enter_of_spares {o : OperationId} (hm : m.Spares) :
    m.before.change? t a m.event ≠ some (.enter o) := by
  intro hx
  obtain ⟨⟨offset, done, he⟩, hc⟩ := change?_eq_enter hx
  simp only [Moment.Spares, he] at hm
  obtain ⟨f, hr⟩ := hm
  rw [he, hr] at hs
  generalize m.after = g' at hs
  cases hs with
  | keep he => exact he.elim
  | turnAway _ _ ha' hcan =>
    cases ha'.symm.trans ha
    simp [hc] at hcan

theorem step_spares (hm : m.Spares) :
    ∃ b, m.after.ticket? t = some b ∧ b.expires = a.expires ∧
      b.idleTime m.after.seconds = a.idleTime m.before.seconds := by
  have hclock : m.after.seconds = m.before.seconds := by
    refine congrArg (· / 1000) (step_clock_eq hs fun ms he => ?_)
    simp [Moment.Spares, he] at hm
  refine ⟨_, step_ticket hs ha, ?_⟩
  rw [hclock]
  cases hx : m.before.change? t a m.event with
  | none => exact ⟨rfl, rfl⟩
  | some x =>
    cases x with
    | touch now =>
      obtain ⟨he, -⟩ := change?_eq_touch_iff.mp hx
      simp [Moment.Spares, he] at hm
    | extend now s =>
      obtain ⟨he, -⟩ := change?_eq_extend_iff.mp hx
      simp [Moment.Spares, he] at hm
    | leave now o moved =>
      obtain ⟨_, _, he, -⟩ := change?_eq_leave_iff.mp hx
      simp [Moment.Spares, he] at hm
    | enter o => exact absurd hx (not_enter_of_spares hs ha hm)
    | connect | disconnect | cancel => exact ⟨rfl, rfl⟩

end Step

namespace Run

theorem since_last {P : Moment → Ticket → Prop} {q : Moment → Prop}
    (r : Run (initial config clock) h g) (ha : g.ticket? t = some a)
    (new : ∀ m b, m.before.step? m.event = some m.outcome → m.before.ticket? t = none →
      m.after.ticket? t = some b → P m b)
    (step : ∀ m a b, m.before.step? m.event = some m.outcome → m.before.ticket? t = some a →
      m.after.ticket? t = some b → P m b ∨ q m ∧ ∀ m', P m' a → P m' b) :
    Since (P · a) q h := by
  induction r generalizing a with
  | refl => simp [initial, ticket?] at ha
  | @step h g e out r hs ih =>
    rw [since_concat]
    cases hb : g.ticket? t with
    | none => exact .inl (new ⟨g, e, out⟩ a hs hb ha)
    -- what held of the ticket before the step holds unless the step is a new last moment
    | some b =>
      obtain hp | ⟨hq, hp⟩ := step ⟨g, e, out⟩ b a hs hb ha
      · exact .inl hp
      · exact .inr ⟨hq, (ih hb).imp (fun m' _ => hp m') fun _ _ => id⟩

theorem expires_since (r : Run (initial config clock) h g) (ha : g.ticket? t = some a) :
    Since (fun m => (m.Uses t ∧ a.expires = clippedAdd m.before.seconds a.terms.timeout) ∨
        ∃ s, m.event = .extend t s ∧ a.expires = clippedAdd m.before.seconds s)
      (fun m => ¬ m.Uses t ∧ ∀ s, m.event ≠ .extend t s) h := by
  apply r.since_last ha (P := fun m a =>
    (m.Uses t ∧ a.expires = clippedAdd m.before.seconds a.terms.timeout) ∨
      ∃ s, m.event = .extend t s ∧ a.expires = clippedAdd m.before.seconds s)
  · intro m b hs hn hb
    obtain ⟨hu, hx, -⟩ := uses_of_new hs hn hb
    exact .inl ⟨hu, hx⟩
  · intro m a b hs ha hb
    obtain ⟨hu, hx, -⟩ | ⟨hn, -, hx | ⟨he, hx, hterms⟩⟩ := times_step (step_of_step? hs) ha hb
    · exact .inl (.inl ⟨hu, hx⟩)
    · exact .inl (.inr hx)
    · rw [hx, hterms]
      exact .inr ⟨⟨hn, he⟩, fun _ => id⟩

theorem accessed_since (r : Run (initial config clock) h g) (ha : g.ticket? t = some a) :
    Since (fun m => m.Uses t ∧ a.accessed = m.before.seconds) (fun m => ¬ m.Uses t) h := by
  apply r.since_last ha (P := fun m a => m.Uses t ∧ a.accessed = m.before.seconds)
  · intro m b hs hn hb
    obtain ⟨hu, -, hx⟩ := uses_of_new hs hn hb
    exact ⟨hu, hx⟩
  · intro m a b hs ha hb
    obtain ⟨hu, -, hx⟩ | ⟨hn, hx, -⟩ := times_step (step_of_step? hs) ha hb
    · exact .inl ⟨hu, hx⟩
    · rw [hx]
      exact .inr ⟨hn, fun _ => id⟩

theorem idleTime_since (r : Run (initial config clock) h g) (ha : g.ticket? t = some a)
    (ho : a.ongoing = []) :
    Since (fun m => m.Uses t ∧ a.idleTime g.seconds + m.before.seconds = g.seconds)
      (fun m => ¬ m.Uses t) h := by
  refine (r.accessed_since ha).imp (fun m hm ⟨hu, hx⟩ => ⟨hu, ?_⟩) fun _ _ => id
  have hle : m.before.seconds ≤ g.seconds := Nat.div_le_div_right (r.clock_le_of_mem hm).2
  rw [Ticket.idleTime, if_neg (by simp [Ticket.isActive, ho]), hx]
  exact Nat.sub_add_cancel hle

/-- When a ticket expires and how long it has been idle. It expires so long after its last use as it
is granted for, or so long after its last extension as that said, whatever came last; the sum is cut
off at the largest counter. It is idle since its last use, but not while an operation runs. Nothing
else makes a difference, and asking what the times are does not either. -/
theorem expiry_and_idle_time (r : Run (initial config clock) h g) (ha : g.ticket? t = some a) :
    Since (fun m =>
        (m.Uses t ∧ a.expires = min (m.before.clock / 1000 + a.terms.timeout) maxWord) ∨
          ∃ s, m.event = .extend t s ∧ a.expires = min (m.before.clock / 1000 + s) maxWord)
      (fun m => ¬ m.Uses t ∧ ∀ s, m.event ≠ .extend t s) h ∧
    (a.ongoing ≠ [] → a.idleTime (g.clock / 1000) = 0) ∧
    (a.ongoing = [] →
      Since (fun m => m.Uses t ∧
          a.idleTime (g.clock / 1000) + m.before.clock / 1000 = g.clock / 1000)
        (fun m => ¬ m.Uses t) h) ∧
    (∀ e out, g.step? e = some out → Moment.Spares ⟨g, e, out⟩ →
      ∃ b, out.gate.ticket? t = some b ∧ b.expires = a.expires ∧
        b.idleTime (out.gate.clock / 1000) = a.idleTime (g.clock / 1000)) ∧
    ∀ (s s' : Session) q result, q.Asks → s.execute q = .ok (s', result) → s' = s :=
  ⟨r.expires_since ha, fun ho => if_pos (Ticket.isActive_iff.mpr ho), r.idleTime_since ha,
    fun e out hs => step_spares (m := ⟨g, e, out⟩) (step_of_step? hs) ha,
    fun _ _ _ _ => execute_asks⟩

theorem expiry_and_idle_time_of_late_failure :
    ∃ h g a, Run (initial ⟨60, 60⟩ 0) h g ∧ h.map Moment.event =
        [.issue sampleRecord, .pass 1500, .start 0 0 0, .extend 0 50, .pass 2000,
          .finish 0 (.error (.io "broken")), .pass 4000, .extend 0 maxWord] ∧
      g.ticket? 0 = some a ∧ a.ongoing = [] ∧ a.expires = maxWord ∧
      Since (fun m => m.Uses 0 ∧ a.idleTime 7 + m.before.clock / 1000 = 7) (fun m => ¬ m.Uses 0) h := by
  obtain ⟨h, g, r, he, hf⟩ := of_play_any (initial ⟨60, 60⟩ 0)
    [.issue sampleRecord, .pass 1500, .start 0 0 0, .extend 0 50, .pass 2000,
      .finish 0 (.error (.io "broken")), .pass 4000, .extend 0 maxWord]
    (fun _ g => g.clock == 7500 && (g.ticket? 0).any fun a => a.ongoing == [] && a.expires == maxWord)
    (by decide +kernel)
  simp only [Bool.and_eq_true, Option.any_eq_true, beq_iff_eq] at hf
  obtain ⟨hclock, a, ha, ho, hx⟩ := hf
  have hidle := (r.expiry_and_idle_time ha).2.2.1 ho
  rw [hclock] at hidle
  exact ⟨h, g, a, r, he, ha, ho, hx, hidle⟩

end Run

end Gate

end TicketGate
