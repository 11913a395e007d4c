import TicketGate.Proofs.Registration
import TicketGate.Proofs.Store

namespace TicketGate

theorem Access.allows_iff {granted : List Access} {wanted : Access} :
    Access.allows granted wanted = true ↔
      wanted ∈ granted ∨ wanted = .read ∧ .write ∈ granted := by
  simp [allows]

theorem Ticket.expires_after {a : Ticket} (x : Ticket.Change) :
    (a.after x).expires = match x with
      | .touch now | .leave now _ _ => clippedAdd now a.terms.timeout
      | .extend now seconds => clippedAdd now seconds
      | _ => a.expires := by
  cases x <;> rfl

namespace Gate

/-- The first reason there is for not allowing an access under a uuid now. -/
inductive Denies (g : Gate) (id : String) (k : Access) : Denial → Prop
  | unknown : g.store.get? id = none → Denies g id k (.unknownTicket id)
  | canceled {t : TicketId} {a : Ticket} : g.store.get? id = some t → g.ticket? t = some a →
      a.canceled = true → Denies g id k (.canceled a.terms.transferId)
  | expired {t : TicketId} {a : Ticket} : g.store.get? id = some t → g.ticket? t = some a →
      a.canceled = false → a.expires ≤ g.seconds → Denies g id k (.expired a.terms.transferId)
  | forbidden {t : TicketId} {a : Ticket} : g.store.get? id = some t → g.ticket? t = some a →
      a.canceled = false → g.seconds < a.expires →
      ¬ (k ∈ a.terms.access ∨ k = .read ∧ .write ∈ a.terms.access) →
      Denies g id k (.forbidden a.terms.transferId k)

/-- The ticket of number `t` is granted for so many seconds from now on: it is new, extended, or
used. -/
inductive Moment.Grants (t : TicketId) (m : Moment) : Nat → Prop
  | create {record : Json} {grant : Grant} : m.event = .add record ∨ m.event = .issue record →
      Grant.ofJson Url.parse record = .ok grant → m.before.tickets.length = t →
      Grants t m grant.timeout
  | touch {a : Ticket} : m.event = .touch t → m.before.ticket? t = some a →
      Grants t m a.terms.timeout
  | extend {s : Nat} : m.event = .extend t s → Grants t m s
  | leave {o : OperationId} {op : Operation} {a : Ticket} {result : Except Fault Unit} :
      m.event = .finish o result → m.before.operation? o = some op → op.ticket = t →
      m.before.ticket? t = some a → Grants t m a.terms.timeout

variable {g g' : Gate} {t : TicketId} {a b : Ticket} {id : String} {k : Access} {h : List Moment}
  {m : Moment} {d now : Nat} {e : Event} {config : Config} {clock : Nat}

theorem authorize_unknown (hn : g.store.get? id = none) :
    (g.authorize id k).reply = .fault (.denied (.unknownTicket id)) := by
  simp [authorize, find?, hn, answer]

theorem authorize_found (ht : g.store.get? id = some t) (ha : g.ticket? t = some a) :
    (g.authorize id k).reply = match g.denial? a k with
      | some d => .fault (.denied d)
      | none => .ticket t := by
  have hf : g.find? id = some (t, a) := find?_eq_some.mpr ⟨ht, ha⟩
  cases hd : g.denial? a k <;> simp [authorize, hf, hd]

theorem gate_authorize (g : Gate) (id : String) (k : Access) : (g.authorize id k).gate = g := by
  unfold authorize
  split <;> rfl

theorem denial?_eq_none_iff :
    g.denial? a k = none ↔ a.canceled = false ∧ g.seconds < a.expires ∧
      (k ∈ a.terms.access ∨ k = .read ∧ .write ∈ a.terms.access) := by
  rw [← Access.allows_iff, ← Nat.not_le]
  unfold denial?
  cases a.canceled with
  | true => simp
  | false =>
    by_cases hx : a.expires ≤ g.seconds
    · simp [hx]
    · by_cases hk : Access.allows a.terms.access k = true <;> simp [hx, hk, Ticket.allows]

theorem denies_of_denial? {reason : Denial} (ht : g.store.get? id = some t)
    (ha : g.ticket? t = some a) (hd : g.denial? a k = some reason) : g.Denies id k reason := by
  unfold denial? at hd
  split at hd
  · next hc =>
    obtain rfl := Option.some.inj hd
    exact .canceled ht ha hc
  · next hc =>
    have hc := (Bool.not_eq_true _).mp hc
    split at hd
    · next hx =>
      obtain rfl := Option.some.inj hd
      exact .expired ht ha hc hx
    · next hx =>
      split at hd
      · simp at hd
      · next hk =>
        obtain rfl := Option.some.inj hd
        exact .forbidden ht ha hc (Nat.lt_of_not_le hx) fun h => hk (Access.allows_iff.mpr h)

theorem authorize_of_denies {reason : Denial} (hd : g.Denies id k reason) :
    (g.authorize id k).reply = .fault (.denied reason) := by
  cases hd with
  | unknown hn => exact authorize_unknown hn
  | canceled ht ha hc => simp [authorize_found ht ha, denial?, hc]
  | expired ht ha hc hx => simp [authorize_found ht ha, denial?, hc, hx]
  | forbidden ht ha hc hx hk =>
    have hk : ¬ Ticket.allows _ k = true := fun h => hk (Access.allows_iff.mp h)
    simp [authorize_found ht ha, denial?, hc, Nat.not_le.mpr hx, hk]

theorem authorize_ticket_iff (hg : g.Filed) :
    (g.authorize id k).reply = .ticket t ↔ ∃ a, g.store.get? id = some t ∧
      g.ticket? t = some a ∧ a.canceled = false ∧ g.seconds < a.expires ∧
      (k ∈ a.terms.access ∨ k = .read ∧ .write ∈ a.terms.access) := by
  constructor
  · intro hr
    cases ht : g.store.get? id with
    | none => simp [authorize_unknown ht] at hr
    | some t' =>
      obtain ⟨a, ha, -⟩ := hg id t' ht
      rw [authorize_found ht ha] at hr
      cases hd : g.denial? a k with
      | some reason => simp [hd] at hr
      | none =>
        obtain rfl : t' = t := by simpa [hd] using hr
        exact ⟨a, rfl, ha, denial?_eq_none_iff.mp hd⟩
  · rintro ⟨a, ht, ha, hd⟩
    simp [authorize_found ht ha, denial?_eq_none_iff.mpr hd]

theorem authorize_ticket_or_denies (hg : g.Filed) (id : String) (k : Access) :
    (∃ t, (g.authorize id k).reply = .ticket t) ∨
      ∃ reason, (g.authorize id k).reply = .fault (.denied reason) ∧ g.Denies id k reason := by
  cases ht : g.store.get? id with
  | none => exact .inr ⟨_, authorize_unknown ht, .unknown ht⟩
  | some t =>
    obtain ⟨a, ha, -⟩ := hg id t ht
    rw [authorize_found ht ha]
    cases hd : g.denial? a k with
    | none => exact .inl ⟨t, rfl⟩
    | some reason => exact .inr ⟨reason, rfl, denies_of_denial? ht ha hd⟩

theorem authorize_fault_iff (hg : g.Filed) {reason : Denial} :
    (g.authorize id k).reply = .fault (.denied reason) ↔ g.Denies id k reason := by
  refine ⟨fun hr => ?_, authorize_of_denies⟩
  obtain ⟨t, hr'⟩ | ⟨reason', hr', hd⟩ := authorize_ticket_or_denies hg id k
  · simp [hr] at hr'
  · rw [hr] at hr'
    cases hr'
    exact hd

theorem change?_eq_touch_iff :
    g.change? t a e = some (.touch now) ↔ e = .touch t ∧ g.seconds = now := by
  cases e with
  | finish o result =>
    simp only [change?]
    split <;> simp
  | pursue c =>
    simp only [change?]
    split <;> simp
  | _ => simp [change?]

theorem change?_eq_extend_iff {s : Nat} :
    g.change? t a e = some (.extend now s) ↔ e = .extend t s ∧ g.seconds = now := by
  cases e with
  | finish o result =>
    simp only [change?]
    split <;> simp
  | pursue c =>
    simp only [change?]
    split <;> simp
  | extend t' s' =>
    simp only [change?, Option.ite_none_right_eq_some, Option.some.injEq, Ticket.Change.extend.injEq,
      Event.extend.injEq]
    constructor
    · rintro ⟨rfl, rfl, rfl⟩
      exact ⟨⟨rfl, rfl⟩, rfl⟩
    · rintro ⟨⟨rfl, rfl⟩, rfl⟩
      exact ⟨rfl, rfl, rfl⟩
  | _ => simp [change?]

theorem seconds_lt_clippedAdd_iff {ms : Nat} :
    g.seconds < clippedAdd (ms / 1000) d ↔ g.clock < 1000 * min (ms / 1000 + d) maxWord := by
  rw [seconds, clippedAdd, Nat.div_lt_iff_lt_mul (by decide), Nat.mul_comm]

theorem expires_of_grants (hs : m.before.step? m.event = some m.outcome) (hm : m.Grants t d) :
    ∃ a, m.after.ticket? t = some a ∧ a.expires = clippedAdd m.before.seconds d := by
  obtain ⟨g, e, out⟩ := m
  dsimp only [Moment.after] at *
  have hstep {a : Ticket} := step_ticket (t := t) (a := a) (step_of_step? hs)
  cases hm with
  | @create record grant he hok hlen =>
    refine ⟨Ticket.ofGrant g.config g.seconds grant, ?_, rfl⟩
    dsimp only at he hlen
    subst hlen
    obtain rfl | rfl := he
    · obtain rfl := Option.some.inj hs
      simp [add, hok, ticket?]
    · obtain rfl := Option.some.inj hs
      simp [issue, hok, ticket?]
  | touch he ha =>
    refine ⟨_, hstep ha, ?_⟩
    rw [change?_eq_touch_iff.mpr ⟨he, rfl⟩]
    rfl
  | extend he =>
    dsimp only at he
    subst he
    obtain ⟨a, ha, -⟩ := Option.map_eq_some_iff.mp hs
    refine ⟨_, hstep ha, ?_⟩
    rw [change?_eq_extend_iff.mpr ⟨rfl, rfl⟩]
    rfl
  | @leave o op a result he hop ht ha =>
    refine ⟨_, hstep ha, ?_⟩
    rw [change?_eq_leave_iff.mpr ⟨result, op, he, hop, ht, rfl, rfl⟩]
    rfl

theorem expires_kept (hs : m.before.step? m.event = some m.outcome)
    (ha : m.before.ticket? t = some a) (hm : ∀ d, ¬ m.Grants t d) :
    ∃ b, m.after.ticket? t = some b ∧ b.expires = a.expires := by
  refine ⟨_, step_ticket (step_of_step? hs) ha, ?_⟩
  cases hx : m.before.change? t a m.event with
  | none => rfl
  | some x =>
    refine (Ticket.expires_after x).trans ?_
    cases x with
    | touch now => exact absurd (.touch (change?_eq_touch_iff.mp hx).1 ha) (hm _)
    | extend now s => exact absurd (.extend (change?_eq_extend_iff.mp hx).1) (hm _)
    | leave now o moved =>
      obtain ⟨result, op, he, hop, ht, -⟩ := change?_eq_leave_iff.mp hx
      exact absurd (.leave he hop ht ha) (hm _)
    | _ => rfl

namespace Run

theorem expires_eq (r : Run g h g') (ha : g.ticket? t = some a)
    (hh : ∀ m ∈ h, ∀ d, ¬ m.Grants t d) : ∃ b, g'.ticket? t = some b ∧ b.expires = a.expires := by
  induction r with
  | refl => exact ⟨a, ha, rfl⟩
  | @step h g' e out r hs ih =>
    obtain ⟨b, hb, hx⟩ := ih fun m hm => hh m (List.mem_append_left _ hm)
    have hlast := hh ⟨g', e, out⟩ (List.mem_append_right _ (List.mem_singleton_self _))
    obtain ⟨b', hb', hx'⟩ := expires_kept (m := ⟨g', e, out⟩) hs hb hlast
    exact ⟨b', hb', hx'.trans hx⟩

theorem expires_of_last_grant {h₁ h₂ : List Moment} (r : Run g (h₁ ++ m :: h₂) g')
    (hm : m.Grants t d) (hh : ∀ m' ∈ h₂, ∀ d', ¬ m'.Grants t d') :
    ∃ a, g'.ticket? t = some a ∧ a.expires = clippedAdd m.before.seconds d := by
  obtain ⟨-, hs, r₂⟩ := r.parts
  obtain ⟨a, ha, hx⟩ := expires_of_grants hs hm
  obtain ⟨b, hb, hx'⟩ := r₂.expires_eq ha hh
  exact ⟨b, hb, hx'.trans hx⟩

/-- An access is let through exactly by the ticket that the store has under the uuid, if that is not
canceled, has not expired and covers the access; else the first reason against it is given. Nothing
changes either way. A ticket that has ever been canceled lets nothing through, and one that has not
does so up to the whole second that its last grant reaches to. -/
theorem authorization_gate (r : Run (initial config clock) h g) (id : String) (k : Access) :
    ∃ out, g.step? (.authorize id k) = some out ∧ out.gate = g ∧
      (∀ t, out.reply = .ticket t ↔ ∃ a, g.store.get? id = some t ∧ g.ticket? t = some a ∧
        a.canceled = false ∧ g.seconds < a.expires ∧
        (k ∈ a.terms.access ∨ k = .read ∧ .write ∈ a.terms.access)) ∧
      (∀ t, out.reply = .ticket t → ∃ a, g.ticket? t = some a ∧ a.terms.uuid = id) ∧
      ((∃ t, out.reply = .ticket t) ∨ ∃ reason, out.reply = .fault (.denied reason)) ∧
      (∀ reason, out.reply = .fault (.denied reason) ↔ g.Denies id k reason) ∧
      (∀ t, (∃ m ∈ h, m.Cancels t) → out.reply ≠ .ticket t) ∧
      ∀ h₁ m h₂ t a d, h = h₁ ++ m :: h₂ → m.Grants t d → (∀ m' ∈ h₂, ∀ d', ¬ m'.Grants t d') →
        g.store.get? id = some t → g.ticket? t = some a → a.canceled = false →
        (k ∈ a.terms.access ∨ k = .read ∧ .write ∈ a.terms.access) →
        (out.reply = .ticket t ↔ g.clock < 1000 * min (m.before.clock / 1000 + d) maxWord) := by
  have hg := r.filed
  refine ⟨g.authorize id k, rfl, gate_authorize .., fun t => authorize_ticket_iff hg, ?_, ?_,
    fun reason => authorize_fault_iff hg, ?_, ?_⟩
  · intro t hr
    obtain ⟨a, ht, -⟩ := (authorize_ticket_iff hg).mp hr
    exact hg id t ht
  · exact (authorize_ticket_or_denies hg id k).imp_right fun ⟨reason, hr, _⟩ => ⟨reason, hr⟩
  · intro t hm hr
    obtain ⟨a, -, ha, hc, -⟩ := (authorize_ticket_iff hg).mp hr
    simp [(r.canceled_iff ha).mpr hm] at hc
  · rintro h₁ m h₂ t a d rfl hm hh ht ha hc hk
    obtain ⟨b, hb, hx⟩ := r.expires_of_last_grant hm hh
    cases hb.symm.trans ha
    rw [← seconds_lt_clippedAdd_iff, authorize_ticket_iff hg]
    constructor
    · rintro ⟨b, -, hb, -, hlt, -⟩
      cases hb.symm.trans ha
      exact hx ▸ hlt
    · exact fun hlt => ⟨a, ht, ha, hc, hx ▸ hlt, hk⟩

theorem authorization_gate_of_last_millisecond :
    ∃ h g out, Run (initial ⟨60, 60⟩ 0) h g ∧ g.clock = 299999 ∧
      g.step? (.authorize "u" .read) = some out ∧ out.reply = .ticket 0 ∧
      h.map Moment.event = [.add sampleRecord, .pass 999, .touch 0, .pass 299000] := by
  obtain ⟨h₁, m, h₂, g, r, he₁, hm, he, hf⟩ := of_play_at (initial ⟨60, 60⟩ 0)
    [.add sampleRecord, .pass 999] (.touch 0) [.pass 299000]
    (fun m _ g => (m.before.ticket? 0).any (·.terms.timeout == 300) && m.before.clock == 999 &&
      g.clock == 299999 && g.store.get? "u" == some 0 &&
      (g.ticket? 0).any fun a => !a.canceled && a.terms.access == [.read]) (by decide +kernel)
  simp only [Bool.and_eq_true, Option.any_eq_true, beq_iff_eq, Bool.not_eq_true'] at hf
  obtain ⟨⟨⟨⟨⟨a, ha, hd⟩, hclock⟩, hclock'⟩, ht⟩, b, hb, hc, hk⟩ := hf
  obtain ⟨out, hs, -, -, -, -, -, -, hlast⟩ := r.authorization_gate "u" .read
  have hgrant : m.Grants 0 300 := hd ▸ .touch hm ha
  have hnone : ∀ m' ∈ h₂, ∀ d', ¬ m'.Grants 0 d' := by
    intro m' hm' d' hx
    have he' := List.mem_map_of_mem (f := Moment.event) hm'
    rw [he, List.mem_singleton] at he'
    cases hx <;> simp_all
  have hpass := hlast h₁ m h₂ 0 b 300 rfl hgrant hnone ht hb hc (.inl (by simp [hk]))
  refine ⟨_, g, out, r, hclock', hs, hpass.mpr ?_, by simp [he₁, hm, he]⟩
  rw [hclock, hclock']
  decide

end Run

end Gate

end TicketGate
