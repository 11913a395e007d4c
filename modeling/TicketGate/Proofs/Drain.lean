import TicketGate.Proofs.Calls
import TicketGate.Proofs.Registration

namespace TicketGate

namespace Ticket

def Settled (a : Ticket) : Prop := a.drained = true → a.canceled = true ∧ a.ongoing = []

variable {a : Ticket} {x : Change}

theorem settled_after (hx : x.Allowed a) (ha : a.Settled) : (a.after x).Settled := by
  intro hd
  cases x with
  | enter o =>
    have hc : a.canceled = true := (ha hd).1
    simp [Change.Allowed, hc] at hx
  | leave now o moved =>
    simp only [after, leave, touch, Bool.or_eq_true, Bool.and_eq_true, List.isEmpty_iff] at hd ⊢
    obtain hd | hd := hd
    · obtain ⟨hc, ho⟩ := ha hd
      exact ⟨hc, by rw [ho, List.erase_nil]⟩
    · exact hd
  | cancel => exact ⟨rfl, (ha hd).2⟩
  | _ => exact ha hd

end Ticket

/-- What a call has made sure of on its ticket. -/
def Call.Sound (a : Ticket) : Call → Prop
  | .found _ _ => True
  | .waiting _ _ _ => a.canceled = true ∧ (a.ongoing = [] → a.drained = true)
  | .unused _ _ => a.canceled = true ∧ a.ongoing = []

/-- The call can go on as things stand with its ticket. -/
def Call.CanGoOn (a : Ticket) : Call → Prop
  | .waiting _ _ _ => a.drained = true
  | .found _ _ | .unused _ _ => True

theorem Call.Sound.canGoOn {a : Ticket} {call : Call} (hs : call.Sound a) (ho : a.ongoing = []) :
    call.CanGoOn a := by
  cases call with
  | found | unused => trivial
  | waiting => exact hs.2 ho

namespace Gate

def CallsSound (g : Gate) : Prop :=
  ∀ c call, g.calls.get? c = some call → ∃ a, g.ticket? call.ticket = some a ∧ call.Sound a

variable {g g' : Gate} {t : TicketId} {a : Ticket} {c : CallId} {call : Call} {e : Event}
  {r : Reply} {h : List Moment} {config : Config} {clock : Nat}

theorem sound_after {x : Ticket.Change} (hx : x.Allowed a) (ha : call.Sound a) :
    call.Sound (a.after x) := by
  cases call with
  | found t id => trivial
  | waiting t deadline removal =>
    obtain ⟨hc, hd⟩ := ha
    refine ⟨Ticket.canceled_after x hc, fun ho => ?_⟩
    cases x with
    | enter o => simp [Ticket.Change.Allowed, hc] at hx
    | leave now o moved =>
      simp only [Ticket.after, Ticket.leave, Ticket.touch] at ho ⊢
      simp [hc, ho]
    | _ => exact hd ho
  | unused t id =>
    obtain ⟨hc, ho⟩ := ha
    obtain ⟨hs, -⟩ := after_sublist hx hc
    exact ⟨Ticket.canceled_after x hc, List.sublist_nil.mp (ho ▸ hs)⟩

theorem arrives_sound (hx : Arrives g e c call)
    (hs : ∀ t a, g.ticket? t = some a → a.Settled) :
    ∃ a, g.ticket? call.ticket = some a ∧
      call.Sound ((g.change? call.ticket a e).elim a a.after) := by
  cases hx with
  | lookup ht ha => exact ⟨_, ha, trivial⟩
  | @busy t a timeout ha hb =>
    refine ⟨a, ha, ?_⟩
    simp only [change?, Call.ticket]
    exact ⟨rfl, fun ho => absurd ho (Ticket.isActive_iff.mp hb)⟩
  | @pursuedIdle c t id a hf ha hb =>
    refine ⟨a, ha, ?_⟩
    simp only [change?, hf, Call.ticket]
    exact ⟨rfl, Ticket.isActive_eq_false_iff.mp hb⟩
  | @pursuedBusy c t id a hf ha hb =>
    refine ⟨a, ha, ?_⟩
    simp only [change?, hf, Call.ticket]
    exact ⟨rfl, fun ho => absurd ho (Ticket.isActive_iff.mp hb)⟩
  | woken hf ha hd => exact ⟨_, ha, hs _ _ ha hd⟩

theorem step_callsSound (hs : Step g e r g') (ht : ∀ t a, g.ticket? t = some a → a.Settled)
    (hg : g.CallsSound) : g'.CallsSound := by
  intro c call hc
  obtain ⟨hc, -⟩ | hx := step_call hs hc
  · obtain ⟨a, ha, hcall⟩ := hg c call hc
    have hkept := change_keeps (P := call.Sound) hs ha hcall fun x hx => sound_after hx hcall
    exact ⟨_, step_ticket hs ha, hkept⟩
  · obtain ⟨a, ha, hcall⟩ := arrives_sound hx ht
    exact ⟨_, step_ticket hs ha, hcall⟩

/-- A cancellation leaves the ticket to its operations and waits for them. -/
def Moment.Waits (t : TicketId) (c : CallId) (m : Moment) : Prop :=
  m.Cancels t ∧ (∃ a, m.before.ticket? t = some a ∧ a.isActive = true) ∧
    m.outcome.reply = .pending c

theorem step_waits {m : Moment} (hs : Step m.before m.event m.outcome.reply m.after)
    (hm : m.Waits t c) :
    ∃ deadline removal, m.after.calls.get? c = some (.waiting t deadline removal) := by
  obtain ⟨hm, ⟨a, ha, hb⟩, hr⟩ := hm
  obtain ⟨g, e, g', reply, notes⟩ := m
  dsimp only [Moment.after] at hs hr ha ⊢
  subst hr
  obtain ⟨timeout, rfl⟩ | ⟨c', id, rfl, hf⟩ := hm
  · cases hs with
    | keep he => exact he.elim
    | cancelWaits => exact ⟨_, _, get?_hold_self ..⟩
  · cases hs with
    | keep he => exact he.elim
    | pursueIdle hf' ha' hi =>
      cases hf.symm.trans hf'
      cases ha.symm.trans ha'
      simp [hb] at hi
    | pursueWaits hf' =>
      cases hf.symm.trans hf'
      exact ⟨_, _, get?_hold_self ..⟩

theorem wake_iff {deadline : Nat} {removal : Option String}
    (hc : g.calls.get? c = some (.waiting t deadline removal)) (ha : g.ticket? t = some a) :
    (∃ out, g.step? (.wake c) = some out) ↔ a.drained = true := by
  simp only [step?, wake?, hc, ha, Option.bind_some]
  cases hd : a.drained with
  | false => simp
  | true => cases removal <;> simp

theorem allowsPause_of_pass {ms : Nat} {out : Outcome} (hs : g.step? (.pass ms) = some out)
    (hc : g.calls.get? c = some call) : g.allowsPause ms call = true :=
  List.all_eq_true.mp (Option.ite_some_none_eq_some.mp hs).1 _ (Table.mem_entries_of_get? hc)

theorem pass_eq_none_of_canGoOn (hc : g.calls.get? c = some call)
    (ha : g.ticket? call.ticket = some a) (hgo : call.CanGoOn a) (ms : Nat) :
    g.step? (.pass ms) = none := by
  rw [Option.eq_none_iff_forall_ne_some]
  intro out hs
  have hpause := allowsPause_of_pass hs hc
  cases call with
  | found t id | unused t id => simp [allowsPause] at hpause
  | waiting t deadline removal =>
    have hd : a.drained = true := hgo
    simp [allowsPause, show g.ticket? t = some a from ha, hd] at hpause

theorem pass_eq_none (hc : g.calls.get? c = some call) (ha : g.ticket? call.ticket = some a)
    (ho : a.ongoing = []) (hsound : call.Sound a) (ms : Nat) : g.step? (.pass ms) = none :=
  pass_eq_none_of_canGoOn hc ha (hsound.canGoOn ho) ms

namespace Run

theorem settled (r : Run (initial config clock) h g) (ha : g.ticket? t = some a) : a.Settled := by
  apply r.ticket_induction ha (P := fun _ a => a.Settled)
  · intro h g settings now grant _ _ hd
    simp [Ticket.ofGrant] at hd
  · intro h g a e out r ha hs ih
    exact change_keeps (step_of_step? hs) ha ih fun x hx => Ticket.settled_after hx ih

theorem callsSound (r : Run (initial config clock) h g) : g.CallsSound := by
  induction r with
  | refl =>
    intro c call hc
    simp [initial, Table.get?_empty] at hc
  | step r hs ih => exact step_callsSound (step_of_step? hs) (fun _ _ ha => r.settled ha) ih

theorem drained_stays (r : Run g h g') (ha : g.ticket? t = some a) (hc : a.canceled = true)
    (ho : a.ongoing = []) :
    ∃ b, g'.ticket? t = some b ∧ b.drained = a.drained ∧ b.canceled = true ∧ b.ongoing = [] := by
  refine r.keeps ha ⟨rfl, hc, ho⟩ ?_
  rintro b x hx ⟨hd, hc, ho⟩
  cases x with
  | connect | enter => simp [Ticket.Change.Allowed, hc] at hx
  | leave now o moved => simp [Ticket.Change.Allowed, ho] at hx
  | cancel => exact ⟨hd, rfl, ho⟩
  | _ => exact ⟨hd, hc, ho⟩

theorem waits_call {h₁ h₂ : List Moment} {m : Moment}
    (r : Run (initial config clock) (h₁ ++ m :: h₂) g) (hm : m.Waits t c)
    (hh : ∀ m' ∈ h₂, m'.event.call? ≠ some c) :
    ∃ deadline removal, g.calls.get? c = some (.waiting t deadline removal) := by
  obtain ⟨r₁, hs, r₂⟩ := r.parts
  obtain ⟨deadline, removal, hc⟩ := step_waits (step_of_step? hs) hm
  have hn : c < m.after.nextCall := (r₁.step hs).numbered c _ hc
  exact ⟨deadline, removal, (r₂.call_stays hn hh).trans hc⟩

/-- The drain signal is sound and is not lost: a canceled ticket that someone waits for has its
signal set exactly if nothing runs on it, so whoever waits can go on then and only then, and does
before any time passes. -/
theorem drain_signal (r : Run (initial config clock) h g) (ha : g.ticket? t = some a) :
    (a.drained = true → ∀ h' g', Run g h' g' → ∃ b, g'.ticket? t = some b ∧
      b.drained = true ∧ b.canceled = true ∧ b.ongoing = []) ∧
    (∀ h₁ m h₂ c, h = h₁ ++ m :: h₂ → m.Waits t c → (∀ m' ∈ h₂, m'.event.call? ≠ some c) →
      (a.drained = true ↔ a.ongoing = []) ∧
        ((∃ out, g.step? (.wake c) = some out) ↔ a.ongoing = []) ∧
        (a.ongoing = [] → ∀ ms, g.step? (.pass ms) = none)) ∧
    ((∃ m ∈ h, m.Cancels t ∧ ∃ b, m.before.ticket? t = some b ∧ b.canceled = false ∧
      b.ongoing = []) → a.drained = false) := by
  have hset := r.settled ha
  refine ⟨fun hd h' g' r' => ?_, ?_, ?_⟩
  · obtain ⟨hc, ho⟩ := hset hd
    obtain ⟨b, hb, hd', h⟩ := r'.drained_stays ha hc ho
    exact ⟨b, hb, hd'.trans hd, h⟩
  · rintro h₁ m h₂ c rfl hm hh
    obtain ⟨deadline, removal, hc⟩ := r.waits_call hm hh
    obtain ⟨b, hb, hsound⟩ := r.callsSound c _ hc
    obtain rfl := Option.some.inj (hb.symm.trans ha)
    have hiff : b.drained = true ↔ b.ongoing = [] := ⟨fun hd => (hset hd).2, hsound.2⟩
    exact ⟨hiff, (wake_iff hc ha).trans hiff, fun ho => pass_eq_none hc hb ho hsound⟩
  -- an idle ticket is canceled without the signal, and then nothing is left that could set it
  · rintro ⟨m, hm, hx, b, hb, hc, ho⟩
    obtain ⟨h₁, h₂, -, r₁, hs, r₂⟩ := r.split hm
    have hd : b.drained = false := by
      cases hd : b.drained with
      | false => rfl
      | true => simpa [hc] using (r₁.settled hb hd).1
    have hb' := step_ticket (step_of_step? hs) hb
    rw [Moment.cancels_iff.mp hx] at hb'
    obtain ⟨a', ha', hd', -⟩ := r₂.drained_stays hb' rfl ho
    cases ha'.symm.trans ha
    exact hd'.trans hd

theorem drain_signal_of_last_operation :
    ∃ h₁ m h₂ g a, Run (initial ⟨60, 60⟩ 0) (h₁ ++ m :: h₂) g ∧ g.ticket? 0 = some a ∧
      m.Waits 0 0 ∧ a.drained = true ∧ ∃ out, g.step? (.wake 0) = some out := by
  obtain ⟨h, g, r, he, hf⟩ := of_play_any (initial ⟨60, 60⟩ 0)
    [.issue sampleRecord, .start 0 0 0, .cancel 0 1000, .finish 0 (.ok ())]
    (fun h g => (h[2]?.any fun m =>
      (m.before.ticket? 0).any (·.isActive) && m.outcome.reply == .pending 0) &&
        (g.ticket? 0).any (·.ongoing == [])) (by decide +kernel)
  obtain ⟨m₀, h, rfl, -, he⟩ := List.map_eq_cons_iff.mp he
  obtain ⟨m₁, h, rfl, -, he⟩ := List.map_eq_cons_iff.mp he
  obtain ⟨m, h, rfl, hm, he⟩ := List.map_eq_cons_iff.mp he
  obtain ⟨m₃, h, rfl, hm₃, he⟩ := List.map_eq_cons_iff.mp he
  obtain rfl := List.map_eq_nil_iff.mp he
  simp only [List.getElem?_cons_succ, List.getElem?_cons_zero, Option.any_some, Bool.and_eq_true,
    Option.any_eq_true, beq_iff_eq] at hf
  obtain ⟨⟨hb, hr⟩, a, ha, ho⟩ := hf
  have hw : m.Waits 0 0 := ⟨.inl ⟨1000, hm⟩, hb, hr⟩
  have hd := (r.drain_signal ha).2.1 [m₀, m₁] m [m₃] 0 rfl hw (by simp [hm₃, Event.call?])
  exact ⟨[m₀, m₁], m, [m₃], g, a, r, ha, hw, hd.1.mpr ho, hd.2.1.mpr ho⟩

end Run

end Gate

end TicketGate
