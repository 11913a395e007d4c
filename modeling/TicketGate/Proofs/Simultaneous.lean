import TicketGate.Proofs.Clock
import TicketGate.Proofs.Instant

namespace TicketGate.Gate

/-- No operation ends on a ticket on which the time of a call is up. -/
def Apart (g : Gate) (ends : OperationId → Option (Except Fault Unit)) : Prop :=
  ∀ c t deadline removal a, g.calls.get? c = some (.waiting t deadline removal) →
    g.ticket? t = some a → deadline ≤ g.clock → ∀ o ∈ a.ongoing, ends o = none

/-- Events that are due happen until none is due any more. -/
structure Settles (ends : OperationId → Option (Except Fault Unit)) (g : Gate) (h : List Moment)
    (g' : Gate) : Prop where
  run : Run g h g'
  due : ∀ m ∈ h, Event.Due ends m.event
  rest : ∀ e, Event.Due ends e → g'.step? e = none

def pending (g : Gate) : Nat :=
  (g.tickets.flatMap Ticket.ongoing).length +
    (g.calls.size + g.calls.entries.countP fun e => e.2.rank < 2)

variable {g g' g'' : Gate} {e e' : Event} {out out' : Outcome} {h h' : List Moment}
  {ends : OperationId → Option (Except Fault Unit)} {t : TicketId} {a b : Ticket}

theorem AllSettled.after (hset : g.AllSettled) (hs : g.step? e = some out) :
    out.gate.AllSettled := by
  intro t b hb
  cases ha : g.ticket? t with
  | none =>
    obtain ⟨record, grant, -, -, rfl⟩ := step_new_ticket (step_of_step? hs) ha hb
    intro hd
    simp [Ticket.ofGrant] at hd
  | some a =>
    obtain rfl := Option.some.inj ((step_ticket (step_of_step? hs) ha).symm.trans hb)
    exact change_keeps (step_of_step? hs) ha (hset t a ha) fun x hx =>
      Ticket.settled_after hx (hset t a ha)

theorem ticket?_of_due (hs : g.step? e = some out) (he : e.Due ends)
    (hb : out.gate.ticket? t = some b) :
    ∃ a, g.ticket? t = some a ∧ b.ongoing.Sublist a.ongoing := by
  cases ha : g.ticket? t with
  | none =>
    obtain ⟨record, grant, rfl | rfl, -⟩ := step_new_ticket (step_of_step? hs) ha hb <;>
      exact he.elim
  | some a =>
    refine ⟨a, rfl, ?_⟩
    obtain rfl := Option.some.inj ((step_ticket (step_of_step? hs) ha).symm.trans hb)
    cases e with
    | finish o result =>
      cases hx : g.change? t a (.finish o result) with
      | none => exact List.Sublist.refl _
      | some x =>
        simp only [change?] at hx
        split at hx
        · cases (Option.ite_none_right_eq_some.mp hx).2
          exact List.erase_sublist
        · simp at hx
    | wake c | delete c | expire c => exact List.Sublist.refl _
    | _ => exact he.elim

theorem Apart.after (hg : g.Apart ends) (hs : g.step? e = some out) (he : e.Due ends) :
    out.gate.Apart ends := by
  intro c t deadline removal b hc hb hl o ho
  have hclock : out.gate.clock = g.clock := by
    apply step_clock_eq (step_of_step? hs)
    rintro ms rfl
    exact he.elim
  obtain ⟨a, ha, hsub⟩ := ticket?_of_due hs he hb
  obtain ⟨hc, -⟩ | hx := step_call (step_of_step? hs) hc
  · exact hg c t deadline removal a hc ha (hclock ▸ hl) o (hsub.subset ho)
  · cases hx <;> exact he.elim

theorem Apart.not_clash (hg : g.Apart ends) (he : e.Due ends) (he' : e'.Due ends)
    (hs : g.step? e = some out) (hs' : g.step? e' = some out') : ¬ g.Clash e e' := by
  rintro ⟨c, o, result, t, deadline, removal, op, rfl, rfl, hc, hop, rfl⟩
  obtain ⟨x, hx, -⟩ := turn_out hs rfl he
  obtain ⟨op', a, hop', ha, ho, -⟩ := finish_out hs'
  obtain rfl := Option.some.inj (hop.symm.trans hop')
  cases hx with
  | expires hf hb hd hl =>
    cases hc.symm.trans hf
    have hnone := hg c _ _ _ _ hc ha hl o ho
    simp [show ends o = some result from he'] at hnone

theorem Alike.allSettled (halike : g.Alike g') (hset : g.AllSettled) : g'.AllSettled := by
  intro t b hb
  obtain ⟨-, hnone⟩ | ⟨a, b', ha, hb', hab⟩ := rel_cases (halike.ticket? t)
  · simp [hnone] at hb
  · obtain rfl := Option.some.inj (hb'.symm.trans hb)
    intro hd
    obtain ⟨hcan, ho⟩ := hset t a ha (hab.drained.trans hd)
    exact ⟨hab.canceled.symm.trans hcan, List.perm_nil.mp (ho ▸ hab.ongoing.symm)⟩

theorem length_ongoing_modify_lt {f : Ticket → Ticket} {l : List Ticket} {i : Nat}
    (ha : l[i]? = some a) (hf : (f a).ongoing.length < a.ongoing.length) :
    ((l.modify i f).flatMap Ticket.ongoing).length < (l.flatMap Ticket.ongoing).length := by
  induction l generalizing i with
  | nil => simp at ha
  | cons b l ih =>
    cases i with
    | zero =>
      obtain rfl := Option.some.inj ha
      simp only [List.modify_zero_cons, List.flatMap_cons, List.length_append]
      omega
    | succ i =>
      have hrest := ih ha
      simp only [List.modify_succ_cons, List.flatMap_cons, List.length_append]
      omega

theorem pending_lt (hs : g.step? e = some out) (he : e.Due ends) :
    out.gate.pending < g.pending := by
  obtain ⟨o, result, rfl, -⟩ | ⟨c, hc⟩ := Event.due_cases he
  · obtain ⟨op, a, -, ha, ho, hgate, -⟩ := finish_out hs
    rw [hgate]
    refine Nat.add_lt_add_right (length_ongoing_modify_lt ha ?_) _
    have hpos := List.length_pos_of_mem ho
    simp only [Ticket.leave, Ticket.touch, List.length_erase_of_mem ho]
    omega
  · obtain ⟨x, hx, hgate, -⟩ := turn_out hs hc he
    rw [hgate]
    refine Nat.add_lt_add_left ?_ _
    cases hx with
    | removalWakes hf =>
      have hperm := Table.entries_perm hf
      simp only [Table.size, hperm.length_eq, hperm.countP_eq]
      simp [turn, hold, Table.insert, Call.rank]
    | cancelWakes hf | deletes hf | expires hf =>
      have hsize : (g.calls.erase c).size < g.calls.size := by
        rw [Table.size, Table.size, (Table.entries_perm hf).length_eq]
        exact Nat.lt_succ_self _
      exact Nat.add_lt_add_of_lt_of_le hsize (List.Sublist.countP_le List.filter_sublist)

theorem Settles.cons (s : Settles ends out.gate h g') (hs : g.step? e = some out)
    (he : e.Due ends) : Settles ends g (⟨g, e, out⟩ :: h) g' where
  run := (Run.one hs).trans s.run
  due := List.forall_mem_cons.mpr ⟨he, s.due⟩
  rest := s.rest

theorem exists_settles (g : Gate) (ends : OperationId → Option (Except Fault Unit)) :
    ∃ h g', Settles ends g h g' := by
  induction hn : g.pending using Nat.strongRecOn generalizing g with
  | ind n ih =>
    subst hn
    by_cases hrest : ∀ e, Event.Due ends e → g.step? e = none
    · exact ⟨[], g, .refl, by simp, hrest⟩
    · push Not at hrest
      obtain ⟨e, he, hs⟩ := hrest
      obtain ⟨out, hs⟩ := Option.ne_none_iff_exists'.mp hs
      obtain ⟨h, g', s⟩ := ih _ (pending_lt hs he) out.gate rfl
      exact ⟨_, g', s.cons hs he⟩

theorem Run.of_cons {m : Moment} (r : Run g (m :: h) g') :
    m.before = g ∧ g.step? m.event = some m.outcome ∧ Run m.after h g' := by
  obtain ⟨r₁, hs, r₂⟩ := (show Run g ([] ++ m :: h) g' from r).parts
  have hg := r₁.eq_of_nil
  exact ⟨hg, hg ▸ hs, r₂⟩

theorem Settles.of_cons {m : Moment} (s : Settles ends g (m :: h) g') :
    g.step? m.event = some m.outcome ∧ m.event.Due ends ∧ Settles ends m.after h g' := by
  obtain ⟨-, hs, r⟩ := s.run.of_cons
  obtain ⟨hdue, hdue'⟩ := List.forall_mem_cons.mp s.due
  exact ⟨hs, hdue, r, hdue', s.rest⟩

theorem Settles.alike (s : Settles ends g h g') {f : Gate} (halike : g.Alike f) :
    ∃ h' f', Settles ends f h' f' ∧ h'.map Moment.said = h.map Moment.said ∧ g'.Alike f' := by
  obtain ⟨h', f', r, hsaid, halike'⟩ := s.run.alike halike
  have hdue (m : Moment) (hm : m ∈ h') : m.event.Due ends := by
    obtain ⟨m', hm', hsame⟩ := List.mem_map.mp (hsaid ▸ List.mem_map_of_mem hm)
    have hevent : m'.event = m.event := congrArg Prod.fst hsame
    exact hevent ▸ s.due m' hm'
  have hrest (e : Event) (he : e.Due ends) := halike'.step_eq_none (s.rest e he)
  exact ⟨h', f', ⟨r, hdue, hrest⟩, hsaid, halike'⟩

theorem Settles.first (s : Settles ends g h g') (hset : g.AllSettled) (hg : g.Apart ends)
    (he : e.Due ends) (hs : g.step? e = some out) :
    ∃ h' g'', Settles ends out.gate h' g'' ∧ g'.Alike g'' ∧
      (h.map Moment.said).Perm ((e, out.reply) :: h'.map Moment.said) := by
  -- the event stays due until it happens, so it can be brought forward past all that come before
  induction h generalizing g out with
  | nil =>
    obtain rfl := s.run.eq_of_nil
    simp [s.rest e he] at hs
  | cons m h ih =>
    obtain ⟨hm, hdue, hrest⟩ := s.of_cons
    by_cases hme : m.event = e
    · subst hme
      obtain rfl := Option.some.inj (hm.symm.trans hs)
      exact ⟨h, g', hrest, .refl g', .refl _⟩
    · obtain ⟨next, next', hs', hr', hm', hr, halike⟩ := commute_of_due hset hdue he hme hm hs
        (hg.not_clash hdue he hm hs) (hg.not_clash he hdue hs hm)
      obtain ⟨h₁, g₁, s₁, halike₁, hperm₁⟩ := ih hrest (hset.after hm) (hg.after hm hdue) hs'
      obtain ⟨h₂, g₂, s₂, hsaid₂, halike₂⟩ := s₁.alike halike
      have hsame : Moment.said ⟨out.gate, m.event, next⟩ = m.said := congrArg (m.event, ·) hr
      refine ⟨_, g₂, s₂.cons hm' hdue, halike₁.trans halike₂, ?_⟩
      rw [hr', ← hsaid₂] at hperm₁
      rw [List.map_cons, List.map_cons, hsame]
      exact (hperm₁.cons m.said).trans (.swap ..)

/-- Whatever the order in which due events happen, the same ones happen with the same answers, and
it comes to the same. -/
theorem Settles.unique (s : Settles ends g h g') (s' : Settles ends g h' g'')
    (hset : g.AllSettled) (hg : g.Apart ends) :
    (h.map Moment.said).Perm (h'.map Moment.said) ∧ g'.Alike g'' := by
  induction h generalizing g h' g'' with
  | nil =>
    obtain rfl := s.run.eq_of_nil
    cases h' with
    | nil =>
      obtain rfl := s'.run.eq_of_nil
      exact ⟨.refl _, .refl _⟩
    | cons m h' =>
      obtain ⟨hs, hdue, -⟩ := s'.of_cons
      simp [s.rest _ hdue] at hs
  | cons m h ih =>
    obtain ⟨hs, hdue, hrest⟩ := s.of_cons
    obtain ⟨h₁, g₁, s₁, halike, hperm⟩ := s'.first hset hg hdue hs
    obtain ⟨hperm', halike'⟩ := ih hrest s₁ (hset.after hs) (hg.after hs hdue)
    exact ⟨(hperm'.cons _).trans hperm.symm, halike'.trans halike.symm⟩

inductive Round
  | event (e : Event)
  /-- All that is due at one moment, with what the operations end in. -/
  | settle (ends : OperationId → Option (Except Fault Unit))

/-- How a gate may go through some rounds: with the answers of each, in their order. All that is due
at one moment happens in any order, and tables come in another order at any time. -/
inductive Plays : Gate → List Round → List (List (Event × Reply)) → Gate → Prop
  | nil {g g' : Gate} : g.Alike g' → Plays g [] [] g'
  | event {g f g' : Gate} {e : Event} {out : Outcome} {rounds : List Round}
      {rest : List (List (Event × Reply))} :
      g.Alike f → f.step? e = some out → Plays out.gate rounds rest g' →
      Plays g (.event e :: rounds) ([(e, out.reply)] :: rest) g'
  | settle {g f g' : Gate} {ends : OperationId → Option (Except Fault Unit)}
      {as : List (Event × Reply)} {rounds : List Round} {rest : List (List (Event × Reply))} :
      g.Apart ends → Shuffled g as f → (∀ x ∈ as, Event.Due ends x.1) →
      (∀ e, Event.Due ends e → f.step? e = none) → Plays f rounds rest g' →
      Plays g (.settle ends :: rounds) (as :: rest) g'

theorem Run.keeps_allSettled (r : Run g h g') (hset : g.AllSettled) : g'.AllSettled :=
  r.invariant hset fun _ _ _ hg hs => hg.after hs

theorem Shuffled.settles {as : List (Event × Reply)} (s : Shuffled g as g')
    (hdue : ∀ x ∈ as, Event.Due ends x.1) (hrest : ∀ e, Event.Due ends e → g'.step? e = none) :
    ∃ h f, Settles ends g h f ∧ h.map Moment.said = as ∧ f.Alike g' := by
  obtain ⟨h, f, r, hsaid, halike⟩ := s.run
  have hdue' (m : Moment) (hm : m ∈ h) : m.event.Due ends :=
    hdue m.said (hsaid ▸ List.mem_map_of_mem hm)
  exact ⟨h, f, ⟨r, hdue', fun e he => halike.symm.step_eq_none (hrest e he)⟩, hsaid, halike⟩

theorem Plays.unique {f f' : Gate} {rounds : List Round} {ass ass' : List (List (Event × Reply))}
    (p : Plays g rounds ass g') (p' : Plays f rounds ass' f') (halike : g.Alike f)
    (hset : g.AllSettled) : List.Forall₂ List.Perm ass ass' ∧ g'.Alike f' := by
  induction p generalizing f ass' with
  | nil hg =>
    cases p' with
    | nil hf => exact ⟨.nil, hg.symm.trans (halike.trans hf)⟩
  | @event g g₁ g' e out rounds rest hg hs _ ih =>
    cases p' with
    | event hf hs' p' =>
      obtain ⟨out', hs'', hout⟩ := ((hg.symm.trans halike).trans hf).step hs
      obtain rfl := Option.some.inj (hs''.symm.trans hs')
      obtain ⟨hperm, hend⟩ := ih p' hout.gate ((hg.allSettled hset).after hs)
      exact ⟨.cons (hout.reply ▸ .refl _) hperm, hend⟩
  | @settle g g₁ g' ends as rounds rest hapart hshuffled hdue hrest _ ih =>
    cases p' with
    | settle hapart' hshuffled' hdue' hrest' p' =>
      obtain ⟨h₁, f₁, s₁, rfl, hf₁⟩ := hshuffled.settles hdue hrest
      obtain ⟨h₂, f₂, s₂, rfl, hf₂⟩ := hshuffled'.settles hdue' hrest'
      obtain ⟨h₃, f₃, s₃, hsaid, hf₃⟩ := s₂.alike halike.symm
      -- both come to rest from alike gates, so they come to rest at alike ones
      obtain ⟨hperm, hsame⟩ := s₁.unique s₃ hset hapart
      have halike' := ((hf₁.symm.trans hsame).trans hf₃.symm).trans hf₂
      have hset' := hf₁.allSettled (s₁.run.keeps_allSettled hset)
      obtain ⟨hrounds, hend⟩ := ih p' halike' hset'
      exact ⟨.cons (hsaid ▸ hperm) hrounds, hend⟩

theorem exists_plays (hg : g.Apart ends) : ∃ as g', Plays g [.settle ends] [as] g' := by
  obtain ⟨h, g', s⟩ := g.exists_settles ends
  refine ⟨_, g', .settle hg s.run.shuffled (fun x hx => ?_) s.rest (.nil (.refl g'))⟩
  obtain ⟨m, hm, rfl⟩ := List.mem_map.mp hx
  exact s.due m hm

/-- Two events that are due at one moment can happen in either order: the answers are the same, and
so is the gate afterwards, unless the time of a call is up on a ticket of which an operation ends.
Hence the order in which things happen, and that of any table, makes no difference to a session. -/
theorem Run.simultaneous_events_commute {config : Config} {clock : Nat}
    (r : Run (initial config clock) h g) :
    (∀ ends e e' out out', Event.Due ends e → Event.Due ends e' → e ≠ e' →
      ¬ g.Clash e e' → ¬ g.Clash e' e → g.step? e = some out → g.step? e' = some out' →
      ∃ next next', out.gate.step? e' = some next' ∧ next'.reply = out'.reply ∧
        out'.gate.step? e = some next ∧ next.reply = out.reply ∧ next'.gate.Alike next.gate) ∧
    (∀ ends, g.Apart ends → ∃ as g', Plays g [.settle ends] [as] g') ∧
    ∀ rounds ass ass' g' g'', Plays g rounds ass g' → Plays g rounds ass' g'' →
      List.Forall₂ List.Perm ass ass' ∧ g'.Alike g'' ∧
        ∀ t, (g'.ticket? t).map (·.info g'.seconds g'.progress) =
          (g''.ticket? t).map (·.info g''.seconds g''.progress) := by
  have hset : g.AllSettled := fun _ _ => r.settled
  refine ⟨?_, fun ends => exists_plays, ?_⟩
  · intro ends e e' out out' he he' hne hclash hclash' hs hs'
    exact commute_of_due hset he he' hne hs hs' hclash hclash'
  · intro rounds ass ass' g' g'' p p'
    obtain ⟨hperm, halike⟩ := p.unique p' (.refl g) hset
    exact ⟨hperm, halike, halike.snapshot⟩

theorem Run.simultaneous_events_commute_of_overlap :
    ∃ h g, Run (initial ⟨60, 60⟩ 0) h g ∧
      (∃ out out' next next', g.step? (.finish 0 (.ok ())) = some out ∧
        g.step? (.finish 1 (.ok ())) = some out' ∧
        out.gate.step? (.finish 1 (.ok ())) = some next' ∧
        out'.gate.step? (.finish 0 (.ok ())) = some next ∧ next'.gate.Alike next.gate) ∧
      ∃ out out' next next', g.step? (.finish 0 (.ok ())) = some out ∧
        g.step? (.wake 0) = some out' ∧ out.gate.step? (.wake 0) = some next' ∧
        next'.reply = .flag true ∧ out'.gate.step? (.finish 0 (.ok ())) = some next ∧
        next'.gate.Alike next.gate := by
  obtain ⟨h, g, r, -, hf⟩ := of_play_any (initial ⟨60, 60⟩ 0)
    [.issue sampleRecord, .start 0 0 8, .start 0 4 8, .issue sampleRecord, .start 1 0 0,
      .cancel 1 1000, .finish 2 (.ok ())]
    (fun _ g => (g.step? (.finish 0 (.ok ()))).isSome && (g.step? (.finish 1 (.ok ()))).isSome &&
      (g.step? (.wake 0)).any (·.reply == .flag true)) (by decide +kernel)
  simp only [Bool.and_eq_true, Option.isSome_iff_exists, Option.any_eq_true, beq_iff_eq] at hf
  obtain ⟨⟨⟨out, hs⟩, out', hs'⟩, out'', hs'', hr⟩ := hf
  have commute := r.simultaneous_events_commute.1 fun _ => some (.ok ())
  obtain ⟨next, next', h₁, -, h₂, -, halike⟩ := commute (.finish 0 (.ok ())) (.finish 1 (.ok ()))
    out out' rfl rfl (by simp) (by simp [Clash]) (by simp [Clash]) hs hs'
  obtain ⟨last, last', h₃, hr', h₄, -, halike'⟩ := commute (.finish 0 (.ok ())) (.wake 0)
    out out'' rfl trivial (by simp) (by simp [Clash]) (by simp [Clash]) hs hs''
  exact ⟨h, g, r, ⟨out, out', next, next', hs, hs', h₁, h₂, halike⟩,
    out, out'', last, last', hs, hs'', h₃, hr'.trans hr, h₄, halike'⟩

end TicketGate.Gate
