import TicketGate.Proofs.Calls

namespace TicketGate.Gate

def Filed (g : Gate) : Prop :=
  ∀ id t, g.store.get? id = some t → ∃ a, g.ticket? t = some a ∧ a.terms.uuid = id

/-- A removal takes the ticket of number `t` out of the store. -/
def Moment.Drops (t : TicketId) (m : Moment) : Prop :=
  (∃ c, m.event = .delete c) ∧
    ∃ id, m.before.store.get? id = some t ∧ m.after.store.get? id ≠ some t

variable {g g' : Gate} {t t' : TicketId} {id id' : String} {a : Ticket} {e : Event} {r : Reply}

theorem store_stop (g : Gate) (t : TicketId) (a : Ticket) : (g.stop t a).store = g.store := by
  unfold stop
  split <;> rfl

theorem get?_unregister_eq_some :
    (g.unregister id t).store.get? id' = some t' ↔
      g.store.get? id' = some t' ∧ ¬ (id' = id ∧ t' = t) := by
  unfold unregister
  split
  · next ht =>
    rw [Table.get?_erase]
    by_cases hid : id' = id
    · subst hid
      simpa [ht] using Eq.symm
    · simp [hid]
  · next ht =>
    refine ⟨fun h => ⟨h, ?_⟩, And.left⟩
    rintro ⟨rfl, rfl⟩
    exact ht h

theorem step_store (hs : Step g e r g') (ht : g'.store.get? id = some t) :
    g.store.get? id = some t ∨
      t = g.tickets.length ∧ (∃ a, g'.ticket? t = some a ∧ a.terms.uuid = id) ∧
        ∃ record, e = .add record := by
  cases hs with
  | add record grant =>
    rw [Table.get?_insert] at ht
    split at ht
    · next hid =>
      obtain rfl := Option.some.inj ht
      refine .inr ⟨rfl, ⟨Ticket.ofGrant g.config g.seconds grant, ?_, hid.symm⟩, record, rfl⟩
      simp [ticket?]
    · exact .inl ht
  | clear => simp [Table.get?_empty] at ht
  | cancelIdle | cancelBusy | cancelWaits | pursueIdle | pursueBusy | pursueWaits =>
    exact .inl (store_stop .. ▸ ht)
  | delete => exact .inl (get?_unregister_eq_some.mp ht).1
  | _ => exact .inl ht

theorem step_store_lost (hs : Step g e r g') (ht : g.store.get? id = some t)
    (hn : g'.store.get? id ≠ some t) :
    e = .clear ∨ (∃ record, e = .add record) ∨
      ∃ c, e = .delete c ∧ g.calls.get? c = some (.unused t id) := by
  cases hs with
  | clear => exact .inl rfl
  | add record grant => exact .inr (.inl ⟨record, rfl⟩)
  | cancelIdle | cancelBusy | cancelWaits | pursueIdle | pursueBusy | pursueWaits =>
    exact absurd ((congrArg (·.get? id) (store_stop ..)).trans ht) hn
  | @delete c t' id' hc =>
    have h : id = id' ∧ t = t' := Decidable.byContradiction fun h =>
      hn (get?_unregister_eq_some.mpr ⟨ht, h⟩)
    obtain ⟨rfl, rfl⟩ := h
    exact .inr (.inr ⟨c, rfl, hc⟩)
  | _ => exact absurd ht hn

theorem step_filed (hs : Step g e r g') (hg : g.Filed) : g'.Filed := by
  intro id t ht
  obtain ht | ⟨-, ha, -⟩ := step_store hs ht
  · obtain ⟨a, ha, rfl⟩ := hg id t ht
    have hterms := change_keeps (P := (·.terms = a.terms)) hs ha rfl fun x _ => Ticket.after_terms a x
    exact ⟨_, step_ticket hs ha, congrArg Terms.uuid hterms⟩
  · exact ha

theorem Filed.unique (hg : g.Filed) (ht : g.store.get? id = some t)
    (ht' : g.store.get? id' = some t) : id = id' := by
  obtain ⟨a, ha, rfl⟩ := hg id t ht
  obtain ⟨b, hb, rfl⟩ := hg id' t ht'
  rw [Option.some.inj (ha.symm.trans hb)]

theorem step_lost (hs : Step g e r g') (hg : g.Filed) (ht : g.store.get? id = some t)
    (hn : g'.store.get? id ≠ some t) (id' : String) : g'.store.get? id' ≠ some t := by
  intro ht'
  obtain h | ⟨rfl, -⟩ := step_store hs ht'
  · rw [hg.unique ht h] at hn
    exact hn ht'
  · obtain ⟨a, ha, -⟩ := hg id _ ht
    exact absurd (List.getElem?_eq_some_iff.mp ha).1 (Nat.lt_irrefl _)

/-- A ticket does not come back into the store. -/
theorem step_unregistered (hs : Step g e r g') (ha : g.ticket? t = some a)
    (hn : ∀ id, g.store.get? id ≠ some t) (id : String) : g'.store.get? id ≠ some t := by
  intro ht
  obtain ht | ⟨rfl, -⟩ := step_store hs ht
  · exact hn id ht
  · exact absurd (List.getElem?_eq_some_iff.mp ha).1 (Nat.lt_irrefl _)

namespace Run

variable {h : List Moment} {config : Config} {clock : Nat}

theorem filed (r : Run (initial config clock) h g) : g.Filed :=
  r.invariant (fun _ _ ht => by simp [initial, Table.get?_empty] at ht)
    fun _ _ _ hg hs => step_filed (step_of_step? hs) hg

theorem unregistered (r : Run g h g') (ha : g.ticket? t = some a)
    (hn : ∀ id, g.store.get? id ≠ some t) : ∀ id, g'.store.get? id ≠ some t := by
  suffices (∃ a, g'.ticket? t = some a) ∧ ∀ id, g'.store.get? id ≠ some t from this.2
  refine r.invariant (P := fun g => (∃ a, g.ticket? t = some a) ∧ ∀ id, g.store.get? id ≠ some t)
    ⟨⟨a, ha⟩, hn⟩ ?_
  rintro g e out ⟨⟨a, ha⟩, hn⟩ hs
  exact ⟨⟨_, step_ticket (step_of_step? hs) ha⟩, step_unregistered (step_of_step? hs) ha hn⟩

theorem uuid_of_stored (r : Run g h g') (hg : g'.Filed) (ha : g.ticket? t = some a)
    (ht : g'.store.get? id = some t) : id = a.terms.uuid := by
  obtain ⟨b, hb, rfl⟩ := hg id t ht
  obtain ⟨b', hb', hu⟩ := r.terms_kept ha
  rw [Option.some.inj (hb.symm.trans hb'), hu]

theorem not_drops (r : Run g h g') (ha : g.ticket? t = some a)
    (hn : ∀ id, g.store.get? id ≠ some t) : ∀ m ∈ h, ¬ m.Drops t := by
  rintro m hm ⟨-, id, ht, -⟩
  obtain ⟨h₁, h₂, -, r₁, -, -⟩ := r.split hm
  exact r₁.unregistered ha hn id ht

theorem drops_once (r : Run (initial config clock) h g) :
    h.Pairwise fun m m' => ¬ (m.Drops t ∧ m'.Drops t) := by
  induction r with
  | refl => exact List.Pairwise.nil
  | @step h g e out r hs ih =>
    refine List.pairwise_append.mpr ⟨ih, List.pairwise_singleton .., ?_⟩
    rintro m hm m' hm' ⟨⟨-, id, ht, hn⟩, -, id', ht', -⟩
    obtain rfl := List.mem_singleton.mp hm'
    obtain ⟨h₁, h₂, -, r₁, hs, r₂⟩ := r.split hm
    obtain ⟨a, ha, -⟩ := r₁.filed id t ht
    have ha' := step_ticket (step_of_step? hs) ha
    exact r₂.unregistered ha' (step_lost (step_of_step? hs) r₁.filed ht hn) id' ht'

end Run

end TicketGate.Gate
