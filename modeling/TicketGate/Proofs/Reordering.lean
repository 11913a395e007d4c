import TicketGate.Proofs.Change
import TicketGate.Proofs.Positions
import TicketGate.Ticket.Info

namespace TicketGate

variable {κ α : Type}

def Table.Alike (s t : Table κ α) : Prop := s.entries.Perm t.entries

namespace Table

variable {s t u : Table κ α}

theorem Alike.refl (t : Table κ α) : t.Alike t := List.Perm.refl _

theorem Alike.symm (h : s.Alike t) : t.Alike s := List.Perm.symm h

theorem Alike.trans (h : s.Alike t) (h' : t.Alike u) : s.Alike u := List.Perm.trans h h'

theorem Alike.size_eq (h : s.Alike t) : s.size = t.size := h.length_eq

variable [DecidableEq κ]

theorem Alike.get? (h : s.Alike t) (k : κ) : s.get? k = t.get? k :=
  Option.ext fun a => by rw [get?_eq_some_iff, get?_eq_some_iff, h.mem_iff]

theorem alike_iff : s.Alike t ↔ ∀ k, s.get? k = t.get? k := by
  refine ⟨fun h => h.get?, fun h => ?_⟩
  refine (List.perm_ext_iff_of_nodup (.of_map _ s.nodup) (.of_map _ t.nodup)).mpr ?_
  rintro ⟨k, a⟩
  rw [← get?_eq_some_iff, ← get?_eq_some_iff, h]

theorem Alike.insert (h : s.Alike t) (k : κ) (a : α) : (s.insert k a).Alike (t.insert k a) :=
  alike_iff.mpr fun j => by rw [get?_insert, get?_insert, h.get?]

theorem Alike.erase (h : s.Alike t) (k : κ) : (s.erase k).Alike (t.erase k) :=
  alike_iff.mpr fun j => by rw [get?_erase, get?_erase, h.get?]

theorem entries_perm {k : κ} {a : α} (h : t.get? k = some a) :
    t.entries.Perm ((k, a) :: (t.erase k).entries) := by
  have hk : (k, a) ∉ (t.erase k).entries := fun hmem =>
    t.not_mem_keys_erase k (List.mem_map_of_mem hmem)
  refine (List.perm_ext_iff_of_nodup (.of_map _ t.nodup)
    (List.nodup_cons.mpr ⟨hk, .of_map _ (t.erase k).nodup⟩)).mpr ?_
  rintro ⟨j, b⟩
  rw [List.mem_cons, ← get?_eq_some_iff, ← get?_eq_some_iff, get?_erase]
  by_cases hj : j = k
  · subst hj
    simp [h, eq_comm]
  · simp [hj]

end Table

namespace Ticket

/-- The same ticket, with its operations and connections listed in whatever order. -/
structure Alike (a b : Ticket) : Prop where
  terms : a.terms = b.terms
  expires : a.expires = b.expires
  accessed : a.accessed = b.accessed
  ongoing : a.ongoing.Perm b.ongoing
  completed : a.completed = b.completed
  canceled : a.canceled = b.canceled
  drained : a.drained = b.drained
  connections : a.connections.Alike b.connections

variable {a b c : Ticket}

theorem Alike.refl (a : Ticket) : a.Alike a :=
  ⟨rfl, rfl, rfl, .refl _, rfl, rfl, rfl, .refl _⟩

theorem Alike.symm (h : a.Alike b) : b.Alike a :=
  ⟨h.terms.symm, h.expires.symm, h.accessed.symm, h.ongoing.symm, h.completed.symm,
    h.canceled.symm, h.drained.symm, h.connections.symm⟩

theorem Alike.trans (h : a.Alike b) (h' : b.Alike c) : a.Alike c :=
  ⟨h.terms.trans h'.terms, h.expires.trans h'.expires, h.accessed.trans h'.accessed,
    h.ongoing.trans h'.ongoing, h.completed.trans h'.completed, h.canceled.trans h'.canceled,
    h.drained.trans h'.drained, h.connections.trans h'.connections⟩

theorem Alike.isActive (h : a.Alike b) : a.isActive = b.isActive := by
  rw [Ticket.isActive, Ticket.isActive, h.ongoing.isEmpty_eq]

theorem Alike.after (h : a.Alike b) (x : Change) : (a.after x).Alike (b.after x) := by
  cases x with
  | touch now => exact { h with expires := by simp [Ticket.after, touch, h.terms], accessed := rfl }
  | extend now seconds => exact { h with expires := rfl }
  | connect c x => exact { h with connections := h.connections.insert c x }
  | disconnect c => exact { h with connections := h.connections.erase c }
  | enter o => exact { h with ongoing := h.ongoing.append_right [o] }
  | leave now o moved =>
    have ho := h.ongoing.erase o
    exact { h with
      expires := by simp [Ticket.after, leave, touch, h.terms]
      accessed := rfl
      ongoing := ho
      completed := by
        simp [Ticket.after, leave, touch, counts, h.terms, h.canceled, h.completed]
      drained := by
        simp [Ticket.after, leave, touch, h.drained, h.canceled, ho.isEmpty_eq] }
  | cancel => exact { h with canceled := rfl }

theorem Alike.stopped (h : a.Alike b) : a.stopped = b.stopped := by
  rw [Ticket.stopped, Ticket.stopped, h.terms]

theorem Alike.runReply (h : a.Alike b) (result : Except Fault Unit) :
    Gate.runReply a result = Gate.runReply b result := by
  simp only [Gate.runReply, h.canceled, h.stopped]

theorem Alike.info (h : a.Alike b) (now : Nat) (progress : OperationId → ByteRange) :
    a.info now progress = b.info now progress := by
  have htransferred : a.transferred progress = b.transferred progress := by
    rw [transferred, transferred, h.terms, h.completed,
      Coverage.addAll_perm _ (h.ongoing.map progress)]
  simp only [Ticket.info, idleTime, h.isActive, h.canceled, h.connections.size_eq, h.expires,
    h.accessed, htransferred, h.terms]

end Ticket

namespace Gate

/-- The same gate, but for the order in which things are listed. -/
structure Alike (g g' : Gate) : Prop where
  config : g.config = g'.config
  clock : g.clock = g'.clock
  tickets : List.Forall₂ Ticket.Alike g.tickets g'.tickets
  store : g.store.Alike g'.store
  operations : g.operations = g'.operations
  contexts : g.contexts = g'.contexts
  calls : g.calls.Alike g'.calls
  nextCall : g.nextCall = g'.nextCall

structure Outcome.Alike (out out' : Outcome) : Prop where
  gate : out.gate.Alike out'.gate
  reply : out.reply = out'.reply

variable {g g' g'' : Gate} {a b : Ticket} {t : TicketId} {h : List Moment}

theorem Alike.refl (g : Gate) : g.Alike g :=
  ⟨rfl, rfl, List.forall₂_same.mpr fun a _ => .refl a, .refl _, rfl, rfl, .refl _, rfl⟩

theorem Alike.symm (h : g.Alike g') : g'.Alike g :=
  ⟨h.config.symm, h.clock.symm, h.tickets.flip.imp fun _ _ hab => hab.symm, h.store.symm,
    h.operations.symm, h.contexts.symm, h.calls.symm, h.nextCall.symm⟩

theorem forall₂_trans {as bs cs : List Ticket} (h : List.Forall₂ Ticket.Alike as bs)
    (h' : List.Forall₂ Ticket.Alike bs cs) : List.Forall₂ Ticket.Alike as cs := by
  induction h generalizing cs with
  | nil => exact h'
  | cons hab _ ih =>
    cases h' with
    | cons hbc h' => exact .cons (hab.trans hbc) (ih h')

theorem Alike.trans (h : g.Alike g') (h' : g'.Alike g'') : g.Alike g'' :=
  ⟨h.config.trans h'.config, h.clock.trans h'.clock, forall₂_trans h.tickets h'.tickets,
    h.store.trans h'.store, h.operations.trans h'.operations, h.contexts.trans h'.contexts,
    h.calls.trans h'.calls, h.nextCall.trans h'.nextCall⟩

theorem forall₂_modify {as bs : List Ticket} {f : Ticket → Ticket}
    (h : List.Forall₂ Ticket.Alike as bs) (hf : ∀ a b, a.Alike b → (f a).Alike (f b)) (t : Nat) :
    List.Forall₂ Ticket.Alike (as.modify t f) (bs.modify t f) := by
  induction h generalizing t with
  | nil => simp
  | cons hab hrest ih =>
    cases t with
    | zero => exact .cons (hf _ _ hab) hrest
    | succ t => exact .cons hab (ih t)

theorem rel_getElem? {as bs : List Ticket} (h : List.Forall₂ Ticket.Alike as bs) (t : Nat) :
    Option.Rel Ticket.Alike as[t]? bs[t]? := by
  induction h generalizing t with
  | nil => exact .none
  | cons hab _ ih =>
    cases t with
    | zero => exact .some hab
    | succ t => simpa using ih t

theorem rel_cases {β γ : Type} {R : β → γ → Prop} {o : Option β} {o' : Option γ}
    (h : Option.Rel R o o') :
    (o = none ∧ o' = none) ∨ ∃ x y, o = some x ∧ o' = some y ∧ R x y := by
  cases h with
  | none => exact .inl ⟨rfl, rfl⟩
  | some hxy => exact .inr ⟨_, _, rfl, rfl, hxy⟩

theorem rel_map {β γ δ ε : Type} {R : β → γ → Prop} {S : δ → ε → Prop} {o : Option β}
    {o' : Option γ} {f : β → δ} {f' : γ → ε} (h : Option.Rel R o o')
    (hf : ∀ x y, R x y → S (f x) (f' y)) : Option.Rel S (o.map f) (o'.map f') := by
  cases h with
  | none => exact .none
  | some hxy => exact .some (hf _ _ hxy)

theorem rel_bind {β γ δ ε : Type} {R : β → γ → Prop} {S : δ → ε → Prop} {o : Option β}
    {o' : Option γ} {f : β → Option δ} {f' : γ → Option ε} (h : Option.Rel R o o')
    (hf : ∀ x y, R x y → Option.Rel S (f x) (f' y)) : Option.Rel S (o.bind f) (o'.bind f') := by
  cases h with
  | none => exact .none
  | some hxy => exact hf _ _ hxy

theorem modify_comm {β : Type} {f f' : β → β} {l : List β} {i j : Nat}
    (hf : i = j → ∀ x ∈ l[i]?, f' (f x) = f (f' x)) :
    (l.modify i f).modify j f' = (l.modify j f').modify i f := by
  apply List.ext_getElem?
  intro k
  simp only [List.getElem?_modify]
  by_cases hi : i = k
  · by_cases hj : j = k
    · subst hi
      subst hj
      cases hx : l[j]? with
      | none => rfl
      | some x => simpa using hf rfl x hx
    · simp [hi, hj]
  · simp [hi]

namespace Alike

theorem seconds (h : g.Alike g') : g.seconds = g'.seconds := by
  rw [Gate.seconds, Gate.seconds, h.clock]

theorem ticket? (h : g.Alike g') (t : TicketId) :
    Option.Rel Ticket.Alike (g.ticket? t) (g'.ticket? t) := rel_getElem? h.tickets t

theorem operation? (h : g.Alike g') (o : OperationId) : g.operation? o = g'.operation? o := by
  rw [Gate.operation?, Gate.operation?, h.operations]

theorem progress (h : g.Alike g') : g.progress = g'.progress := by
  funext o
  rw [Gate.progress, Gate.progress, h.operation?]

theorem onTicket (h : g.Alike g') {f : Ticket → Ticket}
    (hf : ∀ a b, a.Alike b → (f a).Alike (f b)) (t : TicketId) :
    (g.onTicket t f).Alike (g'.onTicket t f) :=
  { h with tickets := forall₂_modify h.tickets hf t }

theorem onOperation (h : g.Alike g') (o : OperationId) (f : Operation → Operation) :
    (g.onOperation o f).Alike (g'.onOperation o f) :=
  { h with operations := congrArg (·.modify o f) h.operations }

theorem hold (h : g.Alike g') (c : CallId) (call : Call) :
    (g.hold c call).Alike (g'.hold c call) :=
  { h with calls := h.calls.insert c call }

theorem drop (h : g.Alike g') (c : CallId) : (g.drop c).Alike (g'.drop c) :=
  { h with calls := h.calls.erase c }

theorem closeAll (h : g.Alike g') (hab : a.Alike b) : (g.closeAll a).Alike (g'.closeAll b) :=
  { h with
    contexts := by
      simp only [Gate.closeAll, h.contexts]
      exact hab.connections.foldl_eq' (fun x _ y _ xs => modify_comm fun _ _ _ => rfl) _ }

theorem signalAll (h : g.Alike g') (hab : a.Alike b) : (g.signalAll a).Alike (g'.signalAll b) :=
  { h with
    operations := by
      simp only [Gate.signalAll, h.operations]
      exact hab.ongoing.foldl_eq' (fun o _ p _ os => modify_comm fun _ _ _ => rfl) _ }

theorem stop (h : g.Alike g') (hab : a.Alike b) (t : TicketId) :
    (g.stop t a).Alike (g'.stop t b) := by
  have hcanceled := h.onTicket (fun _ _ hab => hab.after .cancel) t
  unfold Gate.stop
  rw [hab.isActive]
  split
  · exact hcanceled.signalAll hab
  · exact hcanceled.closeAll hab

theorem unregister (h : g.Alike g') (id : String) (t : TicketId) :
    (g.unregister id t).Alike (g'.unregister id t) := by
  unfold Gate.unregister
  rw [h.store.get?]
  split
  · exact { h with store := h.store.erase id }
  · exact h

theorem answer (h : g.Alike g') (r : Reply) : (g.answer r).Alike (g'.answer r) := ⟨h, rfl⟩

theorem find? (h : g.Alike g') (id : String) :
    Option.Rel (fun x y => x.1 = y.1 ∧ x.2.Alike y.2) (g.find? id) (g'.find? id) := by
  simp only [Gate.find?, Option.bind_eq_bind, h.store.get?]
  cases g'.store.get? id with
  | none => exact .none
  | some t =>
    simp only [Option.bind_some]
    refine rel_bind (h.ticket? t) fun a b hab => ?_
    exact .some ⟨rfl, hab⟩

theorem grant (h : g.Alike g') (grant : Grant) :
    List.Forall₂ Ticket.Alike (g.tickets ++ [Ticket.ofGrant g.config g.seconds grant])
      (g'.tickets ++ [Ticket.ofGrant g'.config g'.seconds grant]) := by
  rw [h.config, h.seconds]
  exact List.rel_append h.tickets (.cons (.refl _) .nil)

theorem add (h : g.Alike g') (record : Json) : (g.add record).Alike (g'.add record) := by
  unfold Gate.add
  cases Grant.ofJson Url.parse record with
  | error f => exact h.answer _
  | ok grant =>
    refine ⟨{ h with tickets := h.grant grant, store := ?_ }, rfl⟩
    rw [h.tickets.length_eq]
    exact h.store.insert _ _

theorem issue (h : g.Alike g') (record : Json) : (g.issue record).Alike (g'.issue record) := by
  unfold Gate.issue
  cases Grant.ofJson Url.parse record with
  | error f => exact h.answer _
  | ok grant => exact ⟨{ h with tickets := h.grant grant }, by rw [h.tickets.length_eq]⟩

theorem get (h : g.Alike g') (id : String) : (g.get id).Alike (g'.get id) := by
  unfold Gate.get
  obtain ⟨hx, hy⟩ | ⟨x, y, hx, hy, ht, -⟩ := rel_cases (h.find? id)
  · rw [hx, hy]
    exact h.answer _
  · rw [hx, hy]
    exact ⟨h, congrArg Reply.ticket ht⟩

theorem denial? (h : g.Alike g') (hab : a.Alike b) (k : Access) :
    g.denial? a k = g'.denial? b k := by
  simp only [Gate.denial?, Ticket.allows, hab.canceled, hab.expires, hab.terms, h.seconds]
  rfl

theorem authorize (h : g.Alike g') (id : String) (k : Access) :
    (g.authorize id k).Alike (g'.authorize id k) := by
  unfold Gate.authorize
  obtain ⟨hx, hy⟩ | ⟨x, y, hx, hy, ht, hab⟩ := rel_cases (h.find? id)
  · rw [hx, hy]
    exact h.answer _
  · rw [hx, hy]
    refine ⟨h, ?_⟩
    simp only [h.denial? hab, ht]

theorem remove (h : g.Alike g') (id : String) : (g.remove id).Alike (g'.remove id) := by
  unfold Gate.remove
  obtain ⟨hx, hy⟩ | ⟨x, y, hx, hy, ht, -⟩ := rel_cases (h.find? id)
  · rw [hx, hy]
    exact ⟨h, rfl⟩
  · rw [hx, hy]
    simp only [h.nextCall, ht]
    exact ⟨{ h.hold g'.nextCall (.found y.1 id) with nextCall := rfl }, rfl⟩

theorem addContext (h : g.Alike g') (hab : a.Alike b) (t : TicketId) (c : ConnectionId)
    (failure : Option String) :
    (g.addContext t a c failure).Alike (g'.addContext t b c failure) := by
  have hnew : ({ g with contexts := g.contexts ++ [⟨failure, 0⟩] } : Gate).Alike
      { g' with contexts := g'.contexts ++ [⟨failure, 0⟩] } :=
    { h with contexts := by simp only [h.contexts] }
  unfold Gate.addContext
  simp only [hab.canceled, hab.stopped, h.contexts]
  split
  · exact ⟨by simpa only [Gate.answer, h.contexts] using hnew, rfl⟩
  · refine ⟨?_, rfl⟩
    simp only [h.contexts] at hnew
    exact hnew.onTicket (fun _ _ hab => hab.after (.connect c g'.contexts.length)) t

theorem getContext (h : g.Alike g') (hab : a.Alike b) (c : ConnectionId) :
    (g.getContext a c).Alike (g'.getContext b c) := by
  unfold Gate.getContext
  rw [hab.connections.get?, hab.terms]
  split <;> exact h.answer _

theorem removeContext (h : g.Alike g') (hab : a.Alike b) (t : TicketId) (c : ConnectionId) :
    (g.removeContext t a c).Alike (g'.removeContext t b c) := by
  unfold Gate.removeContext
  rw [hab.connections.get?]
  split
  · exact h.answer _
  · next x _ =>
    have hrest := h.onTicket (fun _ _ hab => hab.after (.disconnect c)) t
    exact ⟨{ hrest with contexts := congrArg (·.modify x Context.close) h.contexts }, rfl⟩

theorem start (h : g.Alike g') (hab : a.Alike b) (t : TicketId) (offset done : Nat) :
    (g.start t a offset done).Alike (g'.start t b offset done) := by
  unfold Gate.start
  simp only [hab.canceled, hab.stopped, h.operations]
  split
  · exact ⟨{ h with operations := rfl }, rfl⟩
  · have hrest := h.onTicket (fun _ _ hab => hab.after (.enter g'.operations.length)) t
    exact ⟨{ hrest with operations := rfl }, rfl⟩

theorem deadline (h : g.Alike g') (timeout : Nat) : g.deadline timeout = g'.deadline timeout := by
  rw [Gate.deadline, Gate.deadline, h.clock]

theorem cancel (h : g.Alike g') (hab : a.Alike b) (t : TicketId) (timeout : Nat) :
    (g.cancel t a timeout).Alike (g'.cancel t b timeout) := by
  have hstop := h.stop hab t
  unfold Gate.cancel
  simp only [hab.isActive, h.nextCall, h.deadline]
  split
  · split
    · exact ⟨hstop, rfl⟩
    · exact ⟨{ hstop.hold g'.nextCall (.waiting t (g'.deadline timeout) none) with
        nextCall := rfl }, rfl⟩
  · exact ⟨hstop, rfl⟩

theorem pursue? (h : g.Alike g') (c : CallId) :
    Option.Rel Outcome.Alike (g.pursue? c) (g'.pursue? c) := by
  unfold Gate.pursue?
  rw [h.calls.get?, h.config]
  split
  · next t id _ =>
    refine rel_map (h.ticket? t) fun a b hab => ?_
    have hstop := h.stop hab t
    simp only [hab.isActive, h.deadline]
    split
    · split
      · exact ⟨hstop.drop c, rfl⟩
      · exact ⟨hstop.hold c _, rfl⟩
    · exact ⟨hstop.hold c _, rfl⟩
  · exact .none

theorem wake? (h : g.Alike g') (c : CallId) :
    Option.Rel Outcome.Alike (g.wake? c) (g'.wake? c) := by
  unfold Gate.wake?
  rw [h.calls.get?]
  split
  · next t deadline removal _ =>
    refine rel_bind (h.ticket? t) fun a b hab => ?_
    have hclosed := h.closeAll hab
    simp only [hab.drained]
    split
    · cases removal with
      | none => exact .some ⟨hclosed.drop c, rfl⟩
      | some id => exact .some ⟨hclosed.hold c _, rfl⟩
    · exact .none
  · exact .none

theorem delete? (h : g.Alike g') (c : CallId) :
    Option.Rel Outcome.Alike (g.delete? c) (g'.delete? c) := by
  unfold Gate.delete?
  rw [h.calls.get?]
  split
  · next t id _ => exact .some ⟨(h.unregister id t).drop c, rfl⟩
  · exact .none

theorem expire? (h : g.Alike g') (c : CallId) :
    Option.Rel Outcome.Alike (g.expire? c) (g'.expire? c) := by
  unfold Gate.expire?
  rw [h.calls.get?]
  split
  · next t deadline removal _ =>
    refine rel_bind (h.ticket? t) fun a b hab => ?_
    simp only [hab.drained, hab.terms, h.clock]
    split
    · exact .some ⟨h.drop c, rfl⟩
    · exact .none
  · exact .none

theorem finish? (h : g.Alike g') (o : OperationId) (result : Except Fault Unit) :
    Option.Rel Outcome.Alike (g.finish? o result) (g'.finish? o result) := by
  unfold Gate.finish?
  rw [h.operation?]
  cases g'.operation? o with
  | none => exact .none
  | some op =>
    simp only [Option.bind_eq_bind, Option.bind_some]
    refine rel_bind (h.ticket? op.ticket) fun a b hab => ?_
    simp only [hab.ongoing.contains_eq, h.seconds, hab.runReply]
    split
    · have hleft := h.onTicket (fun _ _ hab => hab.after (.leave g'.seconds o op.moved)) op.ticket
      exact .some ⟨hleft, rfl⟩
    · exact .none

theorem allowsPause (h : g.Alike g') (ms : Nat) (call : Call) :
    g.allowsPause ms call = g'.allowsPause ms call := by
  cases call with
  | waiting t deadline removal =>
    simp only [Gate.allowsPause, h.clock]
    obtain ⟨ha, hb⟩ | ⟨a, b, ha, hb, hab⟩ := rel_cases (h.ticket? t)
    · rw [ha, hb]
    · rw [ha, hb, Option.any_some, Option.any_some, hab.drained]
  | _ => rfl

theorem pass? (h : g.Alike g') (ms : Nat) :
    Option.Rel Outcome.Alike (g.pass? ms) (g'.pass? ms) := by
  unfold Gate.pass?
  simp only [h.allowsPause, List.Perm.all_eq h.calls, h.clock]
  split
  · exact .some ⟨{ h with clock := rfl }, rfl⟩
  · exact .none

/-- Whatever can happen at a gate can happen at one that differs in order only, with the same
answer, and the gates differ in order only afterwards. -/
theorem step? (h : g.Alike g') (e : Event) :
    Option.Rel Outcome.Alike (g.step? e) (g'.step? e) := by
  cases e with
  | add record => exact .some (h.add record)
  | issue record => exact .some (h.issue record)
  | get id => exact .some (h.get id)
  | authorize id k => exact .some (h.authorize id k)
  | remove id => exact .some (h.remove id)
  | clear => exact .some ⟨{ h with store := .refl _ }, rfl⟩
  | touch t =>
    refine rel_map (h.ticket? t) fun _ _ _ => ⟨?_, rfl⟩
    simp only [Gate.answer, h.seconds]
    exact h.onTicket (fun _ _ hab => hab.after (.touch g'.seconds)) t
  | extend t s =>
    refine rel_map (h.ticket? t) fun _ _ _ => ⟨?_, rfl⟩
    simp only [Gate.answer, h.seconds]
    exact h.onTicket (fun _ _ hab => hab.after (.extend g'.seconds s)) t
  | addContext t c failure =>
    exact rel_map (h.ticket? t) fun _ _ hab => h.addContext hab t c failure
  | getContext t c => exact rel_map (h.ticket? t) fun _ _ hab => h.getContext hab c
  | removeContext t c => exact rel_map (h.ticket? t) fun _ _ hab => h.removeContext hab t c
  | start t offset done => exact rel_map (h.ticket? t) fun _ _ hab => h.start hab t offset done
  | progress o done =>
    simp only [Gate.step?, h.operation?]
    cases g'.operation? o with
    | none => exact .none
    | some op => exact .some ⟨h.onOperation o _, rfl⟩
  | finish o result => exact h.finish? o result
  | cancel t timeout => exact rel_map (h.ticket? t) fun _ _ hab => h.cancel hab t timeout
  | pursue c => exact h.pursue? c
  | wake c => exact h.wake? c
  | delete c => exact h.delete? c
  | expire c => exact h.expire? c
  | pass ms => exact h.pass? ms

theorem step {e : Event} {out : Outcome} (h : g.Alike g') (hs : g.step? e = some out) :
    ∃ out', g'.step? e = some out' ∧ out.Alike out' := by
  obtain ⟨hx, -⟩ | ⟨x, y, hx, hy, hxy⟩ := rel_cases (h.step? e)
  · simp [hx] at hs
  · obtain rfl := Option.some.inj (hx.symm.trans hs)
    exact ⟨y, hy, hxy⟩

theorem step_eq_none {e : Event} (h : g.Alike g') (hs : g.step? e = none) : g'.step? e = none := by
  cases hs' : g'.step? e with
  | none => rfl
  | some out =>
    obtain ⟨out', hs'', -⟩ := h.symm.step hs'
    simp [hs] at hs''

theorem snapshot (h : g.Alike g') (t : TicketId) :
    (g.ticket? t).map (·.info g.seconds g.progress) =
      (g'.ticket? t).map (·.info g'.seconds g'.progress) := by
  obtain ⟨ha, hb⟩ | ⟨a, b, ha, hb, hab⟩ := rel_cases (h.ticket? t)
  · rw [ha, hb, Option.map_none, Option.map_none]
  · rw [ha, hb, Option.map_some, Option.map_some, hab.info, h.seconds, h.progress]

end Alike

def Moment.said (m : Moment) : Event × Reply := (m.event, m.outcome.reply)

/-- Events with their answers, before each of which the tables may come in another order. -/
inductive Shuffled (g : Gate) : List (Event × Reply) → Gate → Prop
  | refl : Shuffled g [] g
  | reorder {as : List (Event × Reply)} {g' g'' : Gate} :
      Shuffled g as g' → g'.Alike g'' → Shuffled g as g''
  | step {as : List (Event × Reply)} {g' : Gate} {e : Event} {out : Outcome} :
      Shuffled g as g' → g'.step? e = some out → Shuffled g (as ++ [(e, out.reply)]) out.gate

theorem Run.alike (r : Run g h g') {f : Gate} (hf : g.Alike f) :
    ∃ h' f', Run f h' f' ∧ h'.map Moment.said = h.map Moment.said ∧ g'.Alike f' := by
  induction r with
  | refl => exact ⟨[], f, .refl, rfl, hf⟩
  | @step h g' e out r hs ih =>
    obtain ⟨h', f', r', hsaid, hf'⟩ := ih
    obtain ⟨out', hs', hout⟩ := hf'.step hs
    refine ⟨_, out'.gate, r'.step hs', ?_, hout.gate⟩
    simp [Moment.said, hsaid, hout.reply]

theorem Run.shuffled (r : Run g h g') : Shuffled g (h.map Moment.said) g' := by
  induction r with
  | refl => exact .refl
  | step _ hs ih =>
    rw [List.map_append]
    exact ih.step hs

/-- The order of the tables makes no difference, however often it changes. -/
theorem Shuffled.run {as : List (Event × Reply)} (s : Shuffled g as g') :
    ∃ h f, Run g h f ∧ h.map Moment.said = as ∧ f.Alike g' := by
  induction s with
  | refl => exact ⟨[], g, .refl, rfl, .refl g⟩
  | reorder _ halike ih =>
    obtain ⟨h, f, r, hsaid, hf⟩ := ih
    exact ⟨h, f, r, hsaid, hf.trans halike⟩
  | @step as g' e out _ hs ih =>
    obtain ⟨h, f, r, hsaid, hf⟩ := ih
    obtain ⟨out', hs', hout⟩ := hf.symm.step hs
    refine ⟨_, out'.gate, r.step hs', ?_, hout.gate.symm⟩
    simp [Moment.said, hsaid, hout.reply]

end Gate

end TicketGate
