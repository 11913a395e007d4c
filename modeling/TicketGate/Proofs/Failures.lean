import TicketGate.Proofs.Run

namespace TicketGate

/-- The same context, except that it closes well. -/
def Context.quiet (x : Context) : Context := { x with failure := none }

namespace Gate

def quiet (g : Gate) : Gate := { g with contexts := g.contexts.map Context.quiet }

def Event.quiet : Event → Event
  | .addContext t c _ => .addContext t c none
  | e => e

/-- All of an outcome but the log. -/
def Outcome.heard (out : Outcome) : Gate × Reply := (out.gate, out.reply)

def Outcome.quiet (out : Outcome) : Gate × Reply := (out.gate.quiet, out.reply)

variable {g g' : Gate} {h : List Moment}

theorem quiet_ticket? (g : Gate) (t : TicketId) : g.quiet.ticket? t = g.ticket? t := rfl

theorem quiet_operation? (g : Gate) (o : OperationId) :
    g.quiet.operation? o = g.operation? o := rfl

theorem quiet_find? (g : Gate) (id : String) : g.quiet.find? id = g.find? id := rfl

theorem quiet_calls (g : Gate) : g.quiet.calls = g.calls := rfl

theorem quiet_config (g : Gate) : g.quiet.config = g.config := rfl

theorem modify_close_map_quiet (xs : List Context) (x : ContextId) :
    (xs.map Context.quiet).modify x Context.close =
      (xs.modify x Context.close).map Context.quiet := by
  apply List.ext_getElem?
  intro i
  simp only [List.getElem?_modify, List.getElem?_map]
  split <;> simp [Function.comp_def, Context.quiet, Context.close]

theorem quiet_closeContext (g : Gate) (x : ContextId) :
    g.quiet.closeContext x = (g.closeContext x).quiet := by
  simp [closeContext, quiet, modify_close_map_quiet]

theorem quiet_closeAll (g : Gate) (a : Ticket) : g.quiet.closeAll a = (g.closeAll a).quiet := by
  simp only [closeAll, quiet, Gate.mk.injEq, true_and, and_true]
  generalize g.contexts = xs
  induction a.connections.entries generalizing xs with
  | nil => rfl
  | cons e es ih => rw [List.foldl_cons, List.foldl_cons, modify_close_map_quiet, ih]

theorem quiet_stop (g : Gate) (t : TicketId) (a : Ticket) :
    g.quiet.stop t a = (g.stop t a).quiet := by
  unfold stop
  split
  · rfl
  · exact quiet_closeAll (g.onTicket t Ticket.cancel) a

theorem quiet_unregister (g : Gate) (id : String) (t : TicketId) :
    g.quiet.unregister id t = (g.unregister id t).quiet := by
  unfold unregister
  rw [apply_ite quiet]
  rfl

theorem quiet_addContext (g : Gate) (t : TicketId) (a : Ticket) (c : ConnectionId)
    (failure : Option String) :
    (g.quiet.addContext t a c none).heard = (g.addContext t a c failure).quiet := by
  unfold addContext
  cases a.canceled <;> simp [Outcome.heard, Outcome.quiet, answer, quiet, onTicket, Context.quiet]

theorem quiet_getContext (g : Gate) (a : Ticket) (c : ConnectionId) :
    (g.quiet.getContext a c).heard = (g.getContext a c).quiet := by
  unfold getContext
  cases a.connections.get? c <;> rfl

theorem quiet_removeContext (g : Gate) (t : TicketId) (a : Ticket) (c : ConnectionId) :
    (g.quiet.removeContext t a c).heard = (g.removeContext t a c).quiet := by
  unfold removeContext
  cases a.connections.get? c with
  | none => rfl
  | some x => exact Prod.ext (quiet_closeContext (g.onTicket t (·.disconnect c)) x) rfl

theorem quiet_start (g : Gate) (t : TicketId) (a : Ticket) (offset done : Nat) :
    (g.quiet.start t a offset done).heard = (g.start t a offset done).quiet := by
  unfold start
  cases a.canceled <;> rfl

theorem quiet_cancel (g : Gate) (t : TicketId) (a : Ticket) (timeout : Nat) :
    (g.quiet.cancel t a timeout).heard = (g.cancel t a timeout).quiet := by
  simp only [cancel, quiet_stop]
  cases a.isActive with
  | false => rfl
  | true => by_cases hz : timeout = 0 <;> simp only [hz, ↓reduceIte] <;> rfl

theorem quiet_pursue? (g : Gate) (c : CallId) :
    (g.quiet.pursue? c).map Outcome.heard = (g.pursue? c).map Outcome.quiet := by
  unfold pursue?
  rw [quiet_calls, quiet_config]
  simp only [quiet_stop, quiet_ticket?]
  generalize g.config.removeTimeout * 1000 = timeout
  cases g.calls.get? c with
  | none => rfl
  | some call =>
    cases call with
    | found t id =>
      simp only [Option.map_map]
      congr 1
      funext a
      cases hb : a.isActive with
      | false => simp [hb]; rfl
      | true => by_cases hz : timeout = 0 <;> simp [hb, hz] <;> rfl
    | _ => rfl

theorem quiet_wake? (g : Gate) (c : CallId) :
    (g.quiet.wake? c).map Outcome.heard = (g.wake? c).map Outcome.quiet := by
  simp only [wake?, quiet_closeAll, quiet_calls]
  cases g.calls.get? c with
  | none => rfl
  | some call =>
    cases call with
    | waiting t deadline removal =>
      simp only [quiet_ticket?]
      cases g.ticket? t with
      | none => rfl
      | some a => cases hd : a.drained <;> cases removal <;> simp [hd] <;> rfl
    | _ => rfl

theorem quiet_delete? (g : Gate) (c : CallId) :
    (g.quiet.delete? c).map Outcome.heard = (g.delete? c).map Outcome.quiet := by
  unfold delete?
  rw [quiet_calls]
  split
  · simp only [quiet_unregister]
    rfl
  · rfl

theorem quiet_expire? (g : Gate) (c : CallId) :
    (g.quiet.expire? c).map Outcome.heard = (g.expire? c).map Outcome.quiet := by
  unfold expire?
  rw [quiet_calls]
  split
  · next t deadline removal hc =>
    rw [quiet_ticket?]
    cases g.ticket? t with
    | none => rfl
    | some a =>
      simp only [Option.bind_some, apply_ite (Option.map _), Option.map_some, Option.map_none]
      rfl
  · rfl

theorem quiet_finish? (g : Gate) (o : OperationId) (result : Except Fault Unit) :
    (g.quiet.finish? o result).map Outcome.heard = (g.finish? o result).map Outcome.quiet := by
  unfold finish?
  rw [quiet_operation?]
  cases g.operation? o with
  | none => rfl
  | some op =>
    simp only [Option.bind_eq_bind, Option.bind_some, quiet_ticket?]
    cases g.ticket? op.ticket with
    | none => rfl
    | some a =>
      simp only [Option.bind_some, apply_ite (Option.map _), Option.map_some, Option.map_none]
      rfl

theorem quiet_pass? (g : Gate) (ms : Nat) :
    (g.quiet.pass? ms).map Outcome.heard = (g.pass? ms).map Outcome.quiet := by
  unfold pass?
  simp only [apply_ite (Option.map _), Option.map_some, Option.map_none]
  rfl

theorem heard_map (o : Option Ticket) {f f' : Ticket → Outcome}
    (hf : ∀ a, (f a).heard = (f' a).quiet) :
    (o.map f).map Outcome.heard = (o.map f').map Outcome.quiet := by
  cases o with
  | none => rfl
  | some a => exact congrArg some (hf a)

theorem quiet_step? (g : Gate) (e : Event) :
    (g.quiet.step? e.quiet).map Outcome.heard = (g.step? e).map Outcome.quiet := by
  cases e with
  | add record =>
    simp only [step?, Event.quiet, add]
    cases Grant.ofJson Url.parse record <;> rfl
  | issue record =>
    simp only [step?, Event.quiet, issue]
    cases Grant.ofJson Url.parse record <;> rfl
  | get id | authorize id k | remove id =>
    simp only [step?, Event.quiet, get, authorize, remove, quiet_find?]
    cases g.find? id <;> rfl
  | clear => rfl
  | touch t | extend t s => exact heard_map (g.ticket? t) fun a => rfl
  | addContext t c failure => exact heard_map (g.ticket? t) fun a => quiet_addContext ..
  | getContext t c => exact heard_map (g.ticket? t) fun a => quiet_getContext ..
  | removeContext t c => exact heard_map (g.ticket? t) fun a => quiet_removeContext ..
  | start t offset done => exact heard_map (g.ticket? t) fun a => quiet_start ..
  | progress o done =>
    simp only [step?, Event.quiet, quiet_operation?]
    cases g.operation? o <;> rfl
  | finish o result => exact quiet_finish? ..
  | cancel t timeout => exact heard_map (g.ticket? t) fun a => quiet_cancel ..
  | pursue c => exact quiet_pursue? ..
  | wake c => exact quiet_wake? ..
  | delete c => exact quiet_delete? ..
  | expire c => exact quiet_expire? ..
  | pass ms => exact quiet_pass? ..

theorem step_quiet {e : Event} {out : Outcome} (hs : g.step? e = some out) :
    ∃ out', g.quiet.step? e.quiet = some out' ∧ out'.gate = out.gate.quiet ∧
      out'.reply = out.reply := by
  have hq := quiet_step? g e
  rw [hs] at hq
  obtain ⟨out', hs', hout⟩ := Option.map_eq_some_iff.mp hq
  exact ⟨out', hs', congrArg Prod.fst hout, congrArg Prod.snd hout⟩

theorem Run.quiet (r : Run g h g') :
    ∃ h', Run g.quiet h' g'.quiet ∧ h'.map Moment.event = h.map (·.event.quiet) ∧
      h'.map (·.outcome.reply) = h.map (·.outcome.reply) := by
  induction r with
  | refl => exact ⟨[], .refl, rfl, rfl⟩
  | @step h g' e out r hs ih =>
    obtain ⟨h', r', he, hr⟩ := ih
    obtain ⟨out', hs', hgate, hreply⟩ := step_quiet hs
    exact ⟨_, hgate ▸ r'.step hs', by simp [he], by simp [hr, hreply]⟩

end Gate

end TicketGate
