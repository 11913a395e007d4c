import TicketGate.Gate.Event

namespace TicketGate.Gate

/-- One event: the gate that it met with, and what came of it. -/
structure Moment where
  before : Gate
  event : Event
  outcome : Outcome

def Moment.after (m : Moment) : Gate := m.outcome.gate

/-- Events that lead from one state of the gate to another, with their history. -/
inductive Run (g : Gate) : List Moment → Gate → Prop
  | refl : Run g [] g
  | step {h : List Moment} {g' : Gate} {e : Event} {out : Outcome} :
      Run g h g' → g'.step? e = some out → Run g (h ++ [⟨g', e, out⟩]) out.gate

/-- At some moment of a history `p` has held, and at each moment since then `q` has. -/
def Since (p q : Moment → Prop) (h : List Moment) : Prop :=
  ∃ h₁ m h₂, h = h₁ ++ m :: h₂ ∧ p m ∧ ∀ m' ∈ h₂, q m'

def sampleRecord : Json :=
  .object [("ops", .array [.string "read"]), ("size", .ofNat 8), ("timeout", .ofNat 300),
    ("url", .string "file:///x"), ("uuid", .string "u")]

/-- Lets events happen one after the other, if they can. -/
def play (g : Gate) : List Event → Option (List Moment × Gate)
  | [] => some ([], g)
  | e :: es =>
    (g.step? e).bind fun out => (out.gate.play es).map fun r => (⟨g, e, out⟩ :: r.1, r.2)

theorem not_since_nil {p q : Moment → Prop} : ¬ Since p q [] := by
  rintro ⟨h₁, m, h₂, hh, -⟩
  simp at hh

theorem Since.imp {p p' q q' : Moment → Prop} {h : List Moment} (hs : Since p q h)
    (hp : ∀ m ∈ h, p m → p' m) (hq : ∀ m ∈ h, q m → q' m) : Since p' q' h := by
  obtain ⟨h₁, m, h₂, rfl, hm, hh⟩ := hs
  exact ⟨h₁, m, h₂, rfl, hp m (by simp) hm, fun m' hm' => hq m' (by simp [hm']) (hh m' hm')⟩

theorem since_concat {p q : Moment → Prop} {h : List Moment} {m : Moment} :
    Since p q (h ++ [m]) ↔ p m ∨ q m ∧ Since p q h := by
  constructor
  · rintro ⟨h₁, m', h₂, hh, hp, hq⟩
    obtain rfl | ⟨h₂, m'', rfl⟩ := List.eq_nil_or_concat h₂
    · obtain ⟨-, hm⟩ := List.append_inj' hh rfl
      obtain rfl := List.singleton_inj.mp hm
      exact .inl hp
    · rw [List.concat_eq_append, ← List.cons_append, ← List.append_assoc] at hh
      obtain ⟨rfl, hm⟩ := List.append_inj' hh rfl
      obtain rfl := List.singleton_inj.mp hm
      exact .inr ⟨hq m (by simp), h₁, m', h₂, rfl, hp, fun m'' hm'' => hq m'' (by simp [hm''])⟩
  · rintro (hp | ⟨hq, h₁, m', h₂, rfl, hp, hq'⟩)
    · exact ⟨h, m, [], rfl, hp, by simp⟩
    · exact ⟨h₁, m', h₂ ++ [m], by simp, hp,
        List.forall_mem_append.mpr ⟨hq', List.forall_mem_singleton.mpr hq⟩⟩

namespace Run

variable {g g' g'' : Gate} {h h' : List Moment}

theorem one {e : Event} {out : Outcome} (hs : g.step? e = some out) :
    Run g [⟨g, e, out⟩] out.gate := step refl hs

theorem eq_of_nil (r : Run g [] g') : g' = g := by
  generalize hh : [] = h at r
  cases r with
  | refl => rfl
  | step => simp at hh

theorem trans (r : Run g h g') (r' : Run g' h' g'') : Run g (h ++ h') g'' := by
  induction r' with
  | refl => simpa using r
  | step _ hs ih => simpa using ih.step hs

theorem through {e : Event} {out : Outcome} (r : Run g h g') (hs : g'.step? e = some out)
    (r' : Run out.gate h' g'') : Run g (h ++ ⟨g', e, out⟩ :: h') g'' := by
  simpa using (r.step hs).trans r'

/-- What holds in every state that can be reached. -/
theorem invariant {P : Gate → Prop} (r : Run g h g') (hg : P g)
    (hP : ∀ g e out, P g → g.step? e = some out → P out.gate) : P g' := by
  induction r with
  | refl => exact hg
  | step _ hs ih => exact hP _ _ _ ih hs

theorem parts {h₁ h₂ : List Moment} {m : Moment} (r : Run g (h₁ ++ m :: h₂) g') :
    Run g h₁ m.before ∧ m.before.step? m.event = some m.outcome ∧ Run m.after h₂ g' := by
  generalize hh : h₁ ++ m :: h₂ = h at r
  induction r generalizing h₂ with
  | refl => simp at hh
  | @step h g' e out r hs ih =>
    obtain rfl | ⟨h₂, m', rfl⟩ := List.eq_nil_or_concat h₂
    · obtain ⟨rfl, hm⟩ := List.append_inj' hh rfl
      obtain rfl := List.singleton_inj.mp hm
      exact ⟨r, hs, refl⟩
    · rw [List.concat_eq_append, ← List.cons_append, ← List.append_assoc] at hh
      obtain ⟨rfl, hm⟩ := List.append_inj' hh rfl
      obtain rfl := List.singleton_inj.mp hm
      obtain ⟨r₁, hm, r₂⟩ := ih rfl
      rw [List.concat_eq_append]
      exact ⟨r₁, hm, r₂.step hs⟩

theorem split {m : Moment} (r : Run g h g') (hm : m ∈ h) :
    ∃ h₁ h₂, h = h₁ ++ m :: h₂ ∧ Run g h₁ m.before ∧ m.before.step? m.event = some m.outcome ∧
      Run m.after h₂ g' := by
  obtain ⟨h₁, h₂, rfl⟩ := List.append_of_mem hm
  exact ⟨h₁, h₂, rfl, r.parts⟩

theorem of_play {es : List Event} {p : List Moment × Gate} (hp : g.play es = some p) :
    Run g p.1 p.2 ∧ p.1.map Moment.event = es := by
  induction es generalizing g p with
  | nil =>
    obtain rfl := Option.some.inj hp
    exact ⟨refl, rfl⟩
  | cons e es ih =>
    obtain ⟨out, hs, hp⟩ := Option.bind_eq_some_iff.mp hp
    obtain ⟨q, hq, rfl⟩ := Option.map_eq_some_iff.mp hp
    obtain ⟨r, he⟩ := ih hq
    exact ⟨(one hs).trans r, congrArg (e :: ·) he⟩

theorem of_play_any (g : Gate) (es : List Event) (f : List Moment → Gate → Bool)
    (hf : (g.play es).any (fun p => f p.1 p.2) = true) :
    ∃ h g', Run g h g' ∧ h.map Moment.event = es ∧ f h g' = true := by
  obtain ⟨p, hp, hf⟩ := (Option.any_eq_true ..).mp hf
  obtain ⟨r, he⟩ := of_play hp
  exact ⟨p.1, p.2, r, he, hf⟩

theorem of_play_at (g : Gate) (es₁ : List Event) (e : Event) (es₂ : List Event)
    (f : Moment → List Moment → Gate → Bool)
    (hf : (g.play (es₁ ++ e :: es₂)).any (fun p =>
      p.1[es₁.length]?.any fun m => f m (p.1.drop (es₁.length + 1)) p.2) = true) :
    ∃ h₁ m h₂ g', Run g (h₁ ++ m :: h₂) g' ∧ h₁.map Moment.event = es₁ ∧ m.event = e ∧
      h₂.map Moment.event = es₂ ∧ f m h₂ g' = true := by
  obtain ⟨h, g', r, he, hg⟩ := of_play_any g (es₁ ++ e :: es₂)
    (fun h g' => h[es₁.length]?.any fun m => f m (h.drop (es₁.length + 1)) g') hf
  obtain ⟨h₁, h₂, rfl, he₁, he₂⟩ := List.map_eq_append_iff.mp he
  obtain ⟨m, h₂, rfl, rfl, rfl⟩ := List.map_eq_cons_iff.mp he₂
  have hm : (h₁ ++ m :: h₂)[es₁.length]? = some m := by simp [← he₁]
  have hdrop : (h₁ ++ m :: h₂).drop (es₁.length + 1) = h₂ := by simp [← he₁]
  rw [hm, hdrop] at hg
  exact ⟨h₁, m, h₂, g', r, he₁, rfl, rfl, hg⟩

end Run

end TicketGate.Gate
