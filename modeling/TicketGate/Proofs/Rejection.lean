import TicketGate.Gate.Event
import TicketGate.Proofs.Acceptance

namespace TicketGate.Grant

/-- What a record is blamed for. -/
inductive Blames (parse : String → Except Url.Flaw Url) : Json → Fault → Prop
  | notAnObject {v : Json} : (∀ fs, v ≠ .object fs) → Blames parse v (.notAnObject v.compact)
  | field {fs : Fields} {earlier later : List Field} {f : Field} {x : Fault} :
      Field.all = earlier ++ f :: later → (∀ e ∈ earlier, e.Good parse fs) →
      f.Wrong parse fs x → Blames parse (.object fs) x

variable {parse : String → Except Url.Flaw Url} {fs : Fields} {v : Json} {x : Fault}

theorem ofJson_eq_error_iff : ofJson parse v = .error x ↔ Blames parse v x := by
  by_cases hv : ∃ fs, v = .object fs
  · obtain ⟨fs, rfl⟩ := hv
    rw [← faultOf_eq_some_iff, faultOf_ofJson, List.findSome?_eq_some_iff]
    simp only [Field.fault?_eq_some_iff, Field.fault?_eq_none_iff]
    constructor
    · rintro ⟨earlier, f, later, hall, hw, hgood⟩
      exact .field hall hgood hw
    · rintro (hn | ⟨hall, hgood, hw⟩)
      · exact absurd rfl (hn fs)
      · exact ⟨_, _, _, hall, hw, hgood⟩
  · have hn (fs : Fields) : v ≠ .object fs := fun h => hv ⟨fs, h⟩
    have hread : ofJson parse v = .error (.notAnObject v.compact) := by
      cases v with
      | object fs => exact absurd rfl (hn fs)
      | _ => rfl
    rw [hread, Except.error.injEq]
    constructor
    · rintro rfl
      exact .notAnObject hn
    · rintro (h | h)
      · rfl
      · exact absurd rfl (hn _)

theorem add_eq_fault_iff {g : Gate} :
    g.step? (.add v) = some (g.answer (.fault x)) ↔ ofJson Url.parse v = .error x := by
  simp only [Gate.step?, Gate.add, Gate.answer]
  cases ofJson Url.parse v <;> simp

theorem issue_eq_fault_iff {g : Gate} :
    g.step? (.issue v) = some (g.answer (.fault x)) ↔ ofJson Url.parse v = .error x := by
  simp only [Gate.step?, Gate.issue, Gate.answer]
  cases ofJson Url.parse v <;> simp

theorem not_good_of_length {items : List Json}
    (hi : Json.field? fs "ops" = some (.array items)) (hl : 3 ≤ items.length) :
    ¬ Field.ops.Good parse fs := by
  simp only [Field.Good, Field.key, hi]
  rintro ⟨ks, -, hks, hv⟩
  have hlen : items.length = ks.length := by
    rw [Json.array.inj hv, accessNames, List.length_map]
  have := length_le_two hks
  omega

/-- A record that is not accepted is blamed for its first bad field, whoever reads it: a required one
that is not there, or one with a bad value, for what is wrong with the value. No list of three or more
kinds of access is good. -/
theorem record_blamed_iff (parse : String → Except Url.Flaw Url) (v : Json) :
    (∀ x, ofJson parse v = .error x ↔ Blames parse v x) ∧
    (∀ (g : Gate) x,
      (g.step? (.add v) = some (g.answer (.fault x)) ↔ Blames Url.parse v x) ∧
      (g.step? (.issue v) = some (g.answer (.fault x)) ↔ Blames Url.parse v x)) ∧
    ∀ fs items, v = .object fs → Json.field? fs "ops" = some (.array items) → 3 ≤ items.length →
      ∃ x, ofJson parse v = .error x := by
  refine ⟨fun x => ofJson_eq_error_iff, fun g x => ⟨?_, ?_⟩, ?_⟩
  · exact add_eq_fault_iff.trans ofJson_eq_error_iff
  · exact issue_eq_fault_iff.trans ofJson_eq_error_iff
  · rintro fs items rfl hi hl
    cases hread : ofJson parse (.object fs) with
    | error x => exact ⟨x, rfl⟩
    | ok g => exact absurd (ofJson_object_isOk_iff.mp ⟨g, hread⟩ .ops) (not_good_of_length hi hl)

theorem record_blamed_for_third_kind :
    ∃ fs items x, Json.field? fs "ops" = some (.array items) ∧ 3 ≤ items.length ∧
      Json.field? fs "timeout" = none ∧ ofJson Url.parse (.object fs) = .error x ∧
      x = .badField "ops" (Json.array items).compact (.repeatedAccess .write) := by
  let items : List Json := [.string "write", .string "read", .string "write"]
  let fs : Fields := [("ops", .array items), ("size", .ofNat 8), ("uuid", .string "u")]
  obtain ⟨x, hx⟩ := (record_blamed_iff Url.parse (.object fs)).2.2 fs items rfl rfl (by decide)
  refine ⟨fs, items, x, rfl, by decide, rfl, hx, ?_⟩
  have hgood : ∀ e ∈ [Field.uuid, .size], e.Good Url.parse fs := by
    rw [List.forall_mem_cons, List.forall_mem_singleton]
    exact ⟨⟨"u", rfl⟩, ⟨8, by decide, rfl⟩⟩
  have hitem : ItemFlaw [.write, .read] (.string "write") (.repeatedAccess .write) :=
    .repeated (show Access.write ∈ [.write, .read] by decide)
  have hflaw : Field.ops.Flawed Url.parse (.array items) (Json.array items).compact
      (.repeatedAccess .write) := .badItem rfl (by decide) hitem
  have hblames : Blames Url.parse (.object fs) _ := .field rfl hgood (.bad rfl hflaw)
  exact Except.error.inj (hx.symm.trans (((record_blamed_iff ..).1 _).mpr hblames))

end TicketGate.Grant
