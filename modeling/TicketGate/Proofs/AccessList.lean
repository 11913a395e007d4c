import Mathlib.Data.List.Perm.Subperm
import TicketGate.Grant

namespace TicketGate.Grant

/-- What is wrong with an item of a list of kinds of access, after the kinds `seen`. -/
inductive ItemFlaw (seen : List Access) : Json → FieldFlaw → Prop
  | notName {item : Json} : (∀ s, item ≠ .string s) → ItemFlaw seen item .notNames
  | unsupported {s : String} :
      (∀ k : Access, s ≠ k.name) → ItemFlaw seen (.string s) (.unsupportedAccess s)
  | repeated {k : Access} : k ∈ seen → ItemFlaw seen (.string k.name) (.repeatedAccess k)

def accessNames (ks : List Access) : List Json := ks.map fun k => .string k.name

def Fresh (seen ks : List Access) : Prop := ks.Nodup ∧ ∀ l ∈ ks, l ∉ seen

variable {seen ks : List Access} {l l' : Access} {v item : Json} {items : List Json}
  {flaw : FieldFlaw}

theorem fresh_cons : Fresh seen (l :: ks) ↔ l ∉ seen ∧ Fresh (seen ++ [l]) ks := by
  simp only [Fresh, List.nodup_cons, List.forall_mem_cons, List.mem_append, List.mem_singleton,
    not_or]
  constructor
  · rintro ⟨⟨hl, hn⟩, hseen, hks⟩
    exact ⟨hseen, hn, fun l' h => ⟨hks l' h, fun heq => hl (heq ▸ h)⟩⟩
  · rintro ⟨hseen, hn, hks⟩
    exact ⟨⟨fun h => (hks l h).2 rfl, hn⟩, hseen, fun l' h => (hks l' h).1⟩

theorem new_or_itemFlaw (seen : List Access) (item : Json) :
    (∃ l, l ∉ seen ∧ item = .string l.name) ∨ ∃ flaw, ItemFlaw seen item flaw := by
  by_cases hs : ∃ s, item = .string s
  · obtain ⟨s, rfl⟩ := hs
    by_cases hl : ∃ l : Access, s = l.name
    · obtain ⟨l, rfl⟩ := hl
      by_cases hseen : l ∈ seen
      · exact .inr ⟨_, .repeated hseen⟩
      · exact .inl ⟨l, hseen, rfl⟩
    · exact .inr ⟨_, .unsupported fun l h => hl ⟨l, h⟩⟩
  · exact .inr ⟨_, .notName fun s h => hs ⟨s, h⟩⟩

/-- A list of items starts with kinds that come for the first time, and ends there or goes on with an
item that is wrong. -/
theorem exists_fresh (seen : List Access) (items : List Json) :
    ∃ ks rest, items = accessNames ks ++ rest ∧ Fresh seen ks ∧
      (rest = [] ∨ ∃ item rest' flaw, rest = item :: rest' ∧ ItemFlaw (seen ++ ks) item flaw) := by
  induction items generalizing seen with
  | nil => exact ⟨[], [], rfl, ⟨List.nodup_nil, by simp⟩, .inl rfl⟩
  | cons item items ih =>
    obtain ⟨l, hl, rfl⟩ | ⟨flaw, hf⟩ := new_or_itemFlaw seen item
    · obtain ⟨ks, rest, rfl, hks, hrest⟩ := ih (seen ++ [l])
      rw [List.append_assoc, List.singleton_append] at hrest
      exact ⟨l :: ks, rest, rfl, fresh_cons.mpr ⟨hl, hks⟩, hrest⟩
    · refine ⟨[], item :: items, rfl, ⟨List.nodup_nil, by simp⟩, .inr ⟨item, items, flaw, rfl, ?_⟩⟩
      rwa [List.append_nil]

theorem accessItems_fresh (hks : Fresh seen ks) (items : List Json) :
    accessItems seen (accessNames ks ++ items) =
      (accessItems (seen ++ ks) items).map (ks ++ ·) := by
  induction ks generalizing seen with
  | nil =>
    simp only [accessNames, List.map_nil, List.nil_append, List.append_nil]
    cases accessItems seen items <;> rfl
  | cons l ks ih =>
    obtain ⟨hl, hks⟩ := fresh_cons.mp hks
    have hih := ih hks
    rw [List.append_assoc, List.singleton_append] at hih
    simp only [accessNames, List.map_cons, List.cons_append] at hih ⊢
    rw [accessItems, Access.ofName?_name]
    simp only [List.contains_eq_mem, hl, decide_false, Bool.false_eq_true, ↓reduceIte, hih]
    cases accessItems (seen ++ l :: ks) items <;> rfl

theorem accessItems_flawed (hf : ItemFlaw seen item flaw) :
    accessItems seen (item :: items) = .error flaw := by
  cases hf with
  | notName hs => cases item <;> first | rfl | exact absurd rfl (hs _)
  | @unsupported s hs =>
    have hn : Access.ofName? s = none := by
      rw [Option.eq_none_iff_forall_ne_some]
      exact fun l hl => hs l (Access.ofName?_eq_some_iff.mp hl)
    rw [accessItems, hn]
  | repeated hl =>
    rw [accessItems, Access.ofName?_name]
    simp [hl]

theorem accessItems_eq_ok_iff :
    accessItems seen items = .ok ks ↔ items = accessNames ks ∧ Fresh seen ks := by
  constructor
  · intro h
    obtain ⟨ks', rest, rfl, hks, rfl | ⟨item, rest, flaw, rfl, hf⟩⟩ := exists_fresh seen items
    · rw [accessItems_fresh hks] at h
      simp only [accessItems, Except.map, List.append_nil, Except.ok.injEq] at h
      exact ⟨by simp [h], h ▸ hks⟩
    · simp [accessItems_fresh hks, accessItems_flawed hf, Except.map] at h
  · rintro ⟨rfl, hks⟩
    simpa [accessItems, Except.map] using accessItems_fresh hks []

theorem accessItems_eq_error_iff :
    accessItems seen items = .error flaw ↔
      ∃ ks item rest, items = accessNames ks ++ item :: rest ∧ Fresh seen ks ∧
        ItemFlaw (seen ++ ks) item flaw := by
  constructor
  · intro h
    obtain ⟨ks, rest, rfl, hks, rfl | ⟨item, rest, flaw', rfl, hf⟩⟩ := exists_fresh seen items
    · rw [accessItems_fresh hks] at h
      simp [accessItems, Except.map] at h
    · rw [accessItems_fresh hks, accessItems_flawed hf] at h
      obtain rfl := Except.error.inj h
      exact ⟨ks, item, rest, rfl, hks, hf⟩
  · rintro ⟨ks, item, rest, rfl, hks, hf⟩
    rw [accessItems_fresh hks, accessItems_flawed hf]
    rfl

theorem fresh_nil : Fresh [] ks ↔ ks.Nodup := by simp [Fresh]

theorem accessNames_eq_nil_iff : accessNames ks = [] ↔ ks = [] := List.map_eq_nil_iff

theorem accessList_cons (item : Json) (items : List Json) :
    accessList (.array (item :: items)) = accessItems [] (item :: items) := rfl

theorem accessList_eq_ok_iff :
    accessList v = .ok ks ↔ ks ≠ [] ∧ ks.Nodup ∧ v = .array (accessNames ks) := by
  cases v with
  | array items =>
    cases items with
    | nil =>
      refine iff_of_false (by simp [accessList]) ?_
      rintro ⟨hne, -, hi⟩
      exact hne (accessNames_eq_nil_iff.mp (Json.array.inj hi).symm)
    | cons item items =>
      rw [accessList_cons, accessItems_eq_ok_iff, fresh_nil, Json.array.injEq]
      refine ⟨fun ⟨hi, hn⟩ => ⟨?_, hn, hi⟩, fun ⟨_, hn, hi⟩ => ⟨hi, hn⟩⟩
      rintro rfl
      simp [accessNames] at hi
  | _ => simp [accessList]

theorem length_le_two {ks : List Access} (hks : ks.Nodup) : ks.length ≤ 2 := by
  have hsub : ks ⊆ [.read, .write] := fun k _ => by cases k <;> simp
  exact (List.subperm_of_subset hks hsub).length_le

end TicketGate.Grant
