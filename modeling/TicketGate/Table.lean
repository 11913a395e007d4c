namespace TicketGate

/-- A finite table with one entry a key, in the order in which the keys came. -/
structure Table (κ α : Type) where
  entries : List (κ × α)
  nodup : (entries.map Prod.fst).Nodup

namespace Table

variable {κ α : Type}

def empty : Table κ α := ⟨[], List.nodup_nil⟩

instance : Inhabited (Table κ α) := ⟨empty⟩

def keys (t : Table κ α) : List κ := t.entries.map Prod.fst

def size (t : Table κ α) : Nat := t.entries.length

def isEmpty (t : Table κ α) : Bool := t.entries.isEmpty

def filter (t : Table κ α) (p : κ × α → Bool) : Table κ α :=
  ⟨t.entries.filter p, t.nodup.sublist (List.filter_sublist.map Prod.fst)⟩

variable [DecidableEq κ]

def get? (t : Table κ α) (k : κ) : Option α :=
  (t.entries.find? (fun e => e.1 == k)).map Prod.snd

def erase (t : Table κ α) (k : κ) : Table κ α := t.filter (fun e => e.1 != k)

theorem not_mem_keys_erase (t : Table κ α) (k : κ) : k ∉ (t.erase k).keys := by
  simp [erase, filter, keys]

/-- The entry of `k` becomes the last one. -/
def insert (t : Table κ α) (k : κ) (a : α) : Table κ α :=
  ⟨(t.erase k).entries ++ [(k, a)], by
    have h := not_mem_keys_erase t k
    rw [keys] at h
    rw [List.map_append, List.nodup_append]
    refine ⟨(t.erase k).nodup, by simp, ?_⟩
    intro x hx y hy
    simp only [List.map_cons, List.map_nil, List.mem_singleton] at hy
    subst hy
    exact fun hxy => h (hxy ▸ hx)⟩

theorem mem_entries_of_get? {t : Table κ α} {k : κ} {a : α} (h : t.get? k = some a) :
    (k, a) ∈ t.entries := by
  obtain ⟨e, he, rfl⟩ := Option.map_eq_some_iff.mp h
  have hk : e.1 = k := by simpa using List.find?_some he
  exact hk ▸ List.mem_of_find?_eq_some he

theorem get?_eq_some_iff {t : Table κ α} {k : κ} {a : α} :
    t.get? k = some a ↔ (k, a) ∈ t.entries := by
  refine ⟨mem_entries_of_get?, fun h => ?_⟩
  obtain ⟨es, fs, hs⟩ := List.append_of_mem h
  have hn := t.nodup
  rw [hs, List.map_append, List.nodup_append] at hn
  have hes : es.find? (fun e => e.1 == k) = none := by
    rw [List.find?_eq_none]
    intro e he hk
    exact hn.2.2 e.1 (List.mem_map_of_mem he) k (by simp) (beq_iff_eq.mp hk)
  simp [get?, hs, List.find?_append, hes]

theorem mem_keys_iff {t : Table κ α} {k : κ} : k ∈ t.keys ↔ ∃ a, t.get? k = some a := by
  simp [keys, get?_eq_some_iff]

theorem get?_empty (k : κ) : (empty : Table κ α).get? k = none := rfl

theorem get?_erase_self (t : Table κ α) (k : κ) : (t.erase k).get? k = none := by
  simp [get?, erase, filter, List.find?_filter]

theorem get?_erase_ne (t : Table κ α) {k j : κ} (h : j ≠ k) : (t.erase k).get? j = t.get? j := by
  simp only [get?, erase, filter, List.find?_filter]
  congr 2
  funext e
  by_cases hj : e.1 = j <;> simp_all

theorem get?_erase (t : Table κ α) (k j : κ) :
    (t.erase k).get? j = if j = k then none else t.get? j := by
  split
  · next h => rw [h, get?_erase_self]
  · next h => exact get?_erase_ne t h

theorem get?_insert_self (t : Table κ α) (k : κ) (a : α) : (t.insert k a).get? k = some a := by
  have h : (t.erase k).entries.find? (fun e => e.1 == k) = none :=
    Option.map_eq_none_iff.mp (get?_erase_self t k)
  simp [get?, insert, List.find?_append, h]

theorem get?_insert_ne (t : Table κ α) {k j : κ} (a : α) (h : j ≠ k) :
    (t.insert k a).get? j = t.get? j := by
  rw [← get?_erase_ne t h]
  have hk : (k == j) = false := by simp [Ne.symm h]
  simp [get?, insert, List.find?_append, hk]

theorem get?_insert (t : Table κ α) (k j : κ) (a : α) :
    (t.insert k a).get? j = if j = k then some a else t.get? j := by
  split
  · next h => rw [h, get?_insert_self]
  · next h => exact get?_insert_ne t a h

end Table

end TicketGate
