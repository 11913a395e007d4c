import Mathlib.Order.Interval.Finset.Nat
import TicketGate.Coverage

namespace TicketGate.Coverage

variable {rs : List ByteRange} {r a : ByteRange} {c : Coverage} {x : Nat}

theorem not_getElem_takeWhile {α : Type} (p : α → Bool) (l : List α)
    (h : (l.takeWhile p).length < l.length) : p l[(l.takeWhile p).length] = false := by
  induction l with
  | nil => simp at h
  | cons b l ih =>
    cases hb : p b with
    | false => simp [hb]
    | true =>
      simp only [List.takeWhile_cons, hb, ↓reduceIte, List.length_cons] at h ⊢
      exact ih (Nat.lt_of_succ_lt_succ h)

theorem start_le_of_before (h : before rs r < rs.length) : r.start ≤ rs[before rs r].stop := by
  have hb := not_getElem_takeWhile (fun a : ByteRange => decide (a.stop < r.start)) rs h
  exact Nat.le_of_not_lt (of_decide_eq_false hb)

theorem start_le_start (hs : Separated rs) {i j : Nat} (hij : i ≤ j) (hj : j < rs.length) :
    rs[i].start ≤ rs[j].start := by
  obtain rfl | hij := Nat.eq_or_lt_of_le hij
  · exact Nat.le_refl _
  · have hsep := List.pairwise_iff_getElem.mp hs.2 i j (by omega) hj hij
    have hpos := hs.1 _ (List.getElem_mem (by omega : i < rs.length))
    omega

theorem stop_le_stop (hs : Separated rs) {i j : Nat} (hij : i ≤ j) (hj : j < rs.length) :
    rs[i].stop ≤ rs[j].stop := by
  obtain rfl | hij := Nat.eq_or_lt_of_le hij
  · exact Nat.le_refl _
  · have hsep := List.pairwise_iff_getElem.mp hs.2 i j (by omega) hj hij
    have hpos := hs.1 _ (List.getElem_mem hj)
    omega

theorem mem_merged_of_mem (hs : Separated rs) {i : Nat} (hl : i < rs.length)
    (hb : before rs r ≤ i) (hi : i < reached rs r) (hx : x ∈ rs[i]) : x ∈ merged rs r := by
  have hr := reached_le rs r
  have hstart := start_le_start hs hb (by omega)
  have hstop := stop_le_stop hs (show i ≤ reached rs r - 1 by omega) (by omega)
  rw [ByteRange.mem_def] at hx ⊢
  rw [merged, dif_pos (by omega)]
  simp only [List.get_eq_getElem]
  omega

theorem mem_of_mem_merged (hx : x ∈ merged rs r) : x ∈ r ∨ ∃ a ∈ rs, x ∈ a := by
  have hr := reached_le rs r
  simp only [ByteRange.mem_def] at hx ⊢
  unfold merged at hx
  split at hx
  · next hlt =>
    have hfirst : r.start ≤ (rs.get ⟨before rs r, by omega⟩).stop := start_le_of_before (by omega)
    have htake : rs[reached rs r - 1] ∈ rs.take (reached rs r) :=
      List.mem_take_iff_getElem.mpr ⟨reached rs r - 1, by omega, rfl⟩
    have hlast := start_le_of_mem_take htake
    simp only [List.get_eq_getElem] at hx hfirst
    by_cases hl : x < r.start
    · have hl : before rs r < rs.length := by omega
      exact .inr ⟨_, List.getElem_mem hl, by omega, by omega⟩
    · by_cases hu : x < r.stop
      · exact .inl ⟨by omega, hu⟩
      · have hl : reached rs r - 1 < rs.length := by omega
        exact .inr ⟨_, List.getElem_mem hl, by omega, by omega⟩
  · exact .inl hx

theorem mem_splice (hs : Separated rs) :
    (∃ a ∈ splice rs r, x ∈ a) ↔ (∃ a ∈ rs, x ∈ a) ∨ x ∈ r := by
  simp only [splice, List.mem_append, List.mem_cons]
  constructor
  · rintro ⟨a, ha | rfl | ha, hx⟩
    · exact .inl ⟨a, List.mem_of_mem_take ha, hx⟩
    · exact (mem_of_mem_merged hx).symm
    · exact .inl ⟨a, List.mem_of_mem_drop ha, hx⟩
  · rintro (⟨a, ha, hx⟩ | hx)
    · obtain ⟨i, hi, rfl⟩ := List.getElem_of_mem ha
      by_cases hb : i < before rs r
      · exact ⟨_, .inl (List.mem_take_iff_getElem.mpr ⟨i, by omega, rfl⟩), hx⟩
      · by_cases hr : i < reached rs r
        · exact ⟨_, .inr (.inl rfl), mem_merged_of_mem hs hi (by omega) hr hx⟩
        · have hd : reached rs r + (i - reached rs r) = i := by omega
          refine ⟨rs[i], .inr (.inr (List.mem_drop_iff_getElem.mpr ⟨i - reached rs r, ?_, ?_⟩)), hx⟩
          · omega
          · simp only [hd]
    · have hstart := merged_start_le rs r
      have hstop := le_merged_stop rs r
      rw [ByteRange.mem_def] at hx
      exact ⟨_, .inr (.inl rfl), by omega, by omega⟩

theorem mem_def : x ∈ c ↔ ∃ a ∈ c.ranges, x ∈ a := Iff.rfl

theorem not_mem_empty : x ∉ empty := by simp [mem_def, empty]

theorem mem_add : x ∈ c.add r ↔ x ∈ c ∨ x ∈ r := by
  unfold add
  split
  · next h => simp [ByteRange.isEmpty_iff.mp h x]
  · exact mem_splice c.separated

theorem mem_addAll : x ∈ c.addAll rs ↔ x ∈ c ∨ ∃ r ∈ rs, x ∈ r := by
  unfold addAll
  induction rs generalizing c with
  | nil => simp
  | cons r rs ih => rw [List.foldl_cons, ih, mem_add, List.exists_mem_cons_iff, or_assoc]

def positionsOf : List ByteRange → Finset Nat
  | [] => ∅
  | r :: rs => Finset.Ico r.start r.stop ∪ positionsOf rs

def positions (c : Coverage) : Finset Nat := positionsOf c.ranges

theorem mem_positionsOf : x ∈ positionsOf rs ↔ ∃ a ∈ rs, x ∈ a := by
  induction rs with
  | nil => simp [positionsOf]
  | cons r rs ih =>
    rw [positionsOf, Finset.mem_union, Finset.mem_Ico, ih, List.exists_mem_cons_iff]
    exact Iff.rfl

theorem mem_positions : x ∈ c.positions ↔ x ∈ c := mem_positionsOf

theorem card_positionsOf (hs : rs.Pairwise fun a b => a.stop < b.start) :
    (positionsOf rs).card = total rs := by
  induction rs with
  | nil => rfl
  | cons r rs ih =>
    obtain ⟨hr, hs⟩ := List.pairwise_cons.mp hs
    have hd : Disjoint (Finset.Ico r.start r.stop) (positionsOf rs) := by
      apply Finset.disjoint_left.mpr
      intro x hx hx'
      obtain ⟨a, ha, hxa⟩ := mem_positionsOf.mp hx'
      have hsep := hr a ha
      rw [Finset.mem_Ico] at hx
      rw [ByteRange.mem_def] at hxa
      omega
    rw [positionsOf, Finset.card_union_of_disjoint hd, Nat.card_Ico, ih hs, total, ByteRange.length]

theorem size_eq_card (c : Coverage) : c.size = c.positions.card :=
  (card_positionsOf c.separated.2).symm

theorem size_congr {c' : Coverage} (h : ∀ x, x ∈ c ↔ x ∈ c') : c.size = c'.size := by
  rw [size_eq_card, size_eq_card]
  congr 1
  ext x
  rw [mem_positions, mem_positions, h]

variable {rs' : List ByteRange} {b : ByteRange} {c' : Coverage}

theorem separated_cons :
    Separated (a :: rs) ↔ a.start < a.stop ∧ (∀ b ∈ rs, a.stop < b.start) ∧ Separated rs := by
  simp only [Separated, List.forall_mem_cons, List.pairwise_cons]
  exact ⟨fun ⟨⟨ha, hpos⟩, hlt, hsep⟩ => ⟨ha, hlt, hpos, hsep⟩,
    fun ⟨ha, hlt, hpos, hsep⟩ => ⟨⟨ha, hpos⟩, hlt, hsep⟩⟩

theorem start_le_of_mem (hs : Separated (a :: rs)) (hx : ∃ b ∈ a :: rs, x ∈ b) : a.start ≤ x := by
  obtain ⟨ha, hlt, -⟩ := separated_cons.mp hs
  obtain ⟨b, hb, hx⟩ := hx
  rw [ByteRange.mem_def] at hx
  obtain rfl | hb := List.mem_cons.mp hb
  · exact hx.1
  · have := hlt b hb
    omega

theorem stop_not_mem (hs : Separated (a :: rs)) : ¬ ∃ b ∈ a :: rs, a.stop ∈ b := by
  obtain ⟨-, hlt, -⟩ := separated_cons.mp hs
  rintro ⟨b, hb, hx⟩
  rw [ByteRange.mem_def] at hx
  obtain rfl | hb := List.mem_cons.mp hb
  · omega
  · have := hlt b hb
    omega

theorem not_mem_head (hs : Separated (a :: rs)) (hx : ∃ b ∈ rs, x ∈ b) : x ∉ a := by
  obtain ⟨-, hlt, -⟩ := separated_cons.mp hs
  obtain ⟨b, hb, hx⟩ := hx
  have := hlt b hb
  rw [ByteRange.mem_def] at hx ⊢
  omega

theorem start_mem (hs : Separated (a :: rs)) : ∃ b ∈ a :: rs, a.start ∈ b :=
  ⟨a, List.mem_cons_self, Nat.le_refl _, (separated_cons.mp hs).1⟩

theorem head_stop_le (hs' : Separated (b :: rs')) (hstart : a.start = b.start)
    (h : ∀ x, (∃ r ∈ a :: rs, x ∈ r) ↔ ∃ r ∈ b :: rs', x ∈ r) : a.stop ≤ b.stop := by
  apply Nat.le_of_not_lt
  intro hlt
  have hpos := (separated_cons.mp hs').1
  exact stop_not_mem hs' ((h b.stop).mp ⟨a, List.mem_cons_self, by omega, hlt⟩)

theorem tail_mem (hs : Separated (a :: rs))
    (h : ∀ x, (∃ r ∈ a :: rs, x ∈ r) → ∃ r ∈ a :: rs', x ∈ r) (hx : ∃ r ∈ rs, x ∈ r) :
    ∃ r ∈ rs', x ∈ r := by
  obtain ⟨r, hr, hxr⟩ := hx
  obtain ⟨r', hr', hxr'⟩ := h x ⟨r, List.mem_cons_of_mem a hr, hxr⟩
  obtain rfl | hr' := List.mem_cons.mp hr'
  · exact absurd hxr' (not_mem_head hs ⟨r, hr, hxr⟩)
  · exact ⟨r', hr', hxr'⟩

/-- Separated ranges are known from their positions. -/
theorem eq_of_separated (hs : Separated rs) (hs' : Separated rs')
    (h : ∀ x, (∃ r ∈ rs, x ∈ r) ↔ ∃ r ∈ rs', x ∈ r) : rs = rs' := by
  induction rs generalizing rs' with
  | nil =>
    cases rs' with
    | nil => rfl
    | cons b rs' => simpa using (h b.start).mpr (start_mem hs')
  | cons a rs ih =>
    cases rs' with
    | nil => simpa using (h a.start).mp (start_mem hs)
    | cons b rs' =>
      -- the first position and the first gap after it give the first range
      have hstart : a.start = b.start := Nat.le_antisymm
        (start_le_of_mem hs ((h b.start).mpr (start_mem hs')))
        (start_le_of_mem hs' ((h a.start).mp (start_mem hs)))
      have hstop : a.stop = b.stop := Nat.le_antisymm
        (head_stop_le hs' hstart h) (head_stop_le hs hstart.symm fun x => (h x).symm)
      obtain rfl : a = b := by
        cases a
        cases b
        exact congrArg₂ ByteRange.mk hstart hstop
      congr 1
      exact ih (separated_cons.mp hs).2.2 (separated_cons.mp hs').2.2 fun x =>
        ⟨tail_mem hs fun x => (h x).mp, tail_mem hs' fun x => (h x).mpr⟩

theorem eq_of_mem_iff (h : ∀ x, x ∈ c ↔ x ∈ c') : c = c' := by
  cases c with
  | mk rs hs =>
    cases c' with
    | mk rs' hs' =>
      obtain rfl := eq_of_separated hs hs' h
      rfl

theorem add_eq_self (h : ∀ x ∈ r, x ∈ c) : c.add r = c := by
  apply eq_of_mem_iff
  intro x
  rw [mem_add]
  exact or_iff_left_of_imp (h x)

theorem add_right_comm (c : Coverage) (r r' : ByteRange) : (c.add r).add r' = (c.add r').add r :=
  eq_of_mem_iff fun x => by rw [mem_add, mem_add, mem_add, mem_add, or_right_comm]

theorem addAll_perm (c : Coverage) (h : rs.Perm rs') : c.addAll rs = c.addAll rs' :=
  eq_of_mem_iff fun x => by simp only [mem_addAll, h.mem_iff]

end TicketGate.Coverage
