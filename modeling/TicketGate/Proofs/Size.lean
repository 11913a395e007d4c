import Mathlib.Data.Set.Card
import TicketGate.Proofs.Insertion

namespace TicketGate.Coverage

/-- The sum of two counters, if that is a counter. -/
def sum? (a b : Nat) : Option Nat := if a + b ≤ maxWord then some (a + b) else none

/-- The lengths of the ranges, summed up in their order for as long as the sum is a counter. -/
def total? (rs : List ByteRange) : Option Nat := rs.foldlM (fun n r => sum? n r.length) 0

variable {rs l : List ByteRange} {r : ByteRange} {c : Coverage} {n x : Nat}

theorem total_le (hs : rs.Pairwise fun a b => a.stop < b.start) (h : ∀ a ∈ rs, a.stop ≤ n) :
    total rs ≤ n := by
  have hsub : positionsOf rs ⊆ Finset.range n := by
    intro x hx
    obtain ⟨a, ha, hxa⟩ := mem_positionsOf.mp hx
    exact Finset.mem_range.mpr (Nat.lt_of_lt_of_le hxa.2 (h a ha))
  calc
    total rs = (positionsOf rs).card := (card_positionsOf hs).symm
    _ ≤ (Finset.range n).card := Finset.card_le_card hsub
    _ = n := Finset.card_range n

theorem stop_le_of_mem_ofRanges (hl : ∀ a ∈ l, a.stop ≤ n) :
    ∀ a ∈ (ofRanges l).ranges, a.stop ≤ n := by
  intro a ha
  have hpos := (ofRanges l).separated.1 a ha
  have hlast : a.stop - 1 ∈ ofRanges l := ⟨a, ha, by rw [ByteRange.mem_def]; omega⟩
  obtain ⟨b, hb, hx⟩ := mem_ofRanges.mp hlast
  have hstop := hl b hb
  rw [ByteRange.mem_def] at hx
  omega

theorem total_take_le (hl : ∀ a ∈ l, a.stop ≤ n) (k : Nat) :
    total ((ofRanges l).ranges.take k) ≤ n :=
  total_le ((ofRanges l).separated.2.sublist (List.take_sublist k _))
    fun a ha => stop_le_of_mem_ofRanges hl a (List.mem_of_mem_take ha)

theorem foldlM_sum? (h : n + total rs ≤ maxWord) :
    rs.foldlM (fun n r => sum? n r.length) n = some (n + total rs) := by
  induction rs generalizing n with
  | nil => rfl
  | cons r rs ih =>
    rw [total, ← Nat.add_assoc] at h ⊢
    -- the sum so far and this length are no more than the whole, which fits
    have hr : sum? n r.length = some (n + r.length) := if_pos (by omega)
    rw [List.foldlM_cons, hr]
    exact ih h

theorem total?_eq_some (hl : ∀ a ∈ l, a.stop ≤ maxWord) :
    total? (ofRanges l).ranges = some (ofRanges l).size := by
  have hle := total_take_le hl (ofRanges l).ranges.length
  rw [List.take_length] at hle
  rw [total?, foldlM_sum? (by rwa [Nat.zero_add]), Nat.zero_add, size]

theorem coe_positions (l : List ByteRange) :
    ((ofRanges l).positions : Set Nat) = {x | ∃ r ∈ l, x ∈ r} := by
  ext x
  rw [Finset.mem_coe, mem_positions, mem_ofRanges, Set.mem_ofPred_eq]

theorem size_ofRanges (l : List ByteRange) : (ofRanges l).size = {x | ∃ r ∈ l, x ∈ r}.ncard := by
  rw [← coe_positions, Set.ncard_coe_finset, size_eq_card]

theorem positions_add : (c.add r).positions = c.positions ∪ Finset.Ico r.start r.stop := by
  ext x
  rw [Finset.mem_union, mem_positions, mem_positions, mem_add, Finset.mem_Ico, ByteRange.mem_def]

theorem size_le_add (c : Coverage) (r : ByteRange) : c.size ≤ (c.add r).size := by
  rw [size_eq_card, size_eq_card, positions_add]
  exact Finset.card_le_card Finset.subset_union_left

theorem size_add_le (c : Coverage) (r : ByteRange) : (c.add r).size ≤ c.size + r.length := by
  rw [size_eq_card, size_eq_card, positions_add, ByteRange.length, ← Nat.card_Ico]
  exact Finset.card_union_le ..

theorem size_add_eq_iff : (c.add r).size = c.size ↔ ∀ x ∈ r, x ∈ c := by
  constructor
  · intro h x hx
    rw [size_eq_card, size_eq_card, positions_add] at h
    have heq := Finset.eq_of_subset_of_card_le Finset.subset_union_left (Nat.le_of_eq h)
    rw [← mem_positions, heq, Finset.mem_union, Finset.mem_Ico]
    exact .inr hx
  · intro h
    rw [add_eq_self h]

theorem size_add_eq_add_iff : (c.add r).size = c.size + r.length ↔ ∀ x ∈ r, x ∉ c := by
  rw [size_eq_card, size_eq_card, positions_add, ByteRange.length, ← Nat.card_Ico,
    Finset.card_union_eq_card_add_card, Finset.disjoint_right]
  simp only [Finset.mem_Ico, mem_positions, ByteRange.mem_def]

theorem isEmpty_or_iff {p : Nat → Prop} :
    (r.isEmpty = true ∨ ∀ x ∈ r, p x) ↔ ∀ x ∈ r, p x := by
  apply or_iff_right_of_imp
  intro h x hx
  exact absurd hx (ByteRange.isEmpty_iff.mp h x)

/-- Each covered position counts once, and no sum on the way is too large for a counter, however the
ranges overlap. A range that is added counts for what was not yet covered of it: for nothing just if
it is empty or was covered, and for its length just if it is empty or was not covered anywhere. -/
theorem size_counts_once (l : List ByteRange) (hl : ∀ a ∈ l, a.stop ≤ maxWord) :
    (ofRanges l).size = {x | ∃ r ∈ l, x ∈ r}.ncard ∧
    (∀ k, total ((ofRanges l).ranges.take k) ≤ maxWord) ∧
    total? (ofRanges l).ranges = some (ofRanges l).size ∧
    ∀ r : ByteRange,
      (ofRanges l).size ≤ ((ofRanges l).add r).size ∧
      ((ofRanges l).add r).size ≤ (ofRanges l).size + r.length ∧
      ((ofRanges l).size = ((ofRanges l).add r).size ↔
        r.isEmpty = true ∨ ∀ x ∈ r, x ∈ ofRanges l) ∧
      (((ofRanges l).add r).size = (ofRanges l).size + r.length ↔
        r.isEmpty = true ∨ ∀ x ∈ r, x ∉ ofRanges l) := by
  refine ⟨size_ofRanges l, total_take_le hl, total?_eq_some hl, fun r => ?_⟩
  rw [isEmpty_or_iff, isEmpty_or_iff]
  exact ⟨size_le_add _ r, size_add_le _ r, eq_comm.trans size_add_eq_iff, size_add_eq_add_iff⟩

theorem size_counts_once_of_all :
    (∀ a ∈ [ByteRange.mk 7 maxWord, ⟨0, 5⟩, ⟨3, 9⟩, ⟨9, 2⟩], a.stop ≤ maxWord) ∧
      total? (ofRanges [⟨7, maxWord⟩, ⟨0, 5⟩, ⟨3, 9⟩, ⟨9, 2⟩]).ranges = some maxWord ∧
      {x | ∃ r ∈ [ByteRange.mk 7 maxWord, ⟨0, 5⟩, ⟨3, 9⟩, ⟨9, 2⟩], x ∈ r}.ncard = maxWord := by
  have hl : ∀ a ∈ [ByteRange.mk 7 maxWord, ⟨0, 5⟩, ⟨3, 9⟩, ⟨9, 2⟩], a.stop ≤ maxWord := by decide
  have hsize : (ofRanges [⟨7, maxWord⟩, ⟨0, 5⟩, ⟨3, 9⟩, ⟨9, 2⟩]).size = maxWord := by decide
  obtain ⟨hcard, -, htotal, -⟩ := size_counts_once _ hl
  exact ⟨hl, htotal.trans (congrArg some hsize), hcard.symm.trans hsize⟩

end TicketGate.Coverage
