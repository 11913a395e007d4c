import TicketGate.Proofs.Insertion

namespace TicketGate

/-- The adjacent pieces of a range that is cut at each of the positions `ms`. -/
def ByteRange.pieces (r : ByteRange) : List Nat → List ByteRange
  | [] => [r]
  | m :: ms => ⟨r.start, m⟩ :: pieces ⟨m, r.stop⟩ ms

/-- The positions `ms` go up from the start of the range to its end. -/
def ByteRange.Cuts (r : ByteRange) (ms : List Nat) : Prop :=
  (r.start :: (ms ++ [r.stop])).Pairwise (· ≤ ·)

variable {r : ByteRange} {ms : List Nat} {x : Nat}

theorem ByteRange.mem_pieces (h : r.Cuts ms) : (∃ p ∈ r.pieces ms, x ∈ p) ↔ x ∈ r := by
  induction ms generalizing r with
  | nil => simp [pieces]
  | cons m ms ih =>
    obtain ⟨hstart, hcuts⟩ := List.pairwise_cons.mp h
    have hm : r.start ≤ m := hstart m (by simp)
    have hstop : m ≤ r.stop := (List.pairwise_cons.mp hcuts).1 r.stop (by simp)
    rw [pieces, List.exists_mem_cons_iff, ih (r := ⟨m, r.stop⟩) hcuts]
    simp only [mem_def]
    omega

namespace Coverage

variable {l l' : List ByteRange} {c : Coverage}

theorem ranges_eq_iff {c' : Coverage} : c.ranges = c'.ranges ↔ ∀ x, x ∈ c ↔ x ∈ c' := by
  constructor
  · intro h x
    rw [mem_def, mem_def, h]
  · intro h
    rw [eq_of_mem_iff h]

theorem ofRanges_ranges_eq_iff :
    (ofRanges l).ranges = (ofRanges l').ranges ↔
      ∀ x, (∃ r ∈ l, x ∈ r) ↔ ∃ r ∈ l', x ∈ r := by
  simp only [ranges_eq_iff, mem_ofRanges]

theorem ofRanges_pieces (h : r.Cuts ms) :
    (ofRanges (l ++ r.pieces ms ++ l')).ranges = (ofRanges (l ++ r :: l')).ranges := by
  rw [ofRanges_ranges_eq_iff]
  intro x
  have hp := ByteRange.mem_pieces (x := x) h
  simp only [List.mem_append, List.mem_cons, or_and_right, exists_or, hp, exists_eq_left, or_assoc]

theorem ofRanges_of_perm_ranges (h : l.Perm c.ranges) : (ofRanges l).ranges = c.ranges := by
  rw [ranges_eq_iff]
  intro x
  rw [mem_ofRanges, mem_def]
  simp only [h.mem_iff]

/-- Ranges added one by one make the same list whenever they have the same positions, and only then.
So neither their order counts, nor a range that was added before, nor whether a range comes in one
or in adjacent pieces; and the list makes itself again. -/
theorem canonical_ranges (l l' : List ByteRange) :
    ((l.foldl add empty).ranges = (l'.foldl add empty).ranges ↔
      ∀ x, (∃ r ∈ l, x ∈ r) ↔ ∃ r ∈ l', x ∈ r) ∧
    (l.Perm l' → (l.foldl add empty).ranges = (l'.foldl add empty).ranges) ∧
    (∀ r ∈ l, ((l.foldl add empty).add r).ranges = (l.foldl add empty).ranges) ∧
    (∀ r ms, r.Cuts ms → ((l ++ r.pieces ms ++ l').foldl add empty).ranges =
      ((l ++ r :: l').foldl add empty).ranges) ∧
    ∀ rs : List ByteRange, rs.Perm (l.foldl add empty).ranges →
      (rs.foldl add empty).ranges = (l.foldl add empty).ranges := by
  refine ⟨ofRanges_ranges_eq_iff, fun h => ?_, fun r hr => ?_, fun r ms h => ofRanges_pieces h,
    fun rs h => ofRanges_of_perm_ranges h⟩
  · exact congrArg ranges (addAll_perm empty h)
  · apply congrArg ranges (add_eq_self _)
    intro x hx
    exact mem_ofRanges.mpr ⟨r, hr, hx⟩

theorem canonical_ranges_of_bridge :
    ∃ l l' rs : List ByteRange, ∃ r ms, l.Perm l' ∧ r ∈ l ∧ r.Cuts ms ∧
      rs.Perm (l.foldl add empty).ranges ∧
      (l.foldl add empty).ranges = [⟨0, 300⟩, ⟨500, 600⟩] ∧
      (l'.foldl add empty).ranges = [⟨0, 300⟩, ⟨500, 600⟩] ∧
      ((l.foldl add empty).add r).ranges = [⟨0, 300⟩, ⟨500, 600⟩] ∧
      ((l ++ r.pieces ms ++ l').foldl add empty).ranges = [⟨0, 300⟩, ⟨500, 600⟩] ∧
      (rs.foldl add empty).ranges = [⟨0, 300⟩, ⟨500, 600⟩] := by
  let l : List ByteRange := [⟨0, 100⟩, ⟨200, 300⟩, ⟨9, 3⟩, ⟨500, 600⟩, ⟨40, 250⟩]
  let l' : List ByteRange := [⟨40, 250⟩, ⟨500, 600⟩, ⟨200, 300⟩, ⟨0, 100⟩, ⟨9, 3⟩]
  have hl : (l.foldl add empty).ranges = [⟨0, 300⟩, ⟨500, 600⟩] := by decide
  have hperm : l.Perm l' := by decide
  have hmem : ⟨40, 250⟩ ∈ l := by decide
  have hcuts : (ByteRange.mk 40 250).Cuts [100, 100, 180] := by
    rw [ByteRange.Cuts]
    decide
  have hrs : [⟨500, 600⟩, ⟨0, 300⟩].Perm (l.foldl add empty).ranges := by
    rw [hl]
    decide
  obtain ⟨-, horder, hagain, hpieces, hown⟩ := canonical_ranges l l'
  refine ⟨l, l', _, _, _, hperm, hmem, hcuts, hrs, hl, (horder hperm).symm.trans hl,
    (hagain _ hmem).trans hl, (hpieces _ _ hcuts).trans ?_, (hown _ hrs).trans hl⟩
  decide

end Coverage

end TicketGate
