import TicketGate.ByteRange

namespace TicketGate

namespace Coverage

/-- Nonempty ranges in order, with a gap between each and the next. -/
def Separated (rs : List ByteRange) : Prop :=
  (∀ r ∈ rs, r.start < r.stop) ∧ rs.Pairwise (fun a b => a.stop < b.start)

/-- How many ranges at the front end before `r` starts, with a gap. -/
def before (rs : List ByteRange) (r : ByteRange) : Nat :=
  (rs.takeWhile (fun a => a.stop < r.start)).length

/-- How many ranges at the front start no later than `r` stops. -/
def reached (rs : List ByteRange) (r : ByteRange) : Nat :=
  (rs.takeWhile (fun a => a.start ≤ r.stop)).length

theorem reached_le (rs : List ByteRange) (r : ByteRange) : reached rs r ≤ rs.length :=
  (List.takeWhile_sublist _).length_le

def merged (rs : List ByteRange) (r : ByteRange) : ByteRange :=
  if h : before rs r < reached rs r then
    have hr := reached_le rs r
    ⟨min r.start (rs.get ⟨before rs r, by omega⟩).start,
      max r.stop (rs.get ⟨reached rs r - 1, by omega⟩).stop⟩
  else r

/-- Puts the nonempty range `r` in the place of the ranges that it swallows. -/
def splice (rs : List ByteRange) (r : ByteRange) : List ByteRange :=
  rs.take (before rs r) ++ merged rs r :: rs.drop (reached rs r)

variable {rs : List ByteRange} {r : ByteRange}

theorem separated_nil : Separated [] := ⟨by simp, List.Pairwise.nil⟩

theorem take_length_takeWhile (p : ByteRange → Bool) (rs : List ByteRange) :
    rs.take (rs.takeWhile p).length = rs.takeWhile p := by
  conv => lhs; arg 2; rw [← List.takeWhile_append_dropWhile (p := p) (l := rs)]
  exact List.take_left

theorem drop_length_takeWhile (p : ByteRange → Bool) (rs : List ByteRange) :
    rs.drop (rs.takeWhile p).length = rs.dropWhile p := by
  conv => lhs; arg 2; rw [← List.takeWhile_append_dropWhile (p := p) (l := rs)]
  exact List.drop_left

theorem stop_lt_of_mem_take {a : ByteRange} (ha : a ∈ rs.take (before rs r)) :
    a.stop < r.start := by
  rw [before, take_length_takeWhile] at ha
  simpa using List.all_eq_true.mp List.all_takeWhile a ha

theorem start_le_of_mem_take {a : ByteRange} (ha : a ∈ rs.take (reached rs r)) :
    a.start ≤ r.stop := by
  rw [reached, take_length_takeWhile] at ha
  simpa using List.all_eq_true.mp List.all_takeWhile a ha

theorem lt_start_of_mem_drop (hs : Separated rs) {b : ByteRange}
    (hb : b ∈ rs.drop (reached rs r)) : r.stop < b.start := by
  have hd := drop_length_takeWhile (fun a => a.start ≤ r.stop) rs
  have hsub := hs.2.sublist (List.drop_sublist (reached rs r) rs)
  have hpos : ∀ c ∈ rs.drop (reached rs r), c.start < c.stop :=
    fun c hc => hs.1 c (List.mem_of_mem_drop hc)
  rw [reached, hd] at hb hsub hpos
  cases h : rs.dropWhile (fun a => a.start ≤ r.stop) with
  | nil => simp [h] at hb
  | cons c cs =>
    have hc : ¬ c.start ≤ r.stop := by
      have := List.head_dropWhile_not (fun a : ByteRange => decide (a.start ≤ r.stop)) (l := rs)
        (by simp [h])
      simpa [h] using this
    rw [h] at hb hsub hpos
    obtain rfl | hb := List.mem_cons.mp hb
    · omega
    · have := (List.pairwise_cons.mp hsub).1 b hb
      have := hpos c (by simp)
      omega

theorem before_le_reached (hs : Separated rs) (hr : r.start < r.stop) :
    before rs r ≤ reached rs r := by
  apply Nat.le_of_not_lt
  intro h
  have hb : before rs r ≤ rs.length := (List.takeWhile_sublist _).length_le
  have hl : reached rs r < rs.length := by omega
  have ht : rs[reached rs r] ∈ rs.take (before rs r) :=
    List.mem_take_iff_getElem.mpr ⟨reached rs r, by omega, rfl⟩
  have hd : rs[reached rs r] ∈ rs.drop (reached rs r) :=
    List.mem_drop_iff_getElem.mpr ⟨0, by omega, by simp⟩
  have := stop_lt_of_mem_take ht
  have := lt_start_of_mem_drop hs hd
  have := hs.1 _ (List.getElem_mem hl)
  omega

theorem merged_start_le (rs : List ByteRange) (r : ByteRange) : (merged rs r).start ≤ r.start := by
  unfold merged
  split
  · exact Nat.min_le_left _ _
  · exact Nat.le_refl _

theorem le_merged_stop (rs : List ByteRange) (r : ByteRange) : r.stop ≤ (merged rs r).stop := by
  unfold merged
  split
  · exact Nat.le_max_left _ _
  · exact Nat.le_refl _

theorem lt_merged_start (hs : Separated rs) {a : ByteRange} (ha : a ∈ rs.take (before rs r)) :
    a.stop < (merged rs r).start := by
  have h := stop_lt_of_mem_take ha
  unfold merged
  split
  · next hlt =>
    have hr := reached_le rs r
    obtain ⟨i, hi, rfl⟩ := List.mem_take_iff_getElem.mp ha
    have := List.pairwise_iff_getElem.mp hs.2 i (before rs r) (by omega) (by omega) (by omega)
    simp only [List.get_eq_getElem]
    omega
  · exact h

theorem merged_stop_lt (hs : Separated rs) {b : ByteRange} (hb : b ∈ rs.drop (reached rs r)) :
    (merged rs r).stop < b.start := by
  have h := lt_start_of_mem_drop hs hb
  unfold merged
  split
  · next hlt =>
    have hr := reached_le rs r
    obtain ⟨i, hi, rfl⟩ := List.mem_drop_iff_getElem.mp hb
    have := List.pairwise_iff_getElem.mp hs.2 (reached rs r - 1) (reached rs r + i)
      (by omega) (by omega) (by omega)
    simp only [List.get_eq_getElem]
    omega
  · exact h

theorem splice_separated (hs : Separated rs) (hr : r.start < r.stop) : Separated (splice rs r) := by
  have hle := before_le_reached hs hr
  have hsub : (rs.take (before rs r) ++ rs.drop (reached rs r)).Sublist rs := by
    have h := (List.take_sublist_take_left (l := rs) hle).append
      (List.Sublist.refl (rs.drop (reached rs r)))
    rwa [List.take_append_drop] at h
  constructor
  · intro a ha
    simp only [splice, List.mem_append, List.mem_cons] at ha
    obtain ha | rfl | ha := ha
    · exact hs.1 a (List.mem_of_mem_take ha)
    · have := merged_start_le rs r
      have := le_merged_stop rs r
      omega
    · exact hs.1 a (List.mem_of_mem_drop ha)
  · have hp := hs.2.sublist hsub
    rw [List.pairwise_append] at hp
    rw [splice, List.pairwise_append, List.pairwise_cons]
    refine ⟨hp.1, ⟨fun b hb => merged_stop_lt hs hb, hp.2.1⟩, fun a ha b hb => ?_⟩
    obtain rfl | hb := List.mem_cons.mp hb
    · exact lt_merged_start hs ha
    · exact hp.2.2 a ha b hb

end Coverage

/-- Sets of byte positions. A new range swallows the run of ranges that it overlaps or touches. -/
structure Coverage where
  ranges : List ByteRange
  separated : Coverage.Separated ranges
deriving DecidableEq

namespace Coverage

def empty : Coverage := ⟨[], separated_nil⟩

instance : Inhabited Coverage := ⟨empty⟩

instance : Membership Nat Coverage := ⟨fun c x => ∃ r ∈ c.ranges, x ∈ r⟩

def add (c : Coverage) (r : ByteRange) : Coverage :=
  if h : r.isEmpty = true then c
  else ⟨splice c.ranges r, splice_separated c.separated (ByteRange.start_lt_stop h)⟩

def addAll (c : Coverage) (rs : List ByteRange) : Coverage := rs.foldl add c

def ofRanges (rs : List ByteRange) : Coverage := empty.addAll rs

def total : List ByteRange → Nat
  | [] => 0
  | r :: rs => r.length + total rs

def size (c : Coverage) : Nat := total c.ranges

def isEmpty (c : Coverage) : Bool := c.ranges.isEmpty

end Coverage

end TicketGate
