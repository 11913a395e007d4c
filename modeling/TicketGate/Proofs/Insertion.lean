import TicketGate.Proofs.Positions

namespace TicketGate.Coverage

def leaves (r a : ByteRange) : Bool := a.stop < r.start

def reaches (r a : ByteRange) : Bool := a.start ≤ r.stop

/-- Of the ranges it is the first `i` of which `p` holds. -/
structure PartedAt (p : ByteRange → Bool) (rs : List ByteRange) (i : Nat) : Prop where
  le : i ≤ rs.length
  iff : ∀ j (hj : j < rs.length), p rs[j] = true ↔ j < i

/-- The search finds the place up to which a predicate holds, if there is one. Elsewhere it may come
out anywhere. -/
def Searches (search : (ByteRange → Bool) → List ByteRange → Nat) : Prop :=
  ∀ p rs i, PartedAt p rs i → search p rs = i

section Program

variable (search : (ByteRange → Bool) → List ByteRange → Nat)

def splice? (rs : List ByteRange) (first last : Nat) (r : ByteRange) : Option (List ByteRange) :=
  if first ≤ last ∧ last ≤ rs.length then some (rs.take first ++ r :: rs.drop last) else none

/-- Inserts a range into any list of ranges, if that can be done. -/
def insert? (rs : List ByteRange) (r : ByteRange) : Option (List ByteRange) :=
  if r.isEmpty then some rs
  else
    let first := search (leaves r) rs
    let last := search (reaches r) rs
    if first < last then do
      let a ← rs[first]?
      let b ← rs[last - 1]?
      splice? rs first last ⟨min r.start a.start, max r.stop b.stop⟩
    else splice? rs first last r

inductive Edit
  | add (r : ByteRange)
  | addAll (rs : List ByteRange)
  | collect (rs : List ByteRange)
  | copy

def edit? (rs : List ByteRange) : Edit → Option (List ByteRange)
  | .add r => insert? search rs r
  | .addAll l => l.foldlM (insert? search) rs
  | .collect l => l.foldlM (insert? search) []
  | .copy => some rs

end Program

def edit (c : Coverage) : Edit → Coverage
  | .add r => c.add r
  | .addAll rs => c.addAll rs
  | .collect rs => ofRanges rs
  | .copy => c

/-- The ranges that were added, when those were that `l` lists before the edit. -/
def given (l : List ByteRange) : Edit → List ByteRange
  | .add r => l ++ [r]
  | .addAll rs => l ++ rs
  | .collect rs => rs
  | .copy => l

variable {search : (ByteRange → Bool) → List ByteRange → Nat} {rs : List ByteRange} {r : ByteRange}
  {p : ByteRange → Bool} {c : Coverage} {x i : Nat}

theorem partedAt_before (hs : Separated rs) : PartedAt (leaves r) rs (before rs r) where
  le := (List.takeWhile_sublist _).length_le
  iff j hj := by
    rw [leaves, decide_eq_true_eq]
    constructor
    · intro hlt
      apply Nat.lt_of_not_le
      intro hle
      -- ends do not get smaller after the first range that does not leave
      have hfirst := start_le_of_before (r := r) (Nat.lt_of_le_of_lt hle hj)
      have hstop := stop_le_stop hs hle hj
      omega
    · intro hlt
      exact stop_lt_of_mem_take (List.mem_take_iff_getElem.mpr ⟨j, by omega, rfl⟩)

theorem partedAt_reached (hs : Separated rs) : PartedAt (reaches r) rs (reached rs r) where
  le := reached_le rs r
  iff j hj := by
    rw [reaches, decide_eq_true_eq]
    constructor
    · intro hle
      apply Nat.lt_of_not_le
      intro hj'
      have hmem : rs[j] ∈ rs.drop (reached rs r) :=
        List.mem_drop_iff_getElem.mpr ⟨j - reached rs r, by omega, by
          simp only [Nat.add_sub_cancel' hj']⟩
      have hlt := lt_start_of_mem_drop hs hmem
      omega
    · intro hlt
      exact start_le_of_mem_take (List.mem_take_iff_getElem.mpr ⟨j, by omega, rfl⟩)

theorem searches_takeWhile : Searches fun p rs => (rs.takeWhile p).length := by
  intro p rs i hp
  show (rs.takeWhile p).length = i
  apply Nat.le_antisymm
  · apply Nat.le_of_not_lt
    intro hlt
    have hi : i < rs.length := Nat.lt_of_lt_of_le hlt (List.takeWhile_sublist p).length_le
    have hmem : rs[i] ∈ rs.takeWhile p := by
      rw [← take_length_takeWhile p rs]
      exact List.mem_take_iff_getElem.mpr ⟨i, by omega, rfl⟩
    have hholds : p rs[i] = true := List.all_eq_true.mp List.all_takeWhile _ hmem
    exact absurd ((hp.iff i hi).mp hholds) (Nat.lt_irrefl i)
  · apply Nat.le_of_not_lt
    intro hlt
    have hl : (rs.takeWhile p).length < rs.length := Nat.lt_of_lt_of_le hlt hp.le
    have hholds := (hp.iff _ hl).mpr hlt
    rw [not_getElem_takeWhile p rs hl] at hholds
    exact Bool.false_ne_true hholds

theorem searched_eq (hsearch : Searches search) (hs : Separated rs) (r : ByteRange) :
    search (leaves r) rs = before rs r ∧ search (reaches r) rs = reached rs r :=
  ⟨hsearch _ _ _ (partedAt_before hs), hsearch _ _ _ (partedAt_reached hs)⟩

theorem insert?_of_isEmpty (hr : r.isEmpty = true) : insert? search rs r = some rs := if_pos hr

theorem insert?_eq_splice (hsearch : Searches search) (hs : Separated rs) (hr : r.start < r.stop) :
    insert? search rs r = some (splice rs r) := by
  obtain ⟨hfirst, hlast⟩ := searched_eq hsearch hs r
  have hle := before_le_reached hs hr
  have hlen := reached_le rs r
  have hempty : ¬ r.isEmpty = true := by simp [ByteRange.isEmpty, hr]
  have hsplice (r' : ByteRange) : splice? rs (before rs r) (reached rs r) r' =
      some (rs.take (before rs r) ++ r' :: rs.drop (reached rs r)) := if_pos ⟨hle, hlen⟩
  rw [insert?, if_neg hempty]
  simp only [hfirst, hlast, hsplice, splice, merged]
  by_cases hlt : before rs r < reached rs r
  · have ha : before rs r < rs.length := by omega
    have hb : reached rs r - 1 < rs.length := by omega
    simp [hlt, List.getElem?_eq_getElem ha, List.getElem?_eq_getElem hb]
  · simp [hlt]

theorem insert?_ranges (hsearch : Searches search) (c : Coverage) (r : ByteRange) :
    insert? search c.ranges r = some (c.add r).ranges := by
  by_cases hr : r.isEmpty = true
  · rw [insert?_of_isEmpty hr, add, dif_pos hr]
  · rw [insert?_eq_splice hsearch c.separated (ByteRange.start_lt_stop hr), add, dif_neg hr]

theorem foldlM_insert?_ranges (hsearch : Searches search) (c : Coverage) (rs : List ByteRange) :
    rs.foldlM (insert? search) c.ranges = some (c.addAll rs).ranges := by
  induction rs generalizing c with
  | nil => rfl
  | cons r rs ih =>
    rw [List.foldlM_cons, insert?_ranges hsearch]
    exact ih (c.add r)

theorem edit?_ranges (hsearch : Searches search) (c : Coverage) (e : Edit) :
    edit? search c.ranges e = some (c.edit e).ranges := by
  cases e with
  | add r => exact insert?_ranges hsearch c r
  | addAll rs => exact foldlM_insert?_ranges hsearch c rs
  | collect rs => exact foldlM_insert?_ranges hsearch empty rs
  | copy => rfl

theorem foldlM_edit?_ranges (hsearch : Searches search) (c : Coverage) (es : List Edit) :
    es.foldlM (edit? search) c.ranges = some (es.foldl edit c).ranges := by
  induction es generalizing c with
  | nil => rfl
  | cons e es ih =>
    rw [List.foldlM_cons, edit?_ranges hsearch]
    exact ih (c.edit e)

/-- Insertion is safe. After any edits of no ranges at all there is a result, which is separated. On
separated ranges both searches are for a place that there is, the run ends no earlier than it begins
and within the list, the ranges at its two ends exist unless there are none in it, and the result is
separated again. -/
theorem insertion_safe (hsearch : Searches search) :
    (∀ es : List Edit, es.foldlM (edit? search) [] = some (es.foldl edit empty).ranges ∧
      Separated (es.foldl edit empty).ranges) ∧
    ∀ rs r, Separated rs → r.start < r.stop →
      ∃ first last, search (leaves r) rs = first ∧ search (reaches r) rs = last ∧
        PartedAt (leaves r) rs first ∧ PartedAt (reaches r) rs last ∧
        first ≤ last ∧ last ≤ rs.length ∧
        (first < last → (∃ a, rs[first]? = some a) ∧ ∃ b, rs[last - 1]? = some b) ∧
        ∃ rs', insert? search rs r = some rs' ∧ Separated rs' := by
  refine ⟨fun es => ⟨foldlM_edit?_ranges hsearch empty es, (es.foldl edit empty).separated⟩, ?_⟩
  intro rs r hs hr
  obtain ⟨hfirst, hlast⟩ := searched_eq hsearch hs r
  have hle := before_le_reached hs hr
  have hlen := reached_le rs r
  refine ⟨_, _, hfirst, hlast, partedAt_before hs, partedAt_reached hs, hle, hlen, ?_,
    _, insert?_eq_splice hsearch hs hr, splice_separated hs hr⟩
  intro hlt
  exact ⟨⟨_, List.getElem?_eq_getElem (by omega)⟩, _, List.getElem?_eq_getElem (by omega)⟩

theorem insertion_safe_of_bridge :
    ∃ search, Searches search ∧ Separated [⟨0, 100⟩, ⟨200, 300⟩, ⟨500, 600⟩] ∧
      PartedAt (leaves ⟨50, 250⟩) [⟨0, 100⟩, ⟨200, 300⟩, ⟨500, 600⟩] 0 ∧
      PartedAt (reaches ⟨50, 250⟩) [⟨0, 100⟩, ⟨200, 300⟩, ⟨500, 600⟩] 2 ∧
      insert? search [⟨0, 100⟩, ⟨200, 300⟩, ⟨500, 600⟩] ⟨50, 250⟩ = some [⟨0, 300⟩, ⟨500, 600⟩] ∧
      Separated [⟨0, 300⟩, ⟨500, 600⟩] := by
  obtain ⟨hedits, hinsert⟩ := insertion_safe searches_takeWhile
  have hs : Separated [⟨0, 100⟩, ⟨200, 300⟩, ⟨500, 600⟩] :=
    (hedits [.collect [⟨500, 600⟩, ⟨0, 100⟩, ⟨200, 300⟩]]).2
  obtain ⟨first, last, rfl, rfl, hfirst, hlast, -, -, -, rs', hrs', hs'⟩ :=
    hinsert _ ⟨50, 250⟩ hs (by decide)
  obtain rfl : [⟨0, 300⟩, ⟨500, 600⟩] = rs' := Option.some.inj hrs'
  exact ⟨_, searches_takeWhile, hs, hfirst, hlast, hrs', hs'⟩

theorem mem_ofRanges : x ∈ ofRanges rs ↔ ∃ r ∈ rs, x ∈ r := by
  rw [ofRanges, mem_addAll, or_iff_right not_mem_empty]

theorem mem_edit {l : List ByteRange} (h : x ∈ c ↔ ∃ r ∈ l, x ∈ r) (e : Edit) :
    x ∈ c.edit e ↔ ∃ r ∈ given l e, x ∈ r := by
  have hall (rs : List ByteRange) : x ∈ c.addAll rs ↔ ∃ r ∈ l ++ rs, x ∈ r := by
    simp only [mem_addAll, h, List.mem_append, or_and_right, exists_or]
  cases e with
  | add r => exact hall [r]
  | addAll rs => exact hall rs
  | collect rs => exact mem_ofRanges
  | copy => exact h

theorem mem_foldl_edit {l : List ByteRange} (h : x ∈ c ↔ ∃ r ∈ l, x ∈ r) (es : List Edit) :
    x ∈ es.foldl edit c ↔ ∃ r ∈ es.foldl given l, x ∈ r := by
  induction es generalizing c l with
  | nil => exact h
  | cons e es ih => exact ih (mem_edit h e)

/-- To add a range, empty or not, is to form the union with it; and after any edits that start from
no ranges at all the positions are those of the ranges that were given. -/
theorem covers_union :
    (∀ (c : Coverage) (r : ByteRange) (x : Nat),
      (∃ a ∈ (c.add r).ranges, a.start ≤ x ∧ x < a.stop) ↔
        (∃ a ∈ c.ranges, a.start ≤ x ∧ x < a.stop) ∨ (r.start ≤ x ∧ x < r.stop)) ∧
    (∀ (c : Coverage) (rs : List ByteRange) (x : Nat),
      x ∈ c.addAll rs ↔ x ∈ c ∨ ∃ r ∈ rs, x ∈ r) ∧
    (∀ (rs : List ByteRange) (x : Nat), x ∈ ofRanges rs ↔ ∃ r ∈ rs, x ∈ r) ∧
    ∀ (es : List Edit) (x : Nat), x ∈ es.foldl edit empty ↔ ∃ r ∈ es.foldl given [], x ∈ r :=
  ⟨fun _ _ _ => mem_add, fun _ _ _ => mem_addAll, fun _ _ => mem_ofRanges,
    fun es _ => mem_foldl_edit (by simp [not_mem_empty]) es⟩

end TicketGate.Coverage
