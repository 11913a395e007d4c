import Mathlib.Data.List.TakeDrop
import TicketGate.Fault
import TicketGate.Json.Reader
import TicketGate.Proofs.Numeral

namespace TicketGate.Json

variable {n : Nat} {cs : List Char} {v w : Json} {ts : List Token} {fs : List Frame}

/-- Values that can be told from their compact text: whole numbers are of 64 bits, the keys of an
object ascend, and there are no doubles. -/
inductive Legible : Json → Prop
  | null : Legible null
  | bool (b : Bool) : Legible (bool b)
  | integer {n : Int} : -0x8000000000000000 ≤ n → n ≤ maxWord → Legible (integer n)
  | string (s : String) : Legible (string s)
  | array {items : List Json} : (∀ v ∈ items, Legible v) → Legible (array items)
  | object {fields : List (String × Json)} :
      (fields.map Prod.fst).Pairwise (· < ·) → (∀ f ∈ fields, Legible f.2) → Legible (object fields)

mutual

def tokens : Json → List Token
  | array items => .openArray :: itemTokens items
  | object fields => .openObject :: fieldTokens fields
  | v => [.scalar v]

def itemTokens : List Json → List Token
  | [] => [.closeArray]
  | [v] => tokens v ++ [.closeArray]
  | v :: vs => tokens v ++ .comma :: itemTokens vs

def fieldTokens : List (String × Json) → List Token
  | [] => [.closeObject]
  | [(k, v)] => .scalar (string k) :: .colon :: tokens v ++ [.closeObject]
  | (k, v) :: fs => .scalar (string k) :: .colon :: tokens v ++ .comma :: fieldTokens fs

end

def Stop (cs : List Char) : Prop := ∀ c ∈ cs.head?, c = ',' ∨ c = ']' ∨ c = '\x7d'

theorem hexValue?_hexDigit : ∀ n, n < 16 → hexValue? (hexDigit n) = some n := by decide

theorem string?_escapeChar (c : Char) (cs : List Char) :
    string? (escapeChar c ++ cs) = (string? cs).map fun r => (c :: r.1, r.2) := by
  unfold escapeChar
  split_ifs with hq hb h8 hf hn hr ht hctl
  iterate 7 · subst_vars; cases h : string? cs <;> simp [string?, escaped?, h]
  -- a control character is written by number, with two digits that count
  · have hu : unit? '0' '0' (hexDigit (c.toNat / 16)) (hexDigit (c.toNat % 16)) = some c.toNat := by
      have h0 : hexValue? '0' = some 0 := rfl
      have hd : c.toNat / 16 * 16 + c.toNat % 16 = c.toNat := by omega
      simp [unit?, h0, hexValue?_hexDigit (c.toNat / 16) (by omega),
        hexValue?_hexDigit (c.toNat % 16) (by omega), hd]
    simp only [List.cons_append, List.nil_append]
    rw [string?, hu]
    have h1 : ¬ (0xD800 ≤ c.toNat ∧ c.toNat < 0xDC00) := by omega
    have h2 : ¬ (0xDC00 ≤ c.toNat ∧ c.toNat < 0xE000) := by omega
    cases string? cs <;> simp [h1, h2, Char.ofNat_toNat]
  · cases h : string? cs <;> simp [string?, hb, hctl, h]

theorem string?_flatMap (s : List Char) (cs : List Char) :
    string? (s.flatMap escapeChar ++ '\x22' :: cs) = some (s, cs) := by
  induction s with
  | nil => rfl
  | cons c s ih =>
    rw [List.flatMap_cons, List.append_assoc, string?_escapeChar, ih]
    rfl

theorem isDigit_of_mem_toDigits {c : Char} (hc : c ∈ Nat.toDigits 10 n) : c.isDigit = true :=
  Nat.isDigit_of_mem_toDigits (by decide) (by decide) hc

theorem head?_toDigits (h : (Nat.toDigits 10 n).head? = some '0') : n = 0 := by
  induction n using Nat.strongRecOn with
  | ind n ih =>
    rw [Nat.toDigits_eq_if (by decide)] at h
    split at h
    · next hn =>
      have hdigit : ∀ n, n < 10 → n.digitChar = '0' → n = 0 := by decide
      exact hdigit n hn (by simpa using h)
    · next hn =>
      rw [List.head?_append_of_ne_nil _ Nat.toDigits_ne_nil] at h
      have hzero := ih (n / 10) (by omega) h
      omega

theorem foldl_pushWhole {m : Nat} (h : Nat.ofDigitChars 10 cs m ≤ maxWord) :
    cs.foldl Digits.pushWhole ⟨m, 0, false⟩ = ⟨Nat.ofDigitChars 10 cs m, 0, false⟩ := by
  induction cs generalizing m with
  | nil => rfl
  | cons c cs ih =>
    rw [Nat.ofDigitChars_cons] at h ⊢
    have hle := Timeout.le_ofDigitChars (10 * m + (c.toNat - '0'.toNat)) cs
    have hfits : ¬ (false = true ∨ maxWord < m * 10 + digitValue c) := by
      rw [digitValue]
      simp only [Bool.false_eq_true, false_or]
      omega
    have hpush : Digits.pushWhole ⟨m, 0, false⟩ c = ⟨10 * m + (c.toNat - '0'.toNat), 0, false⟩ := by
      rw [Digits.pushWhole, if_neg hfits, digitValue, Nat.mul_comm]
    rw [List.foldl_cons, hpush, ih h]

theorem span_toDigits (hcs : Stop cs) :
    (Nat.toDigits 10 n ++ cs).span Char.isDigit = (Nat.toDigits 10 n, cs) := by
  have hds : ∀ c ∈ Nat.toDigits 10 n, c.isDigit = true := fun _ => isDigit_of_mem_toDigits
  have hstop : cs.takeWhile Char.isDigit = [] ∧ cs.dropWhile Char.isDigit = cs := by
    cases cs with
    | nil => exact ⟨rfl, rfl⟩
    | cons c cs => obtain rfl | rfl | rfl := hcs c rfl <;> exact ⟨rfl, rfl⟩
  rw [List.span_eq_takeWhile_dropWhile, List.takeWhile_append_of_pos hds,
    List.dropWhile_append_of_pos hds, hstop.1, hstop.2, List.append_nil]

theorem number?_toDigits {negative : Bool} (hn : n ≤ maxWord) (hcs : Stop cs) :
    number? negative (Nat.toDigits 10 n ++ cs) =
      (wholeNumber? negative ⟨n, 0, false⟩).map (·, cs) := by
  have hvalue : Nat.ofDigitChars 10 (Nat.toDigits 10 n) 0 = n :=
    Nat.ofDigitChars_toDigits (by decide) (by decide)
  have hfold := foldl_pushWhole (hvalue.symm ▸ hn)
  rw [hvalue] at hfold
  rw [number?, span_toDigits hcs]
  split
  · next h => exact absurd (congrArg Prod.fst h) Nat.toDigits_ne_nil
  · next h =>
    obtain ⟨h, -⟩ := Prod.mk.inj h
    have hzero : n = 0 := head?_toDigits (by rw [h]; rfl)
    rw [hzero] at h
    cases h
  · next h =>
    obtain ⟨rfl, rfl⟩ := Prod.mk.inj h
    rw [hfold]
    cases cs with
    | nil => rfl
    | cons c cs => obtain rfl | rfl | rfl := hcs c rfl <;> rfl

theorem tokens?_of_token? {c : Char} {t : Token} {rest : List Char}
    (h : token? (c :: cs) = some (t, rest)) (hc : isBlank c = false)
    (hlen : rest.length ≤ cs.length) : tokens? (c :: cs) = (tokens? rest).map (t :: ·) := by
  simp [tokens?, hc, h, hlen]

theorem tokens?_quoted (s : String) (cs : List Char) :
    tokens? (quoted s ++ cs) = (tokens? cs).map (.scalar (string s) :: ·) := by
  have htoken : token? ('\x22' :: (s.toList.flatMap escapeChar ++ '\x22' :: cs)) =
      some (.scalar (string s), cs) := by
    simp only [token?, string?_flatMap, Option.map_some, String.ofList_toList]
  rw [quoted, List.cons_append, List.cons_append, List.append_assoc]
  exact tokens?_of_token? htoken rfl (by simp; omega)

theorem tokens?_toDigits (h : number? false (Nat.toDigits 10 n ++ cs) = some (v, cs)) :
    tokens? (Nat.toDigits 10 n ++ cs) = (tokens? cs).map (.scalar v :: ·) := by
  cases hds : Nat.toDigits 10 n with
  | nil => exact absurd hds Nat.toDigits_ne_nil
  | cons d ds =>
    have hd : d ∈ Nat.toDigits 10 n := by simp [hds]
    have hne : ∀ c : Char, c.isDigit = false → d ≠ c := by
      rintro c hc rfl
      exact Bool.false_ne_true (hc.symm.trans (isDigit_of_mem_toDigits hd))
    rw [hds] at h
    refine tokens?_of_token? ?_ (by simp [isBlank, hne]) (by simp)
    simp only [List.cons_append] at h
    simp [token?, hne, h]

theorem tokens?_toString {n : Int} (hl : -0x8000000000000000 ≤ n) (hu : n ≤ maxWord)
    (hcs : Stop cs) :
    tokens? ((toString n).toList ++ cs) = (tokens? cs).map (.scalar (integer n) :: ·) := by
  cases n with
  | ofNat n =>
    have htext : (toString (Int.ofNat n)).toList = Nat.toDigits 10 n := Nat.toList_repr
    have hnumber : number? false (Nat.toDigits 10 n ++ cs) = some (integer n, cs) := by
      rw [number?_toDigits (Int.ofNat_le.mp hu) hcs]
      simp [wholeNumber?]
    rw [htext]
    exact tokens?_toDigits hnumber
  | negSucc n =>
    have htext : (toString (Int.negSucc n)).toList = '-' :: Nat.toDigits 10 (n + 1) := by
      rw [Int.toString_eq_repr, Int.repr, String.toList_append, Nat.toList_repr]
      rfl
    have hn : n + 1 ≤ 0x8000000000000000 := by omega
    have hnumber :
        number? true (Nat.toDigits 10 (n + 1) ++ cs) = some (integer (.negSucc n), cs) := by
      rw [number?_toDigits (by rw [maxWord]; omega) hcs]
      simp [wholeNumber?, hn]
      omega
    have htoken : token? ('-' :: (Nat.toDigits 10 (n + 1) ++ cs)) =
        some (.scalar (integer (.negSucc n)), cs) := by
      simp only [token?, hnumber, Option.map_some]
    rw [htext]
    exact tokens?_of_token? htoken rfl (by simp)

theorem tokens?_mark (c : Char) (t : Token) (h : token? (c :: cs) = some (t, cs))
    (hc : isBlank c = false) : tokens? (c :: cs) = (tokens? cs).map (t :: ·) :=
  tokens?_of_token? h hc (Nat.le_refl _)

/-- The text of the value gives its tokens, in front of all that may follow a value. -/
def Lexes (v : Json) : Prop :=
  ∀ cs, Stop cs → tokens? (chars v ++ cs) = (tokens? cs).map (tokens v ++ ·)

theorem tokens?_itemChars {items : List Json} (h : ∀ v ∈ items, Lexes v) (cs : List Char) :
    tokens? (itemChars items ++ cs) = (tokens? cs).map (itemTokens items ++ ·) := by
  induction items with
  | nil => exact tokens?_mark ']' .closeArray rfl rfl
  | cons v vs ih =>
    have hv := h v List.mem_cons_self
    cases vs with
    | nil =>
      simp only [itemChars, itemTokens, List.append_assoc, List.singleton_append]
      rw [hv _ (by simp [Stop]), tokens?_mark ']' .closeArray rfl rfl]
      simp [Function.comp_def]
    | cons w vs =>
      have hvs := ih fun w hw => h w (List.mem_cons_of_mem v hw)
      simp only [itemChars, itemTokens, List.append_assoc, List.cons_append]
      rw [hv _ (by simp [Stop]), tokens?_mark ',' .comma rfl rfl, hvs]
      simp [Function.comp_def]

theorem tokens?_fieldChars {fields : List (String × Json)} (h : ∀ f ∈ fields, Lexes f.2)
    (cs : List Char) :
    tokens? (fieldChars fields ++ cs) = (tokens? cs).map (fieldTokens fields ++ ·) := by
  induction fields with
  | nil => exact tokens?_mark '\x7d' .closeObject rfl rfl
  | cons f fields ih =>
    obtain ⟨k, v⟩ := f
    have hv : Lexes v := h (k, v) List.mem_cons_self
    cases fields with
    | nil =>
      simp only [fieldChars, fieldTokens, List.append_assoc, List.cons_append, List.nil_append]
      rw [tokens?_quoted, tokens?_mark ':' .colon rfl rfl, hv _ (by simp [Stop]),
        tokens?_mark '\x7d' .closeObject rfl rfl]
      simp [Function.comp_def]
    | cons f fields =>
      have hfields := ih fun f hf => h f (List.mem_cons_of_mem _ hf)
      simp only [fieldChars, fieldTokens, List.append_assoc, List.cons_append]
      rw [tokens?_quoted, tokens?_mark ':' .colon rfl rfl, hv _ (by simp [Stop]),
        tokens?_mark ',' .comma rfl rfl, hfields]
      simp [Function.comp_def]

theorem Legible.lexes (h : Legible v) : Lexes v := by
  induction h with
  | null => exact fun cs _ => tokens?_of_token? rfl rfl (by simp; omega)
  | bool b => cases b <;> exact fun cs _ => tokens?_of_token? rfl rfl (by simp; omega)
  | integer hl hu => exact fun cs hcs => tokens?_toString hl hu hcs
  | string s => exact fun cs _ => tokens?_quoted s cs
  | @array items _ ih =>
    intro cs _
    rw [chars, tokens, List.cons_append, tokens?_mark '[' .openArray rfl rfl, tokens?_itemChars ih,
      Option.map_map]
    rfl
  | @object fields _ _ ih =>
    intro cs _
    rw [chars, tokens, List.cons_append, tokens?_mark '\x7b' .openObject rfl rfl,
      tokens?_fieldChars ih, Option.map_map]
    rfl

def Parses (v : Json) : Prop := ∀ ts fs, value? (tokens v ++ ts) fs = rest? v ts fs

theorem value?_itemTokens {items : List Json} (hv : Parses v) (h : ∀ w ∈ items, Parses w)
    (done : List Json) (ts : List Token) (fs : List Frame) :
    value? (itemTokens (v :: items) ++ ts) (.items done :: fs) =
      rest? (array (done.reverse ++ v :: items)) ts fs := by
  induction items generalizing v done with
  | nil =>
    simp only [itemTokens, List.append_assoc, List.singleton_append]
    rw [hv, rest?, List.reverse_cons]
  | cons w items ih =>
    simp only [itemTokens, List.append_assoc, List.cons_append]
    rw [hv, rest?, ih (h w List.mem_cons_self) fun w hw => h w (List.mem_cons_of_mem _ hw)]
    simp

theorem value?_fieldTokens {k : String} {fields : List (String × Json)} (hv : Parses v)
    (h : ∀ f ∈ fields, Parses f.2) (done : List (String × Json)) (ts : List Token)
    (fs : List Frame) :
    ∃ ts', fieldTokens ((k, v) :: fields) ++ ts = .scalar (string k) :: .colon :: ts' ∧
      value? ts' (.fields done k :: fs) =
        rest? (ofFields (done.reverse ++ (k, v) :: fields)) ts fs := by
  induction fields generalizing k v done with
  | nil =>
    refine ⟨tokens v ++ .closeObject :: ts, by simp [fieldTokens], ?_⟩
    rw [hv, rest?, List.reverse_cons]
  | cons f fields ih =>
    obtain ⟨ts', hts, hrest⟩ := ih (k := f.1) (h f List.mem_cons_self)
      (fun f hf => h f (List.mem_cons_of_mem _ hf)) ((k, v) :: done)
    refine ⟨tokens v ++ .comma :: .scalar (string f.1) :: .colon :: ts', ?_, ?_⟩
    · simp [fieldTokens, ← hts]
    · rw [hv, rest?, hrest]
      simp

theorem insertField_of_lt {key : String} {fields : List (String × Json)}
    (h : ∀ f ∈ fields, f.1 < key) : insertField key v fields = fields ++ [(key, v)] := by
  induction fields with
  | nil => rfl
  | cons f fields ih =>
    have hf : f.1 < key := h f List.mem_cons_self
    rw [insertField, if_neg (String.lt_asymm hf), if_neg (String.ne_of_lt hf),
      ih fun f hf => h f (List.mem_cons_of_mem _ hf)]
    rfl

theorem foldl_insertField {done fields : List (String × Json)}
    (h : ((done ++ fields).map Prod.fst).Pairwise (· < ·)) :
    fields.foldl (fun fs f => insertField f.1 f.2 fs) done = done ++ fields := by
  induction fields generalizing done with
  | nil => exact (List.append_nil done).symm
  | cons f fields ih =>
    have hlt : ∀ d ∈ done, d.1 < f.1 := by
      intro d hd
      rw [List.map_append, List.pairwise_append] at h
      exact h.2.2 _ (List.mem_map_of_mem hd) _ (List.mem_map_of_mem List.mem_cons_self)
    rw [List.foldl_cons, insertField_of_lt hlt, ih (by simpa using h), List.append_assoc]
    rfl

theorem tokens_ne_closeArray (v : Json) (ts ts' : List Token) :
    tokens v ++ ts ≠ .closeArray :: ts' := by
  cases v <;> simp [tokens]

theorem value?_openArray (h : ∀ ts', ts ≠ .closeArray :: ts') :
    value? (.openArray :: ts) fs = value? ts (.items [] :: fs) := by
  rw [value?]
  exact h

theorem Legible.parses (h : Legible v) : Parses v := by
  induction h with
  | null | bool | integer | string => exact fun ts fs => rfl
  | @array items _ ih =>
    intro ts fs
    cases items with
    | nil => rfl
    | cons v items =>
      have hopen : ∀ ts', itemTokens (v :: items) ++ ts ≠ .closeArray :: ts' := by
        cases items <;> simp [itemTokens, tokens_ne_closeArray]
      rw [tokens, List.cons_append, value?_openArray hopen,
        value?_itemTokens (ih v List.mem_cons_self) fun w hw => ih w (List.mem_cons_of_mem _ hw)]
      rfl
  | @object fields hkeys _ ih =>
    intro ts fs
    cases fields with
    | nil => rfl
    | cons f fields =>
      obtain ⟨ts', hts, hrest⟩ := value?_fieldTokens (k := f.1) (ih f List.mem_cons_self)
        (fun f hf => ih f (List.mem_cons_of_mem _ hf)) [] ts fs
      rw [tokens, List.cons_append, hts, value?, hrest]
      exact congrArg (fun fields => rest? (.object fields) ts fs) (foldl_insertField hkeys)

/-- The compact text of a legible value is read back as the value. -/
theorem read?_compact (h : Legible v) : read? v.compact = some v := by
  have htokens := h.lexes [] (by simp [Stop])
  have hvalue : value? (tokens v ++ []) [] = some v := h.parses [] []
  rw [List.append_nil, tokens?, Option.map_some] at htokens
  rw [read?, compact, String.toList_ofList, htokens]
  exact hvalue

theorem compact_inj (hv : Legible v) (hw : Legible w) (h : v.compact = w.compact) : v = w := by
  have hread := read?_compact hv
  rw [h, read?_compact hw] at hread
  exact (Option.some.inj hread).symm

end TicketGate.Json

namespace TicketGate

theorem Fault.read?_body (f : Fault) :
    Json.read? f.body = some (.object [("message", .string f.message)]) :=
  Json.read?_compact (.object (List.pairwise_singleton _ _) fun
    | _, .head _ => .string f.message)

end TicketGate
