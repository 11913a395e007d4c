import TicketGate.Proofs.AccessList

namespace TicketGate.Grant

/-- The fields of a record, in the order in which they are checked. -/
inductive Field
  | uuid
  | size
  | ops
  | timeout
  | inactivityTimeout
  | url
  | transferId
  | filename
  | sparse
  | dirty
deriving DecidableEq

namespace Field

def all : List Field :=
  [uuid, size, ops, timeout, inactivityTimeout, url, transferId, filename, sparse, dirty]

def key : Field → String
  | uuid => "uuid"
  | size => "size"
  | ops => "ops"
  | timeout => "timeout"
  | inactivityTimeout => "inactivity_timeout"
  | url => "url"
  | transferId => "transfer_id"
  | filename => "filename"
  | sparse => "sparse"
  | dirty => "dirty"

def isRequired : Field → Bool
  | uuid | size | ops | timeout | url => true
  | inactivityTimeout | transferId | filename | sparse | dirty => false

def Fits (parse : String → Except Url.Flaw Url) : Field → Json → Prop
  | uuid, v | transferId, v | filename, v => ∃ s, v = .string s
  | size, v | timeout, v | inactivityTimeout, v => ∃ n, n ≤ maxWord ∧ v = .ofNat n
  | ops, v => ∃ ks, ks ≠ [] ∧ ks.Nodup ∧ v = .array (accessNames ks)
  | url, v => ∃ s u, v = .string s ∧ parse s = .ok u ∧ u.scheme ∈ supportedSchemes
  | sparse, v | dirty, v => ∃ b, v = .bool b

/-- The field is there with a good value, or may be left out and is. -/
def Good (parse : String → Except Url.Flaw Url) (fs : Fields) (f : Field) : Prop :=
  match Json.field? fs f.key with
  | some v => f.Fits parse v
  | none => f.isRequired = false

/-- What is wrong with a value of a field, and the text that stands for the value. -/
inductive Flawed (parse : String → Except Url.Flaw Url) : Field → Json → String → FieldFlaw → Prop
  | notString {f : Field} {v : Json} : f ∈ [uuid, url, transferId, filename] →
      (∀ s, v ≠ .string s) → Flawed parse f v v.compact .notString
  | notCounter {f : Field} {v : Json} : f ∈ [size, timeout, inactivityTimeout] →
      (∀ n, n ≤ maxWord → v ≠ .ofNat n) → Flawed parse f v v.compact .notCounter
  | notFlag {f : Field} {v : Json} : f ∈ [sparse, dirty] →
      (∀ b, v ≠ .bool b) → Flawed parse f v v.compact .notFlag
  | notList {v : Json} : (∀ items, v ≠ .array items) → Flawed parse ops v v.compact .notList
  | emptyList : Flawed parse ops (.array []) (Json.array []).compact .emptyList
  | badItem {items rest : List Json} {ks : List Access} {item : Json} {flaw : FieldFlaw} :
      items = accessNames ks ++ item :: rest → ks.Nodup → ItemFlaw ks item flaw →
      Flawed parse ops (.array items) (Json.array items).compact flaw
  | badUrl {s : String} {flaw : Url.Flaw} : parse s = .error flaw →
      Flawed parse url (.string s) s (.badUrl flaw)
  | badScheme {s : String} {u : Url} : parse s = .ok u → u.scheme ∉ supportedSchemes →
      Flawed parse url (.string s) s (.unsupportedScheme u.scheme)

inductive Wrong (parse : String → Except Url.Flaw Url) (fs : Fields) (f : Field) : Fault → Prop
  | missing : Json.field? fs f.key = none → f.isRequired = true →
      Wrong parse fs f (.missingField f.key)
  | bad {v : Json} {value : String} {flaw : FieldFlaw} : Json.field? fs f.key = some v →
      f.Flawed parse v value flaw → Wrong parse fs f (.badField f.key value flaw)

end Field

/-- A kind of field takes exactly the values that `write` makes of what satisfies `P`. -/
def Kind.Takes {α : Type} (k : Kind α) (P : α → Prop) (write : α → Json) : Prop :=
  ∀ v a, k.take v = some a ↔ P a ∧ v = write a

def faultOf {α : Type} : Except Fault α → Option Fault
  | .ok _ => none
  | .error f => some f

variable {α β : Type} {parse : String → Except Url.Flaw Url} {fs : Fields} {k : Kind α}
  {P : α → Prop} {write : α → Json} {name : String} {v : Json} {x : Fault}

theorem bind_eq_ok {r : Except Fault α} {f : α → Except Fault β} {b : β} :
    r >>= f = .ok b ↔ ∃ a, r = .ok a ∧ f a = .ok b := by
  cases r <;> simp [bind, Except.bind]

theorem faultOf_eq_none_iff {r : Except Fault α} : faultOf r = none ↔ ∃ a, r = .ok a := by
  cases r <;> simp [faultOf]

theorem faultOf_eq_some_iff {r : Except Fault α} : faultOf r = some x ↔ r = .error x := by
  cases r <;> simp [faultOf]

theorem faultOf_map (r : Except Fault α) (f : α → β) : faultOf (r.map f) = faultOf r := by
  cases r <;> rfl

theorem faultOf_bind {r : Except Fault α} {f : α → Except Fault β} {y : Option Fault}
    (hf : ∀ a, faultOf (f a) = y) : faultOf (r >>= f) = (faultOf r).or y := by
  cases r with
  | ok a => exact hf a
  | error x => rfl

theorem string_takes : string.Takes (fun _ => True) .string := by
  intro v s
  cases v <;> simp [string, Json.asString?]

theorem counter_takes : counter.Takes (· ≤ maxWord) .ofNat := by
  intro v n
  cases v with
  | integer i =>
    simp only [counter, Json.asWord?, Json.ofNat, Option.ite_none_right_eq_some, Option.some.injEq,
      Json.integer.injEq]
    omega
  | _ => simp [counter, Json.asWord?, Json.ofNat]

theorem flag_takes : flag.Takes (fun _ => True) .bool := by
  intro v b
  cases v <;> simp [flag, Json.asBool?]

theorem required_eq_ok_iff (hk : k.Takes P write) {a : α} :
    required k fs name = .ok a ↔ P a ∧ Json.field? fs name = some (write a) := by
  rw [required, present]
  cases Json.field? fs name with
  | none => simp [bind, Except.bind]
  | some v =>
    simp only [bind, Except.bind, Kind.check, Option.some.injEq, ← hk v a]
    cases k.take v <;> simp

theorem optional_eq_ok_iff (hk : k.Takes P write) {o : Option α} :
    optional k fs name = .ok o ↔ (∀ a ∈ o, P a) ∧ Json.field? fs name = o.map write := by
  rw [optional]
  cases Json.field? fs name with
  | none => cases o <;> simp
  | some v =>
    have htake (a : α) := hk v a
    cases ht : k.take v with
    | none => cases o <;> simp_all [Kind.check, Except.map]
    | some b => cases o <;> simp_all [Kind.check, Except.map]

theorem faultOf_check_eq_none_iff (hk : k.Takes P write) :
    faultOf (k.check name v) = none ↔ ∃ a, P a ∧ v = write a := by
  simp only [← hk v, Kind.check]
  cases k.take v <;> simp [faultOf]

theorem faultOf_check_eq_some_iff (hk : k.Takes P write) :
    faultOf (k.check name v) = some x ↔
      (∀ a, P a → v ≠ write a) ∧ x = .badField name v.compact k.flaw := by
  have hnone : k.take v = none ↔ ∀ a, P a → v ≠ write a := by
    simp only [Option.eq_none_iff_forall_ne_some, Ne, hk v, not_and]
  rw [← hnone, Kind.check]
  cases k.take v <;> simp [faultOf, eq_comm]

theorem accessList_eq_error_iff {flaw : FieldFlaw} :
    accessList v = .error flaw ↔ Field.Flawed parse .ops v v.compact flaw := by
  constructor
  · intro h
    unfold accessList at h
    split at h
    · obtain rfl := Except.error.inj h
      exact .emptyList
    · obtain ⟨ks, item, rest, hi, hks, hf⟩ := accessItems_eq_error_iff.mp h
      exact .badItem hi (fresh_nil.mp hks) hf
    · next hn =>
      obtain rfl := Except.error.inj h
      exact .notList hn
  · intro h
    cases h with
    | notString hm | notCounter hm | notFlag hm => simp at hm
    | notList hn => cases v <;> first | rfl | exact absurd rfl (hn _)
    | emptyList => rfl
    | @badItem items rest ks item _ hi hks hf =>
      have hitems := accessItems_eq_error_iff.mpr ⟨ks, item, rest, hi, fresh_nil.mpr hks, hf⟩
      cases items with
      | nil => simp at hi
      | cons item' items => rwa [accessList_cons]

namespace Field

def check (parse : String → Except Url.Flaw Url) (v : Json) (f : Field) : Option Fault :=
  match f with
  | uuid | transferId | filename => faultOf (string.check f.key v)
  | size | timeout | inactivityTimeout => faultOf (counter.check f.key v)
  | sparse | dirty => faultOf (flag.check f.key v)
  | ops => faultOf (readAccess v)
  | url => faultOf (string.check f.key v >>= readUrl parse)

def fault? (parse : String → Except Url.Flaw Url) (fs : Fields) (f : Field) : Option Fault :=
  match Json.field? fs f.key with
  | some v => f.check parse v
  | none => if f.isRequired then some (.missingField f.key) else none

variable {f : Field} {value : String} {flaw : FieldFlaw}

theorem faultOf_readUrl_eq_none_iff {s : String} :
    faultOf (readUrl parse s) = none ↔ ∃ u, parse s = .ok u ∧ u.scheme ∈ supportedSchemes := by
  unfold readUrl
  cases parse s with
  | error e => simp [faultOf]
  | ok u => by_cases hu : u.scheme ∈ supportedSchemes <;> simp [faultOf, supports, hu]

theorem faultOf_readUrl_eq_some_iff {s : String} :
    faultOf (readUrl parse s) = some x ↔
      (∃ e, parse s = .error e ∧ x = .badField "url" s (.badUrl e)) ∨
        ∃ u, parse s = .ok u ∧ u.scheme ∉ supportedSchemes ∧
          x = .badField "url" s (.unsupportedScheme u.scheme) := by
  unfold readUrl
  cases parse s with
  | error e => simp [faultOf, eq_comm]
  | ok u =>
    by_cases hu : u.scheme ∈ supportedSchemes <;> simp [faultOf, supports, hu, eq_comm (a := x)]

theorem check_eq_none_iff : f.check parse v = none ↔ f.Fits parse v := by
  cases f with
  | uuid | transferId | filename =>
    exact (faultOf_check_eq_none_iff string_takes).trans (by simp [Fits])
  | size | timeout | inactivityTimeout => exact faultOf_check_eq_none_iff counter_takes
  | sparse | dirty => exact (faultOf_check_eq_none_iff flag_takes).trans (by simp [Fits])
  | ops =>
    simp only [check, readAccess, Fits]
    rw [← exists_congr fun ks => accessList_eq_ok_iff]
    cases accessList v <;> simp [faultOf, Except.mapError]
  | url =>
    cases v with
    | string s => exact faultOf_readUrl_eq_none_iff.trans (by simp [Fits])
    | _ => simp [check, Fits, Kind.check, string, Json.asString?, bind, Except.bind, faultOf]

theorem check_ops_eq_some_iff :
    ops.check parse v = some x ↔
      ∃ value flaw, ops.Flawed parse v value flaw ∧ x = .badField "ops" value flaw := by
  have hread : faultOf (readAccess v) = some x ↔
      ∃ flaw, accessList v = .error flaw ∧ x = .badField "ops" v.compact flaw := by
    unfold readAccess
    cases accessList v <;> simp [faultOf, Except.mapError, eq_comm]
  refine hread.trans ⟨?_, ?_⟩
  · rintro ⟨flaw, hf, rfl⟩
    exact ⟨_, flaw, accessList_eq_error_iff.mp hf, rfl⟩
  · rintro ⟨value, flaw, hf, rfl⟩
    obtain rfl : value = v.compact := by cases hf <;> rfl
    exact ⟨flaw, accessList_eq_error_iff.mpr hf, rfl⟩

theorem check_url_eq_some_iff :
    url.check parse v = some x ↔
      ∃ value flaw, url.Flawed parse v value flaw ∧ x = .badField "url" value flaw := by
  by_cases hs : ∃ s, v = .string s
  · obtain ⟨s, rfl⟩ := hs
    refine faultOf_readUrl_eq_some_iff.trans ⟨?_, ?_⟩
    · rintro (⟨e, he, rfl⟩ | ⟨u, hu, hn, rfl⟩)
      · exact ⟨_, _, .badUrl he, rfl⟩
      · exact ⟨_, _, .badScheme hu hn, rfl⟩
    · rintro ⟨value, flaw, hf, rfl⟩
      cases hf with
      | badUrl he => exact .inl ⟨_, he, rfl⟩
      | badScheme hu hn => exact .inr ⟨_, hu, hn, rfl⟩
      | notString _ hv => exact absurd rfl (hv s)
      | notCounter hm | notFlag hm => simp at hm
  · have hv (s : String) : v ≠ .string s := fun h => hs ⟨s, h⟩
    have hcheck : string.check "url" v = .error (.badField "url" v.compact .notString) :=
      faultOf_eq_some_iff.mp ((faultOf_check_eq_some_iff string_takes).mpr ⟨fun s _ => hv s, rfl⟩)
    simp only [check, key, hcheck, bind, Except.bind, faultOf, Option.some.injEq]
    constructor
    · rintro rfl
      exact ⟨_, _, .notString (by simp) hv, rfl⟩
    · rintro ⟨value, flaw, hf, rfl⟩
      cases hf with
      | notString => rfl
      | badUrl | badScheme => exact absurd rfl (hv _)
      | notCounter hm | notFlag hm => simp at hm

theorem check_eq_some_iff :
    f.check parse v = some x ↔
      ∃ value flaw, f.Flawed parse v value flaw ∧ x = .badField f.key value flaw := by
  cases f with
  | uuid | transferId | filename =>
    refine (faultOf_check_eq_some_iff string_takes).trans ⟨?_, ?_⟩
    · rintro ⟨hv, rfl⟩
      exact ⟨_, _, .notString (by simp) fun s => hv s trivial, rfl⟩
    · rintro ⟨value, flaw, hf, rfl⟩
      cases hf with
      | notString _ hv => exact ⟨fun s _ => hv s, rfl⟩
      | notCounter hm | notFlag hm => simp at hm
  | size | timeout | inactivityTimeout =>
    refine (faultOf_check_eq_some_iff counter_takes).trans ⟨?_, ?_⟩
    · rintro ⟨hv, rfl⟩
      exact ⟨_, _, .notCounter (by simp) hv, rfl⟩
    · rintro ⟨value, flaw, hf, rfl⟩
      cases hf with
      | notCounter _ hv => exact ⟨hv, rfl⟩
      | notString hm | notFlag hm => simp at hm
  | sparse | dirty =>
    refine (faultOf_check_eq_some_iff flag_takes).trans ⟨?_, ?_⟩
    · rintro ⟨hv, rfl⟩
      exact ⟨_, _, .notFlag (by simp) fun b => hv b trivial, rfl⟩
    · rintro ⟨value, flaw, hf, rfl⟩
      cases hf with
      | notFlag _ hv => exact ⟨fun b _ => hv b, rfl⟩
      | notString hm | notCounter hm => simp at hm
  | ops => exact check_ops_eq_some_iff
  | url => exact check_url_eq_some_iff

theorem fault?_eq_none_iff : f.fault? parse fs = none ↔ f.Good parse fs := by
  unfold fault? Good
  cases Json.field? fs f.key with
  | none => simp
  | some v => exact check_eq_none_iff

theorem fault?_eq_some_iff : f.fault? parse fs = some x ↔ f.Wrong parse fs x := by
  unfold fault?
  cases hv : Json.field? fs f.key with
  | none =>
    refine Option.ite_none_right_eq_some.trans ⟨?_, ?_⟩
    · rintro ⟨hreq, hx⟩
      obtain rfl := Option.some.inj hx
      exact .missing hv hreq
    · rintro (⟨-, hreq⟩ | ⟨hv', -⟩)
      · exact ⟨hreq, rfl⟩
      · simp [hv] at hv'
  | some v =>
    refine check_eq_some_iff.trans ⟨?_, ?_⟩
    · rintro ⟨value, flaw, hf, rfl⟩
      exact .bad hv hf
    · rintro (⟨hv', -⟩ | ⟨hv', hf⟩)
      · simp [hv] at hv'
      · cases hv.symm.trans hv'
        exact ⟨_, _, hf, rfl⟩

end Field

variable {f : Field} {rest : List Field}

theorem faultOf_present (f : Field) {r : Json → Except Fault α} (hf : f.isRequired = true)
    (hr : ∀ v, faultOf (r v) = f.check parse v) :
    faultOf (present fs f.key >>= r) = f.fault? parse fs := by
  unfold present Field.fault?
  cases Json.field? fs f.key with
  | none => simp [bind, Except.bind, faultOf, hf]
  | some v => exact hr v

theorem faultOf_required (f : Field) (hf : f.isRequired = true)
    (hk : ∀ v, faultOf (k.check f.key v) = f.check parse v) :
    faultOf (required k fs f.key) = f.fault? parse fs := faultOf_present f hf hk

theorem faultOf_optional (f : Field) (hf : f.isRequired = false)
    (hk : ∀ v, faultOf (k.check f.key v) = f.check parse v) :
    faultOf (optional k fs f.key) = f.fault? parse fs := by
  unfold optional Field.fault?
  cases Json.field? fs f.key with
  | none => simp [faultOf, hf]
  | some v => exact (faultOf_map ..).trans (hk v)

theorem faultOf_url :
    faultOf (required string fs "url" >>= readUrl parse) = Field.url.fault? parse fs := by
  rw [required, bind_assoc]
  exact faultOf_present .url rfl fun v => rfl

theorem faultOf_cons {r : Except Fault α} {next : α → Except Fault β}
    (hr : faultOf r = f.fault? parse fs)
    (hn : ∀ a, faultOf (next a) = rest.findSome? (Field.fault? parse fs)) :
    faultOf (r >>= next) = (f :: rest).findSome? (Field.fault? parse fs) := by
  rw [faultOf_bind hn, hr, List.findSome?_cons]
  cases f.fault? parse fs <;> rfl

/-- The fault of a record is that of its first bad field. -/
theorem faultOf_ofJson (parse : String → Except Url.Flaw Url) (fs : Fields) :
    faultOf (ofJson parse (.object fs)) = Field.all.findSome? (Field.fault? parse fs) := by
  unfold ofJson
  refine faultOf_cons (faultOf_required .uuid rfl fun v => rfl) fun uuid => ?_
  refine faultOf_cons (faultOf_required .size rfl fun v => rfl) fun size => ?_
  rw [← bind_assoc]
  refine faultOf_cons (faultOf_present .ops rfl fun v => rfl) fun access => ?_
  refine faultOf_cons (faultOf_required .timeout rfl fun v => rfl) fun timeout => ?_
  refine faultOf_cons (faultOf_optional .inactivityTimeout rfl fun v => rfl) fun inactivity => ?_
  rw [← bind_assoc]
  refine faultOf_cons faultOf_url fun url => ?_
  refine faultOf_cons (faultOf_optional .transferId rfl fun v => rfl) fun transferId => ?_
  refine faultOf_cons (faultOf_optional .filename rfl fun v => rfl) fun filename => ?_
  refine faultOf_cons (faultOf_optional .sparse rfl fun v => rfl) fun sparse => ?_
  refine faultOf_cons (faultOf_optional .dirty rfl fun v => rfl) fun dirty => ?_
  rfl

end TicketGate.Grant
