import TicketGate.Proofs.Fields

namespace TicketGate.Grant

/-- The grant says what the fields say, and takes none or false for what is left out. -/
structure Describes (parse : String → Except Url.Flaw Url) (fs : Fields) (g : Grant) : Prop where
  uuid : Json.field? fs "uuid" = some (.string g.uuid)
  size : g.size ≤ maxWord ∧ Json.field? fs "size" = some (.ofNat g.size)
  access : g.access ≠ [] ∧ g.access.Nodup ∧
    Json.field? fs "ops" = some (.array (accessNames g.access))
  timeout : g.timeout ≤ maxWord ∧ Json.field? fs "timeout" = some (.ofNat g.timeout)
  inactivityTimeout : (∀ n ∈ g.inactivityTimeout, n ≤ maxWord) ∧
    Json.field? fs "inactivity_timeout" = g.inactivityTimeout.map .ofNat
  url : ∃ s, Json.field? fs "url" = some (.string s) ∧ parse s = .ok g.url ∧
    g.url.scheme ∈ supportedSchemes
  transferId : Json.field? fs "transfer_id" = g.transferId.map .string
  filename : Json.field? fs "filename" = g.filename.map .string
  sparse : (Json.field? fs "sparse").getD (.bool false) = .bool g.sparse
  dirty : (Json.field? fs "dirty").getD (.bool false) = .bool g.dirty

variable {parse : String → Except Url.Flaw Url} {fs fs' : Fields} {v : Json} {g : Grant}
  {name : String}

theorem required_string_eq_ok_iff {s : String} :
    required string fs name = .ok s ↔ Json.field? fs name = some (.string s) := by
  simp [required_eq_ok_iff string_takes]

theorem optional_string_eq_ok_iff {o : Option String} :
    optional string fs name = .ok o ↔ Json.field? fs name = o.map .string := by
  simp [optional_eq_ok_iff string_takes]

theorem optional_flag_eq_ok_iff {b : Bool} :
    (∃ o, optional flag fs name = .ok o ∧ o.getD false = b) ↔
      (Json.field? fs name).getD (.bool false) = .bool b := by
  simp only [optional_eq_ok_iff flag_takes, implies_true, true_and]
  constructor
  · rintro ⟨o, hf, rfl⟩
    rw [hf]
    cases o <;> rfl
  · intro h
    cases hf : Json.field? fs name with
    | none => exact ⟨none, rfl, by simpa [hf] using h⟩
    | some v => exact ⟨some b, by simpa [hf] using h, rfl⟩

theorem present_ops_eq_ok_iff {ks : List Access} :
    present fs "ops" >>= readAccess = .ok ks ↔
      ks ≠ [] ∧ ks.Nodup ∧ Json.field? fs "ops" = some (.array (accessNames ks)) := by
  unfold present readAccess
  cases Json.field? fs "ops" with
  | none => simp [bind, Except.bind]
  | some v =>
    rw [Option.some.injEq, ← accessList_eq_ok_iff]
    cases hl : accessList v <;> simp [bind, Except.bind, hl, Except.mapError]

theorem readUrl_eq_ok_iff {s : String} {u : Url} :
    readUrl parse s = .ok u ↔ parse s = .ok u ∧ u.scheme ∈ supportedSchemes := by
  unfold readUrl
  cases parse s with
  | error e => simp
  | ok u' =>
    by_cases hu : u'.scheme ∈ supportedSchemes
    · simp only [supports, List.contains_eq_mem, hu, decide_true, ↓reduceIte, Except.ok.injEq]
      exact ⟨fun h => ⟨h, h ▸ hu⟩, And.left⟩
    · simp only [supports, List.contains_eq_mem, hu, decide_false, Bool.false_eq_true, ↓reduceIte,
        reduceCtorEq, Except.ok.injEq, false_iff, not_and]
      exact fun h => h ▸ hu

theorem ofJson_object_eq_ok_iff : ofJson parse (.object fs) = .ok g ↔ g.Describes parse fs := by
  simp only [ofJson, bind_eq_ok]
  constructor
  · rintro ⟨uuid, huuid, size, hsize, v, hv, access, haccess, timeout, htimeout,
      inactivityTimeout, hinactivity, s, hs, url, hurl, transferId, htransfer, filename, hfilename,
      sparse, hsparse, dirty, hdirty, h⟩
    obtain rfl := Except.ok.inj h
    obtain ⟨hparse, hscheme⟩ := readUrl_eq_ok_iff.mp hurl
    exact {
      uuid := required_string_eq_ok_iff.mp huuid
      size := (required_eq_ok_iff counter_takes).mp hsize
      access := present_ops_eq_ok_iff.mp (bind_eq_ok.mpr ⟨v, hv, haccess⟩)
      timeout := (required_eq_ok_iff counter_takes).mp htimeout
      inactivityTimeout := (optional_eq_ok_iff counter_takes).mp hinactivity
      url := ⟨s, required_string_eq_ok_iff.mp hs, hparse, hscheme⟩
      transferId := optional_string_eq_ok_iff.mp htransfer
      filename := optional_string_eq_ok_iff.mp hfilename
      sparse := optional_flag_eq_ok_iff.mp ⟨sparse, hsparse, rfl⟩
      dirty := optional_flag_eq_ok_iff.mp ⟨dirty, hdirty, rfl⟩ }
  · intro h
    obtain ⟨v, hv, haccess⟩ := bind_eq_ok.mp (present_ops_eq_ok_iff.mpr h.access)
    obtain ⟨s, hs, hurl⟩ := h.url
    obtain ⟨sparse, hsparse, hsparse'⟩ := optional_flag_eq_ok_iff.mpr h.sparse
    obtain ⟨dirty, hdirty, hdirty'⟩ := optional_flag_eq_ok_iff.mpr h.dirty
    refine ⟨g.uuid, required_string_eq_ok_iff.mpr h.uuid,
      g.size, (required_eq_ok_iff counter_takes).mpr h.size, v, hv, g.access, haccess,
      g.timeout, (required_eq_ok_iff counter_takes).mpr h.timeout,
      g.inactivityTimeout, (optional_eq_ok_iff counter_takes).mpr h.inactivityTimeout,
      s, required_string_eq_ok_iff.mpr hs, g.url, readUrl_eq_ok_iff.mpr hurl,
      g.transferId, optional_string_eq_ok_iff.mpr h.transferId,
      g.filename, optional_string_eq_ok_iff.mpr h.filename, sparse, hsparse, dirty, hdirty, ?_⟩
    rw [hsparse', hdirty']
    rfl

theorem object_of_ok (h : ofJson parse v = .ok g) : ∃ fs, v = .object fs := by
  cases v with
  | object fs => exact ⟨fs, rfl⟩
  | _ => simp [ofJson] at h

theorem Field.mem_all (f : Field) : f ∈ Field.all := by
  cases f <;> decide

theorem ofJson_object_isOk_iff :
    (∃ g, ofJson parse (.object fs) = .ok g) ↔ ∀ f : Field, f.Good parse fs := by
  rw [← faultOf_eq_none_iff, faultOf_ofJson, List.findSome?_eq_none_iff]
  simp only [Field.fault?_eq_none_iff, Field.mem_all, forall_const]

end TicketGate.Grant
