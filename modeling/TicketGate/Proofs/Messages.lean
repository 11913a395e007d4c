import TicketGate.Fault

namespace TicketGate

/-- The text stands somewhere in the message. -/
def Mentions (message text : String) : Prop := ∃ front back, message = front ++ text ++ back

theorem Mentions.self (text : String) : Mentions text text := ⟨"", "", by simp⟩

theorem Mentions.after {message text : String} (h : Mentions message text) (front : String) :
    Mentions (front ++ message) text := by
  obtain ⟨l, r, rfl⟩ := h
  exact ⟨front ++ l, r, by simp only [String.append_assoc]⟩

theorem Mentions.before {message text : String} (h : Mentions message text) (back : String) :
    Mentions (message ++ back) text := by
  obtain ⟨l, r, rfl⟩ := h
  exact ⟨l, r ++ back, by simp only [String.append_assoc]⟩

namespace Denial

def subjects : Denial → List String
  | unknownTicket id => [id]
  | canceled transfer | expired transfer | stopped transfer => [transfer]
  | forbidden transfer access => [transfer, access.name]
  | other text => [text]

theorem mentions_subjects (d : Denial) : ∀ s ∈ d.subjects, Mentions d.message s := by
  cases d with
  | unknownTicket id => exact List.forall_mem_singleton.mpr ((Mentions.self id).after _)
  | canceled transfer | expired transfer | stopped transfer =>
    exact List.forall_mem_singleton.mpr (((Mentions.self transfer).after _).before _)
  | forbidden transfer access =>
    have ht : Mentions (forbidden transfer access).message transfer :=
      (((Mentions.self transfer).after _).before _).before _
    have ha : Mentions (forbidden transfer access).message access.name :=
      (Mentions.self access.name).after _
    exact List.forall_mem_cons.mpr ⟨ht, List.forall_mem_singleton.mpr ha⟩
  | other text => exact List.forall_mem_singleton.mpr (Mentions.self text)

/-- Two denials are never told in the same words. -/
theorem message_inj {d e : Denial} (hd : ∀ text, d ≠ other text) (he : ∀ text, e ≠ other text)
    (h : d.message = e.message) : d = e := by
  -- read from the front a ticket and a transfer differ, read from the back what happened to it does;
  -- `message` is unfolded, since its equations take long to make of texts of this length
  have hfront : d.message.toList = e.message.toList := congrArg String.toList h
  have hback : d.message.toList.reverse = e.message.toList.reverse := congrArg List.reverse hfront
  clear h
  rcases d with _ | _ | _ | ⟨_, _ | _⟩ | _ | _ <;> rcases e with _ | _ | _ | ⟨_, _ | _⟩ | _ | _ <;>
    unfold message at hfront hback <;>
    simp [Access.name, String.toList_inj] at hd he hfront hback ⊢ <;> assumption

end Denial

namespace FieldFlaw

variable {d e : FieldFlaw}

def subjects : FieldFlaw → List String
  | unsupportedAccess name => [name]
  | repeatedAccess access => [access.name]
  | unsupportedScheme scheme => [scheme]
  | other text => [text]
  | _ => []

theorem mentions_subjects (d : FieldFlaw) : ∀ s ∈ d.subjects, Mentions d.message s := by
  cases d with
  | unsupportedAccess text | unsupportedScheme text =>
    exact List.forall_mem_singleton.mpr ((Mentions.self text).after _)
  | repeatedAccess access =>
    exact List.forall_mem_singleton.mpr ((Mentions.self access.name).after _)
  | other text => exact List.forall_mem_singleton.mpr (Mentions.self text)
  | _ => exact List.forall_mem_nil _

def plain : List FieldFlaw :=
  [notString, notCounter, notFlag, notList, emptyList, notNames, badUrl .noScheme,
    badUrl .emptyHost, badUrl .badDomain, badUrl .badHostCharacter, badUrl .badIpv4,
    badUrl .badIpv6, badUrl .badPort]

theorem mem_plain (h : d.subjects = []) : d ∈ plain := by
  cases d with
  | badUrl flaw => cases flaw <;> decide
  | unsupportedAccess | repeatedAccess | unsupportedScheme | other => cases h
  | _ => decide

theorem plain_inj : ∀ d ∈ plain, ∀ e ∈ plain, d.message = e.message → d = e := by decide

theorem capital_iff (hd : ∀ text, d ≠ other text) :
    d.message.toList.head? = some 'U' ∨ d.message.toList.head? = some 'D' ↔ d.subjects ≠ [] := by
  cases d with
  | badUrl flaw => cases flaw <;> decide
  | unsupportedAccess | repeatedAccess | unsupportedScheme =>
    unfold message unsupportedAccessMessage subjects
    simp
  | other text => exact absurd rfl (hd text)
  | _ => decide

theorem exists_named (hs : d.subjects ≠ []) (hd : ∀ text, d ≠ other text) :
    (∃ name, d = unsupportedAccess name) ∨ (∃ access, d = repeatedAccess access) ∨
      ∃ scheme, d = unsupportedScheme scheme := by
  cases d with
  | unsupportedAccess name => exact .inl ⟨name, rfl⟩
  | repeatedAccess access => exact .inr (.inl ⟨access, rfl⟩)
  | unsupportedScheme scheme => exact .inr (.inr ⟨scheme, rfl⟩)
  | other text => exact absurd rfl (hd text)
  | _ => exact absurd rfl hs

theorem message_inj (hd : ∀ text, d ≠ other text) (he : ∀ text, e ≠ other text)
    (h : d.message = e.message) : d = e := by
  have hnamed : d.subjects ≠ [] ↔ e.subjects ≠ [] := by rw [← capital_iff hd, h, capital_iff he]
  by_cases hs : d.subjects = []
  · have hs' : e.subjects = [] := Decidable.not_not.mp fun h => hnamed.mpr h hs
    exact plain_inj d (mem_plain hs) e (mem_plain hs') h
  · have hlist : d.message.toList = e.message.toList := congrArg String.toList h
    clear h
    obtain ⟨_, rfl⟩ | ⟨_ | _, rfl⟩ | ⟨_, rfl⟩ := exists_named hs hd <;>
      obtain ⟨_, rfl⟩ | ⟨_ | _, rfl⟩ | ⟨_, rfl⟩ := exists_named (hnamed.mp hs) he <;>
      unfold message unsupportedAccessMessage at hlist <;>
      simp [Access.name, String.toList_inj] at hlist ⊢ <;> exact hlist

end FieldFlaw

namespace Fault

def subjects : Fault → List String
  | notAnObject text => [text]
  | missingField field => [field]
  | badField field value flaw => field :: value :: flaw.subjects
  | denied reason => reason.subjects
  | cancelTimeout transfer => [transfer]
  | unknownTicket id => [id]
  | unknownConnection transfer connection => [transfer, toString connection]
  | operationCanceled => []
  | io text => [text]

theorem mentions_subjects (f : Fault) : ∀ s ∈ f.subjects, Mentions f.message s := by
  cases f with
  | notAnObject text =>
    exact List.forall_mem_singleton.mpr (((Mentions.self text).after _).before _)
  | missingField text | cancelTimeout text | unknownTicket text =>
    exact List.forall_mem_singleton.mpr ((Mentions.self text).after _)
  | badField field value flaw =>
    have hfield : Mentions (badField field value flaw).message field :=
      (((((Mentions.self field).after _).before _).before _).before _).before _
    have hvalue : Mentions (badField field value flaw).message value :=
      (((Mentions.self value).after _).before _).before _
    have hflaw : ∀ s ∈ flaw.subjects, Mentions (badField field value flaw).message s :=
      fun s hs => (flaw.mentions_subjects s hs).after _
    exact List.forall_mem_cons.mpr ⟨hfield, List.forall_mem_cons.mpr ⟨hvalue, hflaw⟩⟩
  | denied reason => exact reason.mentions_subjects
  | unknownConnection transfer connection =>
    have ht : Mentions (unknownConnection transfer connection).message transfer :=
      (((Mentions.self transfer).after _).before _).before _
    have hc : Mentions (unknownConnection transfer connection).message (toString connection) :=
      (Mentions.self _).after _
    exact List.forall_mem_cons.mpr ⟨ht, List.forall_mem_singleton.mpr hc⟩
  | operationCanceled => exact List.forall_mem_nil _
  | io text => exact List.forall_mem_singleton.mpr (Mentions.self text)

end Fault

end TicketGate
