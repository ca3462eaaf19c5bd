import ResourceGuard.Audit
import ResourceGuard.Proofs.Classification
import ResourceGuard.Proofs.EndpointText

/-! # What the log tells

An account is something that the log must tell of. Here it has its words: which
message, and which fields with which texts. No two accounts are told in the same
words, so whoever reads the log knows what happened. Main statement:
`record_injective`. -/
namespace ResourceGuard

/-- Something that the log must tell of. -/
inductive Account where
  /-- the access control list was asked, and said this -/
  | lookedUp (query : AccessQuery) (verdict : Verdict)
  /-- the access manager took a question about a request of this peer -/
  | parked (subject : SubjectId) (path : String) (peer : EndpointId)
  /-- a decision on the parked request was accepted -/
  | decided (decision : ManagerDecision) (uri : String)
  /-- the parked request was dropped -/
  | abandoned (peer : EndpointId) (uri : String)
  /-- the transport took a response -/
  | sent (code : ResponseCode)
  /-- the transport did not take a response -/
  | sendFailed (fault : Fault) (code : ResponseCode)
  deriving DecidableEq

/-- A verdict in the words of the log. -/
def Verdict.words : Verdict → String
  | .granted => "Granted"
  | .denied .noAclFound => "Denied(NoAclFound)"
  | .denied .subjectNotFound => "Denied(SubjectNotFound)"
  | .denied .insufficientPermission => "Denied(InsufficientPermission)"
  | .denied .resourceNotFound => "Denied(ResourceNotFound)"
  | .denied .amsUnavailable => "Denied(AmsUnavailable)"
  | .requiresManager => "RequiresAms"

namespace Account

/-- How an account is told. -/
def record [Uuid.Library] : Account → AuditRecord
  | lookedUp query verdict =>
    { level := .debug
      message := "ACL lookup complete"
      fields := [("subject", query.subject.uuid), ("uri", query.path),
        ("permission", query.permission.text), ("resource_type", resourceText query.resource),
        ("verdict", verdict.words)] }
  | parked subject path peer =>
    { level := .debug
      message := "Delegation parked"
      fields := [("subject", subject.uuid), ("uri", path), ("endpoint", peer.text)] }
  | decided decision uri =>
    { level := .info
      message := "Delegation resolved"
      fields := [("decision", Vocabulary.name decision), ("uri", uri)] }
  | abandoned peer uri =>
    { level := .warn
      message := "Abandoning pending delegation"
      fields := [("endpoint", peer.text), ("uri", uri)] }
  | sent code =>
    { level := .debug
      message := "Response sent"
      fields := [("result", code.text)] }
  | sendFailed fault code =>
    { level := .error
      message := "Failed in sending response"
      fields := [("err", fault.text), ("result", code.text)] }

/-- What the list is asked for is what some method needs. -/
def OfMethod : Account → Prop
  | lookedUp query _ => ∃ method : Method, query.permission = method.requiredPermission
  | _ => True

end Account

/-! ## The texts of the fields -/

theorem Verdict.words_eq_text (verdict : Verdict) : verdict.words = verdict.text := by
  cases verdict with
  | granted | requiresManager => rfl
  | denied reason => cases reason <;> rfl

theorem Verdict.words_injective : Function.Injective Verdict.words := by
  intro a b
  cases a with
  | granted | requiresManager =>
    cases b with
    | granted | requiresManager => decide
    | denied reason => cases reason <;> decide
  | denied reason =>
    cases b with
    | granted | requiresManager => cases reason <;> decide
    | denied other => cases reason <;> cases other <;> decide

theorem resourceText_injective : Function.Injective resourceText := by
  have hplain : ∀ k : VirtualResource, k.uri ≠ "not-an-svr" := by
    intro k
    cases k <;> decide
  intro a b h
  cases a with
  | none =>
    cases b with
    | none => rfl
    | some k => exact absurd h.symm (hplain k)
  | some k =>
    cases b with
    | none => exact absurd h (hplain k)
    | some l => rw [VirtualResource.uri_injective k l h]

theorem ResponseCode.text_injective : Function.Injective ResponseCode.text := by
  intro a b
  cases a <;> cases b <;> decide

theorem Method.requiredPermission_eq_of_text (a b : Method) :
    a.requiredPermission.text = b.requiredPermission.text →
      a.requiredPermission = b.requiredPermission := by
  cases a <;> cases b <;> decide

theorem FaultKind.label_injective : Function.Injective FaultKind.label := by
  intro a b
  cases a <;> cases b <;> decide

/-- The first colon ends the label of the kind. -/
theorem Fault.text_injective : Function.Injective Fault.text := by
  have hlabel : ∀ kind : FaultKind, ':' ∉ kind.label.toList := by
    intro kind
    cases kind <;> decide
  have htext : ∀ f : Fault,
      f.text.toList = f.kind.label.toList ++ ':' :: ' ' :: f.message.toList := by
    intro f
    simp [Fault.text]
  intro a b h
  have hlist : a.text.toList = b.text.toList := by rw [h]
  rw [htext, htext, append_cons_inj_of_first (hlabel _) (hlabel _), List.cons_inj_right,
    String.toList_inj, String.toList_inj] at hlist
  obtain ⟨hkind, hmessage⟩ := hlist
  obtain ⟨kind, message⟩ := a
  obtain ⟨kind', message'⟩ := b
  obtain rfl : kind = kind' := FaultKind.label_injective hkind
  obtain rfl : message = message' := hmessage
  rfl

/-! ## No two accounts read the same -/

namespace Account

variable [Uuid.Library] [Uuid.Library.Lawful] {a b : Account}

theorem query_eq_of_texts {query other : AccessQuery} {verdict verdict' : Verdict}
    (hknown : (lookedUp query verdict).OfMethod) (hother : (lookedUp other verdict').OfMethod)
    (hsubject : query.subject.uuid = other.subject.uuid) (hpath : query.path = other.path)
    (hpermission : query.permission.text = other.permission.text)
    (hresource : resourceText query.resource = resourceText other.resource) : query = other := by
  obtain ⟨subject, path, permission, resource⟩ := query
  obtain ⟨method, rfl⟩ := hknown
  obtain ⟨subject', path', permission', resource'⟩ := other
  obtain ⟨method', rfl⟩ := hother
  obtain rfl : subject = subject' := SubjectId.uuid_injective hsubject
  obtain rfl : path = path' := hpath
  obtain rfl : resource = resource' := resourceText_injective hresource
  have hneeded : method.requiredPermission = method'.requiredPermission :=
    Method.requiredPermission_eq_of_text method method' hpermission
  rw [hneeded]

/-- **No two accounts are told in the same words.** -/
theorem record_injective (ha : a.OfMethod) (hb : b.OfMethod) (h : a.record = b.record) :
    a = b := by
  have hfields := congrArg AuditRecord.fields h
  have hmessage := congrArg AuditRecord.message h
  cases a with
  | lookedUp query verdict =>
    cases b with
    | lookedUp other verdict' =>
      simp only [record, List.cons.injEq, Prod.mk.injEq, true_and, and_true] at hfields
      obtain ⟨hsubject, hpath, hpermission, hresource, hverdict⟩ := hfields
      rw [query_eq_of_texts ha hb hsubject hpath hpermission hresource,
        Verdict.words_injective hverdict]
    | _ => simp [record] at hmessage
  | parked subject path peer =>
    cases b with
    | parked subject' path' peer' =>
      simp only [record, List.cons.injEq, Prod.mk.injEq, true_and, and_true] at hfields
      obtain ⟨hsubject, rfl, hpeer⟩ := hfields
      rw [SubjectId.uuid_injective hsubject, EndpointId.text_injective hpeer]
    | _ => simp [record] at hmessage
  | decided decision uri =>
    cases b with
    | decided decision' uri' =>
      simp only [record, List.cons.injEq, Prod.mk.injEq, true_and, and_true] at hfields
      obtain ⟨hdecision, rfl⟩ := hfields
      rw [Vocabulary.name_injective _ _ hdecision]
    | _ => simp [record] at hmessage
  | abandoned peer uri =>
    cases b with
    | abandoned peer' uri' =>
      simp only [record, List.cons.injEq, Prod.mk.injEq, true_and, and_true] at hfields
      obtain ⟨hpeer, rfl⟩ := hfields
      rw [EndpointId.text_injective hpeer]
    | _ => simp [record] at hmessage
  | sent code =>
    cases b with
    | sent code' =>
      simp only [record, List.cons.injEq, Prod.mk.injEq, true_and, and_true] at hfields
      rw [ResponseCode.text_injective hfields]
    | _ => simp [record] at hmessage
  | sendFailed fault code =>
    cases b with
    | sendFailed fault' code' =>
      simp only [record, List.cons.injEq, Prod.mk.injEq, true_and, and_true] at hfields
      obtain ⟨hfault, hcode⟩ := hfields
      rw [Fault.text_injective hfault, ResponseCode.text_injective hcode]
    | _ => simp [record] at hmessage

end Account

end ResourceGuard
