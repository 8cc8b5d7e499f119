import InvocationHost.Api.Extensions
import InvocationHost.Api.Invocations
import InvocationHost.Proofs.Headers

/-! # What decides a call

A call sends one request. If that is lost on the way, the call fails with it. A reply goes through the checks of
the call, in their order; the first that it fails decides the error, and if it passes all of them the call
has a result. What no check looks at does not matter.
-/
namespace InvocationHost.Api
open Http Text Extension
variable {α : Type}

/-- What a call comes to on a network that meets each request in its own way, and the requests it sends. -/
def Call.perform (c : Call α) (network : Request → Exchange) : Except TransportError α × List Request :=
  match c.request with
  | some r => ((c.settle (network r)).result,[r])
  | none => (c.refused.result,[])

/-- A check says of a reply whether it fails, and with which error. -/
structure Check where
  fails : Reply → TransportError → Prop
  unique : ∀ {r e e'}, fails r e → fails r e' → e = e'

namespace Check

/-- Any status but one is an error. -/
def status (op : Operation) (expected : Nat) : Check where
  fails r e := r.status ≠ expected ∧ e = .unexpectedStatus op r.status
  unique h h' := h.2.trans h'.2.symm

/-- A header has to be there, to be readable and not to be empty. -/
def header (op : Operation) (name : String) : Check where
  fails r e := (∀ text, ¬r.Gives name text) ∧ e = .missingHeader op name
  unique h h' := h.2.trans h'.2.symm

/-- The body has to arrive as a whole. -/
def body (op : Operation) : Check where
  fails r e := r.complete = false ∧ e = .request op Call.brokenBody
  unique h h' := h.2.trans h'.2.symm

/-- The body has to be an event. -/
def event (op : Operation) : Check where
  fails r e := ∃ fault, Event.decode (.ofBytes r.body) = .error fault ∧ e = .undecodable op fault
  unique h h' := by
    obtain ⟨fault,hdecode,rfl⟩ := h
    obtain ⟨fault',hdecode',rfl⟩ := h'
    cases hdecode.symm.trans hdecode'
    rfl

/-- A reply passes a check. -/
def Passed (check : Check) (r : Reply) : Prop := ∀ e, ¬check.fails r e

section Passed
variable (op : Operation) {r : Reply}

theorem passed_status {expected : Nat} (h : r.status = expected) : (status op expected).Passed r :=
  fun _ hfails => hfails.1 h

theorem passed_header {name text : String} (h : r.Gives name text) : (header op name).Passed r :=
  fun _ hfails => hfails.1 text h

theorem passed_body (h : r.complete = true) : (body op).Passed r := by
  rintro e ⟨hbroken,-⟩
  cases h.symm.trans hbroken

theorem passed_event {a : Event} (h : Event.decode (.ofBytes r.body) = .ok a) : (event op).Passed r := by
  rintro e ⟨fault,hfault,-⟩
  cases h.symm.trans hfault

end Passed

/-- The first of some checks that a reply fails, with its error. -/
inductive FirstOf (r : Reply) (e : TransportError) : List Check → Prop
  | here {check checks} : check.fails r e → FirstOf r e (check :: checks)
  | later {check checks} : check.Passed r → FirstOf r e checks → FirstOf r e (check :: checks)

namespace FirstOf
variable {r : Reply} {e e' : TransportError} {checks : List Check}

theorem unique (h : FirstOf r e checks) (h' : FirstOf r e' checks) : e = e' := by
  induction h with
  | @here check _ hfails =>
    cases h' with
    | here hfails' => exact check.unique hfails hfails'
    | later hpassed _ => exact absurd hfails (hpassed e)
  | later hpassed _ ih =>
    cases h' with
    | here hfails => exact absurd hfails (hpassed e')
    | later _ h' => exact ih h'

theorem exists_fails (h : FirstOf r e checks) : ∃ check ∈ checks, check.fails r e := by
  induction h with
  | here hfails => exact ⟨_,List.mem_cons_self,hfails⟩
  | later _ _ ih =>
    obtain ⟨check,hmem,hfails⟩ := ih
    exact ⟨check,List.mem_cons_of_mem _ hmem,hfails⟩

end FirstOf

/-- What comes of a reply that goes through some checks: the error of the first that it fails, or what it tells. -/
inductive Outcome (checks : List Check) (tells : Reply → α → Prop) (r : Reply) : Except TransportError α → Prop
  | fails {e} : FirstOf r e checks → Outcome checks tells r (.error e)
  | passes {a} : (∀ check ∈ checks, check.Passed r) → tells r a → Outcome checks tells r (.ok a)

end Check

/-- One request is sent, and what it meets decides the call: the first check that fails, or what a reply that passes
all of them tells. -/
structure Call.Decided (c : Call α) (op : Operation) (checks : List Check) (tells : Reply → α → Prop) : Prop where
  once : ∃ request, ∀ network, c.perform network = ((c.settle (network request)).result,[request])
  lost : ∀ met detail, met = .unreachable detail ∨ met = .dropped detail →
    (c.settle met).result = .error (.request op detail)
  fails : ∀ r e, (c.settle (.answered r)).result = .error e ↔ Check.FirstOf r e checks
  passes : ∀ r, (∃ a, (c.settle (.answered r)).result = .ok a) ↔ ∀ check ∈ checks, check.Passed r
  result : ∀ r a, (c.settle (.answered r)).result = .ok a → tells r a

theorem Call.decided_of_judge {c : Call α} {request : Request} {checks : List Check} {tells : Reply → α → Prop}
    (hrequest : c.request = some request) (h : ∀ r, Check.Outcome checks tells r (c.judge r).result) :
    c.Decided c.operation checks tells where
  once := by
    refine ⟨request,fun network => ?_⟩
    simp only [perform, hrequest]
  lost := by
    rintro met detail (rfl | rfl) <;> rfl
  fails := by
    intro r e
    change (c.judge r).result = .error e ↔ _
    have hout := h r
    generalize (c.judge r).result = result at hout
    cases hout with
    | fails hfirst =>
      refine ⟨fun heq => ?_,fun hfirst' => congrArg _ (hfirst.unique hfirst')⟩
      cases heq
      exact hfirst
    | passes hpassed _ =>
      refine ⟨(nomatch ·),fun hfirst => ?_⟩
      obtain ⟨check,hmem,hfails⟩ := hfirst.exists_fails
      exact absurd hfails (hpassed check hmem e)
  passes := by
    intro r
    change (∃ a, (c.judge r).result = .ok a) ↔ _
    have hout := h r
    generalize (c.judge r).result = result at hout
    cases hout with
    | fails hfirst =>
      obtain ⟨check,hmem,hfails⟩ := hfirst.exists_fails
      exact ⟨fun ⟨_,heq⟩ => (nomatch heq),fun hpassed => absurd hfails (hpassed check hmem _)⟩
    | @passes a hpassed _ => exact ⟨fun _ => hpassed,fun _ => ⟨a,rfl⟩⟩
  result := by
    intro r a heq
    change (c.judge r).result = .ok a at heq
    have hout := h r
    rw [heq] at hout
    cases hout with
    | passes _ htells => exact htells

namespace Invocations
open Check

theorem next_decided : next.Decided .next [status .next 200,header .next requestIdHeader,body .next] fun r inv =>
    r.Gives requestIdHeader inv.id.text ∧ inv.payload = r.body ∧ inv.metadata = metadata r := by
  refine Call.decided_of_judge rfl fun r => ?_
  change Outcome _ _ r (judgeNext r).result
  unfold judgeNext
  split
  · next hstatus => exact .fails (.here ⟨hstatus,rfl⟩)
  next hstatus =>
  have hstatus := passed_status .next (Decidable.not_not.mp hstatus)
  rcases r.gives_or_none requestIdHeader RequestId.mk with ⟨text,hgives,hid⟩ | ⟨hnone,hid⟩
  · have hheader := passed_header .next hgives
    rw [requestId?, hid]
    cases hcomplete : r.complete with
    | false => exact .fails (.later hstatus (.later hheader (.here ⟨hcomplete,rfl⟩)))
    | true =>
      have hbody := passed_body .next hcomplete
      exact .passes (by simp [hstatus, hheader, hbody]) ⟨hgives,rfl,rfl⟩
  · rw [requestId?, hid]
    exact .fails (.later hstatus (.here ⟨hnone,rfl⟩))

theorem report_decided (kind : ReportKind) (id : RequestId) (content : String) :
    (report kind id content).Decided kind.operation [status kind.operation 202] fun _ _ => True := by
  refine Call.decided_of_judge rfl fun r => ?_
  change Outcome _ _ r (judgeReport kind id r).result
  unfold judgeReport
  split
  · next hstatus => exact .fails (.here ⟨hstatus,rfl⟩)
  · next hstatus =>
    have hstatus := passed_status kind.operation (Decidable.not_not.mp hstatus)
    exact .passes (by simp [hstatus]) trivial

end Invocations

namespace Extensions
open Check

theorem register_decided {name : String} (hname : isLegalValue name = true) (events : List EventKind) :
    (register name events).Decided .register [status .register 200,header .register identifierHeader] fun r id =>
      r.Gives identifierHeader id.text := by
  refine Call.decided_of_judge (if_pos hname) fun r => ?_
  change Outcome _ _ r (judgeRegister name r).result
  unfold judgeRegister
  split
  · next hstatus => exact .fails (.here ⟨hstatus,rfl⟩)
  next hstatus =>
  have hstatus := passed_status .register (Decidable.not_not.mp hstatus)
  rcases r.gives_or_none identifierHeader ExtensionId.mk with ⟨text,hgives,hid⟩ | ⟨hnone,hid⟩
  · have hheader := passed_header .register hgives
    rw [identifier?, hid]
    exact .passes (by simp [hstatus, hheader]) hgives
  · rw [identifier?, hid]
    exact .fails (.later hstatus (.here ⟨hnone,rfl⟩))

theorem nextEvent_decided {id : ExtensionId} (hid : isLegalValue id.text = true) :
    (nextEvent id).Decided .nextEvent [status .nextEvent 200,body .nextEvent,event .nextEvent] fun r e =>
      Event.decode (.ofBytes r.body) = .ok e := by
  refine Call.decided_of_judge (if_pos hid) fun r => ?_
  change Outcome _ _ r (judgeEvent r).result
  unfold judgeEvent
  split
  · next hstatus => exact .fails (.here ⟨hstatus,rfl⟩)
  next hstatus =>
  have hstatus := passed_status .nextEvent (Decidable.not_not.mp hstatus)
  cases hcomplete : r.complete with
  | false => exact .fails (.later hstatus (.here ⟨hcomplete,rfl⟩))
  | true =>
    have hbody := passed_body .nextEvent hcomplete
    cases hdecode : Event.decode (.ofBytes r.body) with
    | error fault =>
      simp only [if_true]
      exact .fails (.later hstatus (.later hbody (.here ⟨fault,hdecode,rfl⟩)))
    | ok e =>
      have hevent := passed_event .nextEvent hdecode
      simp only [if_true]
      exact .passes (by simp [hstatus, hbody, hevent]) hdecode

end Extensions

/-- **What decides the calls.** Each call sends one request, and if that is lost, it fails with an error of its
own operation. A fetch needs the right status, then an identifier that can be read and is not empty, then the
whole body; a report needs the right status only; a registration the right status and then an identifier;
a poll for events the right status, then the whole body, and that to be an event. -/
theorem calls_decided :
    Invocations.next.Decided .next
      [.status .next 200,.header .next Invocations.requestIdHeader,.body .next]
      (fun r inv => r.Gives Invocations.requestIdHeader inv.id.text ∧ inv.payload = r.body ∧
        inv.metadata = Invocations.metadata r) ∧
    (∀ kind id content, (Invocations.report kind id content).Decided kind.operation
      [.status kind.operation 202] fun _ _ => True) ∧
    (∀ name events, isLegalValue name = true → (Extensions.register name events).Decided .register
      [.status .register 200,.header .register Extensions.identifierHeader]
      fun r id => r.Gives Extensions.identifierHeader id.text) ∧
    ∀ id : ExtensionId, isLegalValue id.text = true → (Extensions.nextEvent id).Decided .nextEvent
      [.status .nextEvent 200,.body .nextEvent,.event .nextEvent]
      fun r e => Event.decode (.ofBytes r.body) = .ok e :=
  ⟨Invocations.next_decided,Invocations.report_decided,
    fun _ events hname => Extensions.register_decided hname events,fun _ hid => Extensions.nextEvent_decided hid⟩

/-- Of two faults in a reply, the one that is checked first is the error. -/
theorem calls_decided_by_first_fault :
    isLegalValue "logs" = true ∧
      ((Extensions.register "logs" []).settle (.answered ⟨403,[],[],false⟩)).result =
        .error (.unexpectedStatus .register 403) ∧
      ((Extensions.nextEvent ⟨"logs"⟩).settle (.answered ⟨200,[],[],false⟩)).result =
        .error (.request .nextEvent Call.brokenBody) := by
  have hlegal : isLegalValue "logs" = true := by decide
  obtain ⟨-,-,hregister,hpoll⟩ := calls_decided
  refine ⟨hlegal,?_,?_⟩
  · exact ((hregister "logs" [] hlegal).fails _ _).mpr (.here ⟨by decide,rfl⟩)
  · have hstatus : (Check.status .nextEvent 200).Passed ⟨200,[],[],false⟩ := Check.passed_status _ rfl
    exact ((hpoll ⟨"logs"⟩ hlegal).fails _ _).mpr (.later hstatus (.here ⟨rfl,rfl⟩))

end InvocationHost.Api
