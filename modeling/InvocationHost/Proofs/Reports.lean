import InvocationHost.Proofs.Stages

/-! # One report for each invocation

Whatever becomes of an invocation, one report is sent for it, under its own identifier. What the report
meets and the stage that decided the invocation settle together how the pipeline ends.
-/
namespace InvocationHost
open Api Http Json Panic
variable {ι ο ε : Type}

namespace Activity

def request? : Activity → Option Request
  | request r => some r
  | _ => none

def entered? : Activity → Option Context
  | call ctx => some ctx
  | _ => none

/-- The requests among some activities, in their order. -/
def requests (activities : List Activity) : List Request := activities.filterMap request?

/-- The contexts with which handlers were entered, in their order. -/
def entries (activities : List Activity) : List Context := activities.filterMap entered?

@[simp] theorem requests_append (xs ys : List Activity) :
    requests (xs ++ ys) = requests xs ++ requests ys := List.filterMap_append
@[simp] theorem entries_append (xs ys : List Activity) :
    entries (xs ++ ys) = entries xs ++ entries ys := List.filterMap_append
@[simp] theorem requests_logs (es : List Log.Event) : requests (es.map .log) = [] := by
  simp [requests, List.filterMap_map, request?, Function.comp_def]
@[simp] theorem entries_logs (es : List Log.Event) : entries (es.map .log) = [] := by
  simp [entries, List.filterMap_map, entered?, Function.comp_def]
@[simp] theorem requests_calls (cs : List Context) : requests (cs.map .call) = [] := by
  simp [requests, List.filterMap_map, request?, Function.comp_def]
@[simp] theorem entries_calls (cs : List Context) : entries (cs.map .call) = cs := by
  simp [entries, List.filterMap_map, entered?, Function.comp_def]

end Activity

/-- A report is accepted by an answer with status 202, whatever else the answer holds. -/
def Http.Exchange.Accepts (met : Exchange) : Prop := ∃ reply, met = .answered reply ∧ reply.status = 202

namespace Job
variable (job : Job)

/-- The request that reports a job: its URL has the identifier and the kind of the result. -/
def posted : Request where
  method := .post
  url := "/2018-06-01/runtime/invocation/" ++ job.id.text ++
    match job.result with | .ok _ => "/response" | .error _ => "/error"
  headers := [agentHeader,jsonHeader]
  body := match job.result with | .ok body => body | .error failure => failure.toJson

theorem send_eq : job.send = [.request job.posted] := by
  rcases job with ⟨id,failure | body⟩
  · simp [send, report, Invocations.report, Invocations.reportUrl, posted, Invocations.basePath,
      Invocations.ReportKind.operation, Operation.name, String.append_assoc]
  · simp [send, report, Invocations.report, Invocations.reportUrl, posted, Invocations.basePath,
      Invocations.ReportKind.operation, Operation.name, String.append_assoc]

theorem settle_of_accepts {met : Exchange} (h : met.Accepts) :
    (job.report.settle met).result = .ok () := by
  obtain ⟨reply,rfl,hs⟩ := h
  rcases job with ⟨id,failure | body⟩ <;>
    simp [report, Invocations.report, Call.settle, Invocations.judgeReport, hs]

theorem settle_of_not_accepts {met : Exchange} (h : ¬met.Accepts) :
    ∃ cause, (job.report.settle met).result = .error cause := by
  cases met with
  | unreachable detail => exact ⟨_,rfl⟩
  | dropped detail => exact ⟨_,rfl⟩
  | answered reply =>
    have hs : reply.status ≠ 202 := fun hs => h ⟨reply,rfl,hs⟩
    rcases job with ⟨id,failure | body⟩ <;>
      simp [report, Invocations.report, Call.settle, Invocations.judgeReport, hs]

/-- What an accepted report makes of a job. -/
def outcome : Except HostError Outcome :=
  match job.result with
  | .ok _ => .ok .succeeded
  | .error f => if f.isPanic then .error (.panicked job.id f) else .ok (.failed f)

theorem conclude_of_accepts {met : Exchange} (h : met.Accepts) :
    (job.conclude met).1 = job.outcome := by
  simp only [conclude, job.settle_of_accepts h, outcome]
  cases job.result <;> rfl

theorem conclude_of_settle_error {met : Exchange} {cause : TransportError}
    (h : (job.report.settle met).result = .error cause) :
    (job.conclude met).1 = .error (.report cause) := by
  simp only [conclude, h]

theorem conclude_of_not_accepts {met : Exchange} (h : ¬met.Accepts) :
    ∃ cause, (job.conclude met).1 = .error (.report cause) := by
  obtain ⟨cause,hc⟩ := job.settle_of_not_accepts h
  exact ⟨cause,job.conclude_of_settle_error hc⟩

end Job

namespace Fate

/-- A failure has a stack exactly if it comes from a panic. -/
theorem isPanic_result {p : Pipeline} {h : Handler ι ο ε} {fate : Fate} {f : Failure}
    (hf : fate.result p h = .error f) : f.isPanic = true ↔ ∃ c, fate = .panicked c := by
  cases fate with
  | answered body => cases hf
  | panicked c =>
    cases hf
    simp [Captured.isPanic_toFailure]
  | unreadable e => cases hf; simp [Failure.isPanic]
  | undecodable reason => cases hf; simp [Failure.isPanic]
  | refused text => cases hf; simp [Failure.isPanic]
  | unwritable reason => cases hf; simp [Failure.isPanic]

end Fate

namespace Pipeline
variable (p : Pipeline) (h : Handler ι ο ε) (inv : Invocation) (s : Scene)

/-- The scene in which the payload of an invocation is decoded. -/
def opening : Scene := (p.publish inv { s with calls := [] }).enter

theorem handle_fst :
    (p.handle h inv s).1 = ⟨inv.id,(p.execute h inv { s with calls := [] }).1⟩ := rfl

variable {p h inv s} in
/-- The job that is left of an invocation is the one of its fate. -/
theorem handle_of_ends {fate : Fate} {calls : List Context}
    (he : h.Ends inv (p.opening inv s) fate calls) :
    (p.handle h inv s).1 = ⟨inv.id,fate.result p h⟩ := by
  rw [handle_fst, (Handler.Ends.execute (s := { s with calls := [] }) he).1]

@[simp] theorem requests_handle : Activity.requests (p.handle h inv s).2.2 = [] := by
  change Activity.requests ([.log _] ++ List.map .call _ ++ List.map .log _) = []
  simp only [Activity.requests_append, Activity.requests_calls, Activity.requests_logs]
  rfl

@[simp] theorem entries_handle :
    Activity.entries (p.handle h inv s).2.2 = (p.execute h inv { s with calls := [] }).2.calls := by
  change Activity.entries ([.log _] ++ List.map .call _ ++ List.map .log _) = _
  simp only [Activity.entries_append, Activity.entries_calls, Activity.entries_logs, List.append_nil]
  rfl

@[simp] theorem requests_process (met : Exchange) :
    Activity.requests (p.process h inv s met).2.2 = [(p.handle h inv s).1.posted] := by
  simp only [process, Activity.requests_append, requests_handle, Activity.requests_logs, Job.send_eq]
  rfl

@[simp] theorem entries_process (met : Exchange) :
    Activity.entries (p.process h inv s met).2.2 = (p.execute h inv { s with calls := [] }).2.calls := by
  simp only [process, Activity.entries_append, entries_handle, Activity.entries_logs, Job.send_eq]
  simp [Activity.entries, Activity.entered?]

/-- **The first stage that fails decides.** Each invocation has a fate, which is the failure of the first
stage that fails, a panic before that, or the output. Under its identifier there is one report, whose
kind and body are those of the fate; the handler is entered as often as the fate says, which is at most
once and with the context of this invocation; and the pipeline ends in success, in an ordinary failure
or in a panic as the fate is one, but only if the report is accepted. -/
theorem process_by_first_failing_stage (met : Exchange) :
    (∃ fate calls, h.Ends inv (p.opening inv s) fate calls) ∧
    ∀ fate calls, h.Ends inv (p.opening inv s) fate calls →
      Activity.requests (p.process h inv s met).2.2 =
        [Job.posted ⟨inv.id,fate.result p h⟩] ∧
      Activity.entries (p.process h inv s met).2.2 = calls ∧
      ((p.process h inv s met).1 = .ok .succeeded ↔ met.Accepts ∧ ∃ body, fate = .answered body) ∧
      (∀ f, (p.process h inv s met).1 = .ok (.failed f) ↔
        met.Accepts ∧ fate.result p h = .error f ∧ ¬∃ c, fate = .panicked c) ∧
      (∀ id f, (p.process h inv s met).1 = .error (.panicked id f) ↔
        met.Accepts ∧ id = inv.id ∧ ∃ c, fate = .panicked c ∧ f = c.toFailure p.taxonomy) ∧
      ((∃ cause, (p.process h inv s met).1 = .error (.report cause)) ↔ ¬met.Accepts) := by
  refine ⟨h.exists_ends inv _,?_⟩
  intro fate calls he
  have hc := (Handler.Ends.execute (s := { s with calls := [] }) he).2
  have hjob := handle_of_ends he
  have hend : (p.process h inv s met).1 = ((p.handle h inv s).1.conclude met).1 := rfl
  refine ⟨by rw [requests_process, hjob],by rw [entries_process, hc]; rfl,?_⟩
  rw [hend, hjob]
  by_cases ha : met.Accepts
  · rw [Job.conclude_of_accepts _ ha]
    cases fate with
    | answered body => simp [ha, Job.outcome, Fate.result]
    | panicked c =>
      have hout : Job.outcome ⟨inv.id,(Fate.panicked c).result p h⟩ =
          .error (.panicked inv.id (c.toFailure p.taxonomy)) := by
        simp [Job.outcome, Fate.result, Captured.isPanic_toFailure]
      rw [hout]
      refine ⟨by simp,by simp,fun id f => ?_,by simp [ha]⟩
      constructor
      · intro hf
        cases hf
        exact ⟨ha,rfl,c,rfl,rfl⟩
      · rintro ⟨-,rfl,_,hc,rfl⟩
        cases hc
        rfl
    | unreadable e => simp [ha, Job.outcome, Fate.result, Failure.isPanic]
    | undecodable reason => simp [ha, Job.outcome, Fate.result, Failure.isPanic]
    | refused text => simp [ha, Job.outcome, Fate.result, Failure.isPanic]
    | unwritable reason => simp [ha, Job.outcome, Fate.result, Failure.isPanic]
  · obtain ⟨cause,hcause⟩ := Job.conclude_of_not_accepts ⟨inv.id,fate.result p h⟩ ha
    rw [hcause]
    simp [ha]

/-- A payload that breaks off is reported with the place where it does. -/
example : (handle {} (Handler.ofFunction "String" (Decoder.list Decoder.text) fun _ _ => .done (.ok .null))
      ⟨⟨"r1"⟩,"[\"a\",\n \"b\"".toList.map Char.toUInt8,{ deadline := some "7" }⟩ {}).1.posted =
    { method := .post, url := "/2018-06-01/runtime/invocation/r1/error", headers := [agentHeader,jsonHeader]
      body := some (Failure.toJson ⟨"Runtime.UnmarshalError",
        "failed to unmarshal input: EOF while parsing a list at line 2 column 4",[]⟩) } := by
  rfl

end Pipeline
end InvocationHost
