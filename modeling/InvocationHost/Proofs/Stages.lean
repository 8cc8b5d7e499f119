import InvocationHost.Pipeline
import InvocationHost.Proofs.UserCode

/-! # The stage that decides

An invocation passes through the reading of its metadata, the decoding of its payload, the handler, the
handler's description of its error or the encoding of its output. The first of them that fails or
panics decides what is reported, how often the handler was entered and what becomes of the host.
-/
namespace InvocationHost
open Api Http Json Panic
variable {ι ο ε : Type}

/-- A context says of an invocation what its metadata says. -/
structure Context.Reads (ctx : Context) (inv : Invocation) : Prop where
  id : ctx.id = inv.id
  deadline : inv.metadata.readDeadline = .ok ctx.deadline
  identity : inv.metadata.readIdentity = .ok ctx.identity
  clientContext : inv.metadata.readClientContext = .ok ctx.clientContext
  functionArn : ctx.functionArn = inv.metadata.functionArn.getD ""
  traceId : ctx.traceId = inv.metadata.traceId.filter (!·.isEmpty)

/-- The first part of the metadata that cannot be read, in the order in which they are read. -/
inductive Metadata.Fails (m : Metadata) : MetadataError → Prop
  | deadline {e} : m.readDeadline = .error e → Fails m e
  | identity {d e} : m.readDeadline = .ok d → m.readIdentity = .error e → Fails m e
  | clientContext {d i e} : m.readDeadline = .ok d → m.readIdentity = .ok i →
      m.readClientContext = .error e → Fails m e

theorem Context.Reads.ofMetadata {ctx : Context} {inv : Invocation} (h : ctx.Reads inv) :
    Context.ofMetadata inv.id inv.metadata = .ok ctx := by
  obtain ⟨hid,hd,hi,hc,ha,ht⟩ := h
  cases ctx
  dsimp only at hid hd hi hc ha ht
  subst hid ha ht
  simp only [Context.ofMetadata, hd, hi, hc]
  rfl

theorem Metadata.Fails.ofMetadata {inv : Invocation} {e : MetadataError} (h : inv.metadata.Fails e) :
    Context.ofMetadata inv.id inv.metadata = .error e := by
  cases h with
  | deadline hd => simp only [Context.ofMetadata, hd]; rfl
  | identity hd hi => simp only [Context.ofMetadata, hd, hi]; rfl
  | clientContext hd hi hc => simp only [Context.ofMetadata, hd, hi, hc]; rfl

/-- Some part of the metadata fails first, or all of it can be read as a context. -/
theorem fails_or_reads (inv : Invocation) :
    (∃ e, inv.metadata.Fails e) ∨ ∃ ctx : Context, ctx.Reads inv := by
  cases hd : inv.metadata.readDeadline with
  | error e => exact .inl ⟨e,.deadline hd⟩
  | ok d =>
    cases hi : inv.metadata.readIdentity with
    | error e => exact .inl ⟨e,.identity hd hi⟩
    | ok i =>
      cases hc : inv.metadata.readClientContext with
      | error e => exact .inl ⟨e,.clientContext hd hi hc⟩
      | ok c => exact .inr ⟨⟨inv.id,_,i,c,_,d⟩,rfl,hd,hi,hc,rfl,rfl⟩

/-- What decides an invocation: the failure of one stage, a panic in one, or the output. -/
inductive Fate
  | unreadable (e : MetadataError)
  | undecodable (reason : String)
  | refused (text : String)
  | unwritable (reason : String)
  | answered (body : String)
  | panicked (c : Captured)

namespace Fate

/-- What is to be reported of an invocation. -/
def result (p : Pipeline) (h : Handler ι ο ε) : Fate → Except Failure String
  | unreadable e => .error ⟨"Runtime.HandlerError",e.message,[]⟩
  | undecodable reason =>
    .error ⟨"Runtime.UnmarshalError","failed to unmarshal input: " ++ reason,[]⟩
  | refused text => .error ⟨p.taxonomy.errorTag h.errorType,text,[]⟩
  | unwritable reason =>
    .error ⟨"Runtime.MarshalError","failed to marshal output: " ++ reason,[]⟩
  | answered body => .ok body
  | panicked c => .error (c.toFailure p.taxonomy)

end Fate

namespace Handler
section Stages
variable (h : Handler ι ο ε) (inv : Invocation) (s : Scene)

/-- The payload has been decoded, and the handler is to be entered from the scene `t`. -/
def Decodes (ctx : Context) (input : ι) (t : Scene) : Prop :=
  ctx.Reads inv ∧ (h.decode inv.payload).run s = (.ok (.ok input),t)

/-- The handler was entered and has returned, which leaves the scene `u`. -/
def Returns (ctx : Context) (r : Except ε ο) (u : Scene) : Prop :=
  ∃ input t, h.Decodes inv s ctx input t ∧ (h.call ctx input).run (t.call ctx) = (.ok r,u)

/-- How an invocation ends whose payload is decoded in the scene `s`, and with which contexts the
handler is entered until then. A rule asks of each stage before its own that it succeeds. -/
inductive Ends : Fate → List Context → Prop
  | unreadable {e} : inv.metadata.Fails e → Ends (.unreadable e) []
  | decodePanics {ctx : Context} {x t} : ctx.Reads inv →
      (h.decode inv.payload).run s = (.error x,t) → Ends (.panicked ⟨x,t.captured⟩) []
  | undecodable {ctx : Context} {reason t} : ctx.Reads inv →
      (h.decode inv.payload).run s = (.ok (.error reason),t) → Ends (.undecodable reason) []
  | callPanics {ctx input t x u} : h.Decodes inv s ctx input t →
      (h.call ctx input).run (t.call ctx) = (.error x,u) → Ends (.panicked ⟨x,u.captured⟩) [ctx]
  | describePanics {ctx e u x v} : h.Returns inv s ctx (.error e) u →
      (h.describe e).run u = (.error x,v) → Ends (.panicked ⟨x,v.captured⟩) [ctx]
  | refused {ctx e u text v} : h.Returns inv s ctx (.error e) u →
      (h.describe e).run u = (.ok text,v) → Ends (.refused text) [ctx]
  | encodePanics {ctx output u x v} : h.Returns inv s ctx (.ok output) u →
      (h.encode output).run u = (.error x,v) → Ends (.panicked ⟨x,v.captured⟩) [ctx]
  | unwritable {ctx output u reason v} : h.Returns inv s ctx (.ok output) u →
      (h.encode output).run u = (.ok (.error reason),v) → Ends (.unwritable reason) [ctx]
  | answered {ctx output u body v} : h.Returns inv s ctx (.ok output) u →
      (h.encode output).run u = (.ok (.ok body),v) → Ends (.answered body) [ctx]

end Stages

theorem Returns.reads {h : Handler ι ο ε} {inv : Invocation} {s u : Scene} {ctx : Context}
    {r : Except ε ο} (hr : h.Returns inv s ctx r u) : ctx.Reads inv := by
  obtain ⟨_,_,hd,_⟩ := hr
  exact hd.1

theorem Returns.calls {h : Handler ι ο ε} {inv : Invocation} {s u : Scene} {ctx : Context}
    {r : Except ε ο} (hr : h.Returns inv s ctx r u) : u.calls = s.calls ++ [ctx] := by
  obtain ⟨_,t,hd,hc⟩ := hr
  rw [Program.calls_eq hc, Scene.calls_call, Program.calls_eq hd.2]

/-- Every invocation has a fate: no stage is left out, and none is without a rule. -/
theorem exists_ends (h : Handler ι ο ε) (inv : Invocation) (s : Scene) :
    ∃ fate calls, h.Ends inv s fate calls := by
  rcases fails_or_reads inv with ⟨e,he⟩ | ⟨ctx,hctx⟩
  · exact ⟨_,_,.unreadable he⟩
  rcases hd : (h.decode inv.payload).run s with ⟨x | reason | input,t⟩
  · exact ⟨_,_,.decodePanics hctx hd⟩
  · exact ⟨_,_,.undecodable hctx hd⟩
  rcases hc : (h.call ctx input).run (t.call ctx) with ⟨x | e | output,u⟩
  · exact ⟨_,_,.callPanics ⟨hctx,hd⟩ hc⟩
  · have hr : h.Returns inv s ctx (.error e) u := ⟨input,t,⟨hctx,hd⟩,hc⟩
    rcases hm : (h.describe e).run u with ⟨x | text,v⟩
    · exact ⟨_,_,.describePanics hr hm⟩
    · exact ⟨_,_,.refused hr hm⟩
  · have hr : h.Returns inv s ctx (.ok output) u := ⟨input,t,⟨hctx,hd⟩,hc⟩
    rcases hm : (h.encode output).run u with ⟨x | reason | body,v⟩
    · exact ⟨_,_,.encodePanics hr hm⟩
    · exact ⟨_,_,.unwritable hr hm⟩
    · exact ⟨_,_,.answered hr hm⟩

end Handler

namespace Pipeline
variable (p : Pipeline)

variable {p} {h : Handler ι ο ε} {inv : Invocation} {s t u v : Scene} {ctx : Context}

theorem attempt_decodePanics {x : Payload}
    (hd : (h.decode inv.payload).run s = (.error x,t)) :
    p.attempt h ctx inv.payload s = (.error x,t) :=
  Execution.bind_error (x := Program.exec _) hd

theorem attempt_undecodable {reason : String}
    (hd : (h.decode inv.payload).run s = (.ok (.error reason),t)) :
    p.attempt h ctx inv.payload s = (.ok (.error (.ofInput reason)),t) :=
  Execution.bind_ok (x := Program.exec _) hd

/-- Behind the decoding, the attempt enters the handler once and goes on with its program. -/
theorem attempt_decodes {input : ι} (hd : h.Decodes inv s ctx input t) :
    p.attempt h ctx inv.payload s = ((h.call ctx input).exec >>= p.finish h) (t.call ctx) :=
  Execution.bind_ok (x := Program.exec _) hd.2

theorem attempt_returns {r : Except ε ο} (hr : h.Returns inv s ctx r u) :
    p.attempt h ctx inv.payload s = p.finish h r u := by
  obtain ⟨input,t,hd,hc⟩ := hr
  exact (attempt_decodes hd).trans (Execution.bind_ok (x := Program.exec _) hc)

theorem finish_describePanics {e : ε} {x : Payload} (hm : (h.describe e).run u = (.error x,v)) :
    p.finish h (.error e) u = (.error x,v) :=
  Execution.bind_error (x := Program.exec _) hm

theorem finish_refused {e : ε} {text : String} (hm : (h.describe e).run u = (.ok text,v)) :
    p.finish h (.error e) u = (.ok (Fate.result p h (.refused text)),v) :=
  Execution.bind_ok (x := Program.exec _) hm

theorem finish_encodePanics {output : ο} {x : Payload} (hm : (h.encode output).run u = (.error x,v)) :
    p.finish h (.ok output) u = (.error x,v) :=
  Execution.bind_error (x := Program.exec _) hm

theorem finish_unwritable {output : ο} {reason : String}
    (hm : (h.encode output).run u = (.ok (.error reason),v)) :
    p.finish h (.ok output) u = (.ok (Fate.result p h (.unwritable reason)),v) :=
  Execution.bind_ok (x := Program.exec _) hm

theorem finish_answered {output : ο} {body : String}
    (hm : (h.encode output).run u = (.ok (.ok body),v)) :
    p.finish h (.ok output) u = (.ok (.ok body),v) :=
  Execution.bind_ok (x := Program.exec _) hm

theorem execute_fails {e : MetadataError} (he : inv.metadata.Fails e) :
    p.execute h inv s = (.error (.ofHandler e.message),p.publish inv s) := by
  simp only [execute, he.ofMetadata]

theorem execute_ok {r : Except Failure String} (hctx : ctx.Reads inv)
    (ha : p.attempt h ctx inv.payload (p.publish inv s).enter = (.ok r,t)) :
    p.execute h inv s = (r,t.leave) := by
  simp only [execute, hctx.ofMetadata, Execution.contained_ok ha]

theorem execute_panics {x : Payload} (hctx : ctx.Reads inv)
    (ha : p.attempt h ctx inv.payload (p.publish inv s).enter = (.error x,t)) :
    p.execute h inv s =
      (.error (Captured.toFailure ⟨x,t.captured⟩ p.taxonomy),{ t.leave with captured := none }) := by
  simp only [execute, hctx.ofMetadata, Execution.contained_error ha]

theorem execute_finish {r : Except ε ο} {result : Except Failure String}
    (hr : h.Returns inv (p.publish inv s).enter ctx r u) (hf : p.finish h r u = (.ok result,v)) :
    p.execute h inv s = (result,v.leave) :=
  execute_ok hr.reads ((attempt_returns hr).trans hf)

theorem execute_finish_panics {r : Except ε ο} {x : Payload}
    (hr : h.Returns inv (p.publish inv s).enter ctx r u) (hf : p.finish h r u = (.error x,v)) :
    p.execute h inv s =
      (.error (Captured.toFailure ⟨x,v.captured⟩ p.taxonomy),{ v.leave with captured := none }) :=
  execute_panics hr.reads ((attempt_returns hr).trans hf)

@[simp] theorem calls_publish : (p.publish inv s).calls = s.calls := by
  unfold publish
  split <;> rfl

end Pipeline

/-- A pipeline reports what the fate of the invocation asks for, and enters the handler as often. -/
theorem Handler.Ends.execute {p : Pipeline} {h : Handler ι ο ε} {inv : Invocation} {s : Scene}
    {fate : Fate} {calls : List Context} (he : h.Ends inv (p.publish inv s).enter fate calls) :
    (p.execute h inv s).1 = fate.result p h ∧ (p.execute h inv s).2.calls = s.calls ++ calls := by
  have hs : (p.publish inv s).enter.calls = s.calls := Pipeline.calls_publish
  cases he with
  | unreadable hf =>
    rw [Pipeline.execute_fails hf]
    exact ⟨rfl,by simp⟩
  | decodePanics hctx hd =>
    rw [Pipeline.execute_panics hctx (Pipeline.attempt_decodePanics hd)]
    exact ⟨rfl,by rw [List.append_nil]; exact (Program.calls_eq hd).trans hs⟩
  | undecodable hctx hd =>
    rw [Pipeline.execute_ok hctx (Pipeline.attempt_undecodable hd)]
    exact ⟨rfl,by rw [List.append_nil]; exact (Program.calls_eq hd).trans hs⟩
  | callPanics hd hc =>
    have ha := (Pipeline.attempt_decodes (p := p) hd).trans
      (Execution.bind_error (x := Program.exec _) hc)
    rw [Pipeline.execute_panics hd.1 ha]
    refine ⟨rfl,(Program.calls_eq hc).trans ?_⟩
    rw [Scene.calls_call, Program.calls_eq hd.2, hs]
  | describePanics hr hm =>
    rw [Pipeline.execute_finish_panics hr (Pipeline.finish_describePanics hm)]
    exact ⟨rfl,(Program.calls_eq hm).trans (hs ▸ hr.calls)⟩
  | refused hr hm =>
    rw [Pipeline.execute_finish hr (Pipeline.finish_refused hm)]
    exact ⟨rfl,(Program.calls_eq hm).trans (hs ▸ hr.calls)⟩
  | encodePanics hr hm =>
    rw [Pipeline.execute_finish_panics hr (Pipeline.finish_encodePanics hm)]
    exact ⟨rfl,(Program.calls_eq hm).trans (hs ▸ hr.calls)⟩
  | unwritable hr hm =>
    rw [Pipeline.execute_finish hr (Pipeline.finish_unwritable hm)]
    exact ⟨rfl,(Program.calls_eq hm).trans (hs ▸ hr.calls)⟩
  | answered hr hm =>
    rw [Pipeline.execute_finish hr (Pipeline.finish_answered hm)]
    exact ⟨rfl,(Program.calls_eq hm).trans (hs ▸ hr.calls)⟩

end InvocationHost
