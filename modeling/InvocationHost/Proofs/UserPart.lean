import InvocationHost.Proofs.Reports
import InvocationHost.Proofs.Turns

/-! # The user's part in an invocation

Between the context and the report an invocation is in the hands of user code: the payload is decoded, the
handler is called, its error is described or its output encoded. All of this is one program, which the host
runs under containment, so that the result is the same however the program is polled.
-/
namespace InvocationHost
open Json Panic
variable {ι ο ε α β : Type}

namespace Panic.Program

/-- Goes on with another program once one has come to its end. -/
def proceed (f : α → Program β) : Except Payload α × Scene → Except Payload β × Scene
  | (.ok a,s) => (f a).run s
  | (.error payload,s) => (.error payload,s)

theorem run_bind (p : Program α) (f : α → Program β) (s : Scene) : (p.bind f).run s = proceed f (p.run s) := by
  induction p generalizing s with
  | done a => rfl
  | erupt e => rfl
  | pause next ih => exact ih f s.resume
  | readToken next ih => exact ih s.token f s
  | catching body after hbody hafter => exact hafter _ f _
  | containing body after hbody hafter => exact hafter _ f _

theorem exec_bind (p : Program α) (f : α → Program β) : (p.bind f).exec = p.exec >>= fun a => (f a).exec := by
  funext s
  change (p.bind f).run s = _
  rw [run_bind]
  rcases hp : p.run s with ⟨payload | a,t⟩
  · exact (Execution.bind_error (x := p.exec) (f := fun a => (f a).exec) hp).symm
  · exact (Execution.bind_ok (x := p.exec) (f := fun a => (f a).exec) hp).symm

end Panic.Program

theorem Panic.Execution.contained_eq (x : Execution α) (s : Scene) :
    x.contained s = (x s.enter).2.close (x s.enter).1 := rfl

namespace Pipeline
variable (p : Pipeline) (h : Handler ι ο ε)

/-- The user code that is left when the handler has returned. -/
def closing : Except ε ο → Program (Except Failure String)
  | .error e => (h.describe e).bind fun message =>
    .done (.error { tag := p.taxonomy.errorTag h.errorType, message })
  | .ok output => (h.encode output).bind fun
    | .error reason => .done (.error (.ofOutput reason))
    | .ok body => .done (.ok body)

/-- The user code of an invocation. -/
def userCode (ctx : Context) (payload : List UInt8) : Program (Except Failure String) :=
  (h.decode payload).bind fun
    | .error reason => .done (.error (.ofInput reason))
    | .ok input => (h.call ctx input).bind (p.closing h)

theorem finish_eq : p.finish h = fun r => (p.closing h r).exec := by
  funext r
  cases r with
  | error e =>
    simp only [closing, Program.exec_bind]
    rfl
  | ok output =>
    simp only [closing, Program.exec_bind]
    refine congrArg (bind (h.encode output).exec) ?_
    funext body
    cases body <;> rfl

/-- What the host takes the end of contained user code for. -/
def verdict : Except Captured (Except Failure String) → Except Failure String
  | .ok result => result
  | .error c => .error (c.toFailure p.taxonomy)

variable {p h}

/-- Apart from the mark that the handler is entered, an attempt is a run of the user code. -/
theorem attempt_alike {inv : Invocation} {ctx : Context} (hctx : ctx.Reads inv) (s : Scene) :
    (p.attempt h ctx inv.payload s).1 = ((p.userCode h ctx inv.payload).run s).1 ∧
      (p.attempt h ctx inv.payload s).2.Alike ((p.userCode h ctx inv.payload).run s).2 := by
  simp only [userCode, Program.run_bind]
  rcases hd : (h.decode inv.payload).run s with ⟨x | reason | input,t⟩
  · rw [attempt_decodePanics hd]
    exact ⟨rfl,.refl t⟩
  · rw [attempt_undecodable hd]
    exact ⟨rfl,.refl t⟩
  · have hcall : p.attempt h ctx inv.payload s = ((h.call ctx input).bind (p.closing h)).run (t.call ctx) := by
      rw [attempt_decodes ⟨hctx,hd⟩, finish_eq, ← Program.exec_bind]
      rfl
    rw [hcall]
    exact ((h.call ctx input).bind (p.closing h)).run_alike ((Scene.Alike.refl t).call ctx)

theorem execute_reads {inv : Invocation} {ctx : Context} (hctx : ctx.Reads inv) (s : Scene) :
    p.execute h inv s = (p.verdict ((p.attempt h ctx inv.payload).contained (p.publish inv s)).1,
      ((p.attempt h ctx inv.payload).contained (p.publish inv s)).2) := by
  simp only [execute, hctx.ofMetadata]
  split
  · next heq => rw [heq]; rfl
  · next heq => rw [heq]; rfl

/-- The result of an invocation is what its user code comes to in a containment, and the scene is alike. -/
theorem execute_alike {inv : Invocation} {ctx : Context} (hctx : ctx.Reads inv) (s : Scene) :
    ∃ r, ((p.userCode h ctx inv.payload).contain.run (p.publish inv s)).1 = .ok r ∧
      (p.execute h inv s).1 = p.verdict r ∧
      (p.execute h inv s).2.Alike ((p.userCode h ctx inv.payload).contain.run (p.publish inv s)).2 := by
  obtain ⟨hresult,hscene⟩ := attempt_alike (p := p) (h := h) hctx (p.publish inv s).enter
  have hopen : (p.attempt h ctx inv.payload (p.publish inv s).enter).2.depth ≠ 0 := by
    rw [hscene.depth, (Program.run_keeps _ _).1]
    exact Nat.succ_ne_zero (p.publish inv s).depth
  obtain ⟨hclosed,hleft⟩ := hscene.close hopen (p.attempt h ctx inv.payload (p.publish inv s).enter).1
  rw [execute_reads hctx, Execution.contained_eq]
  rw [hresult] at hclosed hleft ⊢
  exact ⟨_,rfl,congrArg p.verdict hclosed,hleft⟩

/-- Behind the publication nothing is left open or touches the slot, whatever becomes of the invocation. -/
theorem execute_keeps (inv : Invocation) (s : Scene) :
    (p.execute h inv s).2.depth = s.depth ∧ (p.execute h inv s).2.token = (p.publish inv s).token := by
  have hpublish : (p.publish inv s).depth = s.depth := by
    unfold publish
    split <;> rfl
  rcases fails_or_reads inv with ⟨e,he⟩ | ⟨ctx,hctx⟩
  · rw [execute_fails he]
    exact ⟨hpublish,rfl⟩
  · obtain ⟨r,-,-,hscene⟩ := execute_alike (p := p) (h := h) hctx s
    obtain ⟨hdepth,htoken⟩ := (p.userCode h ctx inv.payload).contain.run_keeps (p.publish inv s)
    exact ⟨hscene.depth.trans (hdepth.trans hpublish),hscene.token.trans htoken⟩

theorem publish_alike {s t : Scene} (hst : s.Alike t) (inv : Invocation) :
    (p.publish inv s).Alike (p.publish inv t) := by
  unfold publish
  split
  · exact ⟨hst.depth,rfl,hst.captured⟩
  · exact hst

/-- An invocation comes to the same in scenes that are alike. -/
theorem execute_of_alike {s t : Scene} (hst : s.Alike t) (inv : Invocation) :
    (p.execute h inv s).1 = (p.execute h inv t).1 ∧ (p.execute h inv s).2.token = (p.execute h inv t).2.token := by
  have hpublish := publish_alike (p := p) hst inv
  refine ⟨?_,(execute_keeps inv s).2.trans (hpublish.token.trans (execute_keeps inv t).2.symm)⟩
  rcases fails_or_reads inv with ⟨e,he⟩ | ⟨ctx,hctx⟩
  · rw [execute_fails he, execute_fails he]
  · obtain ⟨r,hr,hresult,-⟩ := execute_alike (p := p) (h := h) hctx s
    obtain ⟨r',hr',hresult',-⟩ := execute_alike (p := p) (h := h) hctx t
    have hrun := ((p.userCode h ctx inv.payload).contain.run_alike hpublish).1
    cases hr.symm.trans (hrun.trans hr')
    exact hresult.trans hresult'.symm

/-- Whatever other code has run before, and however the user code of an invocation is polled in turns with other
code, the invocation is the job that it is. -/
theorem settles_handle {inv : Invocation} {ctx : Context} (hctx : ctx.Reads inv) {s t : Scene} (hs : s.depth = 0)
    (hst : s.Meanwhile t) :
    (p.userCode h ctx inv.payload).contain.Settles
      (fun r u => (∃ x, r = .ok x ∧ (p.handle h inv s).1 = ⟨inv.id,p.verdict x⟩) ∧
        u.token = (p.handle h inv s).2.1.token) (p.publish inv t) := by
  have hclean : t.Alike { s with calls := [] } :=
    ⟨hst.depth,hst.token,fun hd => absurd (hst.depth.trans hs) hd⟩
  obtain ⟨hsame,htoken⟩ := execute_of_alike (p := p) (h := h) hclean inv
  obtain ⟨x,hrun,hresult,hscene⟩ := execute_alike (p := p) (h := h) hctx t
  refine ((p.userCode h ctx inv.payload).contain.settles (p.publish inv t)).mono fun r u ⟨hr,hu⟩ => ?_
  refine ⟨⟨x,hr.trans hrun,?_⟩,hu.token.trans (hscene.token.symm.trans htoken)⟩
  rw [handle_fst, ← hsame, hresult]

end Pipeline
end InvocationHost
