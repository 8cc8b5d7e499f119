import InvocationHost.Proofs.Reports

/-! # The stack of a failure

That a failure comes from a panic is read off its stack. This is right because a captured panic always
has frames, at most `maxFrames` of them, while a failure of any other origin has none.
-/
namespace InvocationHost
open Json Panic
variable {ι ο ε : Type}

theorem Backtrace.length_userFrames_le (boundaries : List String) (rendered : String) :
    (userFrames boundaries rendered).length ≤ maxFrames := by
  simp only [userFrames, List.length_map, List.length_take]
  exact Nat.min_le_left _ _

namespace Panic.Captured
variable (c : Captured)

theorem length_userFrames_le : c.userFrames.length ≤ Backtrace.maxFrames := by
  rcases c with ⟨payload,_ | site⟩
  · exact Nat.zero_le _
  · simp only [userFrames, Option.map_some, Option.getD_some]
    exact Backtrace.length_userFrames_le hostBoundary site.backtrace

theorem frames_of_userFrames_nil (h : c.userFrames = []) : c.frames = [c.placeholder] := by
  simp [frames, h]

/-- Where a backtrace has no frames of the user's, the place of the panic is the only frame. -/
theorem frames_of_site {site : Site} (hsite : c.site = some site)
    (hnone : Backtrace.userFrames hostBoundary site.backtrace = []) :
    c.frames = [⟨SourcePath.minimal site.file,site.line,"<panic>"⟩] := by
  have hu : c.userFrames = [] := by simp [userFrames, hsite, hnone]
  rw [c.frames_of_userFrames_nil hu]
  simp [placeholder, hsite, StackFrame.ofLocation, StackFrame.placeholderLabel]

theorem frames_of_no_site (hsite : c.site = none) :
    c.frames = [⟨SourcePath.minimal "",0,"<panic>"⟩] := by
  have hu : c.userFrames = [] := by simp [userFrames, hsite]
  rw [c.frames_of_userFrames_nil hu]
  simp [placeholder, hsite, StackFrame.ofLocation, StackFrame.placeholderLabel]

theorem length_frames : 1 ≤ c.frames.length ∧ c.frames.length ≤ Backtrace.maxFrames := by
  refine ⟨List.length_pos_iff.mpr c.frames_ne_nil,?_⟩
  unfold frames
  split
  · simp [Backtrace.maxFrames]
  · exact c.length_userFrames_le

end Panic.Captured

namespace Pipeline
variable (p : Pipeline) (h : Handler ι ο ε) (inv : Invocation) (s : Scene)

/-- Handling an invocation, the pipeline has contained this panic. -/
def Contains (c : Captured) : Prop :=
  ∃ ctx, Context.ofMetadata inv.id inv.metadata = .ok ctx ∧
    ((p.attempt h ctx inv.payload).contained (p.publish inv { s with calls := [] })).1 = .error c

variable {p h inv s}

theorem contains_of_attempt {ctx : Context} {x : Payload} {t : Scene} (hctx : ctx.Reads inv)
    (ha : p.attempt h ctx inv.payload (p.opening inv s) = (.error x,t)) :
    p.Contains h inv s ⟨x,t.captured⟩ := by
  refine ⟨ctx,hctx.ofMetadata,?_⟩
  rw [Execution.contained_error ha]

theorem contains_of_ends {c : Captured} {calls : List Context}
    (he : h.Ends inv (p.opening inv s) (.panicked c) calls) : p.Contains h inv s c := by
  cases he with
  | decodePanics hctx hd => exact contains_of_attempt hctx (attempt_decodePanics hd)
  | callPanics hd hc =>
    exact contains_of_attempt hd.1
      ((attempt_decodes hd).trans (Execution.bind_error (x := Program.exec _) hc))
  | describePanics hr hm =>
    exact contains_of_attempt hr.reads ((attempt_returns hr).trans (finish_describePanics hm))
  | encodePanics hr hm =>
    exact contains_of_attempt hr.reads ((attempt_returns hr).trans (finish_encodePanics hm))

theorem result_of_contains {c : Captured} (hc : p.Contains h inv s c) :
    (p.handle h inv s).1.result = .error (c.toFailure p.taxonomy) := by
  obtain ⟨ctx,hctx,hc⟩ := hc
  rw [handle_fst]
  simp only [execute, hctx]
  rcases hx : (p.attempt h ctx inv.payload).contained (p.publish inv { s with calls := [] }) with ⟨r,t⟩
  rw [hx] at hc
  dsimp only at hc
  rw [hc]

theorem isPanic_iff_contains {f : Failure} (hf : (p.handle h inv s).1.result = .error f) :
    f.isPanic = true ↔ ∃ c, p.Contains h inv s c := by
  constructor
  · intro hp
    obtain ⟨fate,calls,he⟩ := h.exists_ends inv (p.opening inv s)
    rw [handle_of_ends he] at hf
    obtain ⟨c,rfl⟩ := (Fate.isPanic_result hf).mp hp
    exact ⟨c,contains_of_ends he⟩
  · rintro ⟨c,hc⟩
    rw [result_of_contains hc] at hf
    cases hf
    exact Captured.isPanic_toFailure c p.taxonomy

variable (p h inv s)

/-- **A failure has a stack exactly if a panic was contained.** The failure that the pipeline reports of
an invocation has frames iff it has contained a panic while handling it, and then it is the record of
that panic. The record of any panic, at any site and under any taxonomy, has 1 to 32 frames; where
none of the backtrace is left, or the hook has not run, it has the one frame of the place. An error
that the handler returns, whatever value it is, a failure with frames of its own among them, is
reported by its text and has no stack. -/
theorem stack_iff_panic_contained :
    (∀ f, (p.handle h inv s).1.result = .error f →
      ((f.isPanic = true ↔ f.stack ≠ []) ∧ (f.stack ≠ [] ↔ ∃ c, p.Contains h inv s c))) ∧
    (∀ c, p.Contains h inv s c →
      (p.handle h inv s).1.result = .error (c.toFailure p.taxonomy)) ∧
    (∀ (c : Captured) (t : Taxonomy),
      1 ≤ (c.toFailure t).stack.length ∧ (c.toFailure t).stack.length ≤ 32 ∧
      (∀ site, c.site = some site → Backtrace.userFrames hostBoundary site.backtrace = [] →
        (c.toFailure t).stack = [⟨SourcePath.minimal site.file,site.line,"<panic>"⟩]) ∧
      (c.site = none → (c.toFailure t).stack = [⟨SourcePath.minimal "",0,"<panic>"⟩])) ∧
    (∀ ctx e u text v, h.Returns inv (p.opening inv s) ctx (.error e) u →
      (h.describe e).run u = (.ok text,v) →
      ∃ f, (p.handle h inv s).1.result = .error f ∧ f.message = text ∧ f.isPanic = false) := by
  refine ⟨?_,fun c hc => result_of_contains hc,?_,?_⟩
  · intro f hf
    have hpanic : f.isPanic = true ↔ f.stack ≠ [] := by simp [Failure.isPanic]
    exact ⟨hpanic,hpanic.symm.trans (isPanic_iff_contains hf)⟩
  · intro c t
    have hstack : (c.toFailure t).stack = c.frames := rfl
    rw [hstack]
    exact ⟨c.length_frames.1,c.length_frames.2,fun _ hsite hnone => c.frames_of_site hsite hnone,
      fun hsite => c.frames_of_no_site hsite⟩
  · intro ctx e u text v hr hm
    have he : h.Ends inv (p.opening inv s) (.refused text) [ctx] := .refused hr hm
    rw [handle_of_ends he]
    exact ⟨⟨p.taxonomy.errorTag h.errorType,text,[]⟩,rfl,rfl,rfl⟩

end Pipeline
end InvocationHost
