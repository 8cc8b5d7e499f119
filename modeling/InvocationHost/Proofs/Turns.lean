import InvocationHost.Proofs.Containment

/-! # User code in turns with other code

A program that gives up the thread is polled again later. Until then the thread may be used by other code, which
may panic and contain parts of itself, and the next poll may happen on another thread. None of this reaches
the program: however it is polled in turns with other code, it comes to what it comes to when it is run
(`Program.settles`).
-/
namespace InvocationHost.Panic
variable {α β : Type}

namespace Scene

/-- Scenes that user code cannot tell apart. What is noted outside of every containment counts for nothing, as
the next containment forgets it. -/
structure Alike (s t : Scene) : Prop where
  depth : s.depth = t.depth
  token : s.token = t.token
  captured : s.depth ≠ 0 → s.captured = t.captured

/-- What may become of a scene while a program waits for its next poll, which may happen on another thread. Where
the program is inside of a containment, the next poll begins with nothing noted. -/
structure Meanwhile (s t : Scene) : Prop where
  depth : t.depth = s.depth
  token : t.token = s.token
  captured : s.depth ≠ 0 → t.captured = none

@[simp] theorem depth_close (s : Scene) (r : Except Payload α) : (s.close r).2.depth = s.depth - 1 := by
  cases r <;> rfl

@[simp] theorem token_close (s : Scene) (r : Except Payload α) : (s.close r).2.token = s.token := by
  cases r <;> rfl

@[simp] theorem depth_resume (s : Scene) : s.resume.depth = s.depth := by
  unfold resume
  split <;> rfl

@[simp] theorem token_resume (s : Scene) : s.resume.token = s.token := by
  unfold resume
  split <;> rfl

namespace Alike
variable {s t u : Scene}

@[refl] theorem refl (s : Scene) : Alike s s := ⟨rfl,rfl,fun _ => rfl⟩

theorem trans (h : Alike s t) (h' : Alike t u) : Alike s u :=
  ⟨h.depth.trans h'.depth,h.token.trans h'.token,
    fun hd => (h.captured hd).trans (h'.captured (h.depth ▸ hd))⟩

theorem call (h : Alike s t) (ctx : Context) : Alike (s.call ctx) t := ⟨h.depth,h.token,h.captured⟩

theorem erupt (h : Alike s t) (e : Eruption) : Alike (s.erupt e) (t.erupt e) := by
  rcases e with ⟨payload,_ | site⟩
  · exact h
  · by_cases hs : s.depth = 0
    · have ht : t.depth = 0 := h.depth ▸ hs
      simp only [Scene.erupt, hook, if_pos hs, if_pos ht]
      exact ⟨h.depth,h.token,fun hd => absurd hs hd⟩
    · have ht : t.depth ≠ 0 := h.depth ▸ hs
      simp only [Scene.erupt, hook, if_neg hs, if_neg ht]
      exact ⟨h.depth,h.token,fun _ => rfl⟩

theorem enter (h : Alike s t) : Alike s.enter t.enter := by
  refine ⟨congrArg (· + 1) h.depth,h.token,fun _ => ?_⟩
  simp only [Scene.enter, ← h.depth]
  split
  · rfl
  · next hd => exact h.captured hd

theorem resume (h : Alike s t) : Alike s.resume t.resume := by
  by_cases hs : s.depth = 0
  · have ht : t.depth = 0 := h.depth ▸ hs
    simpa only [Scene.resume, if_pos hs, if_pos ht] using h
  · have ht : t.depth ≠ 0 := h.depth ▸ hs
    simp only [Scene.resume, if_neg hs, if_neg ht]
    exact ⟨h.depth,h.token,fun _ => rfl⟩

theorem leave (h : Alike s t) : Alike s.leave t.leave := by
  refine ⟨congrArg (· - 1) h.depth,h.token,fun hd => h.captured ?_⟩
  simp only [Scene.leave] at hd
  omega

/-- Inside a containment, what goes with a panic that leaves it is the same. -/
theorem close (h : Alike s t) (hs : s.depth ≠ 0) (r : Except Payload α) :
    (s.close r).1 = (t.close r).1 ∧ Alike (s.close r).2 (t.close r).2 := by
  cases r with
  | ok a => exact ⟨rfl,h.leave⟩
  | error payload =>
    have hsite : s.captured = t.captured := h.captured hs
    exact ⟨by simp [Scene.close, capture, Scene.leave, hsite],h.leave.depth,h.token,fun _ => rfl⟩

end Alike

/-- What is polled again meets a scene like the one that it would have resumed. -/
theorem Meanwhile.alike_resume {s t : Scene} (h : s.Meanwhile t) : t.Alike s.resume := by
  by_cases hs : s.depth = 0
  · simp only [resume, if_pos hs]
    exact ⟨h.depth,h.token,fun hd => absurd (h.depth.trans hs) hd⟩
  · simp only [resume, if_neg hs]
    exact ⟨h.depth,h.token,fun _ => h.captured hs⟩

/-- A containment that is left and entered again has had other code run meanwhile. -/
theorem Meanwhile.enter {s t : Scene} (hs : s.depth ≠ 0) (h : s.leave.Meanwhile t) : s.Meanwhile t.enter := by
  have hd : t.depth = s.depth - 1 := h.depth
  refine ⟨by simp only [Scene.enter, hd]; omega,h.token,fun _ => ?_⟩
  simp only [Scene.enter]
  split
  · rfl
  · next ht => exact h.captured (h.depth ▸ ht)

/-! ## Other code -/

@[simp] theorem token_after (s : Scene) (i : Incident) : (s.after i).token = s.token := by
  cases i with
  | begins => rfl
  | erupts e =>
    rcases e with ⟨payload,_ | site⟩
    · rfl
    · simp only [after, erupt, hook]
      split <;> rfl
  | ends how => cases how <;> rfl

@[simp] theorem token_afterAll (s : Scene) (is : List Incident) : (s.afterAll is).token = s.token := by
  induction is generalizing s with
  | nil => rfl
  | cons i is ih => exact (ih (s.after i)).trans (s.token_after i)

/-- Outside of every containment, any stretch of user code on the thread may run meanwhile. -/
theorem meanwhile_of_unfolds {s : Scene} {is : List Incident} {how : PollEnd} (hs : s.depth = 0)
    (h : Unfolds is how) : s.Meanwhile (s.afterAll is) :=
  ⟨s.depth_afterAll_of_unfolds h,s.token_afterAll is,fun hd => absurd hs hd⟩

end Scene

namespace Program

/-- The count of open containments and the token are after a program what they were before it. -/
theorem run_keeps (p : Program α) (s : Scene) :
    (p.run s).2.depth = s.depth ∧ (p.run s).2.token = s.token := by
  induction p generalizing s with
  | done a => exact ⟨rfl,rfl⟩
  | erupt e => exact ⟨s.depth_erupts e,s.token_after (.erupts e)⟩
  | pause next ih =>
    obtain ⟨hdepth,htoken⟩ := ih s.resume
    exact ⟨hdepth.trans s.depth_resume,htoken.trans s.token_resume⟩
  | readToken next ih => exact ih s.token s
  | catching body after hbody hafter =>
    obtain ⟨hdepth,htoken⟩ := hafter (body.run s).1 (body.run s).2
    exact ⟨hdepth.trans (hbody s).1,htoken.trans (hbody s).2⟩
  | containing body after hbody hafter =>
    obtain ⟨hopen,htoken⟩ := hbody s.enter
    obtain ⟨hdepth',htoken'⟩ := hafter ((body.run s.enter).2.close (body.run s.enter).1).1
      ((body.run s.enter).2.close (body.run s.enter).1).2
    rw [Scene.depth_close, hopen] at hdepth'
    rw [Scene.token_close, htoken] at htoken'
    exact ⟨hdepth',htoken'⟩

/-- Code in scenes that are alike comes to the same. -/
theorem run_alike (p : Program α) {s t : Scene} (h : s.Alike t) :
    (p.run s).1 = (p.run t).1 ∧ (p.run s).2.Alike (p.run t).2 := by
  induction p generalizing s t with
  | done a => exact ⟨rfl,h⟩
  | erupt e => exact ⟨rfl,h.erupt e⟩
  | pause next ih => exact ih h.resume
  | readToken next ih =>
    simp only [run, h.token]
    exact ih t.token h
  | catching body after hbody hafter =>
    obtain ⟨hresult,hscene⟩ := hbody h
    simp only [run, hresult]
    exact hafter _ hscene
  | containing body after hbody hafter =>
    obtain ⟨hresult,hscene⟩ := hbody h.enter
    have hopen : (body.run s.enter).2.depth ≠ 0 := by
      rw [(body.run_keeps s.enter).1]
      exact Nat.succ_ne_zero s.depth
    obtain ⟨hclosed,hleft⟩ := hscene.close hopen (body.run s.enter).1
    rw [hresult] at hclosed hleft
    simp only [run, hresult, hclosed]
    exact hafter _ hleft

/-- However a program is polled in turns with other code, it comes to an end, and that is as `q` says. -/
inductive Settles (q : Except Payload α → Scene → Prop) : Program α → Scene → Prop
  | ready {p s a t} : p.poll s = (.ready a,t) → q (.ok a) t → Settles q p s
  | unwound {p s payload t} : p.poll s = (.unwound payload,t) → q (.error payload) t → Settles q p s
  | pending {p s rest t} : p.poll s = (.pending rest,t) → (∀ u, t.Meanwhile u → Settles q rest u) →
      Settles q p s

namespace Settles
variable {q : Except Payload α → Scene → Prop} {q' : Except Payload β → Scene → Prop}

theorem of_poll_eq {p p' : Program α} {s s' : Scene} (h : Settles q p' s') (hp : p.poll s = p'.poll s') :
    Settles q p s := by
  cases h with
  | ready hpoll hq => exact .ready (hp.trans hpoll) hq
  | unwound hpoll hq => exact .unwound (hp.trans hpoll) hq
  | pending hpoll hrest => exact .pending (hp.trans hpoll) hrest

theorem catching {body : Program α} {after : Except Payload α → Program β} {s : Scene} (h : Settles q body s)
    (hafter : ∀ r t, q r t → Settles q' (after r) t) : Settles q' (.catching body after) s := by
  induction h with
  | ready hpoll hq => exact (hafter _ _ hq).of_poll_eq (by simp only [poll, hpoll])
  | unwound hpoll hq => exact (hafter _ _ hq).of_poll_eq (by simp only [poll, hpoll])
  | pending hpoll _ ih => exact .pending (by simp only [poll, hpoll]) ih

theorem containing {body : Program α} {after : Except Captured α → Program β} {s : Scene}
    (h : Settles q body s.enter)
    (hafter : ∀ r t, q r t → Settles q' (after (t.close r).1) (t.close r).2) :
    Settles q' (.containing body after) s := by
  generalize hs : s.enter = s' at h
  induction h generalizing s with
  | ready hpoll hq =>
    subst hs
    exact (hafter _ _ hq).of_poll_eq (by simp only [poll, hpoll])
  | unwound hpoll hq =>
    subst hs
    exact (hafter _ _ hq).of_poll_eq (by simp only [poll, hpoll])
  | @pending p _ rest t hpoll _ ih =>
    subst hs
    have hwhole : (Program.containing p after).poll s = (.pending (.containing rest after),t.leave) := by
      simp only [poll, hpoll]
    refine .pending hwhole fun u hu => ?_
    have hopen : t.depth ≠ 0 := by
      have hdepth := p.depth_poll s.enter
      rw [hpoll] at hdepth
      exact hdepth ▸ Nat.succ_ne_zero s.depth
    exact ih u.enter (hu.enter hopen) rfl

theorem mono {r : Except Payload α → Scene → Prop} {p : Program α} {s : Scene} (h : Settles q p s)
    (hqr : ∀ x t, q x t → r x t) : Settles r p s := by
  induction h with
  | ready hpoll hq => exact .ready hpoll (hqr _ _ hq)
  | unwound hpoll hq => exact .unwound hpoll (hqr _ _ hq)
  | pending hpoll _ ih => exact .pending hpoll ih

end Settles

/-- **A program is not disturbed by the code that it takes turns with.** However it is polled, it comes to what
it comes to when it is run. -/
theorem settles (p : Program α) (s : Scene) :
    p.Settles (fun r t => r = (p.run s).1 ∧ t.Alike (p.run s).2) s := by
  induction p generalizing s with
  | done a => exact .ready rfl ⟨rfl,.refl s⟩
  | erupt e => exact .unwound rfl ⟨rfl,.refl (s.erupt e)⟩
  | pause next ih =>
    refine .pending rfl fun u hu => (ih u).mono fun r t ⟨hr,ht⟩ => ?_
    obtain ⟨hresult,hscene⟩ := next.run_alike hu.alike_resume
    exact ⟨hr.trans hresult,ht.trans hscene⟩
  | readToken next ih => exact (ih s.token s).of_poll_eq rfl
  | catching body after hbody hafter =>
    refine (hbody s).catching fun r t ⟨hr,ht⟩ => (hafter r t).mono fun r' t' ⟨hr',ht'⟩ => ?_
    subst hr
    obtain ⟨hresult,hscene⟩ := (after (body.run s).1).run_alike ht
    exact ⟨hr'.trans hresult,ht'.trans hscene⟩
  | containing body after hbody hafter =>
    refine (hbody s.enter).containing fun r t ⟨hr,ht⟩ => (hafter _ _).mono fun r' t' ⟨hr',ht'⟩ => ?_
    subst hr
    have hopen : t.depth ≠ 0 := by
      rw [ht.depth, (body.run_keeps s.enter).1]
      exact Nat.succ_ne_zero s.depth
    obtain ⟨hclosed,hleft⟩ := ht.close hopen (body.run s.enter).1
    rw [hclosed] at hr' ht'
    obtain ⟨hresult,hscene⟩ := (after ((body.run s.enter).2.close (body.run s.enter).1).1).run_alike hleft
    exact ⟨hr'.trans hresult,ht'.trans hscene⟩

end Program
end InvocationHost.Panic
