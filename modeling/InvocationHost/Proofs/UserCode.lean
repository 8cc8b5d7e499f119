import InvocationHost.Panic.Program

/-! # What user code cannot touch

User code may panic, catch panics and contain parts of itself to any depth. The record of the handlers
that were entered is the host's own: it is the same before and after every program.
-/
namespace InvocationHost.Panic
variable {α β : Type}

namespace Scene

@[simp] theorem calls_hook (s : Scene) (site : Site) : (s.hook site).calls = s.calls := by
  unfold hook
  split <;> rfl

@[simp] theorem calls_erupt (s : Scene) (e : Eruption) : (s.erupt e).calls = s.calls := by
  unfold erupt
  split
  · exact calls_hook s _
  · rfl

@[simp] theorem calls_resume (s : Scene) : s.resume.calls = s.calls := by
  unfold resume
  split <;> rfl

@[simp] theorem calls_close (s : Scene) (r : Except Payload α) : (s.close r).2.calls = s.calls := by
  cases r <;> rfl

@[simp] theorem calls_call (s : Scene) (ctx : Context) : (s.call ctx).calls = s.calls ++ [ctx] := rfl

end Scene

/-- No program enters a handler. -/
@[simp] theorem Program.calls_run (p : Program α) (s : Scene) : (p.run s).2.calls = s.calls := by
  induction p generalizing s with
  | done a => rfl
  | erupt e => exact Scene.calls_erupt s e
  | pause next ih => exact (ih s.resume).trans (Scene.calls_resume s)
  | readToken next ih => exact ih s.token s
  | catching body after hbody hafter => exact (hafter _ _).trans (hbody s)
  | containing body after hbody hafter =>
    have hopen := hbody s.enter
    exact (hafter _ _).trans ((Scene.calls_close _ _).trans hopen)

theorem Program.calls_eq {p : Program α} {s t : Scene} {r : Except Payload α} (h : p.run s = (r,t)) :
    t.calls = s.calls := by
  have hrun := calls_run p s
  rwa [h] at hrun

namespace Execution

theorem bind_ok {x : Execution α} {f : α → Execution β} {s t : Scene} {a : α} (h : x s = (.ok a,t)) :
    (x >>= f) s = f a t := by
  change (ExceptT.bindCont f (x s).1) (x s).2 = f a t
  rw [h]
  rfl

theorem bind_error {x : Execution α} {f : α → Execution β} {s t : Scene} {payload : Payload}
    (h : x s = (.error payload,t)) : (x >>= f) s = (.error payload,t) := by
  change (ExceptT.bindCont f (x s).1) (x s).2 = (.error payload,t)
  rw [h]
  rfl

theorem contained_ok {x : Execution α} {s t : Scene} {a : α} (h : x s.enter = (.ok a,t)) :
    x.contained s = (.ok a,t.leave) := by
  unfold contained
  rw [h]
  rfl

theorem contained_error {x : Execution α} {s t : Scene} {payload : Payload}
    (h : x s.enter = (.error payload,t)) :
    x.contained s = (.error ⟨payload,t.captured⟩,{ t.leave with captured := none }) := by
  unfold contained
  rw [h]
  rfl

end Execution
end InvocationHost.Panic
