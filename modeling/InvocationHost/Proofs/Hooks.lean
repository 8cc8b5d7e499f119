import InvocationHost.Proofs.Talk

/-! # Termination hooks

What a shutdown does to the termination hooks is seen in the activities of its host. At each point of a
shutdown it is known which hooks have run, and from the first loop that was waited for on also which
loops have ended.
-/
namespace InvocationHost
open Api Http Machine
open Extension (Manager LaneActivity LoopActivity EventLoop LoopEvent Registered Startup Shutdown
  ShutdownEvent)
variable {ι ο ε : Type}

/-- What can be seen of a termination hook. -/
inductive HookMark
  | begun (extension : String) (deadline : Deadline)
  | returned (extension : String)
  deriving DecidableEq, Repr

def Activity.hookMark? : Activity → Option HookMark
  | terminate name deadline => some (.begun name deadline)
  | terminated name => some (.returned name)
  | _ => none

/-- What can be seen of the termination hooks among some activities. -/
def hookMarks (activities : List LaneActivity) : List HookMark :=
  (Activity.ofMain activities).filterMap Activity.hookMark?

/-- The extensions that have a termination hook, in their order. -/
def hooked (extensions : List Extension) : List String :=
  (extensions.filter (·.onTermination)).map (·.name)

/-- Hooks that have run one after the other under one deadline. -/
def completed (deadline : Deadline) (names : List String) : List HookMark :=
  names.flatMap fun name => [.begun name deadline,.returned name]

theorem hookMarks_append (xs ys : List LaneActivity) :
    hookMarks (xs ++ ys) = hookMarks xs ++ hookMarks ys := by
  simp [hookMarks]

theorem hookMarks_main (activities : List Activity) :
    hookMarks (activities.map .main) = activities.filterMap Activity.hookMark? := by
  simp [hookMarks]

theorem hookMarks_lane (i : Nat) (activities : List LoopActivity) :
    hookMarks (activities.map (.loop i)) = [] := by
  simp [hookMarks]

theorem hookMarks_logs (es : List Log.Event) :
    (es.map Activity.log).filterMap Activity.hookMark? = [] := by
  simp [List.filterMap_map, Activity.hookMark?, Function.comp_def]

theorem hookMarks_calls (cs : List Context) :
    (cs.map Activity.call).filterMap Activity.hookMark? = [] := by
  simp [List.filterMap_map, Activity.hookMark?, Function.comp_def]

/-- The invocation loop runs no termination hooks. -/
theorem Service.Move.hookMarks_eq_nil {svc : Service ι ο ε} {s t : ServiceState} {e : ServiceEvent}
    {now : List Activity} (hm : svc.Move s e t now) : hookMarks (now.map .main) = [] := by
  rw [hookMarks_main]
  cases hm with
  | told _ => rfl
  | fetches _ => rfl
  | fetched _ hm =>
    unfold receive at hm
    dsimp only at hm
    split at hm <;> cases hm <;> exact hookMarks_logs _
  | @handles inv _ _ _ _ hh =>
    have hnone : (svc.pipeline.handle svc.handler inv s.scene).2.2.filterMap Activity.hookMark? = [] := by
      change ([Activity.log _] ++ List.map Activity.call _ ++ List.map Activity.log _).filterMap _ = []
      rw [List.filterMap_append, List.filterMap_append, hookMarks_calls, hookMarks_logs]
      rfl
    rw [hh] at hnone
    exact hnone
  | @reports job _ =>
    rw [job.send_eq]
    rfl
  | reported _ hm =>
    unfold conclude at hm
    dsimp only at hm
    split at hm <;> cases hm <;> exact hookMarks_logs _

theorem hookMarks_of_starts {activities : List LaneActivity} (h : ∀ a ∈ activities, a.Starts) :
    hookMarks activities = [] := by
  induction activities with
  | nil => rfl
  | cons a rest ih =>
    change hookMarks ([a] ++ rest) = []
    rw [hookMarks_append, ih fun b hb => h b (List.mem_cons_of_mem a hb), List.append_nil]
    cases h a List.mem_cons_self <;> rfl

theorem length_completed (d : Deadline) (names : List String) :
    (completed d names).length = 2 * names.length := by
  induction names with
  | nil => rfl
  | cons name names ih =>
    change (completed d names).length + 2 = 2 * (names.length + 1)
    omega

namespace Extension

/-- An extension that has a termination hook and no other. -/
def closing (name : String) : Extension := { name, onTermination := true }

/-- The hooks of a shutdown are those of the extensions, in the order in which these are registered. -/
theorem Shutdown.ofRegistered_eq (registered : List Registered) :
    ofRegistered registered = .waiting (hooked (registered.map (·.2))) := by
  simp only [ofRegistered, hooked, List.filter_map, List.map_map]
  rfl

theorem EventLoop.Move.not_ended {l m : EventLoop} {done : Bool} {e : LoopEvent}
    {now : List LoopActivity} (hm : l.Move done e m now) : l.ended = false := by
  cases hm with
  | received hp _ _ => simp [ended, hp]
  | released hp _ _ => simp [ended, hp]
  | hookReturned hp => simp [ended, hp]
  | hookPanicked hp => simp [ended, hp]

theorem EventLoop.Move.extension_eq {l m : EventLoop} {done : Bool} {e : LoopEvent}
    {now : List LoopActivity} (hm : l.Move done e m now) : m.extension = l.extension := by
  have hdispatch (event : Event) : (l.dispatch event).1.extension = l.extension := by
    unfold dispatch
    split
    · split <;> rfl
    · rfl
    · rfl
  cases hm with
  | received _ _ hr =>
    unfold receive at hr
    dsimp only at hr
    split at hr
    · cases hr; exact hdispatch _
    · cases hr; rfl
  | released _ _ hf => cases hf; rfl
  | hookReturned _ => rfl
  | hookPanicked _ => rfl

/-- Only a termination hook that panics lets a shutdown die. -/
theorem Shutdown.Move.died_iff {loops : List EventLoop} {s t : Shutdown} {e : ShutdownEvent}
    {now : List Activity} (hm : Move loops s e t now) : t = .died ↔ e = .hookPanics := by
  have hafter (d : Deadline) (names : List String) : afterHooks d names ≠ .died := by
    cases names <;> simp [afterHooks]
  cases hm with
  | timed => simp [hafter]
  | hookReturns => simp [hafter]
  | _ => simp

/-- How far a shutdown has come: which of the hooks have run, which of the loops have ended. -/
inductive Shutdown.Progress (hooks : List String) (loops : List EventLoop) :
    Shutdown → List HookMark → Prop
  | waiting : Progress hooks loops (.waiting hooks) []
  | raised : Progress hooks loops (.raised hooks) []
  | between {deadline run left} : run ++ left = hooks →
      Progress hooks loops (.between deadline left) (completed deadline run)
  | hook {deadline name run left} : run ++ name :: left = hooks →
      Progress hooks loops (.hook deadline name left) (completed deadline run ++ [.begun name deadline])
  | joining {deadline i} : (∀ j l, j < i → loops[j]? = some l → l.ended = true) →
      Progress hooks loops (.joining i) (completed deadline hooks)
  | finished {deadline} : (∀ l ∈ loops, l.ended = true) →
      Progress hooks loops .finished (completed deadline hooks)
  | died {deadline name run left} : run ++ name :: left = hooks →
      Progress hooks loops .died (completed deadline run ++ [.begun name deadline])

namespace Shutdown.Progress
variable {hooks : List String} {loops : List EventLoop} {s t : Shutdown} {marks : List HookMark}

theorem afterHooks {deadline : Deadline} {run left : List String} (hsplit : run ++ left = hooks) :
    Progress hooks loops (Shutdown.afterHooks deadline left) (completed deadline run) := by
  cases left with
  | nil =>
    rw [List.append_nil] at hsplit
    subst hsplit
    exact .joining fun _ _ h => absurd h (Nat.not_lt_zero _)
  | cons name left => exact .between hsplit

theorem move {e : ShutdownEvent} {now : List Activity} (hp : Progress hooks loops s marks)
    (hm : Move loops s e t now) : Progress hooks loops t (marks ++ hookMarks (now.map .main)) := by
  rw [hookMarks_main]
  cases hm with
  | requested => cases hp; exact .raised
  | timed => cases hp; exact afterHooks (List.nil_append _)
  | hookStarts =>
    cases hp with
    | between hsplit => exact .hook hsplit
  | @hookReturns deadline name left =>
    cases hp with
    | @hook _ _ run _ hsplit =>
      have hdone : completed deadline run ++ [.begun name deadline] ++ [.returned name] =
          completed deadline (run ++ [name]) := by simp [completed]
      change Progress hooks loops _ (completed deadline run ++ [.begun name deadline] ++ [.returned name])
      rw [hdone]
      exact afterHooks (by simpa using hsplit)
  | hookPanics =>
    cases hp with
    | hook hsplit => simpa using died hsplit
  | @joins i l hl hended =>
    cases hp with
    | joining hbefore =>
      have hnone : (joinLog l).filterMap Activity.hookMark? = [] := by
        unfold joinLog
        split <;> rfl
      rw [hnone, List.append_nil]
      refine .joining fun j k hj hk => ?_
      rcases Nat.lt_succ_iff_lt_or_eq.mp hj with hj | rfl
      · exact hbefore j k hj hk
      · cases hl.symm.trans hk
        exact hended
  | @finishes i hl =>
    cases hp with
    | joining hbefore =>
      change Progress hooks loops _ (_ ++ [])
      rw [List.append_nil]
      refine .finished fun l hmem => ?_
      obtain ⟨j,hj⟩ := List.mem_iff_getElem?.mp hmem
      refine hbefore j l (Nat.lt_of_not_le fun hij => ?_) hj
      rw [List.getElem?_eq_none (Nat.le_trans (List.getElem?_eq_none_iff.mp hl) hij)] at hj
      cases hj

/-- An event loop that still moves has not ended, so that nobody has waited for it. -/
theorem set {i : Nat} {l l' : EventLoop} {done : Bool} {e : LoopEvent} {now : List LoopActivity}
    (hp : Progress hooks loops s marks) (hl : loops[i]? = some l) (hm : l.Move done e l' now) :
    Progress hooks (loops.set i l') s marks := by
  cases hp with
  | waiting => exact .waiting
  | raised => exact .raised
  | between hsplit => exact .between hsplit
  | hook hsplit => exact .hook hsplit
  | died hsplit => exact .died hsplit
  | joining hbefore =>
    refine .joining fun j k hj hk => ?_
    by_cases hij : i = j
    · subst hij
      cases (hbefore i l hj hl).symm.trans hm.not_ended
    · rw [List.getElem?_set_ne hij] at hk
      exact hbefore j k hj hk
  | finished hall => cases (hall l (List.mem_of_getElem? hl)).symm.trans hm.not_ended

end Shutdown.Progress

end Extension
end InvocationHost
