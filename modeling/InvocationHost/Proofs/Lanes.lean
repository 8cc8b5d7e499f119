import InvocationHost.Proofs.Moves

/-! # Lanes

The parts of a host run next to each other. A run of the whole is, to each of its parts, a run of that
part: of the invocation loop, of the manager of the extensions, and within that of each event loop. To an
event loop the others are there only through the flag that the shutdown raises.
-/
namespace InvocationHost
open Machine
open Extension (Manager ManagerEvent LaneActivity EventLoop LoopEvent LoopActivity Shutdown ShutdownEvent)
variable {ι ο ε : Type}

namespace Extension

/-- An event loop with nothing next to it, while the host is done or is not. -/
def EventLoop.alone (done : Bool) : Machine EventLoop LoopEvent LoopActivity := fun l e => l.step? done e

def LaneActivity.inLane (i : Nat) (activities : List LaneActivity) : List LoopActivity :=
  activities.filterMap fun
    | .loop j a => if j = i then some a else none
    | .main _ => none

/-- What a past of the extensions is to one event loop. -/
def lane (i : Nat) (past : Past ManagerEvent LaneActivity) : Past LoopEvent LoopActivity :=
  past.filterMap fun
    | (.loop j e,now) => if j = i then some (e,LaneActivity.inLane i now) else none
    | (.shutdown _,_) => none

/-- What a past of the extensions is to their shutdown. -/
def shutdownLane (past : Past ManagerEvent LaneActivity) : Past ShutdownEvent Activity :=
  past.filterMap fun
    | (.loop _ _,_) => none
    | (.shutdown e,now) => some (e,Activity.ofMain now)

namespace LaneActivity

@[simp] theorem inLane_append (i : Nat) (xs ys : List LaneActivity) :
    inLane i (xs ++ ys) = inLane i xs ++ inLane i ys := List.filterMap_append
@[simp] theorem inLane_main (i : Nat) (activities : List Activity) :
    inLane i (activities.map .main) = [] := by
  rw [inLane, List.filterMap_map]
  exact List.filterMap_eq_nil_iff.mpr fun _ _ => rfl
@[simp] theorem inLane_loop (i : Nat) (activities : List LoopActivity) :
    inLane i (activities.map (.loop i)) = activities := by
  simp only [inLane, List.filterMap_map, Function.comp_def, ↓reduceIte]
  exact List.filterMap_some
theorem inLane_other {i j : Nat} (h : j ≠ i) (activities : List LoopActivity) :
    inLane i (activities.map (.loop j)) = [] := by
  rw [inLane, List.filterMap_map]
  exact List.filterMap_eq_nil_iff.mpr fun _ _ => if_neg h

end LaneActivity

theorem lane_append (i : Nat) (xs ys : Past ManagerEvent LaneActivity) :
    lane i (xs ++ ys) = lane i xs ++ lane i ys := List.filterMap_append

theorem shutdownLane_append (xs ys : Past ManagerEvent LaneActivity) :
    shutdownLane (xs ++ ys) = shutdownLane xs ++ shutdownLane ys := List.filterMap_append

theorem Shutdown.isRaised_afterHooks (d : Deadline) (hooks : List String) :
    (afterHooks d hooks).isRaised = true := by
  cases hooks <;> rfl

/-- The first move of a shutdown raises the flag, and no later one takes it down. -/
theorem Shutdown.Move.isRaised {loops : List EventLoop} {s t : Shutdown} {e : ShutdownEvent}
    {now : List Activity} (hm : Move loops s e t now) : t.isRaised = true := by
  cases hm with
  | timed => exact isRaised_afterHooks _ _
  | hookReturns => exact isRaised_afterHooks _ _
  | _ => rfl

namespace Manager
variable {m k : Manager} {e : ManagerEvent} {now : List LaneActivity}
  {past : Past ManagerEvent LaneActivity}

/-- What an event loop can do depends on itself and on the flag alone. -/
theorem step?_loop {i : Nat} {l : EventLoop} (hl : m.loops[i]? = some l) (e : LoopEvent) :
    m.step? (.loop i e) = (EventLoop.alone m.shutdown.isRaised l e).map fun p =>
      ({ m with loops := m.loops.set i p.1 },p.2.map (.loop i)) := by
  cases hs : l.step? m.shutdown.isRaised e <;> simp [step?, EventLoop.alone, hl, hs]

theorem Move.isRaised (hm : m.Move e k now) (hr : m.shutdown.isRaised = true) :
    k.shutdown.isRaised = true := by
  cases hm with
  | loop _ _ => exact hr
  | shutdown hd => exact (Shutdown.move_of_step hd).isRaised

theorem isRaised_of_run (hrun : Run step? m past k) (hr : m.shutdown.isRaised = true) :
    k.shutdown.isRaised = true := by
  induction hrun with
  | refl => exact hr
  | step _ he ih => exact (move_of_step he).isRaised ih

theorem length_loops_of_run (hrun : Run step? m past k) : k.loops.length = m.loops.length := by
  induction hrun with
  | refl => rfl
  | step _ he ih =>
    cases move_of_step he with
    | loop _ _ => rw [List.length_set, ih]
    | shutdown _ => exact ih

/-- What a move of the manager is to one event loop: nothing, or a move of that loop alone. -/
theorem Move.lane (hm : m.Move e k now) {i : Nat} {l : EventLoop} (hl : m.loops[i]? = some l) :
    ∃ l', k.loops[i]? = some l' ∧ Run (EventLoop.alone m.shutdown.isRaised) l (lane i [(e,now)]) l' := by
  cases hm with
  | shutdown _ => exact ⟨l,hl,.refl⟩
  | @loop j e l₁ l₂ now hj hd =>
    by_cases hij : j = i
    · subst hij
      cases hl.symm.trans hj
      have hlt : j < m.loops.length := (List.getElem?_eq_some_iff.mp hl).1
      have hlane : Extension.lane j [(.loop j e,now.map (.loop j))] = [(e,now)] := by
        simp [Extension.lane]
      rw [hlane]
      exact ⟨l₂,by simp [hlt],Run.single hd⟩
    · have hlane : Extension.lane i [(.loop j e,now.map (.loop j))] = [] := by
        simp [Extension.lane, hij]
      rw [hlane]
      exact ⟨l,by simpa [List.getElem?_set_ne hij] using hl,.refl⟩

/-- As long as the flag stays as it is, the run of a manager is to each event loop a run of that loop
alone. -/
theorem lane_of_run {done : Bool} (hrun : Run step? m past k) (hm : m.shutdown.isRaised = done)
    (hk : k.shutdown.isRaised = done) {i : Nat} {l : EventLoop} (hl : m.loops[i]? = some l) :
    ∃ l', k.loops[i]? = some l' ∧ Run (EventLoop.alone done) l (lane i past) l' := by
  induction hrun with
  | refl => exact ⟨l,hl,.refl⟩
  | @step past s e t now hpast he ih =>
    have hmove := move_of_step he
    -- The flag is never taken down, so it stands here as it does at both ends.
    have hs : s.shutdown.isRaised = done := by
      cases done with
      | true => exact isRaised_of_run hpast hm
      | false =>
        refine Bool.eq_false_iff.mpr fun hraised => ?_
        cases (hmove.isRaised hraised).symm.trans hk
    obtain ⟨l₁,hl₁,hbefore⟩ := ih hs
    obtain ⟨l₂,hl₂,hafter⟩ := hmove.lane hl₁
    rw [hs] at hafter
    refine ⟨l₂,hl₂,?_⟩
    rw [lane_append]
    exact hbefore.trans hafter

end Manager
end Extension

/-- What a past of the host is to the manager of its extensions. -/
def managed (past : Past HostEvent LaneActivity) : Past ManagerEvent LaneActivity :=
  past.filterMap fun
    | (.manager e,now) => some (e,now)
    | _ => none

/-- What a past of the host is to its invocation loop. -/
def served (past : Past HostEvent LaneActivity) : Past ServiceEvent Activity :=
  past.filterMap fun
    | (.service e,now) => some (e,Activity.ofMain now)
    | _ => none

theorem managed_append (xs ys : Past HostEvent LaneActivity) : managed (xs ++ ys) = managed xs ++ managed ys :=
  List.filterMap_append

theorem served_append (xs ys : Past HostEvent LaneActivity) : served (xs ++ ys) = served xs ++ served ys :=
  List.filterMap_append

namespace Host
variable {svc : Service ι ο ε}

/-- A host that runs goes on running, and its run is one of its invocation loop. -/
theorem served_of_run {r : Running} {past : Past HostEvent LaneActivity} {k : Host}
    (hrun : Run (step? svc) (.running r) past k) :
    ∃ r', k = .running r' ∧ Run svc.step? r.service (served past) r'.service := by
  induction hrun with
  | refl => exact ⟨r,rfl,.refl⟩
  | @step past s e t now _ he ih =>
    obtain ⟨r₁,rfl,hbefore⟩ := ih
    rw [served_append]
    cases move_of_step he with
    | service _ hm =>
      have hstep := Service.step?_eq_some_iff.mpr hm
      refine ⟨_,rfl,hbefore.trans ?_⟩
      simpa [served] using Run.single hstep
    | loop _ _ _ => exact ⟨_,rfl,by simpa [served] using hbefore⟩
    | shutdown _ _ => exact ⟨_,rfl,by simpa [served] using hbefore⟩

/-- What a host that runs has served is what its invocation loop has done; no other host has served anything. -/
def Serves (svc : Service ι ο ε) : Host → Past ServiceEvent Activity → Prop
  | .running r, past => Run svc.step? {} past r.service
  | _, past => past = []

theorem serves_advance (p : Extension.Startup × List Activity) : Serves svc (advance svc p).1 [] := by
  rcases p with ⟨_ | ⟨_ | _⟩ | _,_⟩
  · exact rfl
  · exact .refl
  · exact .refl
  · exact rfl

theorem serves_of_run {extensions : List Extension} {past : Past HostEvent LaneActivity} {h : Host}
    (hrun : Run (step? svc) (start svc extensions).1 past h) : Serves svc h (served past) := by
  induction hrun with
  | refl => exact serves_advance (Extension.Startup.start extensions)
  | @step past s e t now _ he ih =>
    rw [served_append]
    cases move_of_step he with
    | @registered s met _ _ hadv =>
      have hbefore : served past = [] := ih
      have hserves : Serves svc (advance svc (s.answer met)).1 [] := serves_advance (s.answer met)
      rw [hadv] at hserves
      rw [hbefore]
      exact hserves
    | service hp hm =>
      obtain ⟨r',hr',hstep⟩ := served_of_run (Run.single he)
      cases hr'
      exact Run.trans ih hstep
    | loop _ _ _ => exact Run.trans ih .refl
    | shutdown _ _ => exact Run.trans ih .refl

/-- What the extensions of a host can do depends on their manager alone. -/
theorem step?_manager {r : Running} {m : Manager} (hm : r.manager = some m) (e : ManagerEvent) :
    step? svc (.running r) (.manager e) =
      (m.step? e).map fun p => (.running { r with manager := some p.1 },p.2) := by
  cases hs : m.step? e <;> simp [step?, Running.stepManager?, hm, hs]

/-- A host without extensions gets none. -/
theorem manager_eq_none_of_run {r r' : Running} {past : Past HostEvent LaneActivity}
    (hm : r.manager = none) (hrun : Run (step? svc) (.running r) past (.running r')) :
    r'.manager = none := by
  generalize hk : Host.running r' = k at hrun
  induction hrun generalizing r' with
  | refl =>
    cases hk
    exact hm
  | @step past s e t now hpast he ih =>
    obtain ⟨r₁,rfl,-⟩ := served_of_run hpast
    have hnone := ih rfl
    subst hk
    cases move_of_step he with
    | service _ _ => exact hnone
    | loop hr _ _ => cases hnone.symm.trans hr
    | shutdown hr _ => cases hnone.symm.trans hr

/-- The run of a host with extensions is one of their manager. -/
theorem managed_of_run {r : Running} {m : Manager} {past : Past HostEvent LaneActivity} {k : Host}
    (hm : r.manager = some m) (hrun : Run (step? svc) (.running r) past k) :
    ∃ r' m', k = .running r' ∧ r'.manager = some m' ∧ Run Manager.step? m (managed past) m' := by
  induction hrun with
  | refl => exact ⟨r,m,rfl,hm,.refl⟩
  | @step past s e t now _ he ih =>
    obtain ⟨r₁,m₁,rfl,hm₁,hbefore⟩ := ih
    rw [managed_append]
    cases e with
    | registered met => cases he
    | service e =>
      cases move_of_step he with
      | service _ _ => exact ⟨_,m₁,rfl,hm₁,by simpa [managed] using hbefore⟩
    | manager e =>
      rw [step?_manager hm₁] at he
      obtain ⟨⟨m₂,done⟩,hstep,ht⟩ := Option.map_eq_some_iff.mp he
      cases ht
      refine ⟨_,m₂,rfl,rfl,hbefore.trans ?_⟩
      simpa [managed] using Run.single hstep

end Host
end InvocationHost
