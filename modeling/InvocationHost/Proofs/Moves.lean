import InvocationHost.Host
import InvocationHost.Proofs.Run

/-! # What the machines of the host can do

Each machine of the host is given here by its moves: which event can happen in which phase, what
becomes of the state, and what is done. Everything else about the machines rests on these.
-/
namespace InvocationHost
open Api Http Panic Machine
open Extension (Manager ManagerEvent LaneActivity Startup EventLoop LoopEvent LoopActivity LoopPhase
  LoopEnd Shutdown ShutdownEvent shutdownBudget)
variable {ι ο ε : Type}

namespace Activity

/-- The host's own activities among those of all lanes. -/
def ofMain (activities : List LaneActivity) : List Activity :=
  activities.filterMap fun
    | .main a => some a
    | .loop .. => none

@[simp] theorem ofMain_append (xs ys : List LaneActivity) : ofMain (xs ++ ys) = ofMain xs ++ ofMain ys :=
  List.filterMap_append
@[simp] theorem ofMain_main (activities : List Activity) : ofMain (activities.map .main) = activities := by
  rw [ofMain, List.filterMap_map]
  exact List.filterMap_some
@[simp] theorem ofMain_loop (i : Nat) (activities : List LoopActivity) :
    ofMain (activities.map (.loop i)) = [] := by
  rw [ofMain, List.filterMap_map]
  exact List.filterMap_eq_nil_iff.mpr fun _ _ => rfl

end Activity

theorem ServiceState.result?_eq_some_iff {s : ServiceState} {result : Except HostError Unit} :
    s.result? = some result ↔ s.phase = .stopped result := by
  rcases s with ⟨phase,scene⟩
  cases phase <;> simp [result?]

namespace Service

/-- The moves of the invocation loop. -/
inductive Move (svc : Service ι ο ε) (s : ServiceState) :
    ServiceEvent → ServiceState → List Activity → Prop
  | told : s.phase = .idle ∨ s.phase = .fetching → Move svc s .told (stop s).1 (stop s).2
  | fetches : s.phase = .idle → Move svc s .fetches { s with phase := .fetching } fetch
  | fetched {met t now} : s.phase = .fetching → receive s met = (t,now) → Move svc s (.fetched met) t now
  | handles {inv job scene activities} : s.phase = .handling inv →
      svc.pipeline.handle svc.handler inv s.scene = (job,scene,activities) →
      Move svc s .handles ⟨.handled job,scene⟩ activities
  | reports {job} : s.phase = .handled job → Move svc s .reports { s with phase := .reporting job } job.send
  | reported {job met t now} : s.phase = .reporting job → conclude s job met = (t,now) →
      Move svc s (.reported met) t now

theorem step?_eq_some_iff {svc : Service ι ο ε} {s t : ServiceState} {e : ServiceEvent}
    {now : List Activity} : svc.step? s e = some (t,now) ↔ svc.Move s e t now := by
  rcases s with ⟨phase,scene⟩
  constructor
  · intro h
    cases phase with
    | idle =>
      cases e with
      | fetches => cases h; exact .fetches rfl
      | told => cases h; exact .told (.inl rfl)
      | _ => cases h
    | fetching =>
      cases e with
      | fetched met => exact .fetched rfl (Option.some.inj h)
      | told => cases h; exact .told (.inr rfl)
      | _ => cases h
    | handling inv =>
      cases e with
      | handles => cases h; exact .handles rfl rfl
      | _ => cases h
    | handled job =>
      cases e with
      | reports => cases h; exact .reports rfl
      | _ => cases h
    | reporting job =>
      cases e with
      | reported met => exact .reported rfl (Option.some.inj h)
      | _ => cases h
    | stopped result => cases e <;> cases h
  · intro h
    cases h with
    | told hp => rcases hp with hp | hp <;> cases hp <;> rfl
    | fetches hp => cases hp; rfl
    | fetched hp hm => cases hp; exact congrArg some hm
    | handles hp hh => cases hp; simp only [step?, hh]
    | reports hp => cases hp; rfl
    | reported hp hm => cases hp; exact congrArg some hm

/-- The plainest service: each invocation that can be read is answered in the same way. -/
def plain : Service Unit Unit String where
  address := "127.0.0.1:9001"
  pipeline := {}
  handler := {
    errorType := "String", decode := fun _ => .done (.ok ()), call := fun _ _ => .done (.ok ())
    describe := .done, encode := fun _ => .done (.ok "null") }

end Service

namespace Extension

/-- A loop polls and looks at the flag first; a hook returns or panics whenever it likes. -/
inductive EventLoop.Move (l : EventLoop) (done : Bool) :
    LoopEvent → EventLoop → List LoopActivity → Prop
  | received {met m now} : l.phase = .polling → done = false → l.receive met = (m,now) →
      Move l done (.received met) m now
  | released {m now} : l.phase = .polling → done = true → l.finish .done [] = (m,now) →
      Move l done .released m now
  | hookReturned {e} : l.phase = .hook e → Move l done .hookReturned l.poll.1 (.hookReturned :: l.poll.2)
  | hookPanicked {e} : l.phase = .hook e →
      Move l done .hookPanicked { l with phase := .ended .hookPanicked } []

theorem EventLoop.move_of_step {l m : EventLoop} {done : Bool} {e : LoopEvent}
    {now : List LoopActivity} (h : l.step? done e = some (m,now)) : l.Move done e m now := by
  rcases l with ⟨id,extension,phase⟩
  cases phase with
  | polling =>
    cases e with
    | received met =>
      cases done with
      | false => exact .received rfl rfl (Option.some.inj h)
      | true => cases h
    | released =>
      cases done with
      | false => cases h
      | true => exact .released rfl rfl (Option.some.inj h)
    | _ => cases h
  | hook event =>
    cases e with
    | hookReturned => cases h; exact .hookReturned rfl
    | hookPanicked => cases h; exact .hookPanicked rfl
    | _ => cases h
  | ended how => cases e <;> cases h

/-- What a shutdown does next depends on the loops only where it waits for one of them. -/
inductive Shutdown.Move (loops : List EventLoop) : Shutdown → ShutdownEvent → Shutdown → List Activity → Prop
  | requested {hooks} : Move loops (.waiting hooks) .requested (.raised hooks)
      [mainLog "ferrule_engine::runtime" .info "termination requested, shutting down extensions"]
  | timed {hooks now} : Move loops (.raised hooks) (.timed now)
      (afterHooks (.after now shutdownBudget) hooks) []
  | hookStarts {deadline name hooks} : Move loops (.between deadline (name :: hooks)) .hookStarts
      (.hook deadline name hooks)
      [mainLog logTarget .debug "running termination hook" [("extension",name)],.terminate name deadline]
  | hookReturns {deadline name hooks} : Move loops (.hook deadline name hooks) .hookReturns
      (afterHooks deadline hooks) [.terminated name]
  | hookPanics {deadline name hooks} : Move loops (.hook deadline name hooks) .hookPanics .died []
  | joins {i l} : loops[i]? = some l → l.ended = true →
      Move loops (.joining i) .joins (.joining (i + 1)) (joinLog l)
  | finishes {i} : loops[i]? = none → Move loops (.joining i) .joins .finished [stopped]

theorem Shutdown.move_of_step {loops : List EventLoop} {s t : Shutdown} {e : ShutdownEvent}
    {now : List Activity} (h : s.step? loops e = some (t,now)) : Move loops s e t now := by
  cases s with
  | waiting hooks =>
    cases e with
    | requested => cases h; exact .requested
    | _ => cases h
  | raised hooks =>
    cases e with
    | timed moment => cases h; exact .timed
    | _ => cases h
  | between deadline hooks =>
    cases hooks with
    | nil => cases e <;> cases h
    | cons name hooks =>
      cases e with
      | hookStarts => cases h; exact .hookStarts
      | _ => cases h
  | hook deadline name hooks =>
    cases e with
    | hookReturns => cases h; exact .hookReturns
    | hookPanics => cases h; exact .hookPanics
    | _ => cases h
  | joining i =>
    cases e with
    | joins =>
      cases hl : loops[i]? with
      | none =>
        simp only [step?, hl] at h
        cases h
        exact .finishes hl
      | some l =>
        simp only [step?, hl] at h
        split at h
        · next hended => cases h; exact .joins hl hended
        · cases h
    | _ => cases h
  | finished => cases e <;> cases h
  | died => cases e <;> cases h

/-- One event loop of a manager moves, seeing whether the shutdown has been raised, or the shutdown does,
seeing which loops have ended. -/
inductive Manager.Move (m : Manager) : ManagerEvent → Manager → List LaneActivity → Prop
  | loop {i e l l' now} : m.loops[i]? = some l → l.step? m.shutdown.isRaised e = some (l',now) →
      Move m (.loop i e) { m with loops := m.loops.set i l' } (now.map (.loop i))
  | shutdown {e shutdown now} : m.shutdown.step? m.loops e = some (shutdown,now) →
      Move m (.shutdown e) { m with shutdown } (now.map .main)

theorem Manager.move_of_step {m k : Manager} {e : ManagerEvent} {now : List LaneActivity}
    (h : m.step? e = some (k,now)) : m.Move e k now := by
  cases e with
  | loop i e =>
    simp only [step?, Option.bind_eq_bind, Option.bind_eq_some_iff, Prod.exists] at h
    obtain ⟨l,hl,l',done,hd,hk⟩ := h
    cases hk
    exact .loop hl hd
  | shutdown e =>
    simp only [step?, Option.bind_eq_bind, Option.bind_eq_some_iff, Prod.exists] at h
    obtain ⟨shutdown,done,hd,hk⟩ := h
    cases hk
    exact .shutdown hd

end Extension

namespace Host

/-- A host starts, or one of its parts moves: the invocation loop as far as a shutdown permits, one
event loop, or the shutdown. -/
inductive Move (svc : Service ι ο ε) : Host → HostEvent → Host → List LaneActivity → Prop
  | registered {s met h now} : advance svc (s.answer met) = (h,now) →
      Move svc (.starting s) (.registered met) h now
  | service {r e service now} : r.permits e = true → svc.Move r.service e service now →
      Move svc (.running r) (.service e) (.running { r with service }) (now.map .main)
  | loop {r m i e l l' now} : r.manager = some m → m.loops[i]? = some l →
      l.Move m.shutdown.isRaised e l' now →
      Move svc (.running r) (.manager (.loop i e))
        (.running { r with manager := some { m with loops := m.loops.set i l' } }) (now.map (.loop i))
  | shutdown {r m e shutdown now} : r.manager = some m → Shutdown.Move m.loops m.shutdown e shutdown now →
      Move svc (.running r) (.manager (.shutdown e))
        (.running { r with manager := some { m with shutdown } }) (now.map .main)

theorem move_of_step {svc : Service ι ο ε} {h k : Host} {e : HostEvent} {now : List LaneActivity}
    (he : step? svc h e = some (k,now)) : Move svc h e k now := by
  cases h with
  | starting s =>
    cases e with
    | registered met => exact .registered (Option.some.inj he)
    | _ => cases he
  | failed cause => cases e <;> cases he
  | running r =>
    cases e with
    | registered met => cases he
    | service e =>
      obtain ⟨⟨q,done⟩,hq,hk⟩ := Option.map_eq_some_iff.mp he
      cases hk
      simp only [Running.stepService?] at hq
      split at hq
      · next hp =>
        simp only [Option.bind_eq_bind, Option.bind_eq_some_iff, Prod.exists] at hq
        obtain ⟨service,activities,hs,hq⟩ := hq
        cases hq
        exact .service hp (Service.step?_eq_some_iff.mp hs)
      · cases hq
    | manager e =>
      obtain ⟨⟨q,done⟩,hq,hk⟩ := Option.map_eq_some_iff.mp he
      cases hk
      simp only [Running.stepManager?, Option.bind_eq_bind, Option.bind_eq_some_iff, Prod.exists] at hq
      obtain ⟨m,hm,m',activities,hs,hq⟩ := hq
      cases hq
      cases Manager.move_of_step hs with
      | loop hl hd => exact .loop hm hl (EventLoop.move_of_step hd)
      | shutdown hd => exact .shutdown hm (Shutdown.move_of_step hd)

end Host
end InvocationHost
