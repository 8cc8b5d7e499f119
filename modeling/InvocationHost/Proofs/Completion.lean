import InvocationHost.Proofs.Lanes
import InvocationHost.Proofs.Talk

/-! # Invocations are seen through

Once the invocation loop has taken an invocation, the shutdown of the extensions has no say in what it
does until the report has been met. Where nothing has been taken, a shutdown that is over comes first.
-/
namespace InvocationHost
open Api Http Machine
open Extension (Manager LaneActivity Shutdown)
variable {ι ο ε : Type}

/-- An invocation has been taken, and its report has not been met. -/
def ServicePhase.holds : ServicePhase → Bool
  | .handling _ => true
  | .handled _ => true
  | .reporting _ => true
  | _ => false

namespace Service
variable {svc : Service ι ο ε} {s t : ServiceState} {inv : Invocation} {past : Past ServiceEvent Activity}

/-- How far a loop has come that had taken an invocation in the first state: the invocation is handled, its
report is sent, the report is met, and only then something else can happen. -/
inductive SeesThrough (svc : Service ι ο ε) (inv : Invocation) (s : ServiceState) :
    Past ServiceEvent Activity → ServiceState → Prop
  | taken : SeesThrough svc inv s [] s
  | handled {job scene now} : svc.pipeline.handle svc.handler inv s.scene = (job,scene,now) →
      SeesThrough svc inv s [(.handles,now)] ⟨.handled job,scene⟩
  | reporting {job scene now} : svc.pipeline.handle svc.handler inv s.scene = (job,scene,now) →
      SeesThrough svc inv s [(.handles,now),(.reports,[.request job.posted])] ⟨.reporting job,scene⟩
  | reported {job scene now met logged t rest u} :
      svc.pipeline.handle svc.handler inv s.scene = (job,scene,now) →
      conclude ⟨.reporting job,scene⟩ job met = (t,logged) → Run svc.step? t rest u →
      SeesThrough svc inv s
        ((.handles,now) :: (.reports,[.request job.posted]) :: (.reported met,logged) :: rest) u

theorem sees_through_of_run (hs : s.phase = .handling inv) (hr : Run svc.step? s past t) :
    svc.SeesThrough inv s past t := by
  induction hr with
  | refl => exact .taken
  | @step past u e t now hrun he ih =>
    -- With an invocation in hand one event can happen in each phase; any other has no step.
    cases ih with
    | taken =>
      rcases s with ⟨phase,scene⟩
      dsimp only at hs
      subst hs
      cases e with
      | handles =>
        cases he
        exact .handled rfl
      | _ => cases he
    | handled hh =>
      cases e with
      | reports =>
        cases he
        rw [Job.send_eq]
        exact .reporting hh
      | _ => cases he
    | reporting hh =>
      cases e with
      | reported met => exact .reported hh (Option.some.inj he) .refl
      | _ => cases he
    | reported hh hm hrest => exact .reported hh hm (hrest.step he)

theorem eq_nil_of_stopped {result : Except HostError Unit} (hs : s.phase = .stopped result)
    (hr : Run svc.step? s past t) : past = [] ∧ t = s := by
  induction hr with
  | refl => exact ⟨rfl,rfl⟩
  | step _ he ih =>
    obtain ⟨-,rfl⟩ := ih
    exact absurd hs (step?_eq_some_iff.mp he).not_stopped

/-- A loop that ends well after it has taken an invocation has reported it, and the report was no reason to
stop. -/
theorem SeesThrough.reported_of_ok (ht : svc.SeesThrough inv s past t) (hs : s.phase = .handling inv)
    (hok : t.result? = some (.ok ())) :
    ∃ job scene now met logged rest, svc.pipeline.handle svc.handler inv s.scene = (job,scene,now) ∧
      past = (.handles,now) :: (.reports,[.request job.posted]) :: (.reported met,logged) :: rest ∧
      ∃ o, (job.conclude met).1 = .ok o := by
  cases ht with
  | taken => cases hs.symm.trans (ServiceState.result?_eq_some_iff.mp hok)
  | handled _ => cases hok
  | reporting _ => cases hok
  | @reported job scene now met logged u rest _ hh hm hrest =>
    refine ⟨job,scene,now,met,logged,rest,hh,rfl,?_⟩
    obtain ⟨-,⟨o,ho,-⟩ | ⟨e,-,hu⟩⟩ := conclude_cases hm
    · exact ⟨o,ho⟩
    · obtain ⟨-,rfl⟩ := eq_nil_of_stopped hu hrest
      cases hu.symm.trans (ServiceState.result?_eq_some_iff.mp hok)

end Service

namespace Host
variable {svc : Service ι ο ε} {r : Running} {past : Past HostEvent LaneActivity} {k : Host}

theorem step?_service_of_permits {e : ServiceEvent} (h : r.permits e = true ∨ svc.step? r.service e = none) :
    step? svc (.running r) (.service e) =
      (svc.step? r.service e).map fun p => (.running { r with service := p.1 },p.2.map .main) := by
  cases hs : svc.step? r.service e with
  | none => simp [step?, Running.stepService?, hs]
  | some p =>
    have hp : r.permits e = true := h.resolve_right (by simp [hs])
    simp [step?, Running.stepService?, hp, hs]

theorem step?_service_of_holds (hp : r.service.phase.holds = true) :
    (∃ e, (svc.step? r.service e).isSome) ∧
    ∀ e, step? svc (.running r) (.service e) =
      (svc.step? r.service e).map fun p => (.running { r with service := p.1 },p.2.map .main) := by
  have hfree (h : ∀ e, r.permits e = true ∨ svc.step? r.service e = none) := fun e =>
    step?_service_of_permits (h e)
  rcases r with ⟨⟨phase,scene⟩,manager⟩
  cases phase with
  | handling inv =>
    refine ⟨⟨.handles,rfl⟩,hfree fun e => ?_⟩
    cases e with
    | handles => exact .inl rfl
    | _ => exact .inr rfl
  | handled job =>
    refine ⟨⟨.reports,rfl⟩,hfree fun e => ?_⟩
    cases e with
    | reports => exact .inl rfl
    | _ => exact .inr rfl
  | reporting job =>
    refine ⟨⟨.reported (.unreachable ""),rfl⟩,hfree fun e => ?_⟩
    cases e with
    | reported met => exact .inl rfl
    | _ => exact .inr rfl
  | _ => cases hp

/-- With no invocation in hand and the shutdown over, the loop can only stop, whatever a fetch has met. -/
theorem step?_service_of_over (hp : r.service.phase = .idle ∨ r.service.phase = .fetching)
    (ho : r.isOver = true) (e : ServiceEvent) :
    step? svc (.running r) (.service e) =
      if e = .told then
        some (.running { r with service := (Service.stop r.service).1 },(Service.stop r.service).2.map .main)
      else none := by
  rcases r with ⟨⟨phase,scene⟩,manager⟩
  dsimp only at hp
  rcases hp with rfl | rfl <;> cases e <;>
    simp [step?, Running.stepService?, Running.permits, ho, Service.step?]

theorem Move.isOver {r' : Running} {e : HostEvent} {now : List LaneActivity}
    (hm : Move svc (.running r) e (.running r') now) (ho : r.isOver = true) : r'.isOver = true := by
  cases hm with
  | service _ _ => exact ho
  | loop hr _ _ =>
    rw [Running.isOver, hr] at ho
    exact ho
  | shutdown hr hm =>
    rw [Running.isOver, hr, Option.any_some, hm.not_over] at ho
    cases ho

/-- Once the shutdown is over, stopping is all that can become of a loop with no invocation in hand. -/
theorem told_of_run (hp : r.service.phase = .idle ∨ r.service.phase = .fetching) (ho : r.isOver = true)
    (hr : Run (step? svc) (.running r) past k) :
    ∃ r', k = .running r' ∧ r'.isOver = true ∧
      ((served past = [] ∧ r'.service = r.service) ∨
        served past = [(.told,(Service.stop r.service).2)] ∧ r'.service = (Service.stop r.service).1) := by
  induction hr with
  | refl => exact ⟨r,rfl,ho,.inl ⟨rfl,rfl⟩⟩
  | @step past s e t now _ he ih =>
    obtain ⟨r₁,rfl,ho₁,hcourse⟩ := ih
    obtain ⟨r₂,rfl,hservice⟩ := served_of_run (Run.single he)
    rw [served_append]
    refine ⟨r₂,rfl,(move_of_step he).isOver ho₁,?_⟩
    obtain ⟨hnone,hsame⟩ | ⟨htold,hstopped⟩ := hcourse
    · rw [hnone, List.nil_append]
      cases e with
      | registered met => cases he
      | service e =>
        rw [step?_service_of_over (hsame ▸ hp) ho₁] at he
        split at he
        · next heq =>
          subst heq
          cases he
          exact .inr ⟨by simp [served, hsame],by rw [hsame]⟩
        · cases he
      | manager e => exact .inl ⟨rfl,hservice.eq_of_nil.trans hsame⟩
    · have hphase : r₁.service.phase = .stopped (.ok ()) := by
        rw [hstopped]
        rfl
      obtain ⟨hnone,hsame⟩ := Service.eq_nil_of_stopped hphase hservice
      rw [htold, hnone, hsame]
      exact .inr ⟨rfl,hstopped⟩

/-- A host ends well only by being told to, with its shutdown over and no invocation in hand. -/
theorem Move.told_of_ok {h : Host} {e : HostEvent} {now : List LaneActivity} (hm : Move svc h e k now)
    (hnone : h.result? = none) (hok : k.result? = some (.ok ())) :
    e = .service .told ∧ ∃ r, h = .running r ∧ r.isOver = true ∧
      (r.service.phase = .idle ∨ r.service.phase = .fetching) := by
  cases hm with
  | @registered s met _ _ hadv =>
    have hstart : (advance svc (s.answer met)).1.result? ≠ some (.ok ()) := by
      rcases s.answer met with ⟨_ | ⟨_ | _⟩ | _,_⟩ <;> simp [advance, ofStartup, result?, ServiceState.result?]
    rw [hadv] at hstart
    exact absurd hok hstart
  | @service r e service now hpermit hm =>
    have htold := hm.told_of_stopped (ServiceState.result?_eq_some_iff.mp hok)
    subst htold
    cases hm with
    | told hp => exact ⟨rfl,r,rfl,hpermit,hp⟩
  | loop _ _ _ => cases hnone.symm.trans hok
  | shutdown _ _ => cases hnone.symm.trans hok

/-- What stops the loop with an error: a fetch that fails, as long as the shutdown is not over, or a report
that is not accepted or was that of a panic. -/
inductive Fatal (r : Running) : ServiceEvent → HostError → Prop
  | fetch {met cause} : r.service.phase = .fetching → r.isOver = false →
      (Invocations.next.settle met).result = .error cause → Fatal r (.fetched met) (.fetch cause)
  | report {job met cause} : r.service.phase = .reporting job → (job.conclude met).1 = .error cause →
      Fatal r (.reported met) cause

/-- What is fatal to the loop is the result of the host, whatever the shutdown comes to. -/
theorem Fatal.result {e : ServiceEvent} {cause : HostError} (hf : Fatal r e cause) :
    ∃ k now, step? svc (.running r) (.service e) = some (k,now) ∧
      ∀ later k', Run (step? svc) k later k' → k'.result? = some (.error cause) := by
  have hstop : ∃ service now, svc.step? r.service e = some (service,now) ∧
      service.phase = .stopped (.error cause) := by
    cases hf with
    | fetch hp _ hv =>
      refine ⟨_,_,Service.step?_eq_some_iff.mpr (.fetched hp rfl),?_⟩
      obtain ⟨-,⟨inv,hinv,-⟩ | ⟨cause,hcause,hphase⟩⟩ := Service.receive_cases rfl
      · cases hv.symm.trans hinv
      · cases hv.symm.trans hcause
        exact hphase
    | report hp hv =>
      refine ⟨_,_,Service.step?_eq_some_iff.mpr (.reported hp rfl),?_⟩
      obtain ⟨-,⟨o,ho,-⟩ | ⟨cause,hcause,hphase⟩⟩ := Service.conclude_cases rfl
      · cases hv.symm.trans ho
      · cases hv.symm.trans hcause
        exact hphase
  have hpermit : r.permits e = true := by
    cases hf with
    | fetch _ ho _ => simp [Running.permits, ho]
    | report _ _ => rfl
  obtain ⟨service,now,hs,hphase⟩ := hstop
  refine ⟨.running { r with service },now.map .main,?_,fun later k' hrun => ?_⟩
  · rw [step?_service_of_permits (.inl hpermit), hs]
    rfl
  · have hresult : (Host.running { r with service }).result? = some (.error cause) :=
      ServiceState.result?_eq_some_iff.mpr hphase
    rw [(silent_of_run hrun (by simp [hresult])).1, hresult]

theorem rounds_of_ok {extensions : List Extension} (hr : Run (step? svc) (start svc extensions).1 past k)
    (hok : k.result? = some (.ok ())) :
    ∃ (rounds : List (Turn svc × Exchange)) (rest : List Utterance),
      said (start svc extensions).2 ++ talk past =
        rounds.flatMap (fun r => r.1.talk ++ [.heard r.2]) ++ rest ∧
      (∀ r ∈ rounds, r.1.GoesOn r.2) ∧ (rest = [] ∨ rest = [.said fetchRequest]) := by
  have hk := keeps_of_run hr
  generalize said (start svc extensions).2 ++ talk past = ws at hk ⊢
  cases hk with
  | starting => cases hok
  | failed => cases hok
  | @running r _ ha _ =>
    obtain ⟨rounds,rest,hws,hgoes,hrest⟩ := ha
    refine ⟨rounds,rest,hws,hgoes,?_⟩
    rw [ServiceState.result?_eq_some_iff.mp hok] at hrest
    cases hrest with
    | told h => exact h

/-- **An invocation that was taken is seen through.** From the moment that the loop has taken an invocation, it
handles it, sends its one report and meets the answer to it before anything else can become of the loop; it
can go on with that whatever the shutdown is at, and if it ends well later, the report has been accepted. The
loop ends well only where it waits for an invocation, once the shutdown is over, and all that it has taken by
then has been reported. Where it waits and the shutdown is over, nothing can become of it but this end,
whatever a fetch has met. What is fatal to the loop, be it while the shutdown goes on, is the result of the
host. -/
theorem sees_invocations_through (svc : Service ι ο ε) :
    (∀ (r : Running) inv, r.service.phase = .handling inv →
      ∀ later k, Run (step? svc) (.running r) later k →
        ∃ r', k = .running r' ∧ svc.SeesThrough inv r.service (served later) r'.service ∧
          (k.result? = some (.ok ()) → ∃ job scene now met logged rest,
            svc.pipeline.handle svc.handler inv r.service.scene = (job,scene,now) ∧
            served later =
              (.handles,now) :: (.reports,[.request job.posted]) :: (.reported met,logged) :: rest ∧
            ∃ o, (job.conclude met).1 = .ok o)) ∧
    (∀ r : Running, r.service.phase.holds = true →
      (∃ e, (svc.step? r.service e).isSome) ∧
      ∀ e, step? svc (.running r) (.service e) =
        (svc.step? r.service e).map fun p => (.running { r with service := p.1 },p.2.map .main)) ∧
    (∀ h e k now, step? svc h e = some (k,now) → h.result? = none → k.result? = some (.ok ()) →
      e = .service .told ∧ ∃ r, h = .running r ∧ r.isOver = true ∧
        (r.service.phase = .idle ∨ r.service.phase = .fetching)) ∧
    (∀ extensions past h, Run (step? svc) (start svc extensions).1 past h → h.result? = some (.ok ()) →
      ∃ (rounds : List (Turn svc × Exchange)) (rest : List Utterance),
        said (start svc extensions).2 ++ talk past =
          rounds.flatMap (fun r => r.1.talk ++ [.heard r.2]) ++ rest ∧
        (∀ r ∈ rounds, r.1.GoesOn r.2) ∧ (rest = [] ∨ rest = [.said fetchRequest])) ∧
    (∀ r : Running, r.service.phase = .idle ∨ r.service.phase = .fetching → r.isOver = true →
      (step? svc (.running r) (.service .told)).isSome ∧
      ∀ later k, Run (step? svc) (.running r) later k →
        served later = [] ∨
          served later = [(.told,(Service.stop r.service).2)] ∧ k.result? = some (.ok ())) ∧
    ∀ (r : Running) e cause, Fatal r e cause →
      ∃ k now, step? svc (.running r) (.service e) = some (k,now) ∧
        ∀ later k', Run (step? svc) k later k' → k'.result? = some (.error cause) := by
  refine ⟨fun r inv hp later k hrun => ?_,fun r hp => step?_service_of_holds hp,
    fun h e k now he hnone hok => (move_of_step he).told_of_ok hnone hok,
    fun extensions past h hr hok => rounds_of_ok hr hok,
    fun r hp ho => ⟨by simp [step?_service_of_over hp ho],fun later k hrun => ?_⟩,
    fun r e cause hf => hf.result⟩
  · obtain ⟨r',rfl,hservice⟩ := served_of_run hrun
    have hthrough := Service.sees_through_of_run hp hservice
    exact ⟨r',rfl,hthrough,fun hok => hthrough.reported_of_ok hp hok⟩
  · obtain ⟨r',rfl,-,⟨hnone,-⟩ | ⟨htold,hstopped⟩⟩ := told_of_run hp ho hrun
    · exact .inl hnone
    · have hphase : r'.service.phase = .stopped (.ok ()) := by
        rw [hstopped]
        rfl
      exact .inr ⟨htold,ServiceState.result?_eq_some_iff.mpr hphase⟩

/-- The shutdown goes on and is over while an invocation is in hand; the host ends well after its report. -/
example : (follow (step? Service.plain) (start Service.plain [{ name := "logs" }]).1
      [.registered (.answered ⟨200,[("Lambda-Extension-Identifier",[0x31])],[],true⟩),.service .fetches,
       .manager (.shutdown .requested),
       .service (.fetched (.answered ⟨200,[("Lambda-Runtime-Aws-Request-Id",[0x72,0x31])],[],true⟩)),
       .manager (.shutdown (.timed 0)),.manager (.loop 0 .released),.manager (.shutdown .joins),
       .manager (.shutdown .joins),.service .handles,.service .reports,
       .service (.reported (.answered ⟨202,[],[],true⟩)),.service .told]).map (fun p => p.1.result?) =
    some (some (.ok ())) := by
  rfl

end Host
end InvocationHost
