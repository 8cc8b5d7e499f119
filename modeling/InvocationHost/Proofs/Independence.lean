import InvocationHost.Proofs.Completion
import InvocationHost.Proofs.Delivery
import InvocationHost.Proofs.TraceSlot

/-! # The loop does not depend on the extensions

What the invocation loop does is determined by the replies that it is given. As long as their shutdown is not over,
extensions can neither hold it up nor lead it elsewhere: each run of a host with extensions is, to the loop,
a run of the host without any.
-/
namespace InvocationHost
open Api Http Machine Panic
open Extension (Manager ManagerEvent LaneActivity)
variable {ι ο ε : Type}

/-- The reply that an event of the loop brings. -/
def ServiceEvent.reply? : ServiceEvent → Option Exchange
  | .fetched met => some met
  | .reported met => some met
  | _ => none

/-- The loop can do nothing by itself: it waits for a reply or has stopped. -/
def ServicePhase.waits : ServicePhase → Bool
  | .fetching => true
  | .reporting _ => true
  | .stopped _ => true
  | _ => false

namespace Service
variable {svc : Service ι ο ε} {s t t' : ServiceState} {e e' : ServiceEvent} {now now' : List Activity}
  {past past' : Past ServiceEvent Activity}

/-- The replies that the loop was given. -/
def replies (past : Past ServiceEvent Activity) : List Exchange := past.filterMap fun p => p.1.reply?

theorem replies_cons_of_none (he : e.reply? = none) : replies ((e,now) :: past) = replies past :=
  List.filterMap_cons_none he

theorem replies_cons_of_some {met : Exchange} (he : e.reply? = some met) :
    replies ((e,now) :: past) = met :: replies past :=
  List.filterMap_cons_some he

/-- The one event that can happen next in a phase, up to the reply that it brings, unless the loop is told to stop. -/
inductive Due : ServicePhase → ServiceEvent → Prop
  | fetches : Due .idle .fetches
  | fetched {met} : Due .fetching (.fetched met)
  | handles {inv} : Due (.handling inv) .handles
  | reports {job} : Due (.handled job) .reports
  | reported {job met} : Due (.reporting job) (.reported met)

theorem Move.due (hm : svc.Move s e t now) (he : e ≠ .told) : Due s.phase e := by
  cases hm with
  | told _ => exact absurd rfl he
  | fetches hp => rw [hp]; exact .fetches
  | fetched hp _ => rw [hp]; exact .fetched
  | handles hp _ => rw [hp]; exact .handles
  | reports hp => rw [hp]; exact .reports
  | reported hp _ => rw [hp]; exact .reported

theorem Due.eq_of_reply? {phase : ServicePhase} (h : Due phase e) (h' : Due phase e') (hr : e.reply? = e'.reply?) :
    e = e' := by
  cases h <;> cases h' <;> cases hr <;> rfl

theorem Due.isSome_reply? {phase : ServicePhase} (h : Due phase e) : e.reply?.isSome = phase.waits := by
  cases h <;> rfl

/-- Untold, a loop that was given fewer replies is behind a loop that was given more of the same. -/
theorem prefix_of_replies (hr : Run svc.step? s past t) (hr' : Run svc.step? s past' t')
    (htold : ∀ p ∈ past, p.1 ≠ .told) (htold' : ∀ p ∈ past', p.1 ≠ .told) (hreplies : replies past <+: replies past') :
    past <+: past' ∨ past' <+: past := by
  induction past generalizing s past' with
  | nil => exact .inl List.nil_prefix
  | cons p past ih =>
    cases past' with
    | nil => exact .inr List.nil_prefix
    | cons p' past' =>
      obtain ⟨e,now⟩ := p
      obtain ⟨e',now'⟩ := p'
      obtain ⟨u,he,hrest⟩ := hr.of_cons
      obtain ⟨u',he',hrest'⟩ := hr'.of_cons
      have hdue := (step?_eq_some_iff.mp he).due (htold _ List.mem_cons_self)
      have hdue' := (step?_eq_some_iff.mp he').due (htold' _ List.mem_cons_self)
      -- Either both events bring a reply, and it is the same one, or neither does.
      have hsame : e.reply? = e'.reply? ∧ replies past <+: replies past' := by
        have hboth := hdue.isSome_reply?.trans hdue'.isSome_reply?.symm
        cases hmet : e.reply? with
        | none =>
          have hmet' : e'.reply? = none := by simpa [hmet] using hboth
          rw [replies_cons_of_none hmet, replies_cons_of_none hmet'] at hreplies
          exact ⟨hmet'.symm,hreplies⟩
        | some met =>
          obtain ⟨met',hmet'⟩ : ∃ met', e'.reply? = some met' := Option.isSome_iff_exists.mp (by simpa [hmet] using hboth)
          rw [replies_cons_of_some hmet, replies_cons_of_some hmet', List.cons_prefix_cons] at hreplies
          rw [hmet', hreplies.1]
          exact ⟨rfl,hreplies.2⟩
      obtain ⟨hreply,hlater⟩ := hsame
      obtain rfl := hdue.eq_of_reply? hdue' hreply
      cases he.symm.trans he'
      have hprefix := ih hrest hrest' (fun q hq => htold q (List.mem_cons_of_mem _ hq))
        (fun q hq => htold' q (List.mem_cons_of_mem _ hq)) hlater
      simpa [List.cons_prefix_cons] using hprefix

/-- A loop that waits does nothing more without a further reply. -/
theorem eq_nil_of_waits (hr : Run svc.step? s past t) (htold : ∀ p ∈ past, p.1 ≠ .told) (hs : s.phase.waits = true)
    (hreplies : replies past = []) : past = [] := by
  cases past with
  | nil => rfl
  | cons p past =>
    obtain ⟨e,now⟩ := p
    obtain ⟨u,he,-⟩ := hr.of_cons
    have hdue := (step?_eq_some_iff.mp he).due (htold _ List.mem_cons_self)
    obtain ⟨met,hmet⟩ := Option.isSome_iff_exists.mp (hdue.isSome_reply?.trans hs)
    rw [replies_cons_of_some hmet] at hreplies
    cases hreplies

/-- A loop that waits is not behind a loop that was given the same replies. -/
theorem eq_of_prefix (hr : Run svc.step? s past t) (hr' : Run svc.step? s past' t')
    (htold' : ∀ p ∈ past', p.1 ≠ .told) (ht : t.phase.waits = true) (hp : past <+: past')
    (hreplies : replies past = replies past') : past = past' := by
  obtain ⟨more,rfl⟩ := hp
  obtain ⟨u,hbefore,hafter⟩ := hr'.split
  obtain ⟨-,rfl⟩ := hr.unique hbefore rfl
  have hnone : replies more = [] := by
    rw [replies, replies, List.filterMap_append] at hreplies
    exact List.self_eq_append_right.mp hreplies
  have hmore := eq_nil_of_waits hafter (fun p hp => htold' p (List.mem_append_right past hp)) ht hnone
  rw [hmore, List.append_nil]

/-- What passes between a loop and the invocation API. -/
def talk (past : Past ServiceEvent Activity) : List Utterance :=
  past.flatMap fun p => (HostEvent.service p.1).heard ++ said (p.2.map .main)

end Service

namespace Host
variable {svc : Service ι ο ε} {extensions : List Extension} {past : Past HostEvent LaneActivity} {r : Running}

theorem served_service (e : ServiceEvent) (now : List Activity) :
    served [(.service e,now.map .main)] = [(e,now)] := by
  simp [served]

/-- The replies that a loop is given are those among the events of its host. -/
theorem replies_served (past : Past HostEvent LaneActivity) :
    Service.replies (served past) = (past.map Prod.fst).filterMap fun
      | .service e => e.reply?
      | _ => none := by
  simp only [Service.replies, served, List.filterMap_filterMap, List.filterMap_map]
  congr 1
  funext p
  rcases p with ⟨_ | _ | _,_⟩ <;> rfl

/-- As long as the shutdown is not over, the loop has not been told to stop. -/
theorem not_told_of_run (hr : Run (step? svc) (start svc extensions).1 past (.running r)) (ho : r.isOver = false) :
    ∀ p ∈ served past, p.1 ≠ .told := by
  generalize hk : Host.running r = k at hr
  induction hr generalizing r with
  | refl =>
    rintro p ⟨⟩
  | @step past s e t now hpast he ih =>
    subst hk
    have hm := move_of_step he
    rw [served_append]
    intro p hp
    rcases List.mem_append.mp hp with hp | hp
    · cases s with
      | starting _ =>
        have hnone : served past = [] := serves_of_run hpast
        rw [hnone] at hp
        cases hp
      | failed _ => cases hm
      | running r₁ =>
        have ho₁ : r₁.isOver = false := by
          refine Bool.eq_false_iff.mpr fun hover => ?_
          cases (hm.isOver hover).symm.trans ho
        exact ih ho₁ rfl p hp
    · cases hm with
      | registered _ => cases hp
      | @service r₁ e service now hpermit _ =>
        rw [served_service, List.mem_singleton] at hp
        subst hp
        rintro rfl
        cases hpermit.symm.trans ho
      | loop _ _ _ => cases hp
      | shutdown _ _ => cases hp

/-- A host talks to the invocation API as its loop does. -/
theorem talk_eq_of_run {h : Host} (hr : Run (step? svc) (start svc extensions).1 past h) :
    InvocationHost.talk past = Service.talk (served past) := by
  induction hr with
  | refl => rfl
  | @step past s e t now hpast he ih =>
    have happend : Service.talk (served past ++ served [(e,now)]) =
        Service.talk (served past) ++ Service.talk (served [(e,now)]) := List.flatMap_append
    rw [talk_append, served_append, happend, ih]
    congr 1
    cases move_of_step he with
    | @registered s met _ _ hadv =>
      have hstarts : ∀ a ∈ (advance svc (s.answer met)).2, a.Starts := starts_advance (s.starts_answer met)
      rw [hadv] at hstarts
      simp [InvocationHost.talk, said_of_starts hstarts, HostEvent.heard, served, Service.talk]
    | service _ _ =>
      rw [served_service]
      rfl
    | loop _ _ _ => simp [InvocationHost.talk, said_lane, HostEvent.heard, served, Service.talk]
    | shutdown _ hm => simp [InvocationHost.talk, hm.said_eq_nil, HostEvent.heard, served, Service.talk]

/-- Alone, a loop can do whatever it does untold. -/
theorem exists_alone {t : ServiceState} {past : Past ServiceEvent Activity} (hr : Run svc.step? {} past t)
    (htold : ∀ p ∈ past, p.1 ≠ .told) :
    ∃ alone, Run (step? svc) (start svc []).1 alone (.running ⟨t,none⟩) ∧ served alone = past := by
  induction hr with
  | refl => exact ⟨[],.refl,rfl⟩
  | @step past s e t now _ he ih =>
    obtain ⟨alone,halone,rfl⟩ := ih fun p hp => htold p (List.mem_append_left _ hp)
    have hne : e ≠ .told := htold (e,now) (List.mem_append_right _ List.mem_cons_self)
    have hpermit : Running.permits ⟨s,none⟩ e = true := by
      cases e with
      | told => exact absurd rfl hne
      | _ => rfl
    have hstep : step? svc (.running ⟨s,none⟩) (.service e) = some (.running ⟨t,none⟩,now.map .main) := by
      rw [step?_service_of_permits (.inl hpermit), he]
      rfl
    exact ⟨_,halone.step hstep,by rw [served_append, served_service]⟩

/-- A host runs, and the shutdown of its extensions is not over. -/
structure Goes (svc : Service ι ο ε) (extensions : List Extension) (past : Past HostEvent LaneActivity)
    (r : Running) : Prop where
  run : Run (step? svc) (start svc extensions).1 past (.running r)
  not_over : r.isOver = false

namespace Goes
variable {extensions' : List Extension} {past' : Past HostEvent LaneActivity} {r' : Running}

theorem loop (hg : Goes svc extensions past r) : Run svc.step? {} (served past) r.service := serves_of_run hg.run

theorem not_told (hg : Goes svc extensions past r) : ∀ p ∈ served past, p.1 ≠ .told :=
  not_told_of_run hg.run hg.not_over

/-- The loop can go on next to its extensions as it can alone. -/
theorem step?_iff_alone (hg : Goes svc extensions past r) {e : ServiceEvent} {s : ServiceState}
    {now : List LaneActivity} :
    step? svc (.running r) (.service e) = some (.running { r with service := s },now) ↔
      step? svc (.running ⟨r.service,none⟩) (.service e) = some (.running ⟨s,none⟩,now) := by
  have hpermit : r.permits e = Running.permits ⟨r.service,none⟩ e := by
    cases e <;> simp only [Running.permits, hg.not_over] <;> rfl
  have hstep (q : Running) : step? svc (.running q) (.service e) =
      if q.permits e then (svc.step? q.service e).map fun p => (.running { q with service := p.1 },p.2.map .main)
      else none := by
    cases hp : q.permits e with
    | true => exact step?_service_of_permits (.inl hp)
    | false => simp [step?, Running.stepService?, hp]
  rw [hstep, hstep, hpermit]
  split
  · simp only [Option.map_eq_some_iff, Prod.mk.injEq, Host.running.injEq, Running.mk.injEq, and_true]
  · simp

/-- The scene of a loop is outside of every containment. -/
theorem depth_eq (hg : Goes svc extensions past r) : r.service.scene.depth = 0 := by
  obtain ⟨handled,hc,-⟩ := Service.course_of_run hg.loop rfl
  exact hc.depth_eq

theorem prefix_of_replies (hg : Goes svc extensions past r) (hg' : Goes svc extensions' past' r')
    (hreplies : Service.replies (served past) <+: Service.replies (served past')) :
    served past <+: served past' ∨ served past' <+: served past :=
  Service.prefix_of_replies hg.loop hg'.loop hg.not_told hg'.not_told hreplies

theorem eq_of_replies (hg : Goes svc extensions past r) (hg' : Goes svc extensions' past' r')
    (hreplies : Service.replies (served past) = Service.replies (served past'))
    (hr : r.service.phase.waits = true) (hr' : r'.service.phase.waits = true) : served past = served past' := by
  rcases hg.prefix_of_replies hg' (hreplies ▸ List.prefix_rfl) with hp | hp
  · exact Service.eq_of_prefix hg.loop hg'.loop hg'.not_told hr hp hreplies
  · exact (Service.eq_of_prefix hg'.loop hg.loop hg.not_told hr' hp hreplies.symm).symm

end Goes

/-- **The loop runs as if there were no extensions.** As long as the shutdown of its extensions is not over, what a
host with extensions has done in its loop is what a host without any does: it fetches, calls the handler, reports
and logs alike, holds the same token in the slot and has the same result. Next to extensions the loop can do
neither less nor more than alone, what they do leaves it as it is, and whatever other code runs on the thread
before an invocation and in turns with its user code, the invocation is the same job. So two hosts whose loops
are given the same replies do the same, whatever extensions they have and whatever becomes of these: one has
done a part of what the other has done, and where both wait for a reply or have stopped, all of it. -/
theorem loop_runs_as_alone (svc : Service ι ο ε) :
    (∀ extensions past r, Goes svc extensions past r →
      (∃ alone, Goes svc [] alone ⟨r.service,none⟩ ∧ served alone = served past ∧
        InvocationHost.talk alone = InvocationHost.talk past) ∧
      (∀ e s now, step? svc (.running r) (.service e) = some (.running { r with service := s },now) ↔
        step? svc (.running ⟨r.service,none⟩) (.service e) = some (.running ⟨s,none⟩,now)) ∧
      (∀ e k now, step? svc (.running r) (.manager e) = some (k,now) →
        (∃ manager, k = .running { r with manager }) ∧ said now = []) ∧
      (∀ is how, Unfolds is how → r.service.scene.Meanwhile (r.service.scene.afterAll is)) ∧
      ∀ t, r.service.scene.Meanwhile t → ∀ inv ctx, r.service.phase = .handling inv → ctx.Reads inv →
        (svc.pipeline.userCode svc.handler ctx inv.payload).contain.Settles
          (fun result u =>
            (∃ x, result = .ok x ∧
              (svc.pipeline.handle svc.handler inv r.service.scene).1 = ⟨inv.id,svc.pipeline.verdict x⟩) ∧
            u.token = (svc.pipeline.handle svc.handler inv r.service.scene).2.1.token)
          (svc.pipeline.publish inv t)) ∧
    ∀ extensions extensions' past past' r r', Goes svc extensions past r → Goes svc extensions' past' r' →
      (Service.replies (served past) <+: Service.replies (served past') →
        served past <+: served past' ∨ served past' <+: served past) ∧
      (Service.replies (served past) = Service.replies (served past') →
        r.service.phase.waits = true → r'.service.phase.waits = true → served past = served past') ∧
      (served past = served past' →
        r.service = r'.service ∧ InvocationHost.talk past = InvocationHost.talk past') := by
  constructor
  · intro extensions past r hg
    refine ⟨?_,fun e s now => hg.step?_iff_alone,?_,fun is how hunfolds =>
      Scene.meanwhile_of_unfolds hg.depth_eq hunfolds,fun t ht inv ctx _ hctx =>
      Pipeline.settles_handle hctx hg.depth_eq ht⟩
    · obtain ⟨alone,halone,hserved⟩ := exists_alone hg.loop hg.not_told
      refine ⟨alone,⟨halone,rfl⟩,hserved,?_⟩
      rw [talk_eq_of_run halone, talk_eq_of_run hg.run, hserved]
    · intro e k now he
      cases move_of_step he with
      | loop _ _ _ => exact ⟨⟨_,rfl⟩,said_lane ..⟩
      | shutdown _ hm => exact ⟨⟨_,rfl⟩,hm.said_eq_nil⟩
  · intro extensions extensions' past past' r r' hg hg'
    refine ⟨hg.prefix_of_replies hg',hg.eq_of_replies hg',fun hserved => ?_⟩
    have hloop' := hg'.loop
    rw [← hserved] at hloop'
    refine ⟨(hg.loop.unique hloop' rfl).2.symm,?_⟩
    rw [talk_eq_of_run hg.run, talk_eq_of_run hg'.run, hserved]

/-- Next to an extension whose hook panics, a loop does what it does alone. -/
theorem loop_runs_as_alone_past_hook_panic :
    ∃ past past' r r', Goes Service.plain [.listening "logs"] past r ∧ Goes Service.plain [] past' r' ∧
      (r.manager.map fun m => m.loops.map (·.phase)) = some [.ended .hookPanicked] ∧
      past'.length = 6 ∧ served past = served past' ∧ r.service = r'.service := by
  have hf : (follow (step? Service.plain) (start Service.plain [.listening "logs"]).1
      [.registered (.answered ⟨200,[("Lambda-Extension-Identifier",[0x31])],[],true⟩),.service .fetches,
       .manager (.loop 0 (.received (.answered ⟨200,[],
         "\x7b\"eventType\":\"INVOKE\",\"deadlineMs\":7\x7d".toList.map Char.toUInt8,true⟩))),
       .service (.fetched (.answered ⟨200,[("Lambda-Runtime-Aws-Request-Id",[0x72,0x31])],[],true⟩)),
       .manager (.loop 0 .hookPanicked),.service .handles,.service .reports,
       .service (.reported (.answered ⟨202,[],[],true⟩)),.service .fetches]).bind
        (fun p => match p.1 with
          | .running r => some (r.isOver,r.service.phase.waits,r.manager.map fun m => m.loops.map (·.phase))
          | .starting _ | .failed _ => none) =
      some (false,true,some [.ended .hookPanicked]) := by
    decide
  have hf' : (follow (step? Service.plain) (start Service.plain []).1
      [.service .fetches,
       .service (.fetched (.answered ⟨200,[("Lambda-Runtime-Aws-Request-Id",[0x72,0x31])],[],true⟩)),
       .service .handles,.service .reports,.service (.reported (.answered ⟨202,[],[],true⟩)),
       .service .fetches]).bind
        (fun p => match p.1 with
          | .running r => some (r.isOver,r.service.phase.waits)
          | .starting _ | .failed _ => none) =
      some (false,true) := by
    decide
  obtain ⟨⟨h,done⟩,hf,hshown⟩ := Option.bind_eq_some_iff.mp hf
  obtain ⟨⟨h',done'⟩,hf',hshown'⟩ := Option.bind_eq_some_iff.mp hf'
  obtain ⟨past,hr,hes,-⟩ := run_of_follow hf
  obtain ⟨past',hr',hes',-⟩ := run_of_follow hf'
  cases h with
  | running r =>
    cases h' with
    | running r' =>
      simp only [Option.some.injEq, Prod.mk.injEq] at hshown hshown'
      obtain ⟨ho,hwaits,hphases⟩ := hshown
      obtain ⟨ho',hwaits'⟩ := hshown'
      have hg : Goes Service.plain [.listening "logs"] past r := ⟨hr,ho⟩
      have hg' : Goes Service.plain [] past' r' := ⟨hr',ho'⟩
      obtain ⟨-,hequal,hsame⟩ := (loop_runs_as_alone Service.plain).2 _ _ past past' r r' hg hg'
      have hreplies : Service.replies (served past) = Service.replies (served past') := by
        rw [replies_served, replies_served, hes, hes']
        rfl
      have hserved := hequal hreplies hwaits hwaits'
      have hlength : past'.length = 6 := by simpa using congrArg List.length hes'
      exact ⟨past,past',r,r',hg,hg',hphases,hlength,hserved,(hsame hserved).1⟩
    | starting _ => cases hshown'
    | failed _ => cases hshown'
  | starting _ => cases hshown
  | failed _ => cases hshown

end Host
end InvocationHost
