import InvocationHost.Proofs.Hooks
import Mathlib.Control.Monad.Basic

/-! # How a host ends well

A shutdown that finishes has run every termination hook, one after the other and under one deadline,
and has waited for every event loop. The invocation loop cannot tell it from a shutdown that died of a
hook, and ends well after both.
-/
namespace InvocationHost
open Api Http Machine
open Extension (Manager LaneActivity EventLoop Registered Startup Shutdown)
variable {ι ο ε : Type}

namespace Extension

/-- A start accounts for all extensions: they are registered, or on their way, or still to come. -/
inductive Startup.Accounts (extensions : List Extension) : Startup → Prop
  | registering {registered e rest} : registered.map (·.2) ++ e :: rest = extensions →
      Accounts extensions (.registering registered e rest)
  | ready {registered} : registered.map (·.2) = extensions → Accounts extensions (.ready registered)
  | failed {cause} : Accounts extensions (.failed cause)

theorem Startup.accounts_next {extensions rest : List Extension} {registered : List Registered}
    (h : registered.map (·.2) ++ rest = extensions) : (next registered rest).1.Accounts extensions := by
  cases rest with
  | nil => exact .ready (by simpa using h)
  | cons e rest =>
    simp only [Startup.next]
    split
    · exact .failed
    · split
      · exact .registering h
      · exact .failed

theorem Startup.Accounts.answer {extensions : List Extension} {s : Startup} (hs : s.Accounts extensions)
    (met : Exchange) : (s.answer met).1.Accounts extensions := by
  cases hs with
  | ready h => exact .ready h
  | failed => exact .failed
  | registering h =>
    unfold Startup.answer
    dsimp only
    split
    · exact accounts_next (by simpa using h)
    · exact .failed

end Extension

namespace Host
variable {svc : Service ι ο ε} {extensions : List Extension}

/-- A host attends to the extensions that it was given, in their order, and its shutdown has come as far
as can be seen of it. -/
inductive Attends (extensions : List Extension) : Host → List HookMark → Prop
  | starting {s} : s.Accounts extensions → Attends extensions (.starting s) []
  | failed {cause} : Attends extensions (.failed cause) []
  | alone {r} : r.manager = none → Attends extensions (.running r) []
  | running {r m marks} : r.manager = some m → m.loops.map (·.extension) = extensions →
      m.shutdown.Progress (hooked extensions) m.loops marks → Attends extensions (.running r) marks

theorem attends_advance {p : Startup × List Activity} (hp : p.1.Accounts extensions) :
    Attends extensions (advance svc p).1 [] := by
  rcases p with ⟨s,_⟩
  cases hp with
  | registering h => exact .starting (.registering h)
  | failed => exact .failed
  | @ready registered h =>
    cases registered with
    | nil => exact .alone rfl
    | cons x xs =>
      subst h
      refine .running rfl ?_ ?_
      · simp [EventLoop.start, EventLoop.poll, Function.comp_def]
      · change (Shutdown.ofRegistered (x :: xs)).Progress _ _ _
        rw [Shutdown.ofRegistered_eq]
        exact .waiting

theorem Attends.move {h k : Host} {e : HostEvent} {now : List LaneActivity} {marks : List HookMark}
    (ha : Attends extensions h marks) (hm : Move svc h e k now) :
    Attends extensions k (marks ++ hookMarks now) := by
  cases hm with
  | @registered s met _ _ hadv =>
    cases ha with
    | starting hs =>
      have hstarts : ∀ a ∈ (advance svc (s.answer met)).2, a.Starts :=
        starts_advance (s.starts_answer met)
      have hattends : Attends extensions (advance svc (s.answer met)).1 [] :=
        attends_advance (hs.answer met)
      rw [hadv] at hstarts hattends
      rw [hookMarks_of_starts hstarts]
      exact hattends
  | service _ hm =>
    rw [hm.hookMarks_eq_nil, List.append_nil]
    cases ha with
    | alone hr => exact .alone hr
    | running hr hl hp => exact .running hr hl hp
  | @loop r m i e l l' now hr hl hm =>
    rw [hookMarks_lane, List.append_nil]
    cases ha with
    | alone hnone => cases hr.symm.trans hnone
    | running hr' hexts hp =>
      cases hr.symm.trans hr'
      refine .running rfl ?_ (hp.set hl hm)
      obtain ⟨hi,rfl⟩ := List.getElem?_eq_some_iff.mp hl
      rw [← hexts, List.map_set, hm.extension_eq, ← List.map_set, List.set_getElem_self]
  | shutdown hr hm =>
    cases ha with
    | alone hnone => cases hr.symm.trans hnone
    | running hr' hexts hp =>
      cases hr.symm.trans hr'
      exact .running rfl hexts (hp.move hm)

theorem attends_of_run {past : Past HostEvent LaneActivity} {h : Host}
    (hr : Run (step? svc) (start svc extensions).1 past h) :
    Attends extensions h (hookMarks ((start svc extensions).2 ++ past.flatMap Prod.snd)) := by
  induction hr with
  | refl =>
    rw [List.flatMap_nil, List.append_nil, hookMarks_of_starts (starts_start extensions)]
    exact attends_advance (Startup.accounts_next rfl)
  | @step past _ _ _ now _ he ih =>
    have hm := ih.move (move_of_step he)
    rw [← hookMarks_append] at hm
    simpa using hm

/-- The event loops of the extensions of a host. -/
def loops : Host → List EventLoop
  | running ⟨_,some m⟩ => m.loops
  | _ => []

theorem loops_running {r : Running} {m : Manager} (hr : r.manager = some m) :
    (running r).loops = m.loops := by
  cases r
  cases hr
  rfl

/-- The shutdown of the host has died. -/
def Died (h : Host) : Prop := ∃ r m, h = .running r ∧ r.manager = some m ∧ m.shutdown = .died

theorem not_died_advance (p : Startup × List Activity) : ¬(advance svc p).1.Died := by
  rintro ⟨r,m,hr,hm,hs⟩
  rcases p with ⟨_ | ⟨_ | _⟩ | _,_⟩
  · cases hr
  · cases hr; cases hm
  · cases hr; cases hm; cases hs
  · cases hr

theorem died_running_iff {r : Running} {m : Manager} (hr : r.manager = some m) :
    (running r).Died ↔ m.shutdown = .died := by
  constructor
  · rintro ⟨_,_,hq,hm,hs⟩
    cases hq
    cases hr.symm.trans hm
    exact hs
  · intro hs
    exact ⟨r,m,rfl,hr,hs⟩

theorem Move.died_iff {h k : Host} {e : HostEvent} {now : List LaneActivity} (hm : Move svc h e k now) :
    k.Died ↔ h.Died ∨ e = .manager (.shutdown .hookPanics) := by
  cases hm with
  | @registered s met _ _ hadv =>
    have hk : ¬(advance svc (s.answer met)).1.Died := not_died_advance (s.answer met)
    rw [hadv] at hk
    constructor
    · intro h
      exact absurd h hk
    · rintro (⟨_,_,h,-⟩ | h) <;> cases h
  | @service r _ _ _ _ _ =>
    cases hr : r.manager with
    | none => simp [Died, hr]
    | some m => rw [died_running_iff rfl, died_running_iff hr]; simp
  | loop hr _ _ =>
    rw [died_running_iff rfl, died_running_iff hr]
    simp
  | @shutdown r m e _ _ hr hm =>
    have hs : m.shutdown ≠ .died := by
      intro hs
      have hover := hm.not_over
      rw [hs] at hover
      cases hover
    rw [died_running_iff rfl, died_running_iff hr, hm.died_iff]
    simp [hs]

theorem died_of_run {past : Past HostEvent LaneActivity} {h : Host}
    (hr : Run (step? svc) (start svc extensions).1 past h) :
    h.Died ↔ ∃ p ∈ past, p.1 = .manager (.shutdown .hookPanics) := by
  induction hr with
  | refl =>
    have hstart : ¬(start svc extensions).1.Died := not_died_advance (Startup.start extensions)
    simpa using hstart
  | step _ he ih =>
    rw [(move_of_step he).died_iff, ih]
    simp [or_and_right, exists_or]

theorem over_of_ends_well {past : Past HostEvent LaneActivity} {h : Host}
    (hr : Run (step? svc) (start svc extensions).1 past h) (hd : h.result? = some (.ok ())) :
    ∃ r, h = .running r ∧ r.isOver = true := by
  have hk := keeps_of_run hr
  generalize said (start svc extensions).2 ++ talk past = ws at hk
  cases hk with
  | starting => cases hd
  | failed => cases hd
  | @running r _ _ ho =>
    exact ⟨r,rfl,ho (ServiceState.result?_eq_some_iff.mp hd)⟩

/-- **A host that ends well has shut down in order exactly if no termination hook has panicked.** In
order means that each termination hook was begun once, in the order of the extensions, all under one
deadline, and returned before the next one was begun, and that the event loop of each extension has
ended. -/
theorem ends_well_in_order_iff {past : Past HostEvent LaneActivity} {h : Host}
    (hr : Run (step? svc) (start svc extensions).1 past h) (hd : h.result? = some (.ok ())) :
    ((∃ d, hookMarks ((start svc extensions).2 ++ past.flatMap Prod.snd) =
        completed d (hooked extensions)) ∧
      h.loops.map (·.extension) = extensions ∧ ∀ l ∈ h.loops, l.ended = true) ↔
    ∀ p ∈ past, p.1 ≠ .manager (.shutdown .hookPanics) := by
  have hdied := died_of_run hr
  have ha := attends_of_run hr
  obtain ⟨r,rfl,hover⟩ := over_of_ends_well hr hd
  generalize hookMarks ((start svc extensions).2 ++ past.flatMap Prod.snd) = marks at ha ⊢
  cases ha with
  | alone hnone =>
    rw [Running.isOver, hnone] at hover
    cases hover
  | @running _ m _ hm hexts hp =>
    rw [Running.isOver, hm, Option.any_some] at hover
    rw [died_running_iff hm] at hdied
    rw [loops_running hm]
    generalize hs : m.shutdown = s at hp hover hdied
    cases hp with
    | finished hall =>
      refine iff_of_true ⟨⟨_,rfl⟩,hexts,hall⟩ fun p hp hpanic => ?_
      cases hdied.mpr ⟨p,hp,hpanic⟩
    | @died d name run left hsplit =>
      refine iff_of_false ?_ ?_
      · rintro ⟨⟨d',hmarks⟩,-⟩
        have hlength := congrArg List.length hmarks
        rw [List.length_append, length_completed, length_completed, List.length_singleton] at hlength
        omega
      · intro hnone
        obtain ⟨p,hp,hpanic⟩ := hdied.mp rfl
        exact hnone p hp hpanic
    | _ => cases hover

/-- The hook returns, and the host ends well with everything in order. -/
theorem ends_well_in_order :
    ∃ past h, Run (step? Service.plain) (start Service.plain [.closing "logs"]).1 past h ∧
      h.result? = some (.ok ()) ∧
      (∃ d, hookMarks ((start Service.plain [.closing "logs"]).2 ++ past.flatMap Prod.snd) =
        completed d ["logs"]) ∧
      h.loops.map (·.extension) = [.closing "logs"] ∧ ∀ l ∈ h.loops, l.ended = true := by
  have hf : (follow (step? Service.plain) (start Service.plain [.closing "logs"]).1
      [.registered (.answered ⟨200,[("Lambda-Extension-Identifier",[0x31])],[],true⟩),.service .fetches,
       .manager (.shutdown .requested),.manager (.shutdown (.timed 0)),.manager (.shutdown .hookStarts),
       .manager (.shutdown .hookReturns),.manager (.loop 0 .released),.manager (.shutdown .joins),
       .manager (.shutdown .joins),.service .told]).map (fun p => p.1.result?) = some (some (.ok ())) := by
    decide
  obtain ⟨⟨h,done⟩,hf,hd⟩ := Option.map_eq_some_iff.mp hf
  obtain ⟨past,hr,hes,-⟩ := run_of_follow hf
  refine ⟨past,h,hr,hd,(ends_well_in_order_iff hr hd).mpr ?_⟩
  intro p hp hpanic
  have hmem := List.mem_map_of_mem (f := Prod.fst) hp
  rw [hes, hpanic] at hmem
  simp at hmem

/-- The hook of the first extension panics. The host ends well, the hook of the second one has not been
begun, and both event loops are still there. -/
theorem ends_well_after_hook_panic :
    ∃ past h, Run (step? Service.plain) (start Service.plain [.closing "logs",.closing "traces"]).1 past h ∧
      h.result? = some (.ok ()) ∧
      hookMarks ((start Service.plain [.closing "logs",.closing "traces"]).2 ++ past.flatMap Prod.snd) =
        [.begun "logs" ⟨500⟩] ∧
      h.loops.map (·.ended) = [false,false] := by
  have hf : (follow (step? Service.plain) (start Service.plain [.closing "logs",.closing "traces"]).1
      [.registered (.answered ⟨200,[("Lambda-Extension-Identifier",[0x31])],[],true⟩),
       .registered (.answered ⟨200,[("Lambda-Extension-Identifier",[0x32])],[],true⟩),
       .service .fetches,.manager (.shutdown .requested),.manager (.shutdown (.timed 0)),
       .manager (.shutdown .hookStarts),.manager (.shutdown .hookPanics),.service .told]).map
        (fun p => (p.1.result?,hookMarks ((start Service.plain [.closing "logs",.closing "traces"]).2 ++ p.2),
          p.1.loops.map (·.ended))) = some (some (.ok ()),[.begun "logs" ⟨500⟩],[false,false]) := by
    decide
  obtain ⟨⟨h,done⟩,hf,hd⟩ := Option.map_eq_some_iff.mp hf
  obtain ⟨past,hr,-,rfl⟩ := run_of_follow hf
  simp only [Prod.mk.injEq] at hd
  obtain ⟨hresult,hmarks,hloops⟩ := hd
  exact ⟨past,h,hr,hresult,hmarks,hloops⟩

end Host
end InvocationHost
