import InvocationHost.Proofs.Talk

/-! # Notices of failures

Two messages of the log are notices: that an invocation has failed, and that the host has stopped. What calls,
extensions and their event loops, their start and their shutdown log is never one, and of the moves of the
invocation loop only the handling of an invocation writes notices.
-/
namespace InvocationHost
open Api Http Machine
open Extension (LaneActivity LoopActivity EventLoop Shutdown ShutdownEvent Startup Manager Registered)
variable {ι ο ε α : Type}

/-- The event tells that an invocation has failed or that the host has stopped. -/
def Log.Event.isNotice (e : Log.Event) : Bool := ["invocation error","runtime stopped"].contains e.message

/-- None of the events is a notice. -/
def Unnoticed (es : List Log.Event) : Prop := ∀ e ∈ es, e.isNotice = false

/-- What is logged by an activity in any lane. -/
def Extension.LaneActivity.log? : LaneActivity → Option Log.Event
  | .main (.log e) => some e
  | .loop _ (.log e) => some e
  | _ => none

/-- The activities write no notice. -/
def Quiet (activities : List LaneActivity) : Prop := Unnoticed (activities.filterMap (·.log?))

theorem unnoticed_nil : Unnoticed [] := by simp [Unnoticed]

theorem unnoticed_append {es fs : List Log.Event} : Unnoticed (es ++ fs) ↔ Unnoticed es ∧ Unnoticed fs := by
  simp [Unnoticed, or_imp, forall_and]

theorem unnoticed_singleton {e : Log.Event} : Unnoticed [e] ↔ e.isNotice = false := by
  simp [Unnoticed]

theorem quiet_append {xs ys : List LaneActivity} : Quiet (xs ++ ys) ↔ Quiet xs ∧ Quiet ys := by
  rw [Quiet, List.filterMap_append, unnoticed_append]
  rfl

theorem quiet_of_unlogged {activities : List LaneActivity} (h : ∀ a ∈ activities, a.log? = none) :
    Quiet activities := by
  rw [Quiet, List.filterMap_eq_nil_iff.mpr h]
  exact unnoticed_nil

theorem quiet_logs {es : List Log.Event} : Quiet ((es.map Activity.log).map .main) ↔ Unnoticed es := by
  have hlogs : ((es.map Activity.log).map LaneActivity.main).filterMap (·.log?) = es := by
    simp [List.filterMap_map, LaneActivity.log?, Function.comp_def]
  rw [Quiet, hlogs]

theorem quiet_loopLogs {es : List Log.Event} (i : Nat) :
    Quiet ((es.map LoopActivity.log).map (.loop i)) ↔ Unnoticed es := by
  have hlogs : ((es.map LoopActivity.log).map (LaneActivity.loop i)).filterMap (·.log?) = es := by
    simp [List.filterMap_map, LaneActivity.log?, Function.comp_def]
  rw [Quiet, hlogs]

theorem quiet_cons {a : LaneActivity} {rest : List LaneActivity} : Quiet (a :: rest) ↔ Quiet [a] ∧ Quiet rest := by
  rw [← quiet_append, List.singleton_append]

theorem unnoticed_drain (op : Operation) (reply : Reply) : Unnoticed (drain op reply) := by
  rw [drain]
  split
  · exact unnoticed_nil
  · exact unnoticed_singleton.mpr rfl

theorem unnoticed_settle {c : Call α} (h : ∀ reply, Unnoticed (c.judge reply).log) (met : Exchange) :
    Unnoticed (c.settle met).log := by
  cases met with
  | unreachable detail => exact unnoticed_nil
  | dropped detail => exact unnoticed_nil
  | answered reply => exact h reply

theorem unnoticed_next (met : Exchange) : Unnoticed (Invocations.next.settle met).log := by
  refine unnoticed_settle (fun reply => ?_) met
  change Unnoticed (Invocations.judgeNext reply).log
  unfold Invocations.judgeNext
  split
  · exact unnoticed_drain _ reply
  · split
    · exact unnoticed_nil
    · split <;> exact unnoticed_nil

theorem unnoticed_report (kind : Invocations.ReportKind) (id : RequestId) (body : String) (met : Exchange) :
    Unnoticed ((Invocations.report kind id body).settle met).log := by
  refine unnoticed_settle (fun reply => ?_) met
  change Unnoticed (Invocations.judgeReport kind id reply).log
  unfold Invocations.judgeReport
  split
  · exact unnoticed_drain _ reply
  · exact unnoticed_append.mpr ⟨unnoticed_drain _ reply,unnoticed_singleton.mpr rfl⟩

theorem unnoticed_register (name : String) (events : List Extension.EventKind) (met : Exchange) :
    Unnoticed ((Extensions.register name events).settle met).log := by
  refine unnoticed_settle (fun reply => ?_) met
  change Unnoticed (Extensions.judgeRegister name reply).log
  unfold Extensions.judgeRegister
  split
  · exact unnoticed_drain _ reply
  · split
    · exact unnoticed_drain _ reply
    · exact unnoticed_append.mpr ⟨unnoticed_drain _ reply,unnoticed_singleton.mpr rfl⟩

theorem unnoticed_nextEvent (id : ExtensionId) (met : Exchange) :
    Unnoticed ((Extensions.nextEvent id).settle met).log := by
  refine unnoticed_settle (fun reply => ?_) met
  change Unnoticed (Extensions.judgeEvent reply).log
  unfold Extensions.judgeEvent
  split
  · exact unnoticed_drain _ reply
  · split <;> exact unnoticed_nil

namespace Extension

theorem Startup.quiet_next (registered : List Registered) (extensions : List Extension) :
    Quiet ((next registered extensions).2.map .main) := by
  refine quiet_of_unlogged fun a ha => ?_
  obtain ⟨b,hb,rfl⟩ := List.mem_map.mp ha
  obtain ⟨name,rfl⟩ | ⟨e,r,-,rfl⟩ := mem_next hb <;> rfl

theorem Startup.quiet_answer (s : Startup) (met : Exchange) : Quiet ((s.answer met).2.map .main) := by
  cases s with
  | ready registered => exact unnoticed_nil
  | failed cause => exact unnoticed_nil
  | registering registered e rest =>
    have hcall := quiet_logs.mpr (unnoticed_register e.name e.events met)
    unfold answer
    dsimp only
    split
    · rw [List.map_append, List.map_cons]
      exact quiet_append.mpr ⟨hcall,quiet_cons.mpr ⟨unnoticed_singleton.mpr rfl,quiet_next _ _⟩⟩
    · exact hcall

theorem Manager.quiet_start (registered : List Registered) : Quiet (start registered).2 := by
  refine quiet_of_unlogged fun a ha => ?_
  obtain ⟨⟨⟨l,activities⟩,i⟩,hp,ha⟩ := List.mem_flatMap.mp ha
  obtain ⟨b,hb,rfl⟩ := List.mem_map.mp ha
  have hstarted := List.fst_mem_of_mem_zipIdx hp
  obtain ⟨r,-,hr⟩ := List.mem_map.mp hstarted
  obtain ⟨-,rfl⟩ := Prod.ext_iff.mp hr.symm
  rw [List.mem_singleton.mp hb]
  rfl

/-- A log of a loop's own is no notice, whatever its fields. -/
theorem EventLoop.quiet_loopLog (l : EventLoop) (level : Log.Level) {message : String} (fields : List Log.Field)
    (h : ["invocation error","runtime stopped"].contains message = false) (i : Nat) :
    Quiet [.loop i (l.loopLog level message fields)] := unnoticed_singleton.mpr h

theorem EventLoop.quiet_poll (l : EventLoop) (i : Nat) : Quiet (l.poll.2.map (.loop i)) := unnoticed_nil

theorem EventLoop.quiet_dispatch (l : EventLoop) (e : Event) (i : Nat) : Quiet ((l.dispatch e).2.map (.loop i)) := by
  unfold dispatch
  split
  · split <;> exact unnoticed_nil
  · exact quiet_cons.mpr ⟨l.quiet_loopLog .debug _ (by decide) i,l.quiet_poll i⟩
  · exact quiet_cons.mpr ⟨l.quiet_loopLog .warn _ (by decide) i,l.quiet_poll i⟩

theorem EventLoop.quiet_finish (l : EventLoop) (how : LoopEnd) {log : List LoopActivity} {i : Nat}
    (h : Quiet (log.map (.loop i))) : Quiet ((l.finish how log).2.map (.loop i)) := by
  rw [finish, List.map_append]
  exact quiet_append.mpr ⟨h,l.quiet_loopLog .debug _ (by decide) i⟩

theorem EventLoop.quiet_receive (l : EventLoop) (met : Exchange) (i : Nat) :
    Quiet ((l.receive met).2.map (.loop i)) := by
  have hcall := (quiet_loopLogs i).mpr (unnoticed_nextEvent l.id met)
  unfold receive
  dsimp only
  split
  · next e _ =>
    rw [List.map_append]
    exact quiet_append.mpr ⟨hcall,l.quiet_dispatch e i⟩
  · refine l.quiet_finish _ ?_
    rw [List.map_append]
    exact quiet_append.mpr ⟨hcall,l.quiet_loopLog .error _ (by decide) i⟩

theorem EventLoop.Move.quiet {l m : EventLoop} {done : Bool} {e : LoopEvent} {now : List LoopActivity}
    (hm : l.Move done e m now) (i : Nat) : Quiet (now.map (.loop i)) := by
  cases hm with
  | @received met _ _ _ _ hm =>
    have hquiet := l.quiet_receive met i
    rwa [hm] at hquiet
  | released _ _ hm =>
    have hquiet : Quiet ((l.finish .done []).2.map (.loop i)) := l.quiet_finish .done unnoticed_nil
    rwa [hm] at hquiet
  | hookReturned _ => exact unnoticed_nil
  | hookPanicked _ => exact unnoticed_nil

theorem Shutdown.Move.quiet {loops : List EventLoop} {s t : Shutdown} {e : ShutdownEvent} {now : List Activity}
    (hm : Move loops s e t now) : Quiet (now.map .main) := by
  cases hm with
  | requested => exact unnoticed_singleton.mpr rfl
  | hookStarts => exact unnoticed_singleton.mpr rfl
  | joins _ _ =>
    unfold joinLog
    split
    · exact unnoticed_singleton.mpr rfl
    · exact unnoticed_nil
  | finishes _ => exact unnoticed_singleton.mpr rfl
  | _ => exact unnoticed_nil

end Extension

namespace Service
variable {s t : ServiceState} {now : List Activity}

theorem quiet_stop (s : ServiceState) : Quiet ((stop s).2.map .main) := unnoticed_singleton.mpr rfl

theorem quiet_fetch : Quiet (fetch.map .main) := by
  rw [fetch_eq]
  exact unnoticed_nil

theorem quiet_send (job : Job) : Quiet (job.send.map .main) := by
  rw [job.send_eq]
  exact unnoticed_nil

theorem quiet_receive {met : Exchange} (hm : receive s met = (t,now)) : Quiet (now.map .main) := by
  have hquiet := quiet_logs.mpr (unnoticed_next met)
  unfold receive at hm
  dsimp only at hm
  split at hm <;> cases hm <;> exact hquiet

theorem quiet_conclude {job : Job} {met : Exchange} (hm : conclude s job met = (t,now)) : Quiet (now.map .main) := by
  have hlog : (job.conclude met).2 = (job.report.settle met).log := rfl
  have hcall : Unnoticed (job.conclude met).2 := by
    rw [hlog, Job.report]
    split <;> exact unnoticed_report _ _ _ met
  have hquiet := quiet_logs.mpr hcall
  unfold conclude at hm
  dsimp only at hm
  split at hm <;> cases hm <;> exact hquiet

end Service

namespace Host
variable {svc : Service ι ο ε}

theorem quiet_advance {p : Startup × List Activity} (hp : Quiet (p.2.map .main)) : Quiet (advance svc p).2 := by
  change Quiet (p.2.map .main ++ (ofStartup svc p.1).2)
  refine quiet_append.mpr ⟨hp,?_⟩
  rcases p with ⟨_ | ⟨_ | ⟨x,xs⟩⟩ | _,_⟩
  · exact unnoticed_nil
  · exact unnoticed_singleton.mpr rfl
  · exact quiet_append.mpr ⟨Manager.quiet_start (x :: xs),unnoticed_singleton.mpr rfl⟩
  · exact unnoticed_nil

theorem quiet_start (extensions : List Extension) : Quiet (start svc extensions).2 :=
  quiet_advance (Startup.quiet_next [] extensions)

end Host
end InvocationHost
