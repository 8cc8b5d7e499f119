import InvocationHost.Proofs.Enrolment
import InvocationHost.Proofs.Hooks
import InvocationHost.Proofs.LoopRounds

/-! # The delivery of events

Until the shutdown of a host is raised, each of its event loops runs as it would alone, from its first poll
under the identifier that its extension was issued; so it delivers its events in rounds, whatever becomes of
the others.
-/
namespace InvocationHost
open Api Http Machine
open Extension (Manager ManagerEvent LaneActivity EventLoop LoopEvent LoopActivity)
variable {ι ο ε : Type}

/-- An extension with a hook for invoke events and no other. -/
def Extension.listening (name : String) : Extension := { name, onInvoke := true }

def Extension.LaneActivity.marks (i : Nat) (activities : List LaneActivity) : List LaneMark :=
  (inLane i activities).filterMap LoopActivity.mark?

def HostEvent.laneMark? (i : Nat) : HostEvent → Option LaneMark
  | .manager (.loop j e) => if j = i then e.mark? else none
  | _ => none

/-- What can be seen of one event loop in the past of a host. -/
def laneMarks (i : Nat) (past : Past HostEvent LaneActivity) : List LaneMark :=
  past.flatMap fun p => (p.1.laneMark? i).toList ++ LaneActivity.marks i p.2

theorem laneMarks_append (i : Nat) (xs ys : Past HostEvent LaneActivity) :
    laneMarks i (xs ++ ys) = laneMarks i xs ++ laneMarks i ys := List.flatMap_append

theorem inLane_polls_of_lt (us : List Enrolment) {i k : Nat} (h : i < k) :
    LaneActivity.inLane i (polls us k) = [] := by
  induction us generalizing k with
  | nil => rfl
  | cons u us ih =>
    have hrest := ih (Nat.lt_succ_of_lt h)
    have hne : k ≠ i := by omega
    simpa [LaneActivity.inLane, polls, hne] using hrest

/-- Each event loop sends its first poll under its own identifier. -/
theorem inLane_polls (us : List Enrolment) (i k : Nat) :
    LaneActivity.inLane (k + i) (polls us k) = (us[i]?.map fun u => .poll u.id).toList := by
  induction us generalizing i k with
  | nil => rfl
  | cons u us ih =>
    have hcons : polls (u :: us) k = [LoopActivity.poll u.id].map (.loop k) ++ polls us (k + 1) := rfl
    rw [hcons, LaneActivity.inLane_append]
    cases i with
    | zero =>
      rw [Nat.add_zero, LaneActivity.inLane_loop, inLane_polls_of_lt us (Nat.lt_succ_self k)]
      rfl
    | succ i =>
      have hrest := ih i (k + 1)
      rw [LaneActivity.inLane_other (by omega), show k + (i + 1) = k + 1 + i by omega, hrest]
      rfl

/-- A poll under an identifier. -/
def pollRequest (id : ExtensionId) : Request where
  method := .get
  url := "/2020-01-01/extension/event/next"
  headers := [agentHeader,("lambda-extension-identifier",id.text)]

theorem Http.isLegalValue_of_readable {bytes : List UInt8} {s : String} (h : readable? bytes = some s) :
    isLegalValue s = true := by
  unfold readable? at h
  split at h
  · next hall =>
    cases h
    simp only [isLegalValue, String.toList_ofList, List.all_map, List.all_eq_true] at hall ⊢
    intro b hb
    have hbyte := hall b hb
    simp only [Bool.or_eq_true, beq_iff_eq, Bool.and_eq_true, decide_eq_true_eq, UInt8.le_iff_toNat_le] at hbyte
    rcases hbyte with rfl | ⟨hlow,hhigh⟩
    · rfl
    · have hlow : 32 ≤ b.toNat := hlow
      have hhigh : b.toNat ≤ 126 := hhigh
      have hvalid : b.toNat.isValidChar := .inl (by omega)
      have hchar : (Char.ofNat b.toNat).toNat = b.toNat := by
        rw [Char.ofNat, dif_pos hvalid]
        rfl
      simp [hchar]
      omega
  · cases h

theorem Enrolment.isLegalValue_id (u : Enrolment) : isLegalValue u.id.text = true := by
  have hv := u.issued
  cases hmet : u.met with
  | unreachable detail =>
    rw [hmet] at hv
    cases hv
  | dropped detail =>
    rw [hmet] at hv
    cases hv
  | answered reply =>
    rw [hmet] at hv
    change (Extensions.judgeRegister u.extension.name reply).result = .ok u.id at hv
    unfold Extensions.judgeRegister at hv
    split at hv
    · cases hv
    · split at hv
      · cases hv
      · next id hid =>
        cases hv
        obtain ⟨text,hfilter,hid⟩ := Option.map_eq_some_iff.mp hid
        obtain ⟨hheader,-⟩ := Option.filter_eq_some_iff.mp hfilter
        obtain ⟨_,-,hread⟩ := Option.bind_eq_some_iff.mp hheader
        rw [← hid]
        exact isLegalValue_of_readable hread

/-- An identifier that was issued can be polled under. -/
theorem Enrolment.request_poll (u : Enrolment) : (Extensions.nextEvent u.id).request = some (pollRequest u.id) :=
  if_pos u.isLegalValue_id

/-- Extensions and the replies to their registrations determine the identifiers. -/
theorem Enrolment.eq_of_events {us vs : List Enrolment} {events : List HostEvent}
    (hx : us.map (·.extension) = vs.map (·.extension)) (hu : us.map (·.event) <+: events)
    (hv : vs.map (·.event) <+: events) : us = vs := by
  have hlength : us.length = vs.length := by simpa using congrArg List.length hx
  have hevents : us.map (·.event) = vs.map (·.event) :=
    (List.prefix_of_prefix_length_le hu hv (by simp [hlength])).eq_of_length (by simp [hlength])
  clear hu hv hlength
  induction us generalizing vs with
  | nil => exact (List.map_eq_nil_iff.mp hx.symm).symm
  | cons u us ih =>
    cases vs with
    | nil => cases hx
    | cons v vs =>
      simp only [List.map_cons, List.cons.injEq] at hx hevents
      rw [ih hx.2 hevents.2]
      rcases u with ⟨x,met,id,_,_,hid⟩
      rcases v with ⟨_,_,id',_,_,hid'⟩
      obtain ⟨rfl,hx⟩ := hx
      obtain ⟨hmet,-⟩ := hevents
      cases hmet
      cases hid.symm.trans hid'
      rfl

namespace Host
variable {svc : Service ι ο ε} {extensions : List Extension} {past : Past HostEvent LaneActivity} {r : Running}

theorem Move.laneMarks {k : Host} {e : HostEvent} {now : List LaneActivity}
    (hm : Move svc (.running r) e k now) (i : Nat) :
    laneMarks i [(e,now)] = marks (Extension.lane i (managed [(e,now)])) := by
  cases hm with
  | service _ _ =>
    simp [InvocationHost.laneMarks, HostEvent.laneMark?, LaneActivity.marks, managed, Extension.lane, marks]
  | shutdown _ _ =>
    simp [InvocationHost.laneMarks, HostEvent.laneMark?, LaneActivity.marks, managed, Extension.lane, marks]
  | @loop _ _ j _ _ _ now _ _ _ =>
    by_cases hj : j = i
    · subst hj
      simp [InvocationHost.laneMarks, HostEvent.laneMark?, LaneActivity.marks, managed, Extension.lane, marks]
    · simp [InvocationHost.laneMarks, HostEvent.laneMark?, LaneActivity.marks, managed, Extension.lane, marks, hj,
        LaneActivity.inLane_other hj]

theorem laneMarks_of_run {k : Host} (hr : Run (step? svc) (.running r) past k) (i : Nat) :
    laneMarks i past = marks (Extension.lane i (managed past)) := by
  induction hr with
  | refl => rfl
  | @step past s e t now hrun he ih =>
    obtain ⟨r',rfl,-⟩ := served_of_run hrun
    have hmove := move_of_step he
    rw [laneMarks_append, ih, hmove.laneMarks, managed_append, Extension.lane_append, marks_append]

theorem exists_registered {us : List Enrolment} {first : Past HostEvent LaneActivity}
    (hfirst : first.map Prod.fst = us.map (·.event)) {p : HostEvent × List LaneActivity} (hp : p ∈ first) :
    ∃ met, p.1 = .registered met := by
  have hmem : p.1 ∈ us.map (·.event) := hfirst ▸ List.mem_map_of_mem hp
  obtain ⟨u,-,hu⟩ := List.mem_map.mp hmem
  exact ⟨u.met,hu.symm⟩

/-- Before anything else, the first polls are all that there is to see of the event loops. -/
theorem marks_of_enrolments {us : List Enrolment} {first : Past HostEvent LaneActivity}
    (hfirst : first.map Prod.fst = us.map (·.event))
    (hacts : (start svc extensions).2 ++ first.flatMap Prod.snd =
      (us.flatMap (·.activities)).map .main ++ (polls us 0 ++ [.main svc.started]))
    {i : Nat} {u : Enrolment} (hu : us[i]? = some u) :
    LaneActivity.marks i (start svc extensions).2 ++ laneMarks i first = [.polled u.id] := by
  have hevents : ∀ p ∈ first, p.1.laneMark? i = none := by
    intro p hp
    obtain ⟨met,hmet⟩ := exists_registered hfirst hp
    rw [hmet]
    rfl
  have hmarks : laneMarks i first = LaneActivity.marks i (first.flatMap Prod.snd) := by
    clear hfirst hacts
    induction first with
    | nil => rfl
    | cons p first ih =>
      have hrest := ih fun q hq => hevents q (List.mem_cons_of_mem _ hq)
      have hp := hevents p List.mem_cons_self
      simp only [InvocationHost.laneMarks, LaneActivity.marks] at hrest ⊢
      simp [hrest, hp]
  have hlane : LaneActivity.inLane i [.main svc.started] = [] := LaneActivity.inLane_main i [svc.started]
  have hpolls := inLane_polls us i 0
  rw [Nat.zero_add, hu] at hpolls
  rw [hmarks, LaneActivity.marks, LaneActivity.marks, ← List.filterMap_append, ← LaneActivity.inLane_append, hacts]
  simp [hlane, hpolls, LoopActivity.mark?]

/-- Until the shutdown is raised, the run of a host is to each event loop a run of that loop alone, from its
first poll on. -/
theorem alone_of_run {m : Manager} (hr : Run (step? svc) (start svc extensions).1 past (.running r))
    (hm : r.manager = some m) (hq : m.shutdown.isRaised = false) :
    ∃ us : List Enrolment, us.map (·.extension) = extensions ∧ us.map (·.event) <+: past.map Prod.fst ∧
      m.loops.length = us.length ∧
      ∀ i u, us[i]? = some u → ∃ l, m.loops[i]? = some l ∧
        Run (EventLoop.alone false) u.eventLoop (Extension.lane i (managed past)) l ∧
        LaneActivity.marks i (start svc extensions).2 ++ InvocationHost.laneMarks i past =
          .polled u.id :: marks (Extension.lane i (managed past)) := by
  obtain ⟨us,first,later,rfl,hus,hfirst,hacts,hlater⟩ := enrolled_of_run hr
  -- Without extensions there is no manager at all.
  have hne : us.isEmpty = false := by
    cases us with
    | nil => cases (manager_eq_none_of_run rfl hlater).symm.trans hm
    | cons u us => rfl
  have hstart : (Running.ofEnrolments us).manager =
      some ⟨us.map (·.eventLoop),.ofRegistered (us.map (·.registered))⟩ := by
    simp [Running.ofEnrolments, hne]
  obtain ⟨r',m',hr',hm',hrun⟩ := managed_of_run hstart hlater
  cases hr'
  cases hm.symm.trans hm'
  have hlength := Manager.length_loops_of_run hrun
  have hmanaged : managed (first ++ later) = managed later := by
    have hnone : managed first = [] := by
      refine List.filterMap_eq_nil_iff.mpr fun p hp => ?_
      obtain ⟨met,hmet⟩ := exists_registered hfirst hp
      rcases p with ⟨_,now⟩
      cases hmet
      rfl
    rw [managed_append, hnone, List.nil_append]
  have hwaiting : (Extension.Shutdown.ofRegistered (us.map (·.registered))).isRaised = false := by
    rw [Extension.Shutdown.ofRegistered_eq]
    rfl
  refine ⟨us,hus,?_,by simpa using hlength,fun i u hu => ?_⟩
  · rw [List.map_append, hfirst]
    exact List.prefix_append _ _
  · have hloop : (us.map (·.eventLoop))[i]? = some u.eventLoop := by simp [hu]
    obtain ⟨l,hl,hlane⟩ := Manager.lane_of_run hrun hwaiting hq hloop
    rw [hmanaged, laneMarks_append, ← List.append_assoc, marks_of_enrolments hfirst hacts hu,
      laneMarks_of_run hlater]
    exact ⟨l,hl,hlane,rfl⟩

/-- **Events reach the hooks.** As long as the shutdown of a host has not been requested, each of its extensions
has an event loop, in the order of registration, and what there is to see of this loop forms rounds: a poll
under the identifier that was issued to the extension, what the poll met, and for an event that the extension
takes a call of its hook and its return before the next poll. So the calls are those for the events that came
before the first failed poll, once each, in their order, each with the event as it came and with a deadline if
the event has one. The rest says where the loop is; it has ended only with a failed poll or a panic of its
hook. What the other loops met and what became of them is no part of this: the loop runs as it would alone,
what it can do next depends on nothing else, and in any other run in which the same has happened to it there
is the same to see of it. -/
theorem events_reach_hooks {m : Manager} (hr : Run (step? svc) (start svc extensions).1 past (.running r))
    (hm : r.manager = some m) (hq : m.shutdown.isRaised = false) :
    ∃ us : List Enrolment, us.map (·.extension) = extensions ∧ us.map (·.event) <+: past.map Prod.fst ∧
      m.loops.length = us.length ∧
      ∀ i u, us[i]? = some u → ∃ l ms, m.loops[i]? = some l ∧
        ms = LaneActivity.marks i (start svc extensions).2 ++ InvocationHost.laneMarks i past ∧
        l.id = u.id ∧ l.extension = u.extension ∧
        (Extensions.nextEvent u.id).request = some (pollRequest u.id) ∧
        EventLoop.Delivers u.id u.extension l.phase ms ∧
        ms.filterMap LaneMark.called? =
          EventLoop.callsFor u.extension (EventLoop.came u.id (ms.filterMap LaneMark.met?)) ∧
        (∀ e deadline, .called e deadline ∈ ms → (deadline.isSome ↔ 0 < e.deadlineMs.toInt)) ∧
        Run (EventLoop.alone false) u.eventLoop (Extension.lane i (managed past)) l ∧
        (∀ e, step? svc (.running r) (.manager (.loop i e)) =
          (EventLoop.alone false l e).map fun p =>
            (.running { r with manager := some { m with loops := m.loops.set i p.1 } },p.2.map (.loop i))) ∧
        ∀ past' r' m', Run (step? svc) (start svc extensions).1 past' (.running r') → r'.manager = some m' →
          m'.shutdown.isRaised = false → us.map (·.event) <+: past'.map Prod.fst →
          (Extension.lane i (managed past')).map Prod.fst = (Extension.lane i (managed past)).map Prod.fst →
          m'.loops[i]? = some l ∧ InvocationHost.laneMarks i past' = InvocationHost.laneMarks i past := by
  obtain ⟨us,hus,hevents,hlength,halone⟩ := alone_of_run hr hm hq
  refine ⟨us,hus,hevents,hlength,fun i u hu => ?_⟩
  obtain ⟨l,hl,hlane,hms⟩ := halone i u hu
  obtain ⟨hid,hx,hdelivers⟩ := EventLoop.delivers_of_run hlane
  rw [← hms] at hdelivers
  refine ⟨l,_,hl,rfl,hid,hx,u.request_poll,hdelivers,hdelivers.calls_eq,fun e deadline hcall => ?_,hlane,
    fun e => ?_,fun past' r' m' hr' hm' hq' hevents' hown => ?_⟩
  · rw [hdelivers.deadline_eq hcall]
    exact e.isSome_deadline
  · rw [step?_manager hm, Manager.step?_loop hl, hq, Option.map_map]
    rfl
  · obtain ⟨us',hus',hevents₂,-,halone'⟩ := alone_of_run hr' hm' hq'
    have hsame : us' = us := Enrolment.eq_of_events (hus'.trans hus.symm) hevents₂ hevents'
    subst hsame
    obtain ⟨l',hl',hlane',hms'⟩ := halone' i u hu
    obtain ⟨hpast,rfl⟩ := hlane.unique hlane' hown
    rw [hpast, ← hms] at hms'
    exact ⟨hl',List.append_cancel_left hms'⟩

/-- The poll of one extension fails; the hook of the other one has been called for an event, with the deadline of
the event, and has returned. -/
theorem events_reach_hooks_past_failure :
    ∃ past r m, Run (step? Service.plain)
        (start Service.plain [.listening "logs",.listening "traces"]).1 past (.running r) ∧
      r.manager = some m ∧ m.shutdown.isRaised = false ∧
      m.loops.map (·.phase) = [.ended (.pollFailed (.request .nextEvent "refused")),.polling] ∧
      (LaneActivity.marks 1 (past.flatMap Prod.snd)).filterMap LaneMark.called? =
        [({ kind := .invoke, deadlineMs := 7 },some ⟨7⟩)] ∧
      ∃ us : List Enrolment, us.map (·.extension) = [.listening "logs",.listening "traces"] ∧
        m.loops.length = us.length ∧
        ∀ i u, us[i]? = some u → ∃ l ms, m.loops[i]? = some l ∧
          ms = LaneActivity.marks i (start Service.plain [.listening "logs",.listening "traces"]).2 ++
            InvocationHost.laneMarks i past ∧
          l.id = u.id ∧ l.extension = u.extension ∧
          EventLoop.Delivers u.id u.extension l.phase ms ∧
          ms.filterMap LaneMark.called? =
            EventLoop.callsFor u.extension (EventLoop.came u.id (ms.filterMap LaneMark.met?)) ∧
          ∀ e deadline, .called e deadline ∈ ms → (deadline.isSome ↔ 0 < e.deadlineMs.toInt) := by
  have hf : (follow (step? Service.plain) (start Service.plain [.listening "logs",.listening "traces"]).1
      [.registered (.answered ⟨200,[("Lambda-Extension-Identifier",[0x31])],[],true⟩),
       .registered (.answered ⟨200,[("Lambda-Extension-Identifier",[0x32])],[],true⟩),
       .manager (.loop 0 (.received (.unreachable "refused"))),
       .manager (.loop 1 (.received (.answered ⟨200,[],
         "\x7b\"eventType\":\"INVOKE\",\"deadlineMs\":7\x7d".toList.map Char.toUInt8,true⟩))),
       .manager (.loop 1 .hookReturned)]).bind
        (fun p => match p.1 with
          | .running r => r.manager.map fun m => (m.shutdown.isRaised,m.loops.map (·.phase),
              (LaneActivity.marks 1 p.2).filterMap LaneMark.called?)
          | .starting _ | .failed _ => none) =
      some (false,[.ended (.pollFailed (.request .nextEvent "refused")),.polling],
        [({ kind := .invoke, deadlineMs := 7 },some ⟨7⟩)]) := by
    decide
  obtain ⟨⟨h,done⟩,hf,hshown⟩ := Option.bind_eq_some_iff.mp hf
  obtain ⟨past,hr,-,rfl⟩ := run_of_follow hf
  cases h with
  | running r =>
    obtain ⟨m,hm,hshown⟩ := Option.map_eq_some_iff.mp hshown
    simp only [Prod.mk.injEq] at hshown
    obtain ⟨hq,hphases,hcalled⟩ := hshown
    obtain ⟨us,hus,-,hlength,hlanes⟩ := events_reach_hooks hr hm hq
    refine ⟨past,r,m,hr,hm,hq,hphases,hcalled,us,hus,hlength,fun i u hu => ?_⟩
    obtain ⟨l,ms,hl,hms,hid,hx,-,hdelivers,hcalls,hdeadline,-⟩ := hlanes i u hu
    exact ⟨l,ms,hl,hms,hid,hx,hdelivers,hcalls,hdeadline⟩
  | starting _ => cases hshown
  | failed _ => cases hshown

end Host
end InvocationHost
