import InvocationHost.Proofs.Lanes

/-! # The rounds of an event loop

What passes between an event loop and the control plane, and between the loop and its hook, forms rounds: a
poll, what it met, and for an event that the extension takes a call of the hook and its return. This goes on
until the first poll that fails or a panic of the hook, if the host is not done before.
-/
namespace InvocationHost
open Api Http Machine
open Extension (EventLoop LoopEvent LoopActivity LoopPhase)

/-- What can be seen of an event loop. -/
inductive LaneMark
  | polled (id : ExtensionId)
  | met (x : Exchange)
  | called (e : Extension.Event) (deadline : Option Deadline)
  | returned
  | panicked

namespace LaneMark

def met? : LaneMark → Option Exchange
  | .met x => some x
  | _ => none

def called? : LaneMark → Option (Extension.Event × Option Deadline)
  | .called e deadline => some (e,deadline)
  | _ => none

end LaneMark

def Extension.LoopActivity.mark? : LoopActivity → Option LaneMark
  | .poll id => some (.polled id)
  | .hook e deadline => some (.called e deadline)
  | .hookReturned => some .returned
  | .log _ => none

def Extension.LoopEvent.mark? : LoopEvent → Option LaneMark
  | .received met => some (.met met)
  | .hookPanicked => some .panicked
  | _ => none

def marks (past : Past LoopEvent LoopActivity) : List LaneMark :=
  past.flatMap fun p => p.1.mark?.toList ++ p.2.filterMap LoopActivity.mark?

theorem marks_append (xs ys : Past LoopEvent LoopActivity) : marks (xs ++ ys) = marks xs ++ marks ys :=
  List.flatMap_append

theorem Extension.Event.isSome_deadline (e : Event) : e.deadline?.isSome ↔ 0 < e.deadlineMs.toInt := by
  unfold deadline?
  split <;> simp [*]

/-- An extension takes invoke events if it has a hook for them, and no others. -/
def Extension.takes (x : Extension) (e : Extension.Event) : Bool := x.onInvoke && e.kind == .invoke

/-- An event in what a poll met. -/
structure Delivery (id : ExtensionId) where
  met : Exchange
  event : Extension.Event
  decoded : ((Extensions.nextEvent id).settle met).result = .ok event

/-- The round of an event, up to the next poll. -/
def Delivery.marks {id : ExtensionId} (x : Extension) (d : Delivery id) : List LaneMark :=
  .polled id :: .met d.met ::
    if x.takes d.event then [.called d.event d.event.deadline?,.returned] else []

namespace Extension.EventLoop

/-- What can be seen of a loop since its last complete round, and why it has ended if it has. -/
inductive Rest (id : ExtensionId) (x : Extension) : LoopPhase → List LaneMark → Prop
  | polling : Rest id x .polling [.polled id]
  | hook (d : Delivery id) : x.takes d.event = true →
      Rest id x (.hook d.event) [.polled id,.met d.met,.called d.event d.event.deadline?]
  | pollFailed {met cause} : ((Extensions.nextEvent id).settle met).result = .error cause →
      Rest id x (.ended (.pollFailed cause)) [.polled id,.met met]
  | hookPanicked (d : Delivery id) : x.takes d.event = true →
      Rest id x (.ended .hookPanicked) [.polled id,.met d.met,.called d.event d.event.deadline?,.panicked]

/-- Some marks are those of complete rounds and of a rest. -/
def Delivers (id : ExtensionId) (x : Extension) (phase : LoopPhase) (ms : List LaneMark) : Prop :=
  ∃ (ds : List (Delivery id)) (rest : List LaneMark),
    ms = ds.flatMap (·.marks x) ++ rest ∧ Rest id x phase rest

/-- The events that came with some polls, up to the first poll that failed. -/
def came (id : ExtensionId) : List Exchange → List Event
  | [] => []
  | met :: mets =>
    match ((Extensions.nextEvent id).settle met).result with
    | .ok e => e :: came id mets
    | .error _ => []

variable {l m : EventLoop} {now : List LoopActivity}

theorem marks_logs (es : List Log.Event) : (es.map LoopActivity.log).filterMap LoopActivity.mark? = [] := by
  simp [List.filterMap_map, LoopActivity.mark?, Function.comp_def]

/-- A poll gives an event, which the hook is called for or which is passed over, or its failure ends the
loop. -/
theorem receive_cases {met : Exchange} (hr : l.receive met = (m,now)) :
    (∃ e, ((Extensions.nextEvent l.id).settle met).result = .ok e ∧ l.extension.takes e = true ∧
      m = { l with phase := .hook e } ∧ now.filterMap LoopActivity.mark? = [.called e e.deadline?]) ∨
    (∃ e, ((Extensions.nextEvent l.id).settle met).result = .ok e ∧ l.extension.takes e = false ∧
      m = { l with phase := .polling } ∧ now.filterMap LoopActivity.mark? = [.polled l.id]) ∨
    ∃ cause, ((Extensions.nextEvent l.id).settle met).result = .error cause ∧
      m = { l with phase := .ended (.pollFailed cause) } ∧ now.filterMap LoopActivity.mark? = [] := by
  unfold receive at hr
  dsimp only at hr
  split at hr
  · next e hv =>
    cases hr
    rw [List.filterMap_append, marks_logs, List.nil_append]
    unfold dispatch
    split
    · next hk =>
      split
      · next hi => exact .inl ⟨e,hv,by simp [takes, hi, hk],rfl,rfl⟩
      · next hi => exact .inr (.inl ⟨e,hv,by simp [takes, hi],rfl,rfl⟩)
    · next hk => exact .inr (.inl ⟨e,hv,by simp [takes, hk],rfl,rfl⟩)
    · next hk => exact .inr (.inl ⟨e,hv,by simp [takes, hk],rfl,rfl⟩)
  · next cause hv =>
    cases hr
    refine .inr (.inr ⟨cause,hv,rfl,?_⟩)
    rw [List.filterMap_append, List.filterMap_append, marks_logs]
    rfl

/-- A move of a loop continues its last round, or completes it with the next poll. -/
theorem Rest.move {e : LoopEvent} {rest : List LaneMark} (hr : Rest l.id l.extension l.phase rest)
    (hm : l.Move false e m now) :
    (m.id = l.id ∧ m.extension = l.extension) ∧
    (Rest l.id l.extension m.phase (rest ++ marks [(e,now)]) ∨
      ∃ d : Delivery l.id, m.phase = .polling ∧
        rest ++ marks [(e,now)] = d.marks l.extension ++ [.polled l.id]) := by
  have hmarks : marks [(e,now)] = e.mark?.toList ++ now.filterMap LoopActivity.mark? := by simp [marks]
  rw [hmarks]
  cases hm with
  | @received met _ _ hp _ hm =>
    rw [hp] at hr
    cases hr
    obtain ⟨e,hv,ht,rfl,hn⟩ | ⟨e,hv,ht,rfl,hn⟩ | ⟨cause,hv,rfl,hn⟩ := receive_cases hm
    · rw [hn]
      exact ⟨⟨rfl,rfl⟩,.inl (.hook ⟨met,e,hv⟩ ht)⟩
    · rw [hn]
      exact ⟨⟨rfl,rfl⟩,.inr ⟨⟨met,e,hv⟩,rfl,by simp [Delivery.marks, ht, LoopEvent.mark?]⟩⟩
    · rw [hn]
      exact ⟨⟨rfl,rfl⟩,.inl (.pollFailed hv)⟩
  | released _ hdone _ => cases hdone
  | hookReturned hp =>
    rw [hp] at hr
    cases hr with
    | hook d ht =>
      exact ⟨⟨rfl,rfl⟩,.inr ⟨d,rfl,by simp [Delivery.marks, ht, LoopEvent.mark?, poll, LoopActivity.mark?]⟩⟩
  | hookPanicked hp =>
    rw [hp] at hr
    cases hr with
    | hook d ht => exact ⟨⟨rfl,rfl⟩,.inl (.hookPanicked d ht)⟩

/-- A loop by itself delivers, from its first poll on. -/
theorem delivers_of_run {id : ExtensionId} {x : Extension} {past : Past LoopEvent LoopActivity}
    (hr : Run (alone false) { id, extension := x } past l) :
    l.id = id ∧ l.extension = x ∧ Delivers id x l.phase (.polled id :: marks past) := by
  induction hr with
  | refl => exact ⟨rfl,rfl,[],[.polled id],rfl,.polling⟩
  | @step past l e m now _ he ih =>
    obtain ⟨rfl,rfl,ds,rest,hms,hrest⟩ := ih
    -- The rounds before the last poll are complete; the move goes on from there or polls again.
    obtain ⟨⟨hid,hx⟩,hnext⟩ := hrest.move (move_of_step he)
    refine ⟨hid,hx,?_⟩
    rw [marks_append, ← List.cons_append, hms, List.append_assoc]
    obtain hrest | ⟨d,hp,hround⟩ := hnext
    · exact ⟨ds,_,rfl,hrest⟩
    · refine ⟨ds ++ [d],[.polled l.id],?_,hp ▸ .polling⟩
      rw [hround]
      simp

theorem came_cons {id : ExtensionId} (d : Delivery id) (mets : List Exchange) :
    came id (d.met :: mets) = d.event :: came id mets := by
  simp [came, d.decoded]

/-- What the hook is called for, of the events that came. -/
def callsFor (x : Extension) (es : List Event) : List (Event × Option Deadline) :=
  (es.filter x.takes).map fun e => (e,e.deadline?)

theorem callsFor_cons (x : Extension) (e : Event) (es : List Event) :
    callsFor x (e :: es) = (if x.takes e then [(e,e.deadline?)] else []) ++ callsFor x es := by
  cases ht : x.takes e <;> simp [callsFor, ht]

theorem Rest.calls_eq {id : ExtensionId} {x : Extension} {phase : LoopPhase} {rest : List LaneMark}
    (hr : Rest id x phase rest) :
    rest.filterMap LaneMark.called? = callsFor x (came id (rest.filterMap LaneMark.met?)) := by
  have hcall {id : ExtensionId} (d : Delivery id) (ht : x.takes d.event = true) :
      callsFor x (came id [d.met]) = [(d.event,d.event.deadline?)] := by
    rw [came_cons, callsFor_cons, if_pos ht]
    rfl
  cases hr with
  | polling => rfl
  | hook d ht => exact (hcall d ht).symm
  | @pollFailed met cause hv =>
    have hnone : came id [met] = [] := by simp only [came, hv]
    exact (congrArg (callsFor x) hnone).symm
  | hookPanicked d ht => exact (hcall d ht).symm

/-- The hook is called for the events that came and that the extension takes, once each and in their order;
with each goes its deadline. -/
theorem Delivers.calls_eq {id : ExtensionId} {x : Extension} {phase : LoopPhase} {ms : List LaneMark}
    (hd : Delivers id x phase ms) :
    ms.filterMap LaneMark.called? = callsFor x (came id (ms.filterMap LaneMark.met?)) := by
  obtain ⟨ds,rest,rfl,hrest⟩ := hd
  induction ds with
  | nil => exact hrest.calls_eq
  | cons d ds ih =>
    have hcalls : (d.marks x).filterMap LaneMark.called? =
        if x.takes d.event then [(d.event,d.event.deadline?)] else [] := by
      cases ht : x.takes d.event <;> simp only [Delivery.marks, ht] <;> rfl
    have hmets : (d.marks x).filterMap LaneMark.met? = [d.met] := by
      cases ht : x.takes d.event <;> simp only [Delivery.marks, ht] <;> rfl
    rw [List.flatMap_cons, List.append_assoc]
    generalize ds.flatMap (·.marks x) ++ rest = ms at ih ⊢
    rw [List.filterMap_append, List.filterMap_append, ih, hcalls, hmets, List.singleton_append, came_cons,
      callsFor_cons]

theorem Delivers.deadline_eq {id : ExtensionId} {x : Extension} {phase : LoopPhase} {ms : List LaneMark}
    (hd : Delivers id x phase ms) {e : Event} {deadline : Option Deadline}
    (hcall : .called e deadline ∈ ms) : deadline = e.deadline? := by
  have hmem : (e,deadline) ∈ ms.filterMap LaneMark.called? := List.mem_filterMap.mpr ⟨_,hcall,rfl⟩
  rw [hd.calls_eq] at hmem
  obtain ⟨_,-,heq⟩ := List.mem_map.mp hmem
  cases heq
  rfl

end Extension.EventLoop
end InvocationHost
