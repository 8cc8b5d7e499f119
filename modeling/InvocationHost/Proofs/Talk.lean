import InvocationHost.Proofs.Alternation

/-! # The talk of a host

From its start on, a host talks to the invocation API only through its loop: neither the start of its
extensions nor their event loops nor their shutdown says anything to it.
-/
namespace InvocationHost
open Api Http Panic Machine
open Extension (Manager LaneActivity Startup Shutdown)
variable {ι ο ε : Type}

namespace Extension

theorem Startup.registers_registration {e : Extension} {r : Request}
    (h : (registration e).request = some r) : r.registers = true := by
  simp only [registration, Extensions.register, Extensions.withHeader] at h
  split at h
  · cases h
    simp [Request.registers, Request.header?, agentHeader, jsonHeader, Extensions.nameHeader]
  · cases h

/-- What a host does to start: the hooks and registrations of its extensions, and their first polls. -/
inductive LaneActivity.Starts : LaneActivity → Prop
  | lane {i a} : Starts (.loop i a)
  | init {name} : Starts (.main (.init name))
  | log {e} : Starts (.main (.log e))
  | registers {r} : r.registers = true → Starts (.main (.request r))

/-- Going on with a start calls hooks and sends registrations, and does nothing else. -/
theorem Startup.mem_next {registered : List Registered} {extensions : List Extension} {a : Activity}
    (h : a ∈ (next registered extensions).2) :
    (∃ name, a = .init name) ∨ ∃ e r, (registration e).request = some r ∧ a = .request r := by
  have hinit {e : Extension} (h : a ∈ initActivity e) : ∃ name, a = .init name := by
    unfold initActivity at h
    split at h
    · exact ⟨e.name,List.mem_singleton.mp h⟩
    · cases h
  cases extensions with
  | nil => cases h
  | cons e rest =>
    simp only [Startup.next] at h
    split at h
    · exact .inl (hinit h)
    · split at h
      · next r hr =>
        rcases List.mem_append.mp h with h | h
        · exact .inl (hinit h)
        · exact .inr ⟨e,r,hr,List.mem_singleton.mp h⟩
      · exact .inl (hinit h)

theorem Startup.starts_next (registered : List Registered) (extensions : List Extension) :
    ∀ a ∈ (next registered extensions).2, LaneActivity.Starts (.main a) := by
  intro a ha
  obtain ⟨name,rfl⟩ | ⟨e,r,hr,rfl⟩ := mem_next ha
  · exact .init
  · exact .registers (registers_registration hr)

theorem Startup.starts_answer (s : Startup) (met : Exchange) :
    ∀ a ∈ (s.answer met).2, LaneActivity.Starts (.main a) := by
  have hlogs (es : List Log.Event) : ∀ a ∈ es.map Activity.log, LaneActivity.Starts (.main a) := by
    intro a ha
    obtain ⟨e,-,rfl⟩ := List.mem_map.mp ha
    exact .log
  cases s with
  | ready registered => rintro a ⟨⟩
  | failed cause => rintro a ⟨⟩
  | registering registered e rest =>
    unfold answer
    dsimp only
    split
    · next id _ =>
      intro a ha
      rcases List.mem_append.mp ha with ha | ha
      · exact hlogs _ a ha
      · rcases List.mem_cons.mp ha with rfl | ha
        · exact .log
        · exact starts_next _ _ a ha
    · exact hlogs _

theorem Manager.starts_start (registered : List Registered) : ∀ a ∈ (start registered).2, a.Starts := by
  intro a ha
  obtain ⟨p,-,ha⟩ := List.mem_flatMap.mp ha
  obtain ⟨b,-,rfl⟩ := List.mem_map.mp ha
  exact .lane

theorem Shutdown.Move.said_eq_nil {loops : List EventLoop} {s t : Shutdown} {e : ShutdownEvent}
    {now : List Activity} (hm : Move loops s e t now) : said (now.map .main) = [] := by
  rw [said_main]
  cases hm with
  | joins _ _ =>
    unfold joinLog
    split <;> rfl
  | _ => rfl

theorem Shutdown.Move.not_over {loops : List EventLoop} {s t : Shutdown} {e : ShutdownEvent}
    {now : List Activity} (hm : Move loops s e t now) : s.isOver = false := by
  cases hm <;> rfl

end Extension

namespace Host
variable {svc : Service ι ο ε}

/-- A host that has come to its run keeps the talk of its loop, and that stops well only when the
shutdown is over; before its run a host has not talked. -/
inductive Keeps (svc : Service ι ο ε) : Host → List Utterance → Prop
  | starting {s} : Keeps svc (.starting s) []
  | failed {cause} : Keeps svc (.failed cause) []
  | running {r ws} : svc.Alternates r.service.phase ws →
      (r.service.phase = .stopped (.ok ()) → r.isOver = true) → Keeps svc (.running r) ws

theorem starts_advance {p : Startup × List Activity} (hp : ∀ a ∈ p.2, LaneActivity.Starts (.main a)) :
    ∀ a ∈ (advance svc p).2, a.Starts := by
  have hmain : ∀ a ∈ p.2.map LaneActivity.main, a.Starts := by
    intro a ha
    obtain ⟨b,hb,rfl⟩ := List.mem_map.mp ha
    exact hp b hb
  intro a ha
  change a ∈ p.2.map .main ++ (ofStartup svc p.1).2 at ha
  rcases List.mem_append.mp ha with ha | ha
  · exact hmain a ha
  rcases p with ⟨_ | ⟨_ | ⟨x,xs⟩⟩ | _,_⟩
  · cases ha
  · rw [List.mem_singleton.mp ha]
    exact .log
  · rcases List.mem_append.mp ha with ha | ha
    · exact Manager.starts_start (x :: xs) a ha
    · rw [List.mem_singleton.mp ha]
      exact .log
  · cases ha

theorem starts_start (extensions : List Extension) : ∀ a ∈ (start svc extensions).2, a.Starts :=
  starts_advance (Startup.starts_next [] extensions)

/-- The start of a host says nothing to the invocation API. -/
theorem said_of_starts {activities : List LaneActivity} (h : ∀ a ∈ activities, a.Starts) :
    said activities = [] := by
  induction activities with
  | nil => rfl
  | cons a rest ih =>
    change said ([a] ++ rest) = []
    rw [said_append, ih fun b hb => h b (List.mem_cons_of_mem a hb), List.append_nil]
    cases h a List.mem_cons_self with
    | registers hr => simp [said, Activity.ofMain, Activity.requests, Activity.request?, hr]
    | _ => rfl

theorem keeps_advance (p : Startup × List Activity) : Keeps svc (advance svc p).1 [] := by
  have hidle : svc.Alternates .idle [] := ⟨[],[],rfl,by simp,.idle⟩
  rcases p with ⟨_ | ⟨_ | _⟩ | _,_⟩
  · exact .starting
  · exact .running hidle (by intro h; cases h)
  · exact .running hidle (by intro h; cases h)
  · exact .failed

theorem Keeps.move {h k : Host} {e : HostEvent} {now : List LaneActivity} {ws : List Utterance}
    (hk : Keeps svc h ws) (hm : Move svc h e k now) : Keeps svc k (ws ++ (e.heard ++ said now)) := by
  cases hm with
  | @registered s met _ _ hadv =>
    cases hk
    have hstarts : ∀ a ∈ (advance svc (s.answer met)).2, a.Starts := starts_advance (s.starts_answer met)
    have hkeeps : Keeps svc (advance svc (s.answer met)).1 [] := keeps_advance (s.answer met)
    rw [hadv] at hstarts hkeeps
    rw [said_of_starts hstarts]
    exact hkeeps
  | @service r _ _ _ hp hm =>
    cases hk with
    | running ha _ =>
      refine .running (ha.move hm) ?_
      intro ht
      have he := hm.told_of_stopped ht
      subst he
      exact hp
  | @loop r m i _ _ _ _ hr hl hm =>
    cases hk with
    | running ha ho =>
      have hsaid := said_lane i
      rw [hsaid]
      refine .running (by simpa [HostEvent.heard] using ha) ?_
      intro ht
      have hover := ho ht
      rw [Running.isOver, hr] at hover
      exact hover
  | shutdown hr hm =>
    cases hk with
    | running ha ho =>
      rw [hm.said_eq_nil]
      refine .running (by simpa [HostEvent.heard] using ha) ?_
      intro ht
      have hover := ho ht
      rw [Running.isOver, hr, Option.any_some, hm.not_over] at hover
      cases hover

theorem keeps_of_run {extensions : List Extension} {past : Past HostEvent LaneActivity} {h : Host}
    (hr : Run (step? svc) (start svc extensions).1 past h) :
    Keeps svc h (said (start svc extensions).2 ++ talk past) := by
  induction hr with
  | refl =>
    rw [said_of_starts (starts_start extensions)]
    exact keeps_advance (Startup.start extensions)
  | step _ he ih =>
    rw [talk_append, ← List.append_assoc]
    have hk := ih.move (move_of_step he)
    simpa [talk] using hk

/-- After its end a host talks no more, even while its extensions go on. -/
theorem Move.silent {h k : Host} {e : HostEvent} {now : List LaneActivity} (hm : Move svc h e k now)
    (hd : h.result? ≠ none) : k.result? = h.result? ∧ e.heard ++ said now = [] := by
  cases hm with
  | registered _ => exact absurd rfl hd
  | @service r _ _ _ _ hm =>
    rcases hp : r.service.phase with _ | _ | _ | _ | _ | result
    case stopped => exact absurd hp hm.not_stopped
    all_goals exact absurd (by simp only [result?, ServiceState.result?, hp]) hd
  | loop _ _ _ => exact ⟨rfl,said_lane ..⟩
  | shutdown _ hm => exact ⟨rfl,hm.said_eq_nil⟩

theorem silent_of_run {h k : Host} {later : Past HostEvent LaneActivity}
    (hr : Run (step? svc) h later k) (hd : h.result? ≠ none) :
    k.result? = h.result? ∧ talk later = [] := by
  induction hr with
  | refl => exact ⟨rfl,rfl⟩
  | step _ he ih =>
    obtain ⟨hresult,hsilent⟩ := ih
    obtain ⟨hsame,hnone⟩ := (move_of_step he).silent (hresult ▸ hd)
    refine ⟨hsame.trans hresult,?_⟩
    rw [talk_append, hsilent]
    simpa [talk] using hnone

end Host
end InvocationHost
