import InvocationHost.Proofs.Moves
import InvocationHost.Proofs.Reports

/-! # The talk with the invocation API

What the host says to the invocation API and what it hears from it form rounds: a fetch, the invocation
that was fetched, the report of its result, and the answer to the report. The loop ends with the first
fetch or report that fails and with a panic that was reported, or between rounds if it is told to.
-/
namespace InvocationHost
open Api Http Panic Machine
open Extension (LaneActivity LoopActivity)
variable {ι ο ε : Type}

inductive Utterance
  | said (r : Request)
  | heard (met : Exchange)

/-- A registration carries the name of an extension, and no other request does. -/
def Http.Request.registers (r : Request) : Bool := (r.header? Extensions.nameHeader).isSome

/-- What is said to the invocation API among some activities. -/
def said (activities : List LaneActivity) : List Utterance :=
  ((Activity.requests (Activity.ofMain activities)).filter (!·.registers)).map .said

/-- What is heard from the invocation API when an event happens. -/
def HostEvent.heard : HostEvent → List Utterance
  | .service (.fetched met) => [.heard met]
  | .service (.reported met) => [.heard met]
  | _ => []

/-- What passes between the host and the invocation API. -/
def talk (past : Past HostEvent LaneActivity) : List Utterance :=
  past.flatMap fun p => p.1.heard ++ said p.2

theorem talk_append (xs ys : Past HostEvent LaneActivity) : talk (xs ++ ys) = talk xs ++ talk ys :=
  List.flatMap_append

theorem said_append (xs ys : List LaneActivity) : said (xs ++ ys) = said xs ++ said ys := by
  simp [said]

theorem said_main (activities : List Activity) :
    said (activities.map .main) = ((Activity.requests activities).filter (!·.registers)).map .said := by
  simp [said]

theorem said_lane (i : Nat) (activities : List LoopActivity) :
    said (activities.map (.loop i)) = [] := by
  simp [said, Activity.requests]

/-- The request for the next invocation. -/
def fetchRequest : Request where
  method := .get
  url := "/2018-06-01/runtime/invocation/next"
  headers := [agentHeader]

theorem Service.fetch_eq : Service.fetch = [.request fetchRequest] := rfl

theorem registers_fetchRequest : fetchRequest.registers = false := by
  simp [Request.registers, Request.header?, fetchRequest, agentHeader, Extensions.nameHeader]

theorem registers_posted (job : Job) : job.posted.registers = false := by
  simp [Request.registers, Request.header?, Job.posted, agentHeader, jsonHeader,
    Extensions.nameHeader]

/-- An invocation that was fetched and handled, with the fate it met. -/
structure Turn (svc : Service ι ο ε) where
  met : Exchange
  inv : Invocation
  scene : Scene
  fate : Fate
  calls : List Context
  taken : (Invocations.next.settle met).result = .ok inv
  ends : svc.handler.Ends inv (svc.pipeline.opening inv scene) fate calls

namespace Turn
variable {svc : Service ι ο ε} (t : Turn svc)

/-- The job of a turn is reported under the identifier that was fetched. -/
def job : Job := ⟨t.inv.id,t.fate.result svc.pipeline svc.handler⟩

/-- The talk of a turn, up to its one report. -/
def talk : List Utterance := [.said fetchRequest,.heard t.met,.said t.job.posted]

/-- The loop goes on after a turn whose report is accepted, unless it ended in a panic. -/
def GoesOn (answer : Exchange) : Prop := answer.Accepts ∧ ¬∃ c, t.fate = .panicked c

theorem conclude_of_goesOn {answer : Exchange} (hg : t.GoesOn answer) :
    ∃ o, (t.job.conclude answer).1 = .ok o := by
  rw [Job.conclude_of_accepts _ hg.1]
  cases hr : t.fate.result svc.pipeline svc.handler with
  | ok body => exact ⟨.succeeded,by simp only [Job.outcome, job, hr]⟩
  | error f =>
    have hp : f.isPanic ≠ true := fun hp => hg.2 ((Fate.isPanic_result hr).mp hp)
    exact ⟨.failed f,by simp only [Job.outcome, job, hr, if_neg hp]⟩

theorem conclude_of_panicked {answer : Exchange} {c : Captured} (ha : answer.Accepts)
    (hf : t.fate = .panicked c) :
    (t.job.conclude answer).1 = .error (.panicked t.inv.id (c.toFailure svc.pipeline.taxonomy)) := by
  have hr : t.fate.result svc.pipeline svc.handler = .error (c.toFailure svc.pipeline.taxonomy) := by
    rw [hf]
    rfl
  rw [Job.conclude_of_accepts _ ha]
  simp only [Job.outcome, job, hr, if_pos ((Fate.isPanic_result hr).mpr ⟨c,hf⟩)]

end Turn

/-- What has been said and heard since the last complete round, and why the loop has stopped. -/
inductive Service.Rest (svc : Service ι ο ε) : ServicePhase → List Utterance → Prop
  | idle : Rest svc .idle []
  | fetching : Rest svc .fetching [.said fetchRequest]
  | handling {met inv} : (Invocations.next.settle met).result = .ok inv →
      Rest svc (.handling inv) [.said fetchRequest,.heard met]
  | handled (t : Turn svc) : Rest svc (.handled t.job) [.said fetchRequest,.heard t.met]
  | reporting (t : Turn svc) : Rest svc (.reporting t.job) t.talk
  | told {ws} : ws = [] ∨ ws = [.said fetchRequest] → Rest svc (.stopped (.ok ())) ws
  | fetchFailed {met cause} : (Invocations.next.settle met).result = .error cause →
      Rest svc (.stopped (.error (.fetch cause))) [.said fetchRequest,.heard met]
  | reportFailed (t : Turn svc) {answer cause} : ¬answer.Accepts →
      (t.job.report.settle answer).result = .error cause →
      Rest svc (.stopped (.error (.report cause))) (t.talk ++ [.heard answer])
  | panicked (t : Turn svc) {answer c} : answer.Accepts → t.fate = .panicked c →
      Rest svc (.stopped (.error (.panicked t.inv.id (c.toFailure svc.pipeline.taxonomy))))
        (t.talk ++ [.heard answer])

/-- Some talk consists of complete rounds, all of which went on, and of a rest. -/
def Service.Alternates (svc : Service ι ο ε) (phase : ServicePhase) (ws : List Utterance) : Prop :=
  ∃ (rounds : List (Turn svc × Exchange)) (rest : List Utterance),
    ws = rounds.flatMap (fun r => r.1.talk ++ [.heard r.2]) ++ rest ∧
    (∀ r ∈ rounds, r.1.GoesOn r.2) ∧ svc.Rest phase rest

namespace Service
variable {svc : Service ι ο ε} {s t : ServiceState} {e : ServiceEvent} {now : List Activity}
  {ws : List Utterance}

theorem said_logs (es : List Log.Event) : said ((es.map Activity.log).map .main) = [] := by
  rw [said_main, Activity.requests_logs]
  rfl

theorem said_handle {p : Pipeline} {h : Handler ι ο ε} {inv : Invocation} {a b : Scene} {job : Job}
    (hh : p.handle h inv a = (job,b,now)) : said (now.map .main) = [] := by
  have hn := p.requests_handle h inv a
  rw [hh] at hn
  rw [said_main, hn]
  rfl

theorem said_send (job : Job) : said (job.send.map .main) = [.said job.posted] := by
  rw [said_main, job.send_eq]
  simp [Activity.requests, Activity.request?, registers_posted]

theorem said_fetch : said (fetch.map .main) = [.said fetchRequest] := by
  rw [said_main, fetch_eq]
  simp [Activity.requests, Activity.request?, registers_fetchRequest]

/-- A fetch gives the invocation that was received, or its failure. -/
theorem receive_cases {met : Exchange} (hm : receive s met = (t,now)) :
    said (now.map .main) = [] ∧
    ((∃ inv, (Invocations.next.settle met).result = .ok inv ∧ t.phase = .handling inv) ∨
      ∃ cause, (Invocations.next.settle met).result = .error cause ∧
        t.phase = .stopped (.error (.fetch cause))) := by
  unfold receive at hm
  dsimp only at hm
  split at hm
  · next inv hv => cases hm; exact ⟨said_logs _,.inl ⟨inv,hv,rfl⟩⟩
  · next cause hv => cases hm; exact ⟨said_logs _,.inr ⟨cause,hv,rfl⟩⟩

/-- The report of a job is met, and the loop is idle again or stops with the error of the report. -/
theorem conclude_cases {job : Job} {met : Exchange} (hm : conclude s job met = (t,now)) :
    said (now.map .main) = [] ∧
    ((∃ o, (job.conclude met).1 = .ok o ∧ t.phase = .idle) ∨
      ∃ e, (job.conclude met).1 = .error e ∧ t.phase = .stopped (.error e)) := by
  unfold conclude at hm
  dsimp only at hm
  split at hm
  · next o hv => cases hm; exact ⟨said_logs _,.inl ⟨o,hv,rfl⟩⟩
  · next e hv => cases hm; exact ⟨said_logs _,.inr ⟨e,hv,rfl⟩⟩

/-- Handling an invocation that was fetched makes a turn of it. -/
theorem exists_turn {met : Exchange} {inv : Invocation} {job : Job} {scene : Scene}
    (hv : (Invocations.next.settle met).result = .ok inv)
    (hh : svc.pipeline.handle svc.handler inv s.scene = (job,scene,now)) :
    ∃ u : Turn svc, u.met = met ∧ u.job = job := by
  obtain ⟨fate,calls,he⟩ := svc.handler.exists_ends inv (svc.pipeline.opening inv s.scene)
  have hjob := Pipeline.handle_of_ends he
  rw [hh] at hjob
  exact ⟨⟨met,inv,s.scene,fate,calls,hv,he⟩,rfl,hjob.symm⟩

/-- The answer to the report of a turn completes a round or stops the loop. -/
theorem Rest.answer (u : Turn svc) {met : Exchange} (hm : conclude s u.job met = (t,now)) :
    (u.GoesOn met ∧ t.phase = .idle) ∨ svc.Rest t.phase (u.talk ++ [.heard met]) := by
  obtain ⟨-,hc⟩ := conclude_cases hm
  by_cases ha : met.Accepts
  · by_cases hf : ∃ c, u.fate = .panicked c
    · obtain ⟨c,hf⟩ := hf
      rw [u.conclude_of_panicked ha hf] at hc
      obtain ⟨_,ho,-⟩ | ⟨e,he,ht⟩ := hc
      · cases ho
      · cases he
        rw [ht]
        exact .inr (.panicked u ha hf)
    · obtain ⟨o,ho⟩ := u.conclude_of_goesOn ⟨ha,hf⟩
      rw [ho] at hc
      obtain ⟨_,-,ht⟩ | ⟨_,he,-⟩ := hc
      · exact .inl ⟨⟨ha,hf⟩,ht⟩
      · cases he
  · obtain ⟨cause,hcause⟩ := u.job.settle_of_not_accepts ha
    rw [u.job.conclude_of_settle_error hcause] at hc
    obtain ⟨_,ho,-⟩ | ⟨e,he,ht⟩ := hc
    · cases ho
    · cases he
      rw [ht]
      exact .inr (.reportFailed u ha hcause)

/-- A move of the loop continues the rest of the talk, or completes a round. -/
theorem Rest.move (hr : svc.Rest s.phase ws) (hm : svc.Move s e t now) :
    svc.Rest t.phase (ws ++ ((HostEvent.service e).heard ++ said (now.map .main))) ∨
    ∃ (u : Turn svc) (answer : Exchange), u.GoesOn answer ∧ t.phase = .idle ∧
      ws ++ ((HostEvent.service e).heard ++ said (now.map .main)) = u.talk ++ [.heard answer] := by
  cases hm with
  | told hp =>
    have hs : said ((stop s).2.map .main) = [] := said_logs [_]
    rw [hs]
    refine .inl (.told ?_)
    rcases hp with hp | hp
    · rw [hp] at hr
      cases hr
      exact .inl rfl
    · rw [hp] at hr
      cases hr
      exact .inr rfl
  | fetches hp =>
    rw [hp] at hr
    cases hr
    rw [said_fetch]
    exact .inl .fetching
  | fetched hp hm =>
    rw [hp] at hr
    cases hr
    obtain ⟨hs,⟨inv,hv,ht⟩ | ⟨cause,hv,ht⟩⟩ := receive_cases hm
    · rw [hs, ht]
      exact .inl (.handling hv)
    · rw [hs, ht]
      exact .inl (.fetchFailed hv)
  | handles hp hh =>
    rw [hp] at hr
    cases hr with
    | handling hv =>
      obtain ⟨u,rfl,rfl⟩ := exists_turn hv hh
      rw [said_handle hh]
      exact .inl (.handled u)
  | reports hp =>
    rw [hp] at hr
    cases hr with
    | handled u =>
      rw [said_send]
      exact .inl (.reporting u)
  | @reported job met _ _ hp hm =>
    rw [hp] at hr
    cases hr with
    | reporting u =>
      rw [(conclude_cases hm).1]
      obtain ⟨hg,ht⟩ | hrest := Rest.answer u hm
      · exact .inr ⟨u,met,hg,ht,rfl⟩
      · exact .inl hrest

/-- What alternates goes on alternating. -/
theorem Alternates.move (ha : svc.Alternates s.phase ws) (hm : svc.Move s e t now) :
    svc.Alternates t.phase (ws ++ ((HostEvent.service e).heard ++ said (now.map .main))) := by
  obtain ⟨rounds,rest,rfl,hg,hr⟩ := ha
  obtain hr | ⟨u,answer,hu,ht,hw⟩ := hr.move hm
  · exact ⟨rounds,_,List.append_assoc ..,hg,hr⟩
  · refine ⟨rounds ++ [(u,answer)],[],?_,?_,ht ▸ .idle⟩
    · rw [List.append_assoc, hw]
      simp
    · intro r hr
      rcases List.mem_append.mp hr with hr | hr
      · exact hg r hr
      · rw [List.mem_singleton.mp hr]
        exact hu

/-- Only a loop that is told to stop ends well. -/
theorem Move.told_of_stopped (hm : svc.Move s e t now) (ht : t.phase = .stopped (.ok ())) :
    e = .told := by
  cases hm with
  | told _ => rfl
  | fetches _ => cases ht
  | fetched _ hm =>
    obtain ⟨-,⟨_,-,h⟩ | ⟨_,-,h⟩⟩ := receive_cases hm
    · rw [h] at ht; cases ht
    · rw [h] at ht; cases ht
  | handles _ _ => cases ht
  | reports _ => cases ht
  | reported _ hm =>
    obtain ⟨-,⟨_,-,h⟩ | ⟨_,-,h⟩⟩ := conclude_cases hm
    · rw [h] at ht; cases ht
    · rw [h] at ht; cases ht

theorem Move.not_stopped {result : Except HostError Unit} (hm : svc.Move s e t now) :
    s.phase ≠ .stopped result := by
  intro hs
  cases hm with
  | told hp => rcases hp with hp | hp <;> cases hs.symm.trans hp
  | fetches hp => cases hs.symm.trans hp
  | fetched hp _ => cases hs.symm.trans hp
  | handles hp _ => cases hs.symm.trans hp
  | reports hp => cases hs.symm.trans hp
  | reported hp _ => cases hs.symm.trans hp

end Service

end InvocationHost
