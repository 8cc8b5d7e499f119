import InvocationHost.Proofs.Lanes

/-! # How extensions are enrolled

The start of a host goes through its extensions in their order: each runs its init hook and registers
before the next one is looked at. Either all of them are enrolled, and then the event loops and the
invocation loop begin together, or the first one that fails is the end of the host.
-/
namespace InvocationHost
open Api Http Machine
open Extension (Manager LaneActivity EventLoop Registered Startup Shutdown)
variable {ι ο ε : Type}

namespace Extension

/-- The init hook does not fail, if there is one. -/
def Inits (e : Extension) : Prop := ∀ reason, e.init ≠ some (.error reason)

theorem inits_or_fails (e : Extension) : e.Inits ∨ ∃ reason, e.init = some (.error reason) := by
  unfold Inits
  rcases e.init with _ | (reason | _)
  · exact .inl fun _ h => by cases h
  · exact .inr ⟨reason,rfl⟩
  · exact .inl fun _ h => by cases h

/-- An extension registers under its own name, for invoke events if it has a hook for them. -/
def registrationRequest (e : Extension) : Request where
  method := .post
  url := "/2020-01-01/extension/register"
  headers := [agentHeader,jsonHeader,("lambda-extension-name",e.name)]
  body := if e.onInvoke then "\x7b\"events\":[\"INVOKE\"]\x7d" else "\x7b\"events\":[]\x7d"

/-- An extension runs its init hook, if it has one, and then its registration is sent. -/
def attempt (e : Extension) : List Activity := Startup.initActivity e ++ [.request e.registrationRequest]

theorem Startup.request_registration (e : Extension) :
    (registration e).request = if isLegalValue e.name then some e.registrationRequest else none := by
  rcases e with ⟨name,init,onInvoke,onTermination⟩
  cases onInvoke <;> rfl

end Extension

/-- An extension that has been registered: its init hook did not fail, its name could be sent, and the
registration met the reply that issued its identifier. -/
structure Enrolment where
  extension : Extension
  met : Exchange
  id : ExtensionId
  inits : extension.Inits
  legal : isLegalValue extension.name = true
  issued : ((Startup.registration extension).settle met).result = .ok id

namespace Enrolment
variable (u : Enrolment)

def registered : Registered := (u.id,u.extension)

def event : HostEvent := .registered u.met

/-- The event loop of the extension, at its first poll. -/
def eventLoop : EventLoop := { id := u.id, extension := u.extension }

def answered : List Activity :=
  ((Startup.registration u.extension).settle u.met).log.map .log ++
    [.log (Startup.registeredEvent u.extension)]

def activities : List Activity := u.extension.attempt ++ u.answered

end Enrolment

namespace Extension.Startup
variable {registered : List Registered} {e : Extension} {rest : List Extension}

/-- What ends a start at an extension: its init hook fails, its name cannot be sent, or its registration
does. With it go what its registration met, if it was sent, and what was done. -/
inductive Fails (e : Extension) : List Exchange → HostError → List Activity → Prop
  | init {reason} : e.init = some (.error reason) → Fails e [] (.extensionInit e.name reason) [.init e.name]
  | unsendable : e.Inits → isLegalValue e.name = false →
      Fails e [] (.extensionRegister e.name (.request .register Call.unsendable)) (initActivity e)
  | refused {met cause} : e.Inits → isLegalValue e.name = true →
      ((registration e).settle met).result = .error cause →
      Fails e [met] (.extensionRegister e.name cause)
        (e.attempt ++ ((registration e).settle met).log.map .log)

theorem sends_or_fails (e : Extension) :
    (e.Inits ∧ isLegalValue e.name = true) ∨ ∃ cause acts, Fails e [] cause acts := by
  rcases e.inits_or_fails with h | ⟨reason,h⟩
  · cases hl : isLegalValue e.name with
    | true => exact .inl ⟨h,rfl⟩
    | false => exact .inr ⟨_,_,.unsendable h hl⟩
  · exact .inr ⟨_,_,.init h⟩

theorem next_of_init_fails {reason : String} (h : e.init = some (.error reason)) :
    next registered (e :: rest) = (.failed (.extensionInit e.name reason),[.init e.name]) := by
  simp [next, initActivity, h]

theorem next_of_inits (h : e.Inits) :
    next registered (e :: rest) =
      if isLegalValue e.name then
        (.registering registered e rest,e.attempt)
      else (.failed (.extensionRegister e.name (.request .register Call.unsendable)),initActivity e) := by
  simp only [next, request_registration]
  split
  · next reason hinit => exact absurd hinit (h reason)
  · cases isLegalValue e.name <;> rfl

theorem answer_of_issued (u : Enrolment) :
    answer (.registering registered u.extension rest) u.met =
      ((next (registered ++ [u.registered]) rest).1,
        u.answered ++ (next (registered ++ [u.registered]) rest).2) := by
  simp [answer, u.issued, Enrolment.registered, Enrolment.answered]

theorem answer_of_refused {met : Exchange} {cause : TransportError}
    (h : ((registration e).settle met).result = .error cause) :
    answer (.registering registered e rest) met =
      (.failed (.extensionRegister e.name cause),((registration e).settle met).log.map .log) := by
  simp [answer, h]

end Extension.Startup

/-- The first polls of the event loops of some extensions, the first of which has this index. -/
def polls (us : List Enrolment) (i : Nat) : List LaneActivity :=
  (us.zipIdx i).map fun p => .loop p.2 (.poll p.1.id)

/-- A host whose extensions are enrolled, before anything else has happened in it. -/
def Running.ofEnrolments (us : List Enrolment) : Running where
  manager := if us.isEmpty then none
    else some ⟨us.map (·.eventLoop),.ofRegistered (us.map (·.registered))⟩

theorem Extension.Manager.start_enrolled (us : List Enrolment) :
    Manager.start (us.map (·.registered)) =
      (⟨us.map (·.eventLoop),.ofRegistered (us.map (·.registered))⟩,polls us 0) := by
  have hloops : (us.map (·.registered)).map EventLoop.start = us.map fun u => (u.eventLoop,[.poll u.id]) := by
    simp [EventLoop.start, EventLoop.poll, Enrolment.registered, Enrolment.eventLoop]
  have hpolls (us : List Enrolment) (i : Nat) :
      ((us.map fun u => (u.eventLoop,[LoopActivity.poll u.id])).zipIdx i).flatMap
        (fun p => p.1.2.map (LaneActivity.loop p.2)) = polls us i := by
    induction us generalizing i with
    | nil => rfl
    | cons u us ih => simpa [polls] using ih (i + 1)
  simp only [start, hloops, hpolls, List.map_map]
  rfl

namespace Host
variable {svc : Service ι ο ε} {extensions : List Extension}

/-- The host once these extensions are enrolled and the rest are to come, and what it has done last to get
there: it runs, or the next one is on its way or has ended the start. -/
def reaches (svc : Service ι ο ε) (us : List Enrolment) (rest : List Extension) : Host × List LaneActivity :=
  advance svc (Startup.next (us.map (·.registered)) rest)

theorem reaches_nil (us : List Enrolment) :
    reaches svc us [] = (.running (.ofEnrolments us),polls us 0 ++ [.main svc.started]) := by
  cases us with
  | nil => rfl
  | cons u us =>
    have hs := Manager.start_enrolled (u :: us)
    simp only [List.map_cons] at hs
    simp [reaches, Startup.next, advance, ofStartup, hs, Running.ofEnrolments]

theorem reaches_of_fails {us : List Enrolment} {e : Extension} {rest : List Extension} {cause : HostError}
    {acts : List Activity} (h : Startup.Fails e [] cause acts) :
    reaches svc us (e :: rest) = (.failed cause,acts.map .main) := by
  cases h with
  | init h => simp [reaches, Startup.next_of_init_fails h, advance, ofStartup]
  | unsendable h hl => simp [reaches, Startup.next_of_inits h, hl, advance, ofStartup]

theorem reaches_of_legal {us : List Enrolment} {e : Extension} {rest : List Extension}
    (h : e.Inits) (hl : isLegalValue e.name = true) :
    reaches svc us (e :: rest) =
      (.starting (.registering (us.map (·.registered)) e rest),
        e.attempt.map .main) := by
  simp [reaches, Startup.next_of_inits h, hl, advance, ofStartup]

theorem step?_of_enrolment (us : List Enrolment) (u : Enrolment) (rest : List Extension) :
    step? svc (reaches svc us (u.extension :: rest)).1 u.event =
      some ((reaches svc (us ++ [u]) rest).1,u.answered.map .main ++ (reaches svc (us ++ [u]) rest).2) := by
  rw [reaches_of_legal u.inits u.legal]
  simp [step?, Enrolment.event, Startup.answer_of_issued, reaches, advance]

/-- The replies that issue identifiers take the host through the extensions that they are for. -/
theorem follow_enrolments (us₀ us : List Enrolment) (rest : List Extension) :
    ∃ done, follow (step? svc) (reaches svc us₀ (us.map (·.extension) ++ rest)).1 (us.map (·.event)) =
        some ((reaches svc (us₀ ++ us) rest).1,done) ∧
      (reaches svc us₀ (us.map (·.extension) ++ rest)).2 ++ done =
        (us.flatMap (·.activities)).map .main ++ (reaches svc (us₀ ++ us) rest).2 := by
  -- After each reply the host is where it was, with one more extension enrolled.
  induction us generalizing us₀ with
  | nil => exact ⟨[],by simp [follow],by simp⟩
  | cons u us ih =>
    obtain ⟨done,hfollow,hdone⟩ := ih (us₀ ++ [u])
    rw [List.append_assoc, List.singleton_append] at hfollow hdone
    have hfirst : (reaches svc us₀ (u.extension :: (us.map (·.extension) ++ rest))).2 =
        u.extension.attempt.map .main := by
      rw [reaches_of_legal u.inits u.legal]
    refine ⟨u.answered.map .main ++ (reaches svc (us₀ ++ [u]) (us.map (·.extension) ++ rest)).2 ++ done,?_,?_⟩
    · simp [follow, step?_of_enrolment, hfollow]
    · rw [List.append_assoc, hdone]
      simp [hfirst, Enrolment.activities]

/-- How far the start of a host has come: some extensions are enrolled and the others are to come, or the
registration of one has been refused, or all are enrolled and the host runs. -/
inductive Course (svc : Service ι ο ε) (extensions : List Extension) : Past HostEvent LaneActivity → Host → Prop
  | reaches {us : List Enrolment} {e rest past} : us.map (·.extension) ++ e :: rest = extensions →
      past.map Prod.fst = us.map (·.event) → Course svc extensions past (reaches svc us (e :: rest)).1
  | refused {us : List Enrolment} {e rest past met cause} :
      us.map (·.extension) ++ e :: rest = extensions → e.Inits → isLegalValue e.name = true →
      ((Startup.registration e).settle met).result = .error cause →
      past.map Prod.fst = us.map (·.event) ++ [.registered met] →
      Course svc extensions past (.failed (.extensionRegister e.name cause))
  | running {us : List Enrolment} {first later r} :
      us.map (·.extension) = extensions → first.map Prod.fst = us.map (·.event) →
      Run (step? svc) (.running (.ofEnrolments us)) later (.running r) →
      Course svc extensions (first ++ later) (.running r)

theorem Course.enrolled {us : List Enrolment} {rest : List Extension} {past : Past HostEvent LaneActivity}
    (hus : us.map (·.extension) ++ rest = extensions) (hpast : past.map Prod.fst = us.map (·.event)) :
    Course svc extensions past (Host.reaches svc us rest).1 := by
  cases rest with
  | nil =>
    rw [List.append_nil] at hus
    rw [reaches_nil, ← List.append_nil past]
    exact .running hus hpast .refl
  | cons e rest => exact .reaches hus hpast

theorem Course.step {h k : Host} {e : HostEvent} {now : List LaneActivity} {past : Past HostEvent LaneActivity}
    (hc : Course svc extensions past h) (he : step? svc h e = some (k,now)) :
    Course svc extensions (past ++ [(e,now)]) k := by
  cases hc with
  | @reaches us x rest _ hus hpast =>
    rcases Startup.sends_or_fails x with ⟨hx,hl⟩ | ⟨cause,acts,hfails⟩
    · cases e with
      | registered met =>
        cases hv : ((Startup.registration x).settle met).result with
        | ok id =>
          let u : Enrolment := ⟨x,met,id,hx,hl,hv⟩
          have hstep : step? svc _ u.event = _ := step?_of_enrolment us u rest
          cases Option.some.inj (he.symm.trans hstep)
          exact .enrolled (by simpa [u] using hus) (by simp [hpast, u, Enrolment.event])
        | error cause =>
          rw [reaches_of_legal hx hl] at he
          simp only [step?, Startup.answer_of_refused hv, advance, ofStartup] at he
          cases he
          exact .refused hus hx hl hv (by simp [hpast])
      | service e =>
        rw [reaches_of_legal hx hl] at he
        cases he
      | manager e =>
        rw [reaches_of_legal hx hl] at he
        cases he
    · rw [reaches_of_fails hfails] at he
      cases e <;> cases he
  | refused _ _ _ _ _ => cases e <;> cases he
  | running hus hpast hrun =>
    obtain ⟨r,rfl,-⟩ := served_of_run (Run.single he)
    rw [List.append_assoc]
    exact .running hus hpast (hrun.step he)

theorem course_of_run {past : Past HostEvent LaneActivity} {h : Host}
    (hr : Run (step? svc) (start svc extensions).1 past h) : Course svc extensions past h := by
  induction hr with
  | refl =>
    have hstart : Course svc extensions [] (reaches svc [] extensions).1 := .enrolled rfl rfl
    exact hstart
  | step _ he ih => exact ih.step he

theorem start_enrolments (svc : Service ι ο ε) {us : List Enrolment} {rest : List Extension}
    (hus : us.map (·.extension) ++ rest = extensions) :
    ∃ done, follow (step? svc) (start svc extensions).1 (us.map (·.event)) = some ((reaches svc us rest).1,done) ∧
      (start svc extensions).2 ++ done = (us.flatMap (·.activities)).map .main ++ (reaches svc us rest).2 := by
  subst hus
  exact follow_enrolments [] us rest

theorem Course.exists_fails {past : Past HostEvent LaneActivity} {cause : HostError}
    (hc : Course svc extensions past (.failed cause)) :
    ∃ (us : List Enrolment) (e : Extension) (rest : List Extension) (mets : List Exchange)
      (acts : List Activity), us.map (·.extension) ++ e :: rest = extensions ∧
        Startup.Fails e mets cause acts ∧
        past.map Prod.fst = us.map (·.event) ++ mets.map .registered := by
  generalize hh : Host.failed cause = h at hc
  cases hc with
  | @reaches us e rest _ hus hpast =>
    rcases Startup.sends_or_fails e with ⟨he,hl⟩ | ⟨cause',acts,hfails⟩
    · rw [reaches_of_legal he hl] at hh
      cases hh
    · rw [reaches_of_fails hfails] at hh
      cases hh
      exact ⟨us,e,rest,[],acts,hus,hfails,by simpa using hpast⟩
  | @refused us e rest _ met _ hus he hl hv hpast =>
    cases hh
    exact ⟨us,e,rest,[met],_,hus,.refused he hl hv,by simpa using hpast⟩
  | running _ _ _ => cases hh

theorem Course.exists_enrolments {past : Past HostEvent LaneActivity} {r : Running}
    (hc : Course svc extensions past (.running r)) :
    ∃ (us : List Enrolment) (first later : Past HostEvent LaneActivity), past = first ++ later ∧
      us.map (·.extension) = extensions ∧ first.map Prod.fst = us.map (·.event) ∧
      Run (step? svc) (.running (.ofEnrolments us)) later (.running r) := by
  generalize hh : Host.running r = h at hc
  cases hc with
  | @reaches us e rest _ _ _ =>
    rcases Startup.sends_or_fails e with ⟨he,hl⟩ | ⟨cause,acts,hfails⟩
    · rw [reaches_of_legal he hl] at hh
      cases hh
    · rw [reaches_of_fails hfails] at hh
      cases hh
  | refused _ _ _ _ _ => cases hh
  | @running us first later _ hus hfirst hrun =>
    cases hh
    exact ⟨us,first,later,rfl,hus,hfirst,hrun⟩

/-- A host that runs has been through the start of all its extensions. -/
theorem enrolled_of_run {past : Past HostEvent LaneActivity} {r : Running}
    (hr : Run (step? svc) (start svc extensions).1 past (.running r)) :
    ∃ (us : List Enrolment) (first later : Past HostEvent LaneActivity), past = first ++ later ∧
      us.map (·.extension) = extensions ∧ first.map Prod.fst = us.map (·.event) ∧
      (start svc extensions).2 ++ first.flatMap Prod.snd =
        (us.flatMap (·.activities)).map .main ++ (polls us 0 ++ [.main svc.started]) ∧
      Run (step? svc) (.running (.ofEnrolments us)) later (.running r) := by
  obtain ⟨us,first,later,rfl,hus,hfirst,hlater⟩ := (course_of_run hr).exists_enrolments
  -- Machines are deterministic: what was done first is what these registrations do.
  obtain ⟨s,hrun,-⟩ := hr.split
  have hstart := start_enrolments svc ((List.append_nil _).trans hus)
  rw [reaches_nil] at hstart
  obtain ⟨done,hfollow,hdone⟩ := hstart
  have hsame := follow_of_run hrun
  rw [hfirst, hfollow] at hsame
  cases hsame
  exact ⟨us,first,later,rfl,hus,hfirst,hdone,hlater⟩

/-- A host that is not given what it asks for has failed for this reason, and neither then nor later does it do
anything. -/
theorem idle_of_launch_refused {svc : Service ι ο ε} {p : Provision} {extensions : List Extension} {cause : HostError}
    {past : Past HostEvent LaneActivity} {h : Host} (hp : p.check extensions = .error cause)
    (hr : Run (step? svc) (launch p svc extensions).1 past h) :
    h = .failed cause ∧ (launch p svc extensions).2 = [] ∧ past = [] := by
  have hlaunch : launch p svc extensions = (.failed cause,[]) := by rw [launch, hp]
  rw [hlaunch] at hr ⊢
  have hidle : h = .failed cause ∧ past = [] := by
    induction hr with
    | refl => exact ⟨rfl,rfl⟩
    | @step _ _ e _ _ _ he ih =>
      rw [ih.1] at he
      cases e <;> cases he
  exact ⟨hidle.1,rfl,hidle.2⟩

/-- The first extension is enrolled, and the init hook of the second one fails. -/
example : (follow (step? Service.plain) (start Service.plain
      [{ name := "logs" },{ name := "traces", init := some (.error "no config") },{ name := "spans" }]).1
      [.registered (.answered ⟨200,[("Lambda-Extension-Identifier",[0x31])],[],true⟩)]).map
        (fun p => p.1.result?) = some (some (.error (.extensionInit "traces" "no config"))) := by
  rfl

end Host
end InvocationHost
