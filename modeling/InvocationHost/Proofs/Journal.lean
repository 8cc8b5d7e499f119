import InvocationHost.Proofs.FailureBodies
import InvocationHost.Proofs.Notices

/-! # The journal of a host

The journal of a run holds, in their order, what passes between the host and the invocation API and the notices that
are written. An invocation that failed has one notice, between its fetch and its report, whatever the report meets
then; one that succeeded has none. A notice and the report behind it tell the same failure.
-/
namespace InvocationHost
open Api Http Json Machine Panic
open Extension (LaneActivity Startup)
variable {ι ο ε : Type}

inductive Entry
  | uttered (u : Utterance)
  | noted (e : Log.Event)

def Log.Event.recorded? (e : Log.Event) : Option Entry := if e.isNotice then some (.noted e) else none

def Extension.LaneActivity.recorded? : LaneActivity → Option Entry
  | .main (.request r) => if r.registers then none else some (.uttered (.said r))
  | .main (.log e) => e.recorded?
  | .loop _ (.log e) => e.recorded?
  | _ => none

/-- What activities add to the journal. -/
def written (activities : List LaneActivity) : List Entry := activities.filterMap (·.recorded?)

def journal (past : Past HostEvent LaneActivity) : List Entry :=
  past.flatMap fun p => p.1.heard.map .uttered ++ written p.2

theorem journal_append (xs ys : Past HostEvent LaneActivity) : journal (xs ++ ys) = journal xs ++ journal ys :=
  List.flatMap_append

theorem written_append (xs ys : List LaneActivity) : written (xs ++ ys) = written xs ++ written ys :=
  List.filterMap_append

theorem written_singleton {a : LaneActivity} (h : Quiet [a]) : written [a] = (said [a]).map .uttered := by
  have hunnoted (e : Log.Event) (he : a.log? = some e) : e.recorded? = none := by
    rw [Log.Event.recorded?, h e (by simp [he])]
    rfl
  cases a with
  | loop i b =>
    cases b with
    | log e =>
      have hnone : (LaneActivity.loop i (.log e)).recorded? = none := hunnoted e rfl
      exact List.filterMap_cons_none hnone
    | _ => rfl
  | main b =>
    cases b with
    | request r =>
      cases hr : r.registers <;>
        simp [written, LaneActivity.recorded?, said, Activity.ofMain, Activity.requests, Activity.request?, hr]
    | log e =>
      have hnone : (LaneActivity.main (.log e)).recorded? = none := hunnoted e rfl
      exact List.filterMap_cons_none hnone
    | _ => rfl

/-- Where no notice is written, the journal has what is said and nothing else. -/
theorem written_of_quiet {activities : List LaneActivity} (h : Quiet activities) :
    written activities = (said activities).map .uttered := by
  induction activities with
  | nil => rfl
  | cons a rest ih =>
    obtain ⟨ha,hrest⟩ := quiet_cons.mp h
    rw [← List.singleton_append, written_append, said_append, List.map_append, written_singleton ha, ih hrest]

theorem written_notices {es : List Log.Event} (h : ∀ e ∈ es, e.isNotice = true) :
    written ((es.map Activity.log).map .main) = es.map .noted := by
  induction es with
  | nil => rfl
  | cons e es ih =>
    have hnoted : e.recorded? = some (.noted e) := if_pos (h e List.mem_cons_self)
    have hhead : written [.main (.log e)] = [.noted e] := List.filterMap_cons_some hnoted
    change written ([.main (.log e)] ++ (es.map Activity.log).map .main) = [.noted e] ++ es.map .noted
    rw [written_append, hhead, ih fun f hf => h f (List.mem_cons_of_mem e hf)]

/-- A failure is posted under the identifier of its invocation. -/
theorem Job.posted_of_failure {job : Job} {f : Failure} (h : job.result = .error f) :
    job.posted.url = "/2018-06-01/runtime/invocation/" ++ job.id.text ++ "/error" ∧
      job.posted.body = some f.toJson := by
  rcases job with ⟨id,result⟩
  cases h
  exact ⟨rfl,rfl⟩

namespace Turn
variable {svc : Service ι ο ε} (t : Turn svc)

/-- The notices of a turn. -/
def notices : List Log.Event := svc.pipeline.failureLog t.job.id t.job.result

/-- The entries of a turn, up to its one report. -/
def entries : List Entry :=
  [.uttered (.said fetchRequest),.uttered (.heard t.met)] ++ t.notices.map .noted ++ [.uttered (.said t.job.posted)]

/-- A turn after which the loop does not go on ends it: by a panic that was reported, or by its report. -/
theorem conclude_of_not_goesOn {answer : Exchange} (h : ¬t.GoesOn answer) :
    (answer.Accepts ∧ ∃ c, t.fate = .panicked c ∧
      (t.job.conclude answer).1 = .error (.panicked t.inv.id (c.toFailure svc.pipeline.taxonomy))) ∨
    (¬answer.Accepts ∧ ∃ cause, (t.job.conclude answer).1 = .error (.report cause)) := by
  by_cases ha : answer.Accepts
  · obtain ⟨c,hc⟩ : ∃ c, t.fate = .panicked c := Classical.byContradiction fun hnot => h ⟨ha,hnot⟩
    exact .inl ⟨ha,c,hc,t.conclude_of_panicked ha hc⟩
  · exact .inr ⟨ha,t.job.conclude_of_not_accepts ha⟩

end Turn

namespace Service

/-- What the journal has since the last complete round, and why the loop has stopped. -/
inductive Page (svc : Service ι ο ε) : ServicePhase → List Entry → Prop
  | idle : Page svc .idle []
  | fetching : Page svc .fetching [.uttered (.said fetchRequest)]
  | handling {met inv} : (Invocations.next.settle met).result = .ok inv →
      Page svc (.handling inv) [.uttered (.said fetchRequest),.uttered (.heard met)]
  | handled (t : Turn svc) : Page svc (.handled t.job)
      ([.uttered (.said fetchRequest),.uttered (.heard t.met)] ++ t.notices.map .noted)
  | reporting (t : Turn svc) : Page svc (.reporting t.job) t.entries
  | told {ws} : ws = [] ∨ ws = [.uttered (.said fetchRequest)] → Page svc (.stopped (.ok ())) ws
  | fetchFailed {met cause} : (Invocations.next.settle met).result = .error cause →
      Page svc (.stopped (.error (.fetch cause))) [.uttered (.said fetchRequest),.uttered (.heard met)]
  | ended (t : Turn svc) {answer e} : ¬t.GoesOn answer → (t.job.conclude answer).1 = .error e →
      Page svc (.stopped (.error e)) (t.entries ++ [.uttered (.heard answer)])

/-- Some entries are those of complete rounds, all of which went on, and a page. -/
def Records (svc : Service ι ο ε) (phase : ServicePhase) (ws : List Entry) : Prop :=
  ∃ (rounds : List (Turn svc × Exchange)) (page : List Entry),
    ws = rounds.flatMap (fun r => r.1.entries ++ [.uttered (.heard r.2)]) ++ page ∧
    (∀ r ∈ rounds, r.1.GoesOn r.2) ∧ svc.Page phase page

variable {svc : Service ι ο ε} {s t : ServiceState} {e : ServiceEvent} {now : List Activity} {ws : List Entry}

/-- Handling an invocation writes the notices of its turn. -/
theorem written_handle {inv : Invocation} {job : Job} {scene : Scene}
    (hh : svc.pipeline.handle svc.handler inv s.scene = (job,scene,now)) :
    written (now.map .main) = (svc.pipeline.failureLog job.id job.result).map .noted := by
  cases hh
  have hcalls (cs : List Context) : written ((cs.map Activity.call).map .main) = [] := by
    simp [written, LaneActivity.recorded?, List.filterMap_map, Function.comp_def]
  have hnotices (result : Except Failure String) :
      ∀ e ∈ svc.pipeline.failureLog inv.id result, e.isNotice = true := by
    intro e he
    cases result with
    | ok body => cases he
    | error f =>
      rw [List.mem_singleton.mp he]
      rfl
  change written (([Activity.log (Pipeline.beginning inv.id)] ++ List.map Activity.call _ ++
    List.map Activity.log _).map .main) = _
  rw [List.map_append, List.map_append, written_append, written_append, hcalls, written_notices (hnotices _)]
  rfl

/-- A move of the loop that handles no invocation adds to the journal what is said and heard. -/
theorem written_of_move (hm : svc.Move s e t now) (he : e ≠ .handles) :
    written (now.map .main) = (said (now.map .main)).map .uttered := by
  refine written_of_quiet ?_
  cases hm with
  | told _ => exact quiet_stop s
  | fetches _ => exact quiet_fetch
  | fetched _ hm => exact quiet_receive hm
  | handles _ _ => exact absurd rfl he
  | reports _ => exact quiet_send _
  | reported _ hm => exact quiet_conclude hm

/-- The answer to the report of a turn completes a round or ends the loop with the error that it makes. -/
theorem Page.answer (u : Turn svc) {met : Exchange} (hm : conclude s u.job met = (t,now)) :
    (u.GoesOn met ∧ t.phase = .idle) ∨ svc.Page t.phase (u.entries ++ [.uttered (.heard met)]) := by
  obtain ⟨-,hc⟩ := conclude_cases hm
  by_cases hg : u.GoesOn met
  · obtain ⟨o,ho⟩ := u.conclude_of_goesOn hg
    rw [ho] at hc
    obtain ⟨_,-,ht⟩ | ⟨_,he,-⟩ := hc
    · exact .inl ⟨hg,ht⟩
    · cases he
  · obtain ⟨e,he⟩ : ∃ e, (u.job.conclude met).1 = .error e := by
      obtain ⟨-,_,-,he⟩ | ⟨-,_,he⟩ := u.conclude_of_not_goesOn hg <;> exact ⟨_,he⟩
    rw [he] at hc
    obtain ⟨_,ho,-⟩ | ⟨_,he',ht⟩ := hc
    · cases ho
    · cases he'
      rw [ht]
      exact .inr (.ended u hg he)

/-- A move of the loop continues the page, or completes a round. -/
theorem Page.move (hp : svc.Page s.phase ws) (hm : svc.Move s e t now) :
    svc.Page t.phase (ws ++ ((HostEvent.service e).heard.map .uttered ++ written (now.map .main))) ∨
    ∃ (u : Turn svc) (answer : Exchange), u.GoesOn answer ∧ t.phase = .idle ∧
      ws ++ ((HostEvent.service e).heard.map .uttered ++ written (now.map .main)) =
        u.entries ++ [.uttered (.heard answer)] := by
  have hwritten := written_of_move hm
  cases hm with
  | told hphase =>
    have hsaid : said ((stop s).2.map .main) = [] := said_logs [_]
    rw [hwritten (by simp), hsaid]
    refine .inl (.told ?_)
    rcases hphase with hphase | hphase
    · rw [hphase] at hp
      cases hp
      exact .inl rfl
    · rw [hphase] at hp
      cases hp
      exact .inr rfl
  | fetches hphase =>
    rw [hphase] at hp
    cases hp
    rw [hwritten (by simp), said_fetch]
    exact .inl .fetching
  | fetched hphase hm =>
    rw [hphase] at hp
    cases hp
    obtain ⟨hsaid,⟨inv,hv,ht⟩ | ⟨cause,hv,ht⟩⟩ := receive_cases hm
    · rw [hwritten (by simp), hsaid, ht]
      exact .inl (.handling hv)
    · rw [hwritten (by simp), hsaid, ht]
      exact .inl (.fetchFailed hv)
  | handles hphase hh =>
    rw [hphase] at hp
    cases hp with
    | handling hv =>
      obtain ⟨u,rfl,rfl⟩ := exists_turn hv hh
      rw [written_handle hh]
      exact .inl (.handled u)
  | reports hphase =>
    rw [hphase] at hp
    cases hp with
    | handled u =>
      rw [hwritten (by simp), said_send]
      exact .inl (.reporting u)
  | @reported job met _ _ hphase hm =>
    rw [hphase] at hp
    cases hp with
    | reporting u =>
      rw [hwritten (by simp), (conclude_cases hm).1]
      obtain ⟨hg,ht⟩ | hpage := Page.answer u hm
      · exact .inr ⟨u,met,hg,ht,rfl⟩
      · exact .inl hpage

/-- What is recorded goes on being recorded. -/
theorem Records.move (hr : svc.Records s.phase ws) (hm : svc.Move s e t now) :
    svc.Records t.phase (ws ++ ((HostEvent.service e).heard.map .uttered ++ written (now.map .main))) := by
  obtain ⟨rounds,page,rfl,hg,hp⟩ := hr
  obtain hp | ⟨u,answer,hu,ht,hw⟩ := hp.move hm
  · exact ⟨rounds,_,List.append_assoc ..,hg,hp⟩
  · refine ⟨rounds ++ [(u,answer)],[],?_,?_,ht ▸ .idle⟩
    · rw [List.append_assoc, hw]
      simp
    · intro r hr
      rcases List.mem_append.mp hr with hr | hr
      · exact hg r hr
      · rw [List.mem_singleton.mp hr]
        exact hu

end Service

/-- A start fails by an extension, not by a panic in an invocation. -/
def Extension.Startup.FailsPlainly (s : Startup) : Prop := ∀ e, s = .failed e → e.isFatalPanic = false

namespace Extension.Startup

theorem failsPlainly_next (registered : List Registered) (extensions : List Extension) :
    (next registered extensions).1.FailsPlainly := by
  intro cause hfailed
  cases extensions with
  | nil => cases hfailed
  | cons e rest =>
    simp only [next] at hfailed
    split at hfailed
    · cases hfailed
      rfl
    · cases hr : (registration e).request with
      | some r => simp [hr] at hfailed
      | none =>
        rw [hr] at hfailed
        cases hfailed
        rfl

theorem failsPlainly_answer (registered : List Registered) (e : Extension) (rest : List Extension) (met : Exchange) :
    ((registering registered e rest).answer met).1.FailsPlainly := by
  unfold answer
  dsimp only
  split
  · exact failsPlainly_next _ rest
  · intro cause hfailed
    cases hfailed
    rfl

end Extension.Startup

namespace Host
variable {svc : Service ι ο ε}

/-- A host that has come to its run has recorded what its loop did; before its run it has nothing to record. -/
inductive Recorded (svc : Service ι ο ε) : Host → List Entry → Prop
  | starting {registered e rest} : Recorded svc (.starting (.registering registered e rest)) []
  | failed {cause} : cause.isFatalPanic = false → Recorded svc (.failed cause) []
  | running {r ws} : svc.Records r.service.phase ws → Recorded svc (.running r) ws

theorem recorded_advance {p : Startup × List Activity} (hp : p.1.FailsPlainly) : Recorded svc (advance svc p).1 [] := by
  have hidle : svc.Records .idle [] := ⟨[],[],rfl,by simp,.idle⟩
  rcases p with ⟨_ | ⟨_ | _⟩ | cause,_⟩
  · exact .starting
  · exact .running hidle
  · exact .running hidle
  · exact .failed (hp cause rfl)

theorem Recorded.move {h k : Host} {e : HostEvent} {now : List LaneActivity} {ws : List Entry}
    (hk : Recorded svc h ws) (hm : Move svc h e k now) :
    Recorded svc k (ws ++ (e.heard.map .uttered ++ written now)) := by
  cases hm with
  | @registered s met _ _ hadv =>
    cases hk with
    | @starting registered e rest =>
      let s : Startup := .registering registered e rest
      have hstarts : ∀ a ∈ (advance svc (s.answer met)).2, a.Starts := starts_advance (s.starts_answer met)
      have hquiet : Quiet (advance svc (s.answer met)).2 := quiet_advance (s.quiet_answer met)
      have hrecorded : Recorded svc (advance svc (s.answer met)).1 [] :=
        recorded_advance (Startup.failsPlainly_answer registered e rest met)
      rw [hadv] at hstarts hquiet hrecorded
      rw [written_of_quiet hquiet, said_of_starts hstarts]
      exact hrecorded
  | service hp hm =>
    cases hk with
    | running hr => exact .running (hr.move hm)
  | @loop r m i _ _ _ _ hr hl hm =>
    cases hk with
    | running hrec =>
      have hsaid := said_lane i
      rw [written_of_quiet (hm.quiet i), hsaid]
      exact .running (by simpa [HostEvent.heard] using hrec)
  | shutdown hr hm =>
    cases hk with
    | running hrec =>
      rw [written_of_quiet hm.quiet, hm.said_eq_nil]
      exact .running (by simpa [HostEvent.heard] using hrec)

theorem recorded_of_run {extensions : List Extension} {past : Past HostEvent LaneActivity} {h : Host}
    (hr : Run (step? svc) (start svc extensions).1 past h) :
    Recorded svc h (written (start svc extensions).2 ++ journal past) := by
  induction hr with
  | refl =>
    rw [written_of_quiet (quiet_start extensions), said_of_starts (starts_start extensions)]
    exact recorded_advance (Startup.failsPlainly_next [] extensions)
  | step _ he ih =>
    rw [journal_append, ← List.append_assoc]
    have hk := ih.move (move_of_step he)
    simpa [journal] using hk

end Host

/-- The notice of an invocation whose failure is read as `f` from a body of that shape. -/
def noticeOf (env : Environment) (id : RequestId) (f : Failure) (body : Value) : Log.Event :=
  ⟨.error,"ferrule_engine::pipeline","invocation error",
    [("request_id",id.text),("function_name",env.functionName),("function_version",env.functionVersion),
     ("error_type",f.tag),("error_message",f.message),
     ("stack",if body.hasMember "stackTrace" then
        some ("\n".intercalate (f.stack.map fun frame => s!"{frame.label} ({frame.path}:{frame.line.toNat})"))
      else none)]⟩

namespace Turn
variable {options : Options} {env : Environment} {handler : Handler ι ο ε} (t : Turn (options.service env handler))

/-- The notices of an invocation agree with its report: there is none of a success, and one of a failure, which is
posted under the identifier that the notice has, and which is the failure that is read from the body. -/
def NoticesAgree : Prop :=
  (∀ output, t.job.result = .ok output → t.notices = []) ∧
  ∀ f, t.job.result = .error f →
    t.job.posted.url = "/2018-06-01/runtime/invocation/" ++ t.inv.id.text ++ "/error" ∧
    ∃ text body, t.job.posted.body = some text ∧ Failure.decode (.ofBytes (Text.utf8 text)) = .ok f ∧
      (Document.ofBytes (Text.utf8 text)).decode Value.decoder = .ok body ∧
      t.notices = [noticeOf env t.inv.id f body]

theorem noticesAgree : t.NoticesAgree := by
  refine ⟨fun output hr => by rw [notices, hr]; rfl,fun f hr => ?_⟩
  obtain ⟨body,hbody,hstack⟩ := f.exists_body
  obtain ⟨hurl,hposted⟩ := Job.posted_of_failure hr
  refine ⟨hurl,f.toJson,body,hposted,f.decode_toJson,hbody,?_⟩
  rw [notices, hr, noticeOf, hstack]
  rfl

end Turn

namespace Host

/-- The page ends with the accepted report of a contained panic. -/
def PanicReported (svc : Service ι ο ε) (page : List Entry) : Prop :=
  ∃ (t : Turn svc) (answer : Exchange) (c : Captured), page = t.entries ++ [.uttered (.heard answer)] ∧
    t.fate = .panicked c ∧ answer.Accepts

theorem not_panicReported_nil (svc : Service ι ο ε) : ¬PanicReported svc [] := by
  rintro ⟨t,answer,c,hpage,-⟩
  simp at hpage

/-- A loop that has stopped with an error has stopped for a panic just if the page has its accepted report. -/
theorem isFatalPanic_iff {svc : Service ι ο ε} {e : HostError} {page : List Entry}
    (hp : svc.Page (.stopped (.error e)) page) : e.isFatalPanic = true ↔ PanicReported svc page := by
  cases hp with
  | @fetchFailed met cause _ =>
    refine iff_of_false (by simp [HostError.isFatalPanic]) ?_
    rintro ⟨t,answer,c,hpage,-⟩
    have hlength := congrArg List.length hpage
    simp [Turn.entries] at hlength
  | @ended t answer _ hg he =>
    obtain ⟨ha,c,hc,hconclude⟩ | ⟨ha,cause,hconclude⟩ := t.conclude_of_not_goesOn hg
    · cases hconclude.symm.trans he
      exact iff_of_true rfl ⟨t,answer,c,rfl,hc,ha⟩
    · cases hconclude.symm.trans he
      refine iff_of_false (by simp [HostError.isFatalPanic]) ?_
      -- the page has one last answer, and that was refused
      rintro ⟨t',answer',c,hpage,-,ha'⟩
      obtain ⟨-,hlast⟩ := List.append_inj' hpage rfl
      cases hlast
      exact ha ha'

/-- What is logged at the end of a host, by whether it has stopped for a panic. -/
theorem farewell_error {e : HostError} {p : Prop} (h : e.isFatalPanic = true ↔ p) :
    (p → farewell (.error e) = []) ∧
    (¬p → farewell (.error e) = [⟨.error,"ferrule_engine::runtime","runtime stopped",[("error",e.message)]⟩]) := by
  rw [← h]
  exact ⟨fun hpanic => if_pos hpanic,fun hnot => if_neg hnot⟩

variable {options : Options} {env : Environment} {handler : Handler ι ο ε}

/-- **Notices and reports agree, and each notice is written before its report.** In every run the journal consists of
complete rounds and a page. A round is a fetch, the invocation that it meets, the notices of this invocation, its
report and the answer to it; the page is the part of such a round that has been come to, with the answer where the
report has been refused or tells of a panic. There are no notices of a success, and there is one of a failure, with
the identifier of the report, with the tag, the message and the frames that are read from its body, and with the name
and the version of the function from the environment. When the host ends with an error, it says so in one more notice,
unless the page ends with the accepted report of a panic. -/
theorem notices_agree {past : Past HostEvent LaneActivity} {h : Host}
    (hr : Run (step? (options.service env handler)) (start (options.service env handler) options.extensions).1 past h) :
    ∃ (rounds : List (Turn (options.service env handler) × Exchange)) (page : List Entry),
      written (start (options.service env handler) options.extensions).2 ++ journal past =
        rounds.flatMap (fun r => r.1.entries ++ [.uttered (.heard r.2)]) ++ page ∧
      (∀ r ∈ rounds, r.1.GoesOn r.2) ∧
      (match h with
        | .running r => (options.service env handler).Page r.service.phase page
        | _ => rounds = [] ∧ page = []) ∧
      (∀ t : Turn (options.service env handler), t.NoticesAgree) ∧
      (h.result? = some (.ok ()) → farewell (.ok ()) = []) ∧
      ∀ e, h.result? = some (.error e) →
        (PanicReported (options.service env handler) page → farewell (.error e) = []) ∧
        (¬PanicReported (options.service env handler) page → farewell (.error e) =
          [⟨.error,"ferrule_engine::runtime","runtime stopped",[("error",e.message)]⟩]) := by
  have hrecorded := recorded_of_run hr
  generalize written (start (options.service env handler) options.extensions).2 ++ journal past = ws at hrecorded ⊢
  cases hrecorded with
  | starting =>
    refine ⟨[],[],rfl,by simp,⟨rfl,rfl⟩,Turn.noticesAgree,fun _ => rfl,fun e he => ?_⟩
    cases he
  | failed hplain =>
    refine ⟨[],[],rfl,by simp,⟨rfl,rfl⟩,Turn.noticesAgree,fun _ => rfl,fun e he => ?_⟩
    cases he
    exact farewell_error (iff_of_false (by simp [hplain]) (not_panicReported_nil _))
  | @running r _ hrec =>
    obtain ⟨rounds,page,hw,hg,hpage⟩ := hrec
    refine ⟨rounds,page,hw,hg,hpage,Turn.noticesAgree,fun _ => rfl,fun e he => ?_⟩
    rw [ServiceState.result?_eq_some_iff.mp he] at hpage
    exact farewell_error (isFatalPanic_iff hpage)

/-- An invocation without a deadline fails, the report of its failure is refused, and the host says why it stops. -/
theorem notices_agree_past_refusal :
    let options : Options := {}
    let svc := options.service ⟨"127.0.0.1:9001",some "demo",some "7"⟩ Service.plain.handler
    let cause : HostError := .report (.unexpectedStatus .error 500)
    ∃ past r, Run (step? svc) (start svc options.extensions).1 past (.running r) ∧
      past.map Prod.fst =
        [.service .fetches,
         .service (.fetched (.answered ⟨200,[("Lambda-Runtime-Aws-Request-Id",[0x72,0x31])],[],true⟩)),
         .service .handles,.service .reports,.service (.reported (.answered ⟨500,[],[],true⟩))] ∧
      (running r).result? = some (.error cause) ∧
      ∃ (rounds : List (Turn svc × Exchange)) (page : List Entry),
        written (start svc options.extensions).2 ++ journal past =
          rounds.flatMap (fun r => r.1.entries ++ [.uttered (.heard r.2)]) ++ page ∧
        (∀ r ∈ rounds, r.1.GoesOn r.2) ∧ svc.Page r.service.phase page ∧ (∀ t : Turn svc, t.NoticesAgree) ∧
        ¬PanicReported svc page ∧ farewell (.error cause) =
          [⟨.error,"ferrule_engine::runtime","runtime stopped",[("error",cause.message)]⟩] := by
  intro options svc cause
  have hf : (follow (step? svc) (start svc options.extensions).1
      [.service .fetches,
       .service (.fetched (.answered ⟨200,[("Lambda-Runtime-Aws-Request-Id",[0x72,0x31])],[],true⟩)),
       .service .handles,.service .reports,.service (.reported (.answered ⟨500,[],[],true⟩))]).bind
        (fun p => match p.1 with
          | .running r => (running r).result?
          | .starting _ | .failed _ => none) = some (.error cause) := by
    rfl
  obtain ⟨⟨h,done⟩,hf,he⟩ := Option.bind_eq_some_iff.mp hf
  obtain ⟨past,hr,hes,-⟩ := run_of_follow hf
  cases h with
  | running r =>
    obtain ⟨rounds,page,hw,hg,hpage,hagree,-,hfarewell⟩ := notices_agree hr
    obtain ⟨hpanic,hother⟩ := hfarewell cause he
    have hnot : ¬PanicReported svc page := by
      intro hp
      cases hpanic hp
    exact ⟨past,r,hr,hes,he,rounds,page,hw,hg,hpage,hagree,hnot,hother hnot⟩
  | starting _ => cases he
  | failed _ => cases he

end Host
end InvocationHost
