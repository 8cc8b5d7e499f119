import InvocationHost.Proofs.Alternation
import InvocationHost.Proofs.Lanes
import InvocationHost.Proofs.UserPart

/-! # The trace slot

With propagation switched on, a pipeline puts the token of an invocation into a slot that the whole process can
read, before it looks at anything else of the invocation. User code reads the slot and never writes it, so
that what is read is always the token of the invocation that was taken up last. The context of an
invocation gives its token too, but takes an empty one for none.
-/
namespace InvocationHost
open Machine Panic
variable {ι ο ε : Type}

namespace Panic.Program

/-- What a program reads in the slot on its way. -/
def readings : Program α → Scene → List (Option String)
  | .done _, _ => []
  | .erupt _, _ => []
  | .pause next, s => readings next s.resume
  | .readToken next, s => s.token :: readings (next s.token) s
  | .catching body after, s => readings body s ++ readings (after (body.run s).1) (body.run s).2
  | .containing body after, s =>
    let left := (body.run s.enter).2.close (body.run s.enter).1
    readings body s.enter ++ readings (after left.1) left.2

/-- User code reads what is in the slot when it begins. -/
theorem eq_of_mem_readings {p : Program α} {s : Scene} {x : Option String} (hx : x ∈ p.readings s) :
    x = s.token := by
  induction p generalizing s with
  | done a => cases hx
  | erupt e => cases hx
  | pause next ih => exact (ih hx).trans s.token_resume
  | readToken next ih =>
    rcases List.mem_cons.mp hx with rfl | hx
    · rfl
    · exact ih s.token hx
  | catching body after hbody hafter =>
    rcases List.mem_append.mp hx with hx | hx
    · exact hbody hx
    · exact (hafter _ hx).trans (body.run_keeps s).2
  | containing body after hbody hafter =>
    rcases List.mem_append.mp hx with hx | hx
    · exact hbody (s := s.enter) hx
    · exact (hafter _ hx).trans ((Scene.token_close _ _).trans (body.run_keeps s.enter).2)

end Panic.Program

namespace Pipeline
variable {p : Pipeline} {h : Handler ι ο ε} {inv : Invocation} {s t : Scene} {ctx : Context}

theorem token_publish_of_on (hp : p.publishesToken = true) : (p.publish inv s).token = inv.metadata.traceId := by
  simp only [publish, if_pos hp]
  rfl

theorem token_publish_of_off (hp : p.publishesToken = false) : (p.publish inv s).token = s.token := by
  simp [publish, hp]

/-- While the handler runs, the slot holds the token of its context. -/
def Agrees (p : Pipeline) (h : Handler ι ο ε) (inv : Invocation) (s : Scene) : Prop :=
  ∀ ctx input t, h.Decodes inv (p.opening inv s) ctx input t →
    t.token = ctx.traceId ∧ ∀ x ∈ (h.call ctx input).readings (t.call ctx), x = ctx.traceId

theorem token_of_decodes {input : ι} (hd : h.Decodes inv (p.opening inv s) ctx input t) :
    t.token = (p.opening inv s).token := by
  have hrun := (h.decode inv.payload).run_keeps (p.opening inv s)
  rw [hd.2] at hrun
  exact hrun.2

/-- A pipeline handles invocations one after the other, each by some handler; other code runs meanwhile. -/
inductive Course (p : Pipeline) (s₀ : Scene) : List Invocation → Scene → Prop
  | refl : Course p s₀ [] s₀
  | handled {past s} {ι ο ε : Type} (h : Handler ι ο ε) (inv : Invocation) : Course p s₀ past s →
      Course p s₀ (past ++ [inv]) (p.handle h inv s).2.1
  | meanwhile {past s t} : Course p s₀ past s → s.Meanwhile t → Course p s₀ past t

namespace Course
variable {s₀ : Scene} {past : List Invocation}

theorem token_of_on (hc : p.Course s₀ past s) (hp : p.publishesToken = true) {latest : Invocation}
    (hl : past.getLast? = some latest) : s.token = latest.metadata.traceId := by
  induction hc with
  | refl => cases hl
  | handled h inv _ _ =>
    rw [List.getLast?_concat] at hl
    cases hl
    exact (execute_keeps _ _).2.trans (token_publish_of_on hp)
  | meanwhile _ hu ih => exact hu.token.trans (ih hl)

theorem token_of_off (hc : p.Course s₀ past s) (hp : p.publishesToken = false) : s.token = s₀.token := by
  induction hc with
  | refl => rfl
  | handled h inv _ ih => exact ((execute_keeps inv _).2.trans (token_publish_of_off hp)).trans ih
  | meanwhile _ hu ih => exact hu.token.trans ih

theorem depth_eq (hc : p.Course s₀ past s) : s.depth = s₀.depth := by
  induction hc with
  | refl => rfl
  | handled h inv _ ih => exact (execute_keeps inv _).1.trans ih
  | meanwhile _ hu ih => exact hu.depth.trans ih

end Course

theorem readings_userCode {x : Option String}
    (hx : x ∈ (p.userCode h ctx inv.payload).readings (p.opening inv s)) :
    x = (p.publish inv { s with calls := [] }).token :=
  Program.eq_of_mem_readings (s := p.opening inv s) hx

/-- A context has the token of its invocation, but an empty one is none to it. -/
theorem traceId_eq_iff (hctx : ctx.Reads inv) :
    inv.metadata.traceId = ctx.traceId ↔ inv.metadata.traceId ≠ some "" := by
  rw [hctx.traceId]
  cases inv.metadata.traceId with
  | none => simp
  | some token => by_cases ht : token = "" <;> simp [Option.filter, ht]

end Pipeline

/-- The invocation that the loop was given and has not handled yet. -/
def ServicePhase.inHand : ServicePhase → List Invocation
  | .handling inv => [inv]
  | _ => []

namespace Service
variable {svc : Service ι ο ε} {s t : ServiceState} {e : ServiceEvent} {now : List Activity}

/-- The invocations that the loop was given. -/
def given (past : Past ServiceEvent Activity) : List Invocation :=
  past.filterMap fun
    | (.fetched met,_) => (Api.Invocations.next.settle met).result.toOption
    | _ => none

theorem given_append (xs ys : Past ServiceEvent Activity) : given (xs ++ ys) = given xs ++ given ys :=
  List.filterMap_append

theorem scene_of_receive {met : Http.Exchange} (hr : receive s met = (t,now)) : t.scene = s.scene := by
  unfold receive at hr
  dsimp only at hr
  split at hr <;> cases hr <;> rfl

theorem scene_of_conclude {job : Job} {met : Http.Exchange} (hr : conclude s job met = (t,now)) :
    t.scene = s.scene := by
  unfold conclude at hr
  dsimp only at hr
  split at hr <;> cases hr <;> rfl

/-- What the loop was given stays in its hands until it is handled, and nothing else touches the scene. -/
theorem Move.course {s₀ : Scene} {handled : List Invocation} (hm : svc.Move s e t now)
    (hc : svc.pipeline.Course s₀ handled s.scene) :
    ∃ more, svc.pipeline.Course s₀ (handled ++ more) t.scene ∧
      s.phase.inHand ++ given [(e,now)] = more ++ t.phase.inHand := by
  have hkept {u : ServiceState} (hu : u.scene = s.scene) : svc.pipeline.Course s₀ (handled ++ []) u.scene := by
    rw [List.append_nil, hu]
    exact hc
  cases hm with
  | told hp => exact ⟨[],hkept rfl,by rcases hp with hp | hp <;> rw [hp] <;> rfl⟩
  | fetches hp => exact ⟨[],hkept rfl,by rw [hp]; rfl⟩
  | @fetched met _ _ hp hr =>
    refine ⟨[],hkept (scene_of_receive hr),?_⟩
    obtain ⟨-,⟨inv,hinv,ht⟩ | ⟨cause,hcause,ht⟩⟩ := receive_cases hr
    · simp [hp, ht, given, hinv, ServicePhase.inHand, Except.toOption]
    · simp [hp, ht, given, hcause, ServicePhase.inHand, Except.toOption]
  | @handles inv job scene _ hp hh =>
    refine ⟨[inv],?_,by rw [hp]; rfl⟩
    have hnext := hc.handled svc.handler inv
    rw [hh] at hnext
    exact hnext
  | reports hp => exact ⟨[],hkept rfl,by rw [hp]; rfl⟩
  | @reported job met _ _ hp hr =>
    refine ⟨[],hkept (scene_of_conclude hr),?_⟩
    obtain ⟨-,⟨o,-,ht⟩ | ⟨cause,-,ht⟩⟩ := conclude_cases hr <;> rw [hp, ht] <;> rfl

/-- A loop handles what it is given, one invocation after the other. -/
theorem course_of_run {past : Past ServiceEvent Activity} (hr : Run svc.step? s past t) (hs : s.phase.inHand = []) :
    ∃ handled, svc.pipeline.Course s.scene handled t.scene ∧ given past = handled ++ t.phase.inHand := by
  induction hr with
  | refl => exact ⟨[],.refl,by rw [hs]; rfl⟩
  | step _ he ih =>
    obtain ⟨handled,hc,hgiven⟩ := ih
    obtain ⟨more,hcourse,hmore⟩ := (step?_eq_some_iff.mp he).course hc
    exact ⟨handled ++ more,hcourse,by rw [given_append, hgiven, List.append_assoc, hmore, List.append_assoc]⟩

end Service

namespace Pipeline

/-- **The slot holds the token of the invocation that was taken up last.** Whatever invocations a pipeline has
handled, with propagation the slot holds the token of the last of them, be it none; a further invocation
replaces it even where its metadata cannot be read, and all that its user code reads in the slot is its own
token. This is the token of its context, unless the token is empty: then the slot holds the empty token
and the context has none. Without propagation nothing ever changes the slot. The loop of a host handles
the invocations that it is given in this way. -/
theorem slot_follows (p : Pipeline) (h : Handler ι ο ε) :
    (p.publishesToken = true → ∀ s₀ past s, p.Course s₀ past s →
      (∀ latest, past.getLast? = some latest → s.token = latest.metadata.traceId) ∧
      ∀ inv, (p.handle h inv s).2.1.token = inv.metadata.traceId ∧
        (∀ ctx : Context, ctx.Reads inv →
          ∀ x ∈ (p.userCode h ctx inv.payload).readings (p.opening inv s), x = inv.metadata.traceId) ∧
        (inv.metadata.traceId ≠ some "" → p.Agrees h inv s) ∧
        (inv.metadata.traceId = some "" → ∀ ctx input t, h.Decodes inv (p.opening inv s) ctx input t →
          t.token = some "" ∧ ctx.traceId = none)) ∧
    (p.publishesToken = false → ∀ s₀ past s, p.Course s₀ past s →
      s.token = s₀.token ∧
      ∀ inv, (p.handle h inv s).2.1.token = s₀.token ∧
        ∀ ctx : Context, ctx.Reads inv →
          ∀ x ∈ (p.userCode h ctx inv.payload).readings (p.opening inv s), x = s₀.token) ∧
    ∀ svc : Service ι ο ε, svc.pipeline = p → ∀ extensions past r,
      Run (Host.step? svc) (Host.start svc extensions).1 past (.running r) →
      ∃ handled, p.Course {} handled r.service.scene ∧
        Service.given (served past) = handled ++ r.service.phase.inHand := by
  refine ⟨fun hp s₀ past s hc => ⟨fun latest hl => hc.token_of_on hp hl,fun inv => ?_⟩,
    fun hp s₀ past s hc => ⟨hc.token_of_off hp,fun inv => ⟨(hc.handled h inv).token_of_off hp,?_⟩⟩,?_⟩
  · have hopening : (p.opening inv s).token = inv.metadata.traceId := token_publish_of_on hp
    refine ⟨(hc.handled h inv).token_of_on hp (List.getLast?_concat ..),
      fun ctx _ x hx => (readings_userCode hx).trans hopening,fun hne ctx input t hd => ?_,
      fun hempty ctx input t hd => ⟨?_,?_⟩⟩
    · have htoken : t.token = ctx.traceId :=
        (token_of_decodes hd).trans (hopening.trans ((traceId_eq_iff hd.1).mpr hne))
      exact ⟨htoken,fun x hx => (Program.eq_of_mem_readings hx).trans htoken⟩
    · exact (token_of_decodes hd).trans (hopening.trans hempty)
    · rw [hd.1.traceId, hempty]
      rfl
  · intro ctx _ x hx
    exact (readings_userCode hx).trans ((token_publish_of_off hp).trans (hc.token_of_off hp))
  · rintro svc rfl extensions past r hr
    exact Service.course_of_run (Host.serves_of_run hr) rfl

/-- A pipeline with propagation. -/
def propagating : Pipeline := { publishesToken := true }

end Pipeline

/-- Answers with what is in the slot. -/
def Handler.slotReader : Handler Unit (Option String) String where
  errorType := "String"
  decode := fun _ => .done (.ok ())
  call := fun _ _ => .readToken fun token => .done (.ok token)
  describe := .done
  encode := fun token => .done (.ok (token.getD ""))

def Invocation.carrying (token : Option String) : Invocation where
  id := ⟨"1"⟩
  payload := []
  metadata := { deadline := some "5", traceId := token }

namespace Pipeline

/-- Behind an invocation with a token, one without a deadline has none, and the slot follows. -/
theorem slot_follows_past_failure :
    ∃ s, propagating.Course {} [.carrying (some "a"),⟨⟨"2"⟩,[],{}⟩] s ∧ s.token = none ∧
      propagating.Agrees .slotReader (.carrying (some "b")) s ∧
      (propagating.handle .slotReader (.carrying (some "b")) s).2.1.token = some "b" := by
  have hfirst : propagating.Course {} [] {} := .refl
  have hc := (hfirst.handled .slotReader (.carrying (some "a"))).handled .slotReader ⟨⟨"2"⟩,[],{}⟩
  obtain ⟨hlatest,hnext⟩ := (slot_follows propagating .slotReader).1 rfl _ _ _ hc
  obtain ⟨htoken,-,hagrees,-⟩ := hnext (.carrying (some "b"))
  exact ⟨_,hc,hlatest _ rfl,hagrees (by decide),htoken⟩

/-- With an empty token, the handler reads another token in the slot than in its context. -/
theorem not_agrees_of_empty_token : ¬propagating.Agrees .slotReader (.carrying (some "")) {} := by
  intro hagrees
  have hctx : Context.Reads ⟨⟨"1"⟩,"",none,none,none,⟨5⟩⟩ (.carrying (some "")) :=
    ⟨rfl,by decide,rfl,rfl,rfl,by decide⟩
  obtain ⟨htoken,-⟩ := hagrees _ () _ ⟨hctx,rfl⟩
  cases htoken

end Pipeline
end InvocationHost
