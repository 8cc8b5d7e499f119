import Mathlib.Data.List.Basic
import InvocationHost.Panic.Program

/-! # What containment notices on a thread

Of user code containment notices three kinds of incidents: a contained poll begins, a panic starts, and a
contained poll ends. They are nested as brackets are: to each beginning there is one end, and what is in
between is a stretch of user code again. The incidents of a poll of a program are nested in this way.
-/
namespace InvocationHost.Panic
variable {α : Type}

inductive PollEnd
  | ready
  | pending
  | unwound (payload : Payload)
  deriving DecidableEq, Repr

inductive Incident
  | begins
  | erupts (e : Eruption)
  | ends (how : PollEnd)
  deriving DecidableEq, Repr

/-- The incidents of a stretch of user code, and how it ends. A panic is caught, or it escapes while
destructors run, which are user code without a panic that escapes. A contained poll is a stretch of its own,
and however it ends, the code around it goes on. -/
inductive Unfolds : List Incident → PollEnd → Prop
  | ready : Unfolds [] .ready
  | pending : Unfolds [] .pending
  | escapes {destructors : List Incident} (e : Eruption) : Unfolds destructors .ready →
      Unfolds (.erupts e :: destructors) (.unwound e.payload)
  | catches {rest : List Incident} {how : PollEnd} (e : Eruption) : Unfolds rest how →
      Unfolds (.erupts e :: rest) how
  | contains {body rest : List Incident} {inner how : PollEnd} : Unfolds body inner → Unfolds rest how →
      Unfolds (.begins :: (body ++ .ends inner :: rest)) how

/-- The contained polls that have begun. -/
def begun (incidents : List Incident) : Nat := incidents.countP fun i => i matches .begins

/-- The contained polls that have ended. -/
def ended (incidents : List Incident) : Nat := incidents.countP fun i => i matches .ends _

section Counting
variable (is js : List Incident) (e : Eruption) (how : PollEnd)

@[simp] theorem begun_nil : begun [] = 0 := rfl
@[simp] theorem ended_nil : ended [] = 0 := rfl
@[simp] theorem begun_begins : begun (.begins :: is) = begun is + 1 := by simp [begun]
@[simp] theorem ended_begins : ended (.begins :: is) = ended is := by simp [ended]
@[simp] theorem begun_erupts : begun (.erupts e :: is) = begun is := by simp [begun]
@[simp] theorem ended_erupts : ended (.erupts e :: is) = ended is := by simp [ended]
@[simp] theorem begun_ends : begun (.ends how :: is) = begun is := by simp [begun]
@[simp] theorem ended_ends : ended (.ends how :: is) = ended is + 1 := by simp [ended]
@[simp] theorem begun_append : begun (is ++ js) = begun is + begun js := List.countP_append
@[simp] theorem ended_append : ended (is ++ js) = ended is + ended js := List.countP_append

end Counting

/-- A point of a list lies before or behind a marked item. -/
theorem split_at_mark {ι : Type} {xs ys past future : List ι} {mark : ι}
    (h : xs ++ mark :: ys = past ++ future) :
    (∃ t, xs = past ++ t ∧ future = t ++ mark :: ys) ∨ ∃ t, past = xs ++ mark :: t ∧ ys = t ++ future := by
  obtain ⟨t,hpast,hfuture⟩ | ⟨t,hxs,hfuture⟩ := List.append_eq_append_iff.mp h
  · cases t with
    | nil => exact .inl ⟨[],by simpa using hpast.symm,by simpa using hfuture.symm⟩
    | cons i t =>
      obtain ⟨rfl,hys⟩ := List.cons.inj hfuture
      exact .inr ⟨t,hpast,hys⟩
  · exact .inl ⟨t,hxs,hfuture⟩

/-- At no point more contained polls have ended than begun. -/
def Upright (incidents : List Incident) : Prop :=
  ∀ past future, incidents = past ++ future → ended past ≤ begun past

namespace Upright
variable {is past future : List Incident}

theorem of_append (h : Upright (past ++ future)) : Upright past := by
  intro before after hpast
  exact h before (after ++ future) (by rw [hpast, List.append_assoc])

theorem ended_le (h : Upright is) : ended is ≤ begun is := h is [] (List.append_nil is).symm

theorem erupts (h : Upright is) (e : Eruption) : Upright (.erupts e :: is) := by
  intro past future hpast
  cases past with
  | nil => simp
  | cons i t =>
    obtain ⟨rfl,ht⟩ := List.cons.inj hpast
    simpa using h t future ht

end Upright

namespace Unfolds
variable {is js body body' later later' past future : List Incident} {how how' inner inner' : PollEnd}

/-- One stretch of user code after another is a stretch of user code: whatever panic ends the first one, the
second begins when it has been caught. -/
theorem append (h : Unfolds is how) (h' : Unfolds js how') : Unfolds (is ++ js) how' := by
  induction h with
  | ready => exact h'
  | pending => exact h'
  | escapes e _ ih => exact .catches e ih
  | catches e _ ih => exact .catches e ih
  | contains hbody _ _ ih =>
    rw [List.cons_append, List.append_assoc, List.cons_append]
    exact .contains hbody ih

theorem begun_eq_ended (h : Unfolds is how) : begun is = ended is := by
  induction h with
  | ready => rfl
  | pending => rfl
  | escapes e _ ih => simpa using ih
  | catches e _ ih => simpa using ih
  | contains _ _ hbody hrest =>
    simp only [begun_begins, begun_append, begun_ends, ended_begins, ended_append, ended_ends]
    omega

theorem upright (h : Unfolds is how) : Upright is := by
  induction h with
  | ready => simp [Upright]
  | pending => simp [Upright]
  | escapes e _ ih => exact ih.erupts e
  | catches e _ ih => exact ih.erupts e
  | contains hbody _ ihbody ihrest =>
    intro past future hpast
    cases past with
    | nil => simp
    | cons i t =>
      obtain ⟨rfl,ht⟩ := List.cons.inj hpast
      obtain ⟨u,hu,-⟩ | ⟨u,rfl,hu⟩ := split_at_mark ht
      · have hin := ihbody t u hu
        simp only [begun_begins, ended_begins]
        omega
      · have hbehind := ihrest u future hu
        have hbalance := hbody.begun_eq_ended
        simp only [begun_begins, ended_begins, begun_append, ended_append, begun_ends, ended_ends]
        omega

/-! ## Beginnings and ends -/

/-- A contained poll that has begun comes to its end. -/
theorem exists_end (h : Unfolds is how) (his : is = past ++ .begins :: future) :
    ∃ body inner later, Unfolds body inner ∧ future = body ++ .ends inner :: later := by
  induction h generalizing past future with
  | ready => simp at his
  | pending => simp at his
  | escapes e _ ih | catches e _ ih =>
    cases past with
    | nil => cases his
    | cons i t => exact ih (List.cons.inj his).2
  | @contains body rest inner _ hbody _ ihbody ihrest =>
    cases past with
    | nil => exact ⟨body,inner,rest,hbody,(List.cons.inj his).2.symm⟩
    | cons i t =>
      obtain ⟨u,hu,hfuture⟩ | ⟨u,rfl,hu⟩ := split_at_mark (List.cons.inj his).2
      · -- the poll ends within the one around it
        cases u with
        | nil => cases hfuture
        | cons j u =>
          obtain ⟨rfl,rfl⟩ := List.cons.inj hfuture
          obtain ⟨body',inner',later,hbody',rfl⟩ := ihbody hu
          exact ⟨body',inner',later ++ .ends inner :: rest,hbody',by simp⟩
      · exact ihrest hu

theorem not_ends_within (h : Unfolds body inner) (h' : Unfolds body' inner') {t : List Incident} :
    body' ≠ body ++ .ends how :: t := by
  intro heq
  have hle := h'.upright (body ++ [.ends how]) t (by simp [heq])
  have hbalance := h.begun_eq_ended
  simp only [begun_append, ended_append, begun_ends, ended_ends, begun_nil, ended_nil] at hle
  omega

/-- There is but one end of a contained poll. -/
theorem end_unique (h : Unfolds body inner) (h' : Unfolds body' inner')
    (heq : body ++ .ends inner :: later = body' ++ .ends inner' :: later') :
    body = body' ∧ inner = inner' ∧ later = later' := by
  obtain ⟨t,rfl,ht⟩ | ⟨t,ht,-⟩ := split_at_mark heq
  · cases t with
    | nil =>
      obtain ⟨hend,hlater⟩ := List.cons.inj ht
      exact ⟨by simp,(Incident.ends.inj hend).symm,hlater.symm⟩
    | cons i t =>
      obtain ⟨rfl,-⟩ := List.cons.inj ht
      exact absurd rfl (h'.not_ends_within h)
  · exact absurd ht (h.not_ends_within h')

/-- A poll that unwinds does so with the payload of a panic of its own. -/
theorem exists_escaped {payload : Payload} (h : Unfolds is (.unwound payload)) :
    ∃ before e destructors, is = before ++ .erupts e :: destructors ∧ begun before = ended before ∧
      Unfolds destructors .ready ∧ e.payload = payload := by
  generalize hhow : PollEnd.unwound payload = how at h
  induction h with
  | ready => cases hhow
  | pending => cases hhow
  | @escapes destructors e hd _ => exact ⟨[],e,destructors,rfl,rfl,hd,(PollEnd.unwound.inj hhow).symm⟩
  | catches e' _ ih =>
    obtain ⟨before,e,destructors,rfl,hbalance,hd,hpayload⟩ := ih hhow
    exact ⟨.erupts e' :: before,e,destructors,rfl,by simpa using hbalance,hd,hpayload⟩
  | @contains body _ inner _ hbody _ _ ih =>
    obtain ⟨before,e,destructors,rfl,hbalance,hd,hpayload⟩ := ih hhow
    refine ⟨.begins :: (body ++ .ends inner :: before),e,destructors,by simp,?_,hd,hpayload⟩
    have hwithin := hbody.begun_eq_ended
    simp only [begun_begins, begun_append, begun_ends, ended_begins, ended_append, ended_ends]
    omega

end Unfolds

/-! ## Programs -/

namespace Program

def Polled.pollEnd : Polled α → PollEnd
  | .ready _ => .ready
  | .unwound payload => .unwound payload
  | .pending _ => .pending

def incidents {α : Type} : Program α → Scene → List Incident
  | .done _, _ => []
  | .erupt e, _ => [.erupts e]
  | .pause _, _ => []
  | .readToken next, s => incidents (next s.token) s
  | .catching body after, s =>
    incidents body s ++
      match poll body s with
      | (.ready b, s) => incidents (after (.ok b)) s
      | (.unwound payload, s) => incidents (after (.error payload)) s
      | (.pending _, _) => []
  | .containing body after, s =>
    .begins :: (incidents body s.enter ++ .ends (poll body s.enter).1.pollEnd ::
      match poll body s.enter with
      | (.ready b, s) =>
        let (r, s) := s.close (.ok b)
        incidents (after r) s
      | (.unwound payload, s) =>
        let (r, s) := s.close (.error payload)
        incidents (after r) s
      | (.pending _, _) => [])

theorem unfolds_incidents (p : Program α) (s : Scene) : Unfolds (p.incidents s) (p.poll s).1.pollEnd := by
  induction p generalizing s with
  | done a => exact .ready
  | erupt e => exact .escapes e .ready
  | pause next _ => exact .pending
  | readToken next ih => exact ih s.token s
  | catching body after hbody hafter =>
    have hfirst := hbody s
    simp only [incidents, poll]
    rcases hp : poll body s with ⟨b | payload | rest,t⟩
    · exact hfirst.append (hafter _ t)
    · exact hfirst.append (hafter _ t)
    · rw [hp] at hfirst
      exact hfirst.append .pending
  | containing body after hbody hafter =>
    have hin := hbody s.enter
    simp only [incidents, poll]
    rcases hp : poll body s.enter with ⟨b | payload | rest,t⟩
    · exact .contains (hp ▸ hin) (hafter _ _)
    · exact .contains (hp ▸ hin) (hafter _ _)
    · exact .contains (hp ▸ hin) .pending

end Program
end InvocationHost.Panic
