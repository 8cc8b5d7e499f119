import InvocationHost.Machine

/-! # Runs of machines

A run keeps its past: each event that happened, with what was done at it. It grows at its end, so that
what one step preserves is preserved by a run, by induction on it.
-/
namespace InvocationHost.Machine
variable {σ ε α : Type}

abbrev Past (ε α : Type) := List (ε × List α)

/-- From the first state a machine comes to the last one by the events of a past. -/
inductive Run (step? : Machine σ ε α) (first : σ) : Past ε α → σ → Prop
  | refl : Run step? first [] first
  | step {past s e t now} : Run step? first past s → step? s e = some (t,now) →
      Run step? first (past ++ [(e,now)]) t

namespace Run
variable {step? : Machine σ ε α} {r s t : σ} {past later : Past ε α}

theorem trans (hr : Run step? r past s) (hs : Run step? s later t) :
    Run step? r (past ++ later) t := by
  induction hs with
  | refl => simpa using hr
  | step _ he ih => simpa [List.append_assoc] using ih.step he

theorem single {e : ε} {now : List α} (he : step? s e = some (t,now)) :
    Run step? s [(e,now)] t := .step .refl he

/-- A run passes through a state at each point of its past. -/
theorem split (hr : Run step? r (past ++ later) t) :
    ∃ s, Run step? r past s ∧ Run step? s later t := by
  generalize hp : past ++ later = whole at hr
  induction hr generalizing later with
  | refl =>
    obtain ⟨rfl,rfl⟩ := List.append_eq_nil_iff.mp hp
    exact ⟨r,.refl,.refl⟩
  | @step whole u e t now hrun he ih =>
    rcases List.eq_nil_or_concat later with rfl | ⟨init,last,rfl⟩
    · rw [List.append_nil] at hp
      subst hp
      exact ⟨t,hrun.step he,.refl⟩
    · rw [List.concat_eq_append, ← List.append_assoc] at hp
      obtain ⟨hinit,hlast⟩ := List.append_inj' hp rfl
      cases hlast
      obtain ⟨s,hbefore,hafter⟩ := ih hinit
      exact ⟨s,hbefore,List.concat_eq_append ▸ hafter.step he⟩

theorem eq_of_nil (hr : Run step? r [] t) : t = r := by
  generalize hp : ([] : Past ε α) = past at hr
  cases hr with
  | refl => rfl
  | step _ _ => simp at hp

/-- A run with a first event begins with a step. -/
theorem of_cons {e : ε} {now : List α} (hr : Run step? r ((e,now) :: later) t) :
    ∃ s, step? r e = some (s,now) ∧ Run step? s later t := by
  have hr : Run step? r ([(e,now)] ++ later) t := hr
  obtain ⟨s,hfirst,hlater⟩ := hr.split
  generalize hp : [(e,now)] = past at hfirst
  cases hfirst with
  | refl => cases hp
  | @step _ _ _ _ _ hrun he =>
    rw [← List.nil_append [(e,now)]] at hp
    obtain ⟨rfl,hlast⟩ := List.append_inj' hp rfl
    cases hlast
    rw [hrun.eq_of_nil] at he
    exact ⟨s,he,hlater⟩

/-- A run is determined by its first state and by what happens in it. -/
theorem unique {past' : Past ε α} {t' : σ} (hr : Run step? r past t) (hs : Run step? r past' t')
    (h : past'.map Prod.fst = past.map Prod.fst) : past' = past ∧ t' = t := by
  induction hr generalizing past' t' with
  | refl =>
    obtain rfl := List.map_eq_nil_iff.mp h
    exact ⟨rfl,hs.eq_of_nil⟩
  | step _ he ih =>
    cases hs with
    | refl => simp at h
    | step hs he' =>
      simp only [List.map_append, List.map_cons, List.map_nil] at h
      obtain ⟨hbefore,hlast⟩ := List.append_inj' h rfl
      cases hlast
      obtain ⟨rfl,rfl⟩ := ih hs hbefore
      cases he'.symm.trans he
      exact ⟨rfl,rfl⟩

end Run

theorem follow_of_run {step? : Machine σ ε α} {s t : σ} {past : Past ε α} (hr : Run step? s past t) :
    follow step? s (past.map Prod.fst) = some (t,past.flatMap Prod.snd) := by
  induction hr with
  | refl => rfl
  | step _ he ih => simp [follow_append, ih, follow, he]

theorem run_of_follow {step? : Machine σ ε α} {s t : σ} {es : List ε} {done : List α}
    (hf : follow step? s es = some (t,done)) :
    ∃ past, Run step? s past t ∧ past.map Prod.fst = es ∧ past.flatMap Prod.snd = done := by
  induction es generalizing s done with
  | nil =>
    cases hf
    exact ⟨[],.refl,rfl,rfl⟩
  | cons e es ih =>
    simp only [follow, Option.bind_eq_bind, Option.bind_eq_some_iff, Prod.exists] at hf
    obtain ⟨u,now,he,v,later,hl,hd⟩ := hf
    cases hd
    obtain ⟨past,hr,rfl,rfl⟩ := ih hl
    exact ⟨(e,now) :: past,(Run.single he).trans hr,rfl,rfl⟩

end InvocationHost.Machine
