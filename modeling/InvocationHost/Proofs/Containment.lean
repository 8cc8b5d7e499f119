import Mathlib.Data.List.Induction
import InvocationHost.Proofs.Incidents

/-! # The books of containment

A thread counts the contained polls that are open and keeps the site that the hook noted last. Whatever user
code does, the count is right at every moment, so that the hook defers exactly outside of every contained
poll, and the site that goes with a panic out of an outermost poll was noted during that poll
(`ThreadRun.contained_polls`).
-/
namespace InvocationHost.Panic
variable {α : Type}

def Scene.after (s : Scene) : Incident → Scene
  | .begins => s.enter
  | .erupts e => s.erupt e
  | .ends (.unwound payload) => (s.leave.capture payload).2
  | .ends _ => s.leave

def Scene.afterAll (s : Scene) (incidents : List Incident) : Scene := incidents.foldl Scene.after s

def Incident.runsHook : Incident → Bool
  | .erupts e => e.site.isSome
  | _ => false

/-- What is noted as the site after an incident inside a containment. -/
def Incident.note (site : Option Site) : Incident → Option Site
  | .erupts e => e.site.or site
  | .ends (.unwound _) => none
  | _ => site

/-- The site that is noted at the end of a contained poll: that of the last panic of the poll that has run the
hook, unless a poll inside it was left by a panic since then. -/
def noted (incidents : List Incident) : Option Site := incidents.foldl Incident.note none

section Noting
variable {is : List Incident} {i : Incident} {e : Eruption} {start : Option Site} {site : Site}

/-- An incident that leaves what is noted as it is. -/
def Incident.Quiet : Incident → Prop
  | .erupts e => e.site = none
  | .ends (.unwound _) => False
  | _ => True

theorem Incident.note_of_quiet (h : i.Quiet) : i.note start = start := by
  cases i with
  | begins => rfl
  | erupts e => rw [note, show e.site = none from h, Option.none_or]
  | ends how =>
    cases how with
    | unwound payload => exact h.elim
    | ready => rfl
    | pending => rfl

/-- The panic is the last one to have run the hook, and no contained poll has taken its site since. -/
def LastNoted (incidents : List Incident) (e : Eruption) : Prop :=
  ∃ before after, incidents = before ++ .erupts e :: after ∧ e.site ≠ none ∧ ∀ i ∈ after, i.Quiet

theorem lastNoted_append_iff :
    LastNoted (is ++ [i]) e ↔ i = .erupts e ∧ e.site ≠ none ∨ i.Quiet ∧ LastNoted is e := by
  constructor
  · rintro ⟨before,after,heq,hsite,hquiet⟩
    obtain rfl | ⟨after,j,rfl⟩ := List.eq_nil_or_concat after
    · obtain ⟨-,hi⟩ := List.append_inj' heq rfl
      exact .inl ⟨List.singleton_inj.mp hi,hsite⟩
    · have hconcat : is ++ [i] = (before ++ .erupts e :: after) ++ [j] := by simpa using heq
      obtain ⟨his,hi⟩ := List.append_inj' hconcat rfl
      obtain rfl := List.singleton_inj.mp hi
      exact .inr ⟨hquiet i (by simp),before,after,his,hsite,fun k hk => hquiet k (by simp [hk])⟩
  · rintro (⟨rfl,hsite⟩ | ⟨hi,before,after,rfl,hsite,hquiet⟩)
    · exact ⟨is,[],rfl,hsite,by simp⟩
    · refine ⟨before,after ++ [i],by simp,hsite,fun k hk => ?_⟩
      obtain hk | hk := List.mem_append.mp hk
      · exact hquiet k hk
      · rwa [List.mem_singleton.mp hk]

theorem LastNoted.mem (h : LastNoted is e) : .erupts e ∈ is := by
  obtain ⟨before,after,rfl,-,-⟩ := h
  simp

theorem LastNoted.site_ne_none (h : LastNoted is e) : e.site ≠ none := by
  obtain ⟨-,-,-,hsite,-⟩ := h
  exact hsite

theorem lastNoted_append_quiet (hi : i.Quiet) : LastNoted (is ++ [i]) e ↔ LastNoted is e := by
  rw [lastNoted_append_iff]
  constructor
  · rintro (⟨rfl,hsite⟩ | ⟨-,h⟩)
    · exact absurd hi hsite
    · exact h
  · exact fun h => .inr ⟨hi,h⟩

theorem forall_quiet_append : (∀ j ∈ is ++ [i], j.Quiet) ↔ (∀ j ∈ is, j.Quiet) ∧ i.Quiet := by
  simp [or_imp, forall_and]

/-- What is noted in the end is the site of the last panic noted, or what was noted from the start. -/
theorem foldl_note_eq_some_iff : is.foldl Incident.note start = some site ↔
    (∃ e, LastNoted is e ∧ e.site = some site) ∨ (∀ i ∈ is, i.Quiet) ∧ start = some site := by
  induction is using List.reverseRecOn with
  | nil => simp [LastNoted]
  | append_singleton is i ih =>
    rw [List.foldl_append, List.foldl_cons, List.foldl_nil, forall_quiet_append]
    by_cases hi : i.Quiet
    · simp only [Incident.note_of_quiet hi, ih, lastNoted_append_quiet hi, hi, and_true]
    · -- the note is made anew or taken
      simp only [lastNoted_append_iff, hi, false_and, or_false, and_false]
      cases i with
      | begins => exact absurd trivial hi
      | erupts e =>
        obtain ⟨s,hs⟩ := Option.ne_none_iff_exists'.mp hi
        simp [Incident.note, hs]
      | ends how =>
        cases how with
        | unwound payload => simp [Incident.note]
        | ready | pending => exact absurd trivial hi

/-- What is noted at the end of a poll was noted during the poll. -/
theorem exists_of_noted (h : noted is = some site) : ∃ e, .erupts e ∈ is ∧ e.site = some site := by
  obtain ⟨e,he,hsite⟩ | ⟨-,hnone⟩ := foldl_note_eq_some_iff.mp h
  · exact ⟨e,he.mem,hsite⟩
  · cases hnone

end Noting

namespace Scene
variable (s : Scene) {is : List Incident}

theorem afterAll_append (is js : List Incident) : s.afterAll (is ++ js) = (s.afterAll is).afterAll js :=
  List.foldl_append

/-! ## One incident -/

@[simp] theorem depth_erupts (e : Eruption) : (s.after (.erupts e)).depth = s.depth := by
  rcases e with ⟨payload,_ | site⟩
  · rfl
  · simp only [after, erupt, hook]
    split <;> rfl

@[simp] theorem depth_ends (how : PollEnd) : (s.after (.ends how)).depth = s.depth - 1 := by
  cases how <;> rfl

/-- The hook defers if it runs outside of every contained poll. -/
theorem deferred_after (i : Incident) : (s.after i).deferred =
    s.deferred + if i.runsHook = true ∧ s.depth = 0 then 1 else 0 := by
  cases i with
  | begins => rfl
  | erupts e =>
    rcases e with ⟨payload,_ | site⟩
    · rfl
    · simp only [after, erupt, hook, Incident.runsHook, Option.isSome_some, true_and]
      split <;> rfl
  | ends how => cases how <;> rfl

/-- Inside a containment the hook notes the site of the panic. -/
theorem captured_after (hs : s.depth ≠ 0) (i : Incident) : (s.after i).captured = i.note s.captured := by
  cases i with
  | begins => simp [after, enter, hs, Incident.note]
  | erupts e => rcases e with ⟨payload,_ | site⟩ <;> simp [after, erupt, hook, hs, Incident.note]
  | ends how => cases how <;> rfl

/-- A poll that is given up and begun anew goes on with nothing noted. -/
theorem enter_resume_leave (hs : s.depth ≠ 0) : s.leave.resume.enter = s.resume := by
  obtain ⟨d,hd⟩ := Nat.exists_eq_succ_of_ne_zero hs
  cases d <;> simp [leave, resume, enter, hd]

/-! ## Many incidents -/

/-- The count is that of the polls that have begun and not ended. -/
theorem depth_afterAll (h : Upright is) : (s.afterAll is).depth + ended is = s.depth + begun is := by
  induction is using List.reverseRecOn with
  | nil => rfl
  | append_singleton is i ih =>
    have hbefore := ih h.of_append
    have hle := h.ended_le
    have hupright := h.of_append.ended_le
    rw [afterAll_append]
    change ((s.afterAll is).after i).depth + _ = _
    cases i with
    | begins =>
      change (s.afterAll is).depth + 1 + _ = _
      simp only [begun_append, ended_append, begun_begins, ended_begins, begun_nil, ended_nil]
      omega
    | erupts e => simpa using hbefore
    | ends how =>
      -- a poll that ends is still counted, so that nothing is taken from zero
      simp only [depth_ends, begun_append, ended_append, begun_ends, ended_ends, begun_nil, ended_nil] at hle ⊢
      omega

theorem depth_afterAll_of_unfolds {how : PollEnd} (h : Unfolds is how) : (s.afterAll is).depth = s.depth := by
  have hdepth := s.depth_afterAll h.upright
  rw [h.begun_eq_ended] at hdepth
  omega

theorem captured_afterAll (h : Upright is) (hs : s.depth ≠ 0) :
    (s.afterAll is).captured = is.foldl Incident.note s.captured := by
  induction is using List.reverseRecOn with
  | nil => rfl
  | append_singleton is i ih =>
    have hdepth := s.depth_afterAll h.of_append
    have hupright := h.of_append.ended_le
    rw [afterAll_append, List.foldl_append, ← ih h.of_append]
    -- the count is above zero before each incident
    exact captured_after _ (by omega) i

theorem captured_enter_afterAll (hs : s.depth = 0) (h : Upright is) :
    (s.enter.afterAll is).captured = noted is := by
  -- the outermost containment forgets what was noted before it
  have hnone : s.enter.captured = none := by simp [enter, hs]
  rw [captured_afterAll _ h (Nat.succ_ne_zero _), hnone]
  rfl

end Scene

/-! ## Polls of programs -/

namespace Program

theorem poll_snd (p : Program α) (s : Scene) : (p.poll s).2 = s.afterAll (p.incidents s) := by
  induction p generalizing s with
  | done a => rfl
  | erupt e => rfl
  | pause next _ => rfl
  | readToken next ih => exact ih s.token s
  | catching body after hbody hafter =>
    have hfirst := hbody s
    simp only [poll, incidents, Scene.afterAll_append, ← hfirst]
    rcases poll body s with ⟨b | payload | rest,t⟩
    · exact hafter _ t
    · exact hafter _ t
    · rfl
  | containing body after hbody hafter =>
    have hin := hbody s.enter
    simp only [poll, incidents]
    change _ = s.enter.afterAll _
    rw [Scene.afterAll_append, ← hin]
    rcases poll body s.enter with ⟨b | payload | rest,t⟩
    · exact hafter _ t.leave
    · exact hafter _ (t.leave.capture payload).2
    · rfl

theorem depth_poll (p : Program α) (s : Scene) : (p.poll s).2.depth = s.depth := by
  rw [p.poll_snd]
  exact s.depth_afterAll_of_unfolds (p.unfolds_incidents s)

def Polled.proceed : Polled α → Scene → Except Payload α × Scene
  | .ready a, s => (.ok a,s)
  | .unwound payload, s => (.error payload,s)
  | .pending rest, s => rest.run s.resume

/-- A program that is run is polled until it is not pending. -/
theorem run_eq_poll (p : Program α) (s : Scene) : p.run s = (p.poll s).1.proceed (p.poll s).2 := by
  induction p generalizing s with
  | done a => rfl
  | erupt e => rfl
  | pause next _ => rfl
  | readToken next ih => exact ih s.token s
  | catching body after hbody hafter =>
    simp only [run, poll, hbody s]
    rcases poll body s with ⟨b | payload | rest,t⟩
    · exact hafter _ t
    · exact hafter _ t
    · rfl
  | containing body after hbody hafter =>
    have hdepth := body.depth_poll s.enter
    simp only [run, poll, hbody s.enter]
    rcases hp : poll body s.enter with ⟨b | payload | rest,t⟩
    · exact hafter _ t.leave
    · exact hafter _ (t.leave.capture payload).2
    · -- the containment is left and entered again, which is what resuming inside of it does
      have ht : t.depth = s.depth + 1 := by rwa [hp] at hdepth
      simp only [Polled.proceed, run, t.enter_resume_leave (by omega)]

end Program

/-! ## Runs of a thread -/

/-- What happens on a thread from a moment on at which it is outside of every contained poll. -/
structure ThreadRun where
  start : Scene
  incidents : List Incident
  how : PollEnd
  outside : start.depth = 0
  unfolds : Unfolds incidents how

/-- A contained poll of a run: what happened before it and in it, how it ended and what happened later. -/
structure ContainedPoll (r : ThreadRun) where
  before : List Incident
  body : List Incident
  how : PollEnd
  later : List Incident
  split : r.incidents = before ++ .begins :: (body ++ .ends how :: later)
  unfolds : Unfolds body how

instance : Inhabited ThreadRun := ⟨{},[],.ready,rfl,.ready⟩

namespace ThreadRun
variable (r : ThreadRun) {past future : List Incident}

def final : Scene := r.start.afterAll r.incidents

variable {r}

theorem depth_eq_zero_iff (h : r.incidents = past ++ future) :
    (r.start.afterAll past).depth = 0 ↔ begun past = ended past := by
  have hupright : Upright past := (h ▸ r.unfolds.upright).of_append
  have hdepth := r.start.depth_afterAll hupright
  have hle := hupright.ended_le
  rw [r.outside] at hdepth
  omega

theorem depth_final : r.final.depth = 0 := (r.start.depth_afterAll_of_unfolds r.unfolds).trans r.outside

/-- What a thread outside of contained polls polls next prolongs its run. -/
theorem exists_poll (r : ThreadRun) (p : Program α) : ∃ r' : ThreadRun, r'.start = r.start ∧
    r'.incidents = r.incidents ++ p.incidents r.final ∧ r'.how = (p.poll r.final).1.pollEnd ∧
    r'.final = (p.poll r.final).2 := by
  refine ⟨⟨r.start,_,_,r.outside,r.unfolds.append (p.unfolds_incidents r.final)⟩,rfl,rfl,rfl,?_⟩
  rw [p.poll_snd]
  exact r.start.afterAll_append _ _

/-- What a thread outside of contained polls contains gives a panic that leaves it as an error, with the site
that was noted meanwhile. -/
theorem poll_contain (r : ThreadRun) {p : Program α} {payload : Payload}
    (h : (p.poll r.final.enter).1 = .unwound payload) :
    (p.contain.poll r.final).1 = .ready (.error ⟨payload,noted (p.incidents r.final.enter)⟩) := by
  obtain ⟨t,hp⟩ : ∃ t, p.poll r.final.enter = (.unwound payload,t) := ⟨_,Prod.ext h rfl⟩
  have hcaptured : t.captured = noted (p.incidents r.final.enter) := by
    have hscene : t = r.final.enter.afterAll (p.incidents r.final.enter) := by
      rw [← p.poll_snd, hp]
    rw [hscene, Scene.captured_enter_afterAll _ depth_final (p.unfolds_incidents _).upright]
  simp only [Program.contain, Program.poll, hp, ← hcaptured]
  rfl

/-- With each beginning a contained poll begins, and only one. -/
theorem existsUnique_contained (h : r.incidents = past ++ .begins :: future) :
    ∃! c : ContainedPoll r, c.before = past := by
  obtain ⟨body,how,later,hbody,rfl⟩ := r.unfolds.exists_end h
  refine ⟨⟨past,body,how,later,h,hbody⟩,rfl,?_⟩
  rintro ⟨before,body',how',later',hsplit,hbody'⟩ rfl
  obtain ⟨rfl,rfl,rfl⟩ := hbody'.end_unique hbody (by simpa using hsplit.symm.trans h)
  rfl

end ThreadRun

namespace ContainedPoll
variable {r : ThreadRun} (c : ContainedPoll r)

/-- No other contained poll is open when it begins. -/
def Outermost : Prop := begun c.before = ended c.before

def opening : Scene := r.start.afterAll c.before

def closing : Scene := r.start.afterAll (c.before ++ .begins :: c.body)

def outcome : Scene := c.closing.after (.ends c.how)

theorem closing_eq : c.closing = c.opening.enter.afterAll c.body := Scene.afterAll_append _ _ _

theorem depth_outcome : c.outcome.depth = c.opening.depth := by
  rw [outcome, Scene.depth_ends, c.closing_eq, Scene.depth_afterAll_of_unfolds _ c.unfolds]
  rfl

theorem captured_closing (h : c.Outermost) : c.closing.captured = noted c.body := by
  have hopening : c.opening.depth = 0 := (ThreadRun.depth_eq_zero_iff c.split).mpr h
  rw [c.closing_eq, Scene.captured_enter_afterAll _ hopening c.unfolds.upright]

end ContainedPoll

/-- **Containment keeps its books over every run of a thread.** Contained polls begin and end in pairs, and
however one ends, the count of the open ones is then what it was before it. So the hook defers to the hook
before it for the panics that run it outside of every contained poll, and for no others. What an outermost
poll that unwinds gives is the error with the payload of the panic that escapes, and with the site that is
noted in this poll, whatever happened before; a site is that of a panic in the poll. Runs are what comes of
polling programs one after another, as they are run. -/
theorem ThreadRun.contained_polls (r : ThreadRun) :
    (∀ past future, r.incidents = past ++ .begins :: future → ∃! c : ContainedPoll r, c.before = past) ∧
    (∀ c : ContainedPoll r, c.outcome.depth = c.opening.depth) ∧
    (∀ past i future, r.incidents = past ++ i :: future →
      (r.start.afterAll (past ++ [i])).deferred = (r.start.afterAll past).deferred +
        if i.runsHook = true ∧ begun past = ended past then 1 else 0) ∧
    (∀ c : ContainedPoll r, c.Outermost → ∀ payload, c.how = .unwound payload →
      (∃ before e destructors, c.body = before ++ .erupts e :: destructors ∧ begun before = ended before ∧
        Unfolds destructors .ready ∧ e.payload = payload) ∧
      (∀ α, (c.closing.close (.error payload : Except Payload α)).1 = .error ⟨payload,noted c.body⟩) ∧
      ∀ site, noted c.body = some site → ∃ e, .erupts e ∈ c.body ∧ e.site = some site) ∧
    (∀ {α : Type} (p : Program α),
      (∃ r' : ThreadRun, r'.start = r.start ∧ r'.incidents = r.incidents ++ p.incidents r.final ∧
        r'.how = (p.poll r.final).1.pollEnd ∧ r'.final = (p.poll r.final).2) ∧
      p.run r.final = (p.poll r.final).1.proceed (p.poll r.final).2 ∧
      ∀ payload, (p.poll r.final.enter).1 = .unwound payload →
        (p.contain.poll r.final).1 = .ready (.error ⟨payload,noted (p.incidents r.final.enter)⟩)) := by
  refine ⟨fun past future h => r.existsUnique_contained h,ContainedPoll.depth_outcome,?_,?_,
    fun p => ⟨r.exists_poll p,p.run_eq_poll r.final,fun _ h => r.poll_contain h⟩⟩
  · intro past i future h
    rw [Scene.afterAll_append]
    simp only [← r.depth_eq_zero_iff h]
    exact Scene.deferred_after _ i
  · intro c hc payload hhow
    refine ⟨(hhow ▸ c.unfolds).exists_escaped,fun α => ?_,fun site hsite => exists_of_noted hsite⟩
    rw [← c.captured_closing hc]
    rfl

/-- A poll inside takes the site along that was noted before it. -/
example (a b : Site) : ((Program.contain (do
    let _ ← Program.catchOwn ⟨.ownedText "caught",some a⟩
    let _ ← Program.contain (.erupt ⟨.ownedText "inner",some b⟩ : Program Unit)
    Program.erupt ⟨.ownedText "outer",none⟩ : Program Unit)).poll {}).1 =
    .ready (.error ⟨.ownedText "outer",none⟩) := rfl

end InvocationHost.Panic
