import InvocationHost.Proofs.Hooks
import InvocationHost.Proofs.Lanes

/-! # The order of a shutdown

A shutdown whose hooks return goes by a script: it is requested, which raises the flag; a deadline is
fixed; each termination hook starts and returns, one after the other; each event loop is waited for. Next
to it the event loops close: one that polls is released, one whose hook runs polls once more and is
released then, and one that has ended stays as it is.
-/
namespace InvocationHost.Extension
open Machine

def LoopActivity.isPoll : LoopActivity → Bool
  | .poll _ => true
  | _ => false

namespace EventLoop
variable {l l' : EventLoop} {past left : Past LoopEvent LoopActivity}

/-- A loop that polls ends because the host is done. -/
def releasing (l : EventLoop) : LoopEvent × List LoopActivity :=
  (.released,[l.loopLog .debug "extension event loop stopped"])

/-- All that a loop may still do once the flag is raised. -/
def closings (l : EventLoop) : List (Past LoopEvent LoopActivity) :=
  match l.phase with
  | .polling => [[l.releasing]]
  | .hook _ => [[(.hookReturned,[.hookReturned,.poll l.id]),l.releasing],[(.hookPanicked,[])]]
  | .ended _ => [[]]

theorem exists_closing (l : EventLoop) : ∃ left, left ∈ l.closings := by
  unfold closings
  split <;> exact ⟨_,List.mem_cons_self⟩

theorem closings_of_step {e : LoopEvent} {now : List LoopActivity} (hs : alone true l e = some (l',now))
    (hl : left ∈ l'.closings) : (e,now) :: left ∈ l.closings := by
  cases move_of_step hs with
  | received _ hdone _ => cases hdone
  | released hp _ hf =>
    cases hf
    simp only [closings, List.mem_singleton] at hl
    subst hl
    simp [closings, hp, releasing]
  | hookReturned hp =>
    simp only [poll, closings, List.mem_singleton] at hl
    subst hl
    simp [closings, hp, releasing, poll, loopLog]
  | hookPanicked hp =>
    simp only [closings, List.mem_singleton] at hl
    subst hl
    simp [closings, hp]

theorem closings_of_run (hr : Run (alone true) l past l') (hl : left ∈ l'.closings) :
    past ++ left ∈ l.closings := by
  -- What is left after the last step was left before it, with that step in front.
  induction hr generalizing left with
  | refl => exact hl
  | step _ he ih =>
    rw [List.append_assoc]
    exact ih (closings_of_step he hl)

/-- Once the flag is raised, a loop takes no event and calls no hook, and it polls at most once. -/
theorem closes_of_run (hr : Run (alone true) l past l') :
    (∀ p ∈ past, ∀ met, p.1 ≠ .received met) ∧
    (∀ e deadline, .hook e deadline ∉ past.flatMap Prod.snd) ∧
    (past.flatMap Prod.snd).countP LoopActivity.isPoll ≤ 1 := by
  have hclosing (w : Past LoopEvent LoopActivity) (hw : w ∈ l.closings) :
      (∀ p ∈ w, ∀ met, p.1 ≠ .received met) ∧
      (∀ e deadline, .hook e deadline ∉ w.flatMap Prod.snd) ∧
      (w.flatMap Prod.snd).countP LoopActivity.isPoll ≤ 1 := by
    unfold closings at hw
    split at hw
    · cases List.mem_singleton.mp hw
      simp [releasing, loopLog, LoopActivity.isPoll]
    · simp only [List.mem_cons, List.not_mem_nil, or_false] at hw
      rcases hw with rfl | rfl
      · simp [releasing, loopLog, LoopActivity.isPoll, List.countP_cons]
      · simp
    · cases List.mem_singleton.mp hw
      simp
  obtain ⟨left,hleft⟩ := exists_closing l'
  obtain ⟨hreceived,hhook,hpolls⟩ := hclosing _ (closings_of_run hr hleft)
  rw [List.flatMap_append] at hhook hpolls
  rw [List.countP_append] at hpolls
  refine ⟨fun p hp => hreceived p (List.mem_append_left _ hp),fun e deadline he => ?_,?_⟩
  · exact hhook e deadline (List.mem_append_left _ he)
  · omega

end EventLoop

namespace Shutdown

def request : ShutdownEvent × List Activity :=
  (.requested,[mainLog "ferrule_engine::runtime" .info "termination requested, shutting down extensions"])

/-- The request of a shutdown raises the flag; after that the moment is taken from which its deadline is
counted. -/
def opening (now : Nat) : Past ShutdownEvent Activity := [request,(.timed now,[])]

def hookStart (deadline : Deadline) (name : String) : ShutdownEvent × List Activity :=
  (.hookStarts,[mainLog logTarget .debug "running termination hook" [("extension",name)],
    .terminate name deadline])

def hookRounds (deadline : Deadline) (names : List String) : Past ShutdownEvent Activity :=
  names.flatMap fun name => [hookStart deadline name,(.hookReturns,[.terminated name])]

/-- The loops are waited for one after the other, however they have ended. -/
def joins (loops : List EventLoop) : Past ShutdownEvent Activity :=
  loops.map fun l => (.joins,joinLog l)

/-- The whole of a shutdown whose hooks return. -/
def script (now : Nat) (names : List String) (loops : List EventLoop) : Past ShutdownEvent Activity :=
  opening now ++ (hookRounds ⟨now + 500⟩ names ++ (joins loops ++ [(.joins,[stopped])]))

theorem joinLog_ne_nil_iff (l : EventLoop) : joinLog l ≠ [] ↔ l.phase = .ended .hookPanicked := by
  rcases l with ⟨id,extension,_ | _ | (_ | _ | _)⟩ <;> simp [joinLog]

theorem hookRounds_append (d : Deadline) (xs ys : List String) :
    hookRounds d (xs ++ ys) = hookRounds d xs ++ hookRounds d ys := List.flatMap_append

theorem joins_append (xs ys : List EventLoop) : joins (xs ++ ys) = joins xs ++ joins ys :=
  List.map_append

/-- How far a shutdown has come in its script. -/
inductive Follows (names : List String) (loops : List EventLoop) :
    Shutdown → Past ShutdownEvent Activity → Prop
  | waiting : Follows names loops (.waiting names) []
  | raised : Follows names loops (.raised names) [request]
  | between {now run left} : run ++ left = names →
      Follows names loops (.between ⟨now + 500⟩ left) (opening now ++ hookRounds ⟨now + 500⟩ run)
  | hook {now run name left} : run ++ name :: left = names →
      Follows names loops (.hook ⟨now + 500⟩ name left)
        (opening now ++ (hookRounds ⟨now + 500⟩ run ++ [hookStart ⟨now + 500⟩ name]))
  | joining {now i} : (∀ l ∈ loops.take i, l.ended = true) →
      Follows names loops (.joining i) (opening now ++ (hookRounds ⟨now + 500⟩ names ++ joins (loops.take i)))
  | finished {now} : (∀ l ∈ loops, l.ended = true) →
      Follows names loops .finished (script now names loops)

theorem Move.not_isRaised {loops : List EventLoop} {s t : Shutdown} {now : List Activity}
    (hm : Move loops s .requested t now) : s.isRaised = false := by
  cases hm
  rfl

namespace Follows
variable {names : List String} {loops : List EventLoop} {s t : Shutdown}
  {past : Past ShutdownEvent Activity}

theorem afterHooks {now : Nat} {run left : List String} (hsplit : run ++ left = names) :
    Follows names loops (Shutdown.afterHooks ⟨now + 500⟩ left)
      (opening now ++ hookRounds ⟨now + 500⟩ run) := by
  cases left with
  | nil =>
    rw [List.append_nil] at hsplit
    subst hsplit
    have hj : Follows run loops (.joining 0) (opening now ++ (hookRounds ⟨now + 500⟩ run ++ [])) :=
      .joining fun _ hl => absurd hl List.not_mem_nil
    rwa [List.append_nil] at hj
  | cons name left => exact .between hsplit

/-- A move of the shutdown is the next one in its script, unless a hook panics. -/
theorem move {e : ShutdownEvent} {now : List Activity} (hf : Follows names loops s past)
    (hm : Move loops s e t now) (he : e ≠ .hookPanics) : Follows names loops t (past ++ [(e,now)]) := by
  cases hm with
  | requested => cases hf; exact .raised
  | @timed _ moment =>
    cases hf
    have ha : Follows names loops (Shutdown.afterHooks ⟨moment + 500⟩ names)
        (opening moment ++ hookRounds ⟨moment + 500⟩ []) := afterHooks (List.nil_append names)
    exact ha
  | @hookStarts _ name left =>
    cases hf with
    | between hsplit =>
      rw [List.append_assoc]
      exact .hook hsplit
  | @hookReturns _ name left =>
    cases hf with
    | @hook moment run _ _ hsplit =>
      have ha : Follows names loops (Shutdown.afterHooks ⟨moment + 500⟩ left)
          (opening moment ++ hookRounds ⟨moment + 500⟩ (run ++ [name])) :=
        afterHooks (by simpa using hsplit)
      simpa [hookRounds_append, hookRounds] using ha
  | hookPanics => exact absurd rfl he
  | @joins i l hl hended =>
    cases hf with
    | @joining moment _ hbefore =>
      have htake : loops.take (i + 1) = loops.take i ++ [l] := by
        rw [List.take_add_one, hl]
        rfl
      have hj : Follows names loops (.joining (i + 1))
          (opening moment ++ (hookRounds ⟨moment + 500⟩ names ++ joins (loops.take (i + 1)))) := by
        refine .joining fun k hk => ?_
        rw [htake] at hk
        rcases List.mem_append.mp hk with hk | hk
        · exact hbefore k hk
        · rw [List.mem_singleton.mp hk]
          exact hended
      rw [htake, joins_append] at hj
      simpa [joins] using hj
  | @finishes i hl =>
    cases hf with
    | @joining moment _ hbefore =>
      have htake : loops.take i = loops := List.take_of_length_le (List.getElem?_eq_none_iff.mp hl)
      rw [htake] at hbefore ⊢
      have hd : Follows names loops .finished (script moment names loops) := .finished hbefore
      simpa [script] using hd

theorem set {i : Nat} {l : EventLoop} (hf : Follows names loops s past) (hl : loops[i]? = some l)
    (hopen : l.ended = false) (l' : EventLoop) : Follows names (loops.set i l') s past := by
  cases hf with
  | waiting => exact .waiting
  | raised => exact .raised
  | between hsplit => exact .between hsplit
  | hook hsplit => exact .hook hsplit
  | @joining now j hbefore =>
    -- A loop that still moves is not among those that have been waited for.
    have hji : j ≤ i := by
      refine Nat.le_of_not_lt fun hij => ?_
      have htake : (loops.take j)[i]? = some l := by rw [List.getElem?_take_of_lt hij, hl]
      cases (hbefore l (List.mem_of_getElem? htake)).symm.trans hopen
    have htake : (loops.set i l').take j = loops.take j := List.take_set_of_le hji
    rw [← htake] at hbefore ⊢
    exact .joining hbefore
  | finished hall => cases (hall l (List.mem_of_getElem? hl)).symm.trans hopen

/-- What has happened and what is left make up the script, and nothing is left at the end alone. -/
theorem exists_left (hf : Follows names loops s past) :
    ∃ now left, past ++ left = script now names loops ∧ (s = .finished ↔ left = []) := by
  cases hf with
  | waiting => exact ⟨0,_,rfl,by simp⟩
  | raised => exact ⟨0,_,rfl,by simp⟩
  | @between now run left hsplit =>
    subst hsplit
    refine ⟨now,hookRounds ⟨now + 500⟩ left ++ (joins loops ++ [(.joins,[stopped])]),?_,by simp⟩
    simp [script, hookRounds_append]
  | @hook now run name left hsplit =>
    subst hsplit
    refine ⟨now,(.hookReturns,[.terminated name]) :: hookRounds ⟨now + 500⟩ left ++
      (joins loops ++ [(.joins,[stopped])]),?_,by simp⟩
    simp [script, hookRounds]
  | @joining now i hbefore =>
    refine ⟨now,joins (loops.drop i) ++ [(.joins,[stopped])],?_,by simp⟩
    have hjoins : joins (loops.take i) ++ joins (loops.drop i) = joins loops := by
      rw [← joins_append, List.take_append_drop]
    simp [script, ← hjoins]
  | @finished now hall => exact ⟨now,[],List.append_nil _,by simp⟩

theorem ended_of_finished (hf : Follows names loops s past) (hs : s = .finished) :
    ∀ l ∈ loops, l.ended = true := by
  subst hs
  cases hf with
  | finished hall => exact hall

theorem isRaised_iff (hf : Follows names loops s past) :
    s.isRaised = true ↔ ∃ p ∈ past, p.1 = .requested := by
  cases hf with
  | waiting => simp [isRaised]
  | raised => simp [isRaised, request]
  | finished => simp [isRaised, script, opening, request]
  | _ => simp [isRaised, opening, request]

end Follows
end Shutdown

namespace Manager
variable {m : Manager} {past : Past ManagerEvent LaneActivity}

/-- A shutdown goes by its script in every run in which its hooks return. -/
theorem follows_of_run {names : List String} {loops : List EventLoop}
    (hr : Run step? ⟨loops,.waiting names⟩ past m) (hreturn : ∀ p ∈ past, p.1 ≠ .shutdown .hookPanics) :
    m.shutdown.Follows names m.loops (shutdownLane past) := by
  induction hr with
  | refl => exact .waiting
  | @step past s e t now _ he ih =>
    have hf := ih fun p hp => hreturn p (List.mem_append_left _ hp)
    rw [shutdownLane_append]
    cases move_of_step he with
    | loop hl hd =>
      have hset := hf.set hl (EventLoop.move_of_step hd).not_ended
      simpa [shutdownLane] using hset _
    | @shutdown e shutdown now hd =>
      have hne : e ≠ .hookPanics := by
        rintro rfl
        exact hreturn (.shutdown .hookPanics,now.map .main) (List.mem_append_right _ List.mem_cons_self) rfl
      have hmove := hf.move (Shutdown.move_of_step hd) hne
      simpa [shutdownLane] using hmove

theorem mem_shutdownLane {e : ShutdownEvent} :
    (∃ p ∈ shutdownLane past, p.1 = e) ↔ ∃ p ∈ past, p.1 = .shutdown e := by
  constructor
  · rintro ⟨p,hp,rfl⟩
    obtain ⟨⟨e | e,now⟩,hmem,hsome⟩ := List.mem_filterMap.mp hp
    · cases hsome
    · cases hsome
      exact ⟨_,hmem,rfl⟩
  · rintro ⟨⟨_,now⟩,hmem,rfl⟩
    exact ⟨_,List.mem_filterMap.mpr ⟨_,hmem,rfl⟩,rfl⟩

/-- From the request on, an event loop that was there before it only closes. -/
theorem closes_after_request {k : Manager} {before after : Past ManagerEvent LaneActivity}
    {now : List LaneActivity} (hr : Run step? k (before ++ (.shutdown .requested,now) :: after) m)
    (hk : k.shutdown.isRaised = false) {i : Nat} (hi : i < k.loops.length) :
    ∃ l l', m.loops[i]? = some l' ∧ Run (EventLoop.alone true) l (lane i after) l' := by
  obtain ⟨s,hbefore,hrest⟩ := hr.split
  obtain ⟨t,hrequest,hafter⟩ := hrest.of_cons
  cases move_of_step hrequest with
  | shutdown hd =>
    have hm := Shutdown.move_of_step hd
    have hs := hm.not_isRaised
    obtain ⟨l,hl,-⟩ := lane_of_run hbefore hk hs (List.getElem?_eq_getElem hi)
    have ht := isRaised_of_run hafter hm.isRaised
    obtain ⟨l',hl',hlane⟩ := lane_of_run hafter hm.isRaised ht hl
    exact ⟨l,l',hl',hlane⟩

/-- **A shutdown whose hooks return goes by its script**, whatever its event loops are at and however they
and it are interleaved. The script begins with the request, which raises the flag; then the one deadline is
fixed; then each termination hook starts and returns, in the order of registration; then each loop is waited
for. The shutdown is finished when nothing of the script is left, and every loop has ended by then. From the
request on no loop takes an event or calls its hook, and each polls at most once. Waiting goes on from a loop
that has ended in whatever way; a panic of its hook is logged then. -/
theorem shuts_down_in_order {registered : List Registered} {loops : List EventLoop}
    (hr : Run step? ⟨loops,.ofRegistered registered⟩ past m)
    (hreturn : ∀ p ∈ past, p.1 ≠ .shutdown .hookPanics) :
    (∃ now left, shutdownLane past ++ left = Shutdown.script now (hooked (registered.map (·.2))) m.loops ∧
      (m.shutdown = .finished ↔ left = [])) ∧
    m.loops.length = loops.length ∧ (m.shutdown = .finished → ∀ l ∈ m.loops, l.ended = true) ∧
    (m.shutdown.isRaised = true ↔ ∃ p ∈ past, p.1 = .shutdown .requested) ∧
    (∀ before now after, past = before ++ (.shutdown .requested,now) :: after → ∀ i < loops.length,
      (∀ p ∈ lane i after, ∀ met, p.1 ≠ .received met) ∧
      (∀ e deadline, .hook e deadline ∉ (lane i after).flatMap Prod.snd) ∧
      ((lane i after).flatMap Prod.snd).countP LoopActivity.isPoll ≤ 1) ∧
    (∀ i l, m.shutdown = .joining i → m.loops[i]? = some l → l.ended = true →
      m.step? (.shutdown .joins) =
        some ({ m with shutdown := .joining (i + 1) },(Shutdown.joinLog l).map .main) ∧
      (Shutdown.joinLog l ≠ [] ↔ l.phase = .ended .hookPanicked)) := by
  rw [Shutdown.ofRegistered_eq] at hr
  have hf := follows_of_run hr hreturn
  refine ⟨hf.exists_left,length_loops_of_run hr,hf.ended_of_finished,?_,?_,?_⟩
  · rw [hf.isRaised_iff, mem_shutdownLane]
  · rintro before now after rfl i hi
    obtain ⟨l,l',-,hlane⟩ := closes_after_request hr rfl hi
    exact EventLoop.closes_of_run hlane
  · intro i l hjoining hl hended
    exact ⟨by simp [step?, Shutdown.step?, hjoining, hl, hended],Shutdown.joinLog_ne_nil_iff l⟩

/-- One loop polls, the hook of another runs, that of a third has panicked: the shutdown finishes. -/
theorem shuts_down_in_order_from_each_phase :
    ∃ past m, Run step? ⟨[⟨⟨"1"⟩,.closing "logs",.polling⟩,
        ⟨⟨"2"⟩,.closing "traces",.hook ⟨.invoke,0,none,none,none,none⟩⟩,
        ⟨⟨"3"⟩,{ name := "spans" },.ended .hookPanicked⟩],
        .ofRegistered [(⟨"1"⟩,.closing "logs"),(⟨"2"⟩,.closing "traces"),(⟨"3"⟩,{ name := "spans" })]⟩
        past m ∧
      (∀ p ∈ past, p.1 ≠ .shutdown .hookPanics) ∧ m.shutdown = .finished ∧
      (∃ now, shutdownLane past = Shutdown.script now ["logs","traces"] m.loops) ∧
      m.loops.length = 3 ∧ ∀ l ∈ m.loops, l.ended = true := by
  have hf : (follow step? ⟨[⟨⟨"1"⟩,.closing "logs",.polling⟩,
        ⟨⟨"2"⟩,.closing "traces",.hook ⟨.invoke,0,none,none,none,none⟩⟩,
        ⟨⟨"3"⟩,{ name := "spans" },.ended .hookPanicked⟩],
        .ofRegistered [(⟨"1"⟩,.closing "logs"),(⟨"2"⟩,.closing "traces"),(⟨"3"⟩,{ name := "spans" })]⟩
      [.shutdown .requested,.loop 1 .hookReturned,.shutdown (.timed 7),.shutdown .hookStarts,.loop 0 .released,
       .shutdown .hookReturns,.shutdown .hookStarts,.shutdown .hookReturns,.shutdown .joins,.loop 1 .released,
       .shutdown .joins,.shutdown .joins,.shutdown .joins]).map (fun p => p.1.shutdown) = some .finished := by
    decide
  obtain ⟨⟨m,done⟩,hf,hm⟩ := Option.map_eq_some_iff.mp hf
  obtain ⟨past,hr,hes,-⟩ := run_of_follow hf
  have hreturn : ∀ p ∈ past, p.1 ≠ .shutdown .hookPanics := by
    intro p hp hpanic
    have hmem := List.mem_map_of_mem (f := Prod.fst) hp
    rw [hes, hpanic] at hmem
    simp at hmem
  obtain ⟨⟨now,left,hscript,hleft⟩,hlength,hended,-⟩ := shuts_down_in_order hr hreturn
  rw [hleft.mp hm, List.append_nil] at hscript
  exact ⟨past,m,hr,hreturn,hm,⟨now,hscript⟩,hlength,hended hm⟩

end Manager
end InvocationHost.Extension
