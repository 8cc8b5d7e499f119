import InvocationHost.Proofs.Containment
import InvocationHost.Proofs.PanicRecords

/-! # The sites of captured panics

The payload of a panic and its site come to the host on separate ways: the one unwinds, the other is noted by the
hook. A captured panic gets the site that is noted last, and that is its own one only if no other panic has run the
hook since, whatever became of that one.
-/
namespace InvocationHost.Panic
variable {e : Eruption} {payload : Payload}

/-- The site is one that the hook noted for the payload, or there is none and the hook never ran for it. -/
def Captured.BelongsTo (incidents : List Incident) (c : Captured) : Prop :=
  match c.site with
  | some site => ∃ e, .erupts e ∈ incidents ∧ e.payload = c.payload ∧ e.site = some site
  | none => ∀ e, .erupts e ∈ incidents → e.payload = c.payload → e.site = none

namespace ContainedPoll
variable {r : ThreadRun} (c : ContainedPoll r)

/-- What the poll gives if it unwinds with this payload. -/
def caught (payload : Payload) : Captured := ⟨payload,c.closing.captured⟩

theorem captured_closing_eq_some_iff {site : Site} : c.closing.captured = some site ↔
    (∃ e, LastNoted c.body e ∧ e.site = some site) ∨
      (∀ i ∈ c.body, i.Quiet) ∧ ¬ c.Outermost ∧ c.opening.captured = some site := by
  have hstart : c.opening.enter.captured = some site ↔ ¬ c.Outermost ∧ c.opening.captured = some site := by
    have houter : c.Outermost ↔ c.opening.depth = 0 := (ThreadRun.depth_eq_zero_iff c.split).symm
    by_cases hdepth : c.opening.depth = 0
    · simp [Scene.enter, hdepth, houter]
    · simp [Scene.enter, hdepth, houter]
  rw [c.closing_eq, Scene.captured_afterAll _ c.unfolds.upright (Nat.succ_ne_zero _), foldl_note_eq_some_iff, hstart]

theorem site_caught_of_lastNoted (h : LastNoted c.body e) : (c.caught payload).site = e.site := by
  obtain ⟨site,hs⟩ := Option.ne_none_iff_exists'.mp h.site_ne_none
  exact (c.captured_closing_eq_some_iff.mpr (.inl ⟨e,h,hs⟩)).trans hs.symm

theorem caught_belongsTo_iff : (c.caught payload).BelongsTo c.body ↔
    (∃ e e', LastNoted c.body e ∧ .erupts e' ∈ c.body ∧ e'.payload = payload ∧ e'.site = e.site) ∨
      (c.caught payload).site = none ∧ ∀ e, .erupts e ∈ c.body → e.payload = payload → e.site = none := by
  rw [Captured.BelongsTo]
  cases hsite : (c.caught payload).site with
  | none =>
    have hnot : ∀ e, ¬ LastNoted c.body e :=
      fun e he => he.site_ne_none ((c.site_caught_of_lastNoted he).symm.trans hsite)
    simp [hnot, caught]
  | some site =>
    constructor
    · rintro ⟨e',hmem,hpayload,hs⟩
      obtain ⟨e,he,hes⟩ | ⟨hquiet,-⟩ := c.captured_closing_eq_some_iff.mp hsite
      · exact .inl ⟨e,e',he,hmem,hpayload,hs.trans hes.symm⟩
      · have hnone : e'.site = none := hquiet _ hmem
        simp [hs] at hnone
    · rintro (⟨e,e',he,hmem,hpayload,hs⟩ | ⟨hnone,-⟩)
      · exact ⟨e',hmem,hpayload,hs.trans ((c.site_caught_of_lastNoted he).symm.trans hsite)⟩
      · cases hnone

/-- **The site of a captured panic** is that of the last panic noted in the poll. If there is none, it is the one
noted when the poll began if the poll is within another, and else there is no site. So a panic that runs the hook
and escapes has its own site, if its destructors change nothing; and the site belongs to the payload exactly if
the one noted last was noted for it, or none is and the hook never ran for it. -/
theorem site_caught (hhow : c.how = .unwound payload) :
    (∀ α : Type, (c.closing.close (.error payload : Except Payload α)).1 = .error (c.caught payload)) ∧
    (∀ site, (c.caught payload).site = some site ↔ (∃ e, LastNoted c.body e ∧ e.site = some site) ∨
      (∀ i ∈ c.body, i.Quiet) ∧ ¬ c.Outermost ∧ c.opening.captured = some site) ∧
    ((c.caught payload).site = none → (c.caught payload).frames = [⟨"",0,"<panic>"⟩]) ∧
    (∃ before e destructors, c.body = before ++ .erupts e :: destructors ∧ begun before = ended before ∧
      Unfolds destructors .ready ∧ e.payload = payload ∧
      (e.site ≠ none → (∀ i ∈ destructors, i.Quiet) →
        (c.caught payload).site = e.site ∧ (c.caught payload).BelongsTo c.body)) ∧
    ((c.caught payload).BelongsTo c.body ↔
      (∃ e e', LastNoted c.body e ∧ .erupts e' ∈ c.body ∧ e'.payload = payload ∧ e'.site = e.site) ∨
        (c.caught payload).site = none ∧ ∀ e, .erupts e ∈ c.body → e.payload = payload → e.site = none) := by
  refine ⟨fun α => rfl,fun site => c.captured_closing_eq_some_iff,?_,?_,c.caught_belongsTo_iff⟩
  · intro hnone
    rw [Captured.frames_of_no_site _ hnone]
    rfl
  · obtain ⟨before,e,destructors,hbody,hbalance,hd,hpayload⟩ := (hhow ▸ c.unfolds).exists_escaped
    refine ⟨before,e,destructors,hbody,hbalance,hd,hpayload,fun hsite hquiet => ?_⟩
    have hlast : LastNoted c.body e := ⟨before,destructors,hbody,hsite,hquiet⟩
    exact ⟨c.site_caught_of_lastNoted hlast,c.caught_belongsTo_iff.mpr (.inl ⟨e,e,hlast,hlast.mem,hpayload,rfl⟩)⟩

/-- A panic that escapes after another one was caught. -/
theorem site_caught_of_second_panic :
    let first : Eruption := ⟨.borrowedText "a",some ⟨"","src/a.rs",1⟩⟩
    let second : Eruption := ⟨.borrowedText "b",some ⟨"","src/b.rs",2⟩⟩
    ∃ (r : ThreadRun) (c : ContainedPoll r), c.body = [.erupts first,.erupts second] ∧
      c.how = .unwound second.payload ∧ (c.caught second.payload).site = second.site ∧
      (c.caught second.payload).BelongsTo c.body := by
  intro first second
  have hbody : Unfolds [.erupts first,.erupts second] (.unwound second.payload) :=
    .catches first (.escapes second .ready)
  let r : ThreadRun := ⟨{},_,.ready,rfl,.contains hbody .ready⟩
  let c : ContainedPoll r := ⟨[],_,.unwound second.payload,[],rfl,hbody⟩
  have hlast : LastNoted c.body second := ⟨[.erupts first],[],rfl,by simp [second],by simp⟩
  obtain ⟨-,hsite,-,-,hbelongs⟩ := c.site_caught rfl
  exact ⟨r,c,rfl,rfl,(hsite _).mpr (.inl ⟨second,hlast,rfl⟩),
    hbelongs.mpr (.inl ⟨second,second,hlast,hlast.mem,rfl,rfl⟩)⟩

end ContainedPoll

/-- Code that catches a panic and then unwinds with another payload without the hook is reported with the frames of
the one that it caught. -/
theorem site_of_caught_panic_is_reported :
    let caught : Eruption := ⟨.borrowedText "a",some
      ⟨"   0: core::panicking::panic_fmt\n   1: demo::first\n             at ./src/main.rs:9:5\n","src/main.rs",9⟩⟩
    let resumed : Eruption := ⟨.borrowedText "b",none⟩
    let p : Program Unit := do Program.catchOwn caught; Program.erupt resumed
    let given : Captured := ⟨resumed.payload,caught.site⟩
    (p.contain.poll {}).1 = .ready (.error given) ∧ ¬ given.BelongsTo (p.incidents ({} : Scene).enter) ∧
    given.message = "b" ∧ given.frames = [⟨"src/main.rs",9,"first"⟩] := by
  intro caught resumed p given
  refine ⟨rfl,?_,rfl,by decide +kernel⟩
  change ¬ ∃ e, Incident.erupts e ∈ [.erupts caught,.erupts resumed] ∧ e.payload = resumed.payload ∧
    e.site = caught.site
  rintro ⟨e,hmem,hpayload,hsite⟩
  simp only [List.mem_cons, Incident.erupts.injEq, List.not_mem_nil, or_false] at hmem
  rcases hmem with rfl | rfl
  · simp [caught, resumed] at hpayload
  · simp [caught, resumed] at hsite

/-- A poll within another one takes along what was noted before it. -/
example (a : Site) : ((Program.contain (do
    let _ ← Program.catchOwn ⟨.ownedText "caught",some a⟩
    Program.contain (.erupt ⟨.ownedText "inner",none⟩ : Program Unit))).poll {}).1 =
    .ready (.ok (.error ⟨.ownedText "inner",some a⟩)) := rfl

end InvocationHost.Panic
