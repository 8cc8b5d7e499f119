import Mathlib.Data.List.DropRight
import Mathlib.Data.Nat.Find
import InvocationHost.Backtrace.Selection

/-! # Where the handler's own frames stand

The frames of a report are one stretch of the backtrace. It is given by four places, each of them the
first from the one before it where something holds, and there is no second choice for any of them.
-/
namespace InvocationHost.Backtrace
variable {α : Type} {p : α → Bool} {xs : List α} {start i j : Nat}

/-- `i` is the first place from `start` on where `p` holds. -/
structure FirstFrom (p : α → Bool) (xs : List α) (start i : Nat) : Prop where
  le : start ≤ i
  holds : ∃ x, xs[i]? = some x ∧ p x = true
  before : ∀ j x, start ≤ j → j < i → xs[j]? = some x → p x = false

/-- From `start` on `p` holds nowhere. -/
def NoneFrom (p : α → Bool) (xs : List α) (start : Nat) : Prop :=
  ∀ j x, start ≤ j → xs[j]? = some x → p x = false

theorem firstFrom_or_noneFrom (p : α → Bool) (xs : List α) (start : Nat) :
    (∃ i, FirstFrom p xs start i) ∨ NoneFrom p xs start := by
  by_cases h : NoneFrom p xs start
  · exact .inr h
  · left
    have hex : ∃ j, start ≤ j ∧ ∃ x, xs[j]? = some x ∧ p x = true := by
      simpa [NoneFrom] using h
    classical
    refine ⟨Nat.find hex,(Nat.find_spec hex).1,(Nat.find_spec hex).2,?_⟩
    intro j x hj hlt hx
    have hmin := Nat.find_min hex hlt
    by_contra hp
    exact hmin ⟨hj,x,hx,by simpa using hp⟩

namespace FirstFrom

theorem lt_length (h : FirstFrom p xs start i) : i < xs.length := by
  obtain ⟨x,hx,-⟩ := h.holds
  exact (List.getElem?_eq_some_iff.mp hx).1

theorem not_noneFrom (h : FirstFrom p xs start i) : ¬ NoneFrom p xs start := by
  intro hnone
  obtain ⟨x,hx,hp⟩ := h.holds
  have hnot := hnone i x h.le hx
  simp [hp] at hnot

theorem le_of_holds (h : FirstFrom p xs start i) {x : α} (hj : start ≤ j) (hx : xs[j]? = some x)
    (hp : p x = true) : i ≤ j := by
  by_contra hlt
  have hnot := h.before j x hj (by omega) hx
  simp [hp] at hnot

theorem unique (hi : FirstFrom p xs start i) (hj : FirstFrom p xs start j) : i = j := by
  obtain ⟨x,hx,hpx⟩ := hi.holds
  obtain ⟨y,hy,hpy⟩ := hj.holds
  have hij := hi.le_of_holds hj.le hy hpy
  have hji := hj.le_of_holds hi.le hx hpx
  omega

theorem findIdx_eq (h : FirstFrom p xs start i) : (xs.drop start).findIdx p = i - start := by
  obtain ⟨x,hx,hp⟩ := h.holds
  have hle := h.le
  have hlt := h.lt_length
  have hxi : xs[i] = x := (List.getElem?_eq_some_iff.mp hx).2
  have hlen : i - start < (xs.drop start).length := by
    rw [List.length_drop]
    omega
  rw [List.findIdx_eq hlen]
  constructor
  · simpa [List.getElem_drop, Nat.add_sub_of_le hle, hxi] using hp
  · intro j hj
    rw [List.getElem_drop]
    exact h.before (start + j) _ (by omega) (by omega) (List.getElem?_eq_getElem (by omega))

theorem dropWhile_eq (h : FirstFrom p xs start i) : (xs.drop start).dropWhile (!p ·) = xs.drop i := by
  have hle := h.le
  rw [List.dropWhile_eq_drop_findIdx_not]
  simp only [Bool.not_not]
  rw [h.findIdx_eq, List.drop_drop, Nat.add_sub_of_le hle]

theorem takeWhile_eq (h : FirstFrom p xs start i) :
    (xs.drop start).takeWhile (!p ·) = xs.extract start i := by
  rw [List.takeWhile_eq_take_findIdx_not]
  simp only [Bool.not_not]
  rw [h.findIdx_eq, List.extract_eq_take_drop]

end FirstFrom

namespace NoneFrom

theorem eq_false_of_mem (h : NoneFrom p xs start) {x : α} (hx : x ∈ xs.drop start) : p x = false := by
  obtain ⟨j,hj⟩ := List.mem_iff_getElem?.mp hx
  rw [List.getElem?_drop] at hj
  exact h (start + j) x (by omega) hj

theorem dropWhile_eq (h : NoneFrom p xs start) : (xs.drop start).dropWhile (!p ·) = [] := by
  rw [List.dropWhile_eq_nil_iff]
  intro x hx
  simp [h.eq_false_of_mem hx]

theorem takeWhile_eq (h : NoneFrom p xs start) :
    (xs.drop start).takeWhile (!p ·) = xs.extract start xs.length := by
  have hall : ∀ x ∈ xs.drop start, (!p x) = true := by
    intro x hx
    simp [h.eq_false_of_mem hx]
  rw [List.takeWhile_eq_self_iff.mpr hall, List.extract_eq_take_drop, List.take_of_length_le]
  rw [List.length_drop]

end NoneFrom

/-- `i` is the first place from `start` on where `p` holds, or the given one if there is none. -/
def FirstOr (p : α → Bool) (xs : List α) (start otherwise i : Nat) : Prop :=
  FirstFrom p xs start i ∨ NoneFrom p xs start ∧ i = otherwise

namespace FirstOr
variable {otherwise : Nat}

theorem exists_place (p : α → Bool) (xs : List α) (start otherwise : Nat) :
    ∃ i, FirstOr p xs start otherwise i := by
  obtain ⟨i,h⟩ | h := firstFrom_or_noneFrom p xs start
  · exact ⟨i,.inl h⟩
  · exact ⟨otherwise,.inr ⟨h,rfl⟩⟩

theorem unique (h : FirstOr p xs start otherwise i) (h' : FirstOr p xs start otherwise j) : i = j := by
  obtain h | ⟨h,rfl⟩ := h <;> obtain h' | ⟨h',rfl⟩ := h'
  · exact h.unique h'
  · exact absurd h' h.not_noneFrom
  · exact absurd h h'.not_noneFrom
  · rfl

theorem le_length (h : FirstOr p xs start otherwise i) (hle : otherwise ≤ xs.length) : i ≤ xs.length := by
  obtain h | ⟨-,rfl⟩ := h
  · exact h.lt_length.le
  · exact hle

end FirstOr

/-- Where the search begins: at the first panic entry, or at the start if there is none. -/
abbrev EntersAt (raw : List RawFrame) (entry : Nat) : Prop := FirstOr RawFrame.isPanicEntry raw 0 0 entry

/-- Where the frames of the host begin: at the first boundary, or behind the last frame. -/
abbrev StopsAt (boundaries : List String) (raw : List RawFrame) (first stop : Nat) : Prop :=
  FirstOr (RawFrame.isBoundary boundaries) raw first raw.length stop

/-- The stretch of a backtrace that is the handler's own: from the first frame behind the panic entry that
is no runtime frame, up to the first boundary, less the longest run of runtime frames at its end. -/
structure OwnBlock (boundaries : List String) (raw : List RawFrame) where
  entry : Nat
  first : Nat
  stop : Nat
  last : Nat
  enters : EntersAt raw entry
  begins : FirstFrom (!RawFrame.isRuntime ·) raw entry first
  stops : StopsAt boundaries raw first stop
  first_le : first ≤ last
  last_le : last ≤ stop
  trailing : ∀ j f, last ≤ j → j < stop → raw[j]? = some f → f.isRuntime = true
  longest : first < last → ∃ f, raw[last - 1]? = some f ∧ f.isRuntime = false

variable {boundaries : List String} {raw : List RawFrame} {entry first stop : Nat}

theorem EntersAt.fromPanicEntry_eq (h : EntersAt raw entry) : fromPanicEntry raw = raw.drop entry := by
  unfold fromPanicEntry
  obtain h | ⟨h,rfl⟩ := h
  · have hdrop : raw.dropWhile (!·.isPanicEntry) = raw.drop entry := h.dropWhile_eq
    have hne : raw.drop entry ≠ [] := by
      have hlt := h.lt_length
      simpa using hlt
    rw [hdrop]
    split
    · next hnil => exact absurd hnil hne
    · rfl
  · have hdrop : raw.dropWhile (!·.isPanicEntry) = [] := h.dropWhile_eq
    rw [hdrop, List.drop_zero]

theorem StopsAt.takeWhile_eq (h : StopsAt boundaries raw first stop) :
    (raw.drop first).takeWhile (!·.isBoundary boundaries) = raw.extract first stop := by
  obtain h | ⟨h,rfl⟩ := h
  · exact h.takeWhile_eq
  · exact h.takeWhile_eq

theorem StopsAt.not_boundary (h : StopsAt boundaries raw first stop) {f : RawFrame} (hj : first ≤ j)
    (hlt : j < stop) (hf : raw[j]? = some f) : f.isBoundary boundaries = false := by
  obtain h | ⟨h,-⟩ := h
  · exact h.before j f hj hlt hf
  · exact h j f hj hf

/-- The host begins at once exactly if the first frame is one of its own. -/
theorem StopsAt.eq_first_iff (h : StopsAt boundaries raw first stop) (hlt : first < raw.length) :
    stop = first ↔ ∃ f, raw[first]? = some f ∧ f.isBoundary boundaries = true := by
  constructor
  · rintro rfl
    obtain h | ⟨-,hlen⟩ := h
    · exact h.holds
    · omega
  · rintro ⟨f,hf,hb⟩
    obtain h | ⟨h,-⟩ := h
    · exact Nat.le_antisymm (h.le_of_holds (Nat.le_refl _) hf hb) h.le
    · have hnot := h first f (Nat.le_refl _) hf
      simp [hb] at hnot

theorem StopsAt.le (h : StopsAt boundaries raw first stop) (hlt : first < raw.length) :
    first ≤ stop := by
  obtain h | ⟨-,rfl⟩ := h
  · exact h.le
  · exact hlt.le

/-- Dropping at the end takes away a run that is as long as it can be. -/
theorem dropTrailing_split (p : α → Bool) (xs : List α) :
    ∃ zs, xs = dropTrailing p xs ++ zs ∧ (∀ x ∈ zs, p x = true) ∧
      ∀ x, (dropTrailing p xs).getLast? = some x → p x = false := by
  refine ⟨xs.rtakeWhile p,List.rdropWhile_append_rtakeWhile.symm,fun x => List.mem_rtakeWhile_imp,?_⟩
  intro x hx
  have hne : xs.rdropWhile p ≠ [] := by
    rintro hnil
    rw [show dropTrailing p xs = xs.rdropWhile p from rfl, hnil] at hx
    simp at hx
  have hlast : (xs.rdropWhile p).getLast hne = x :=
    Option.some_inj.mp ((List.getLast?_eq_some_getLast hne).symm.trans hx)
  have hnot := List.rdropWhile_last_not p xs hne
  simpa [hlast] using hnot

theorem extract_split {stop : Nat} {ys zs : List α} (hle : start ≤ stop) (hstop : stop ≤ xs.length)
    (h : xs.extract start stop = ys ++ zs) :
    start + ys.length ≤ stop ∧ ys = xs.extract start (start + ys.length) ∧
      ∀ k, start + k < stop → xs[start + k]? = (ys ++ zs)[k]? := by
  have hlen : ys.length + zs.length = stop - start := by
    have hlength := congrArg List.length h
    simp only [List.extract_eq_take_drop, List.length_take, List.length_drop,
      List.length_append] at hlength
    omega
  refine ⟨by omega,?_,?_⟩
  · have hys : (xs.extract start stop).take ys.length = ys := by rw [h, List.take_left]
    rw [List.extract_eq_take_drop, List.take_take, Nat.min_eq_left (by omega)] at hys
    rw [List.extract_eq_take_drop, Nat.add_sub_cancel_left, hys]
  · intro k hk
    rw [← h, List.extract_eq_take_drop, List.getElem?_take_of_lt (by omega), List.getElem?_drop]

/-- Such a block is there behind every panic entry that a frame of another origin follows, and a report
keeps its frames. -/
theorem exists_ownBlock (boundaries : List String) (he : EntersAt raw entry)
    (hb : FirstFrom (!RawFrame.isRuntime ·) raw entry first) :
    ∃ b : OwnBlock boundaries raw, b.entry = entry ∧ b.first = first ∧
      userBlock boundaries raw = raw.extract b.first b.last := by
  obtain ⟨stop,hs⟩ : ∃ stop, StopsAt boundaries raw first stop := FirstOr.exists_place _ _ _ _
  have hbegins : (raw.drop entry).dropWhile RawFrame.isRuntime = raw.drop first := by
    simpa using hb.dropWhile_eq
  have hblock : userBlock boundaries raw = dropTrailing RawFrame.isRuntime (raw.extract first stop) := by
    rw [userBlock, he.fromPanicEntry_eq, hbegins, hs.takeWhile_eq]
  obtain ⟨zs,hsplit,hz,hlast⟩ := dropTrailing_split RawFrame.isRuntime (raw.extract first stop)
  rw [← hblock] at hsplit hlast
  obtain ⟨hle,hown,hget⟩ := extract_split (hs.le hb.lt_length) (hs.le_length (Nat.le_refl _)) hsplit
  refine ⟨⟨entry,first,stop,first + (userBlock boundaries raw).length,he,hb,hs,by omega,hle,?_,?_⟩,
    rfl,rfl,hown⟩
  · -- what was dropped at the end is runtime
    intro j f hj hlt hf
    obtain ⟨k,rfl⟩ := Nat.exists_eq_add_of_le hj
    rw [Nat.add_assoc] at hlt hf
    rw [hget _ hlt, List.getElem?_append_right (by omega)] at hf
    exact hz f (List.mem_of_getElem? hf)
  · -- and the frame before it is not
    intro hpos
    obtain ⟨f,hf⟩ : ∃ f, (userBlock boundaries raw)[(userBlock boundaries raw).length - 1]? = some f :=
      ⟨_,List.getElem?_eq_getElem (by omega)⟩
    refine ⟨f,?_,hlast f ?_⟩
    · rw [Nat.add_sub_assoc (by omega), hget _ (by omega), List.getElem?_append_left (by omega), hf]
    · rw [List.getLast?_eq_getElem?, hf]

namespace OwnBlock

theorem first_lt_length (b : OwnBlock boundaries raw) : b.first < raw.length := b.begins.lt_length

/-- The longest run at the end leaves no choice for the end of the block. -/
theorem last_le_last {b c : OwnBlock boundaries raw} (hf : b.first = c.first) (hs : b.stop = c.stop) :
    b.last ≤ c.last := by
  by_contra hlt
  have hle := c.first_le
  have hstop := b.last_le
  obtain ⟨f,hget,hnot⟩ := b.longest (by omega)
  have hrun := c.trailing (b.last - 1) f (by omega) (by omega) hget
  simp [hnot] at hrun

theorem unique (b c : OwnBlock boundaries raw) : b = c := by
  have he := b.enters.unique c.enters
  have hf := b.begins.unique (he ▸ c.begins)
  have hs := b.stops.unique (hf ▸ c.stops)
  have hl := Nat.le_antisymm (last_le_last hf hs) (last_le_last hf.symm hs.symm)
  cases b
  cases c
  dsimp only at he hf hs hl
  subst he hf hs hl
  rfl

theorem userBlock_eq (b : OwnBlock boundaries raw) :
    userBlock boundaries raw = raw.extract b.first b.last := by
  obtain ⟨c,-,-,hc⟩ := exists_ownBlock boundaries b.enters b.begins
  rwa [c.unique b] at hc

/-- Only a boundary right at its beginning leaves the block empty. -/
theorem last_eq_first_iff (b : OwnBlock boundaries raw) :
    b.last = b.first ↔ ∃ f, raw[b.first]? = some f ∧ f.isBoundary boundaries = true := by
  rw [← b.stops.eq_first_iff b.first_lt_length]
  have hfirst := b.first_le
  have hlast := b.last_le
  constructor
  · intro heq
    by_contra hne
    obtain ⟨f,hf,hnot⟩ := b.begins.holds
    have hrun := b.trailing b.first f (by omega) (by omega) hf
    simp [hrun] at hnot
  · intro heq
    omega

/-- What a report makes of the block. -/
structure ReportedAs (b : OwnBlock boundaries raw) (frames : List StackFrame) : Prop where
  inRange : b.entry ≤ b.first ∧ b.first ≤ b.last ∧ b.last ≤ b.stop ∧ b.stop ≤ raw.length
  image : frames = ((raw.extract b.first b.last).take 32).map RawFrame.report
  /-- Every frame of the report is a frame behind the panic entry, and there is no boundary up to it. -/
  frame : ∀ k s, frames[k]? = some s → ∃ f, raw[b.first + k]? = some f ∧ s = f.report ∧
    b.entry ≤ b.first + k ∧
    ∀ j g, b.first ≤ j → j ≤ b.first + k → raw[j]? = some g → g.isBoundary boundaries = false
  head : ∃ f, raw[b.first]? = some f ∧ f.isRuntime = false
  last : frames ≠ [] → frames.length < 32 →
    ∃ f, raw[b.first + (frames.length - 1)]? = some f ∧ f.isRuntime = false

theorem reportedAs (b : OwnBlock boundaries raw) :
    b.ReportedAs (((userBlock boundaries raw).take maxFrames).map RawFrame.report) := by
  have hfirst := b.first_le
  have hlast := b.last_le
  have hstop := b.stops.le_length (Nat.le_refl _)
  rw [b.userBlock_eq]
  have hlen : ((raw.extract b.first b.last).take maxFrames).length = min 32 (b.last - b.first) := by
    simp only [List.extract_eq_take_drop, List.length_take, List.length_drop, maxFrames]
    omega
  refine ⟨⟨b.begins.le,hfirst,hlast,hstop⟩,rfl,?_,?_,?_⟩
  · intro k s hs
    rw [List.getElem?_map] at hs
    obtain ⟨f,hf,rfl⟩ := Option.map_eq_some_iff.mp hs
    have hk : k < min 32 (b.last - b.first) := hlen ▸ (List.getElem?_eq_some_iff.mp hf).1
    rw [List.getElem?_take_of_lt (by simp only [maxFrames]; omega), List.extract_eq_take_drop,
      List.getElem?_take_of_lt (by omega), List.getElem?_drop] at hf
    have hentry := b.begins.le
    refine ⟨f,hf,rfl,by omega,?_⟩
    intro j g hj hle hg
    exact b.stops.not_boundary hj (by omega) hg
  · obtain ⟨f,hf,hnot⟩ := b.begins.holds
    exact ⟨f,hf,by simpa using hnot⟩
  · intro hne hlt
    have hpos := List.length_pos_iff.mpr hne
    rw [List.length_map, hlen] at hlt hpos ⊢
    obtain ⟨f,hf,hnot⟩ := b.longest (by omega)
    refine ⟨f,?_,hnot⟩
    rwa [show b.first + (min 32 (b.last - b.first) - 1) = b.last - 1 by omega]

end OwnBlock

theorem userBlock_eq_nil (he : EntersAt raw entry) (h : NoneFrom (!RawFrame.isRuntime ·) raw entry) :
    userBlock boundaries raw = [] := by
  have hdrop : (raw.drop entry).dropWhile RawFrame.isRuntime = [] := by simpa using h.dropWhile_eq
  rw [userBlock, he.fromPanicEntry_eq, hdrop]
  rfl

/-- A report has no frames iff only runtime frames follow the panic entry, or the first other one is a
boundary. -/
theorem userBlock_eq_nil_iff (he : EntersAt raw entry) :
    userBlock boundaries raw = [] ↔ NoneFrom (!RawFrame.isRuntime ·) raw entry ∨
      ∃ first f, FirstFrom (!RawFrame.isRuntime ·) raw entry first ∧ raw[first]? = some f ∧
        f.isBoundary boundaries = true := by
  obtain ⟨first,hb⟩ | hnone := firstFrom_or_noneFrom (!RawFrame.isRuntime ·) raw entry
  · obtain ⟨b,-,rfl,hblock⟩ := exists_ownBlock boundaries he hb
    have hfirst := b.first_le
    have hlt := b.first_lt_length
    have hempty : userBlock boundaries raw = [] ↔ b.last = b.first := by
      rw [hblock, List.extract_eq_take_drop, List.take_eq_nil_iff, List.drop_eq_nil_iff]
      omega
    rw [hempty, b.last_eq_first_iff]
    constructor
    · rintro ⟨f,hf,hbound⟩
      exact .inr ⟨b.first,f,hb,hf,hbound⟩
    · rintro (hnone | ⟨first,f,hfirst,hf,hbound⟩)
      · exact absurd hnone hb.not_noneFrom
      · exact ⟨f,hfirst.unique hb ▸ hf,hbound⟩
  · exact iff_of_true (userBlock_eq_nil he hnone) (.inl hnone)

/-- **A report has exactly the handler's own frames.** In every backtrace the search begins at one place.
Where a frame that is no runtime frame follows it, the own block is there, there is no second one, and
the report shows its first 32 frames in their order. There are none to report iff only runtime frames
follow, or the first other frame is a boundary already. -/
theorem userFrames_are_own_block (boundaries : List String) (rendered : String) :
    ∃ entry, EntersAt (readFrames rendered) entry ∧
      (∀ e, EntersAt (readFrames rendered) e → e = entry) ∧ entry ≤ (readFrames rendered).length ∧
      (∀ first, FirstFrom (!RawFrame.isRuntime ·) (readFrames rendered) entry first →
        ∃ b : OwnBlock boundaries (readFrames rendered), b.entry = entry ∧ b.first = first) ∧
      (∀ b c : OwnBlock boundaries (readFrames rendered), b = c) ∧
      (∀ b : OwnBlock boundaries (readFrames rendered),
        b.ReportedAs (userFrames boundaries rendered)) ∧
      (userFrames boundaries rendered = [] ↔
        NoneFrom (!RawFrame.isRuntime ·) (readFrames rendered) entry ∨
        ∃ first f, FirstFrom (!RawFrame.isRuntime ·) (readFrames rendered) entry first ∧
          (readFrames rendered)[first]? = some f ∧ f.isBoundary boundaries = true) := by
  obtain ⟨entry,he⟩ : ∃ entry, EntersAt (readFrames rendered) entry := FirstOr.exists_place _ _ _ _
  refine ⟨entry,he,fun e h => h.unique he,he.le_length (Nat.zero_le _),?_,OwnBlock.unique,OwnBlock.reportedAs,?_⟩
  · intro first hb
    obtain ⟨b,hentry,hfirst,-⟩ := exists_ownBlock boundaries he hb
    exact ⟨b,hentry,hfirst⟩
  · have hnil : userFrames boundaries rendered = [] ↔ userBlock boundaries (readFrames rendered) = [] := by
      rw [userFrames, List.map_eq_nil_iff, List.take_eq_nil_iff]
      simp [maxFrames]
    rw [hnil]
    exact userBlock_eq_nil_iff he

end InvocationHost.Backtrace
