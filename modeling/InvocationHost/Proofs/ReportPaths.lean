import InvocationHost.Api.Invocations
import InvocationHost.Proofs.Escapes
import InvocationHost.Proofs.Headers
import Mathlib.Data.List.TakeWhile

/-! # Paths of reports

A report is posted to a path in which the identifier of its invocation stands as one segment. What the identifier
holds of separators, queries, fragments, tabs and dot segments is taken for a part of the URL, so that an identifier
is told by the path exactly if it has none of these and no escape.
-/
namespace InvocationHost
open Text

namespace Http

/-- The path of a request: its target without the query. -/
def Request.path (r : Request) : List Char := r.target.toList.takeWhile (· ≠ '?')

/-- The segments with a slash before each. -/
def joined (segments : List (List Char)) : List Char := segments.flatMap fun s => '/' :: s

/-- The segments of a URL behind its host, as they are before dot segments are resolved. -/
def segmentsOf (url : List Char) : List (List Char) :=
  (pieces isSeparator (((url.filter (!isIgnored ·)).takeWhile (· ≠ '#')).takeWhile (· ≠ '?'))).tail

/-- What the text cannot hold if it is to be one segment. -/
def breaking : List Char := ['\t','\n','\r','/','\\','?','#']

variable {c : Char} {s : List Char} {segments : List (List Char)}

theorem pieces_joined {isMark : Char → Bool} (hm : isMark '/' = true) (h : ∀ s ∈ segments, ∀ c ∈ s, isMark c = false) :
    pieces isMark (joined segments) = [] :: segments := by
  induction segments with
  | nil => rfl
  | cons s segments ih =>
    have hs := h s List.mem_cons_self
    have hrest := ih fun s' hs' => h s' (List.mem_cons_of_mem s hs')
    have hjoined : joined (s :: segments) = [] ++ '/' :: (s ++ joined segments) := rfl
    rw [hjoined, pieces_append_cons (by simp) hm]
    cases segments with
    | nil => rw [joined, List.flatMap_nil, List.append_nil, pieces_of_not hs]
    | cons s' segments =>
      have htail : joined (s' :: segments) = [] ++ '/' :: (s' ++ joined segments) := rfl
      rw [htail, pieces_append_cons (by simp) hm, List.cons_inj_right] at hrest
      rw [htail, List.nil_append, pieces_append_cons hs hm, hrest]

theorem joined_inj {segments' : List (List Char)} (h : ∀ s ∈ segments, '/' ∉ s) (h' : ∀ s ∈ segments', '/' ∉ s)
    (heq : joined segments = joined segments') : segments = segments' := by
  have hpieces (ss : List (List Char)) (hss : ∀ s ∈ ss, '/' ∉ s) : pieces (· = '/') (joined ss) = [] :: ss := by
    refine pieces_joined rfl fun s hs c hc => ?_
    rw [decide_eq_false_iff_not]
    rintro rfl
    exact hss s hs hc
  exact (List.cons_inj_right _).mp ((hpieces _ h).symm.trans (heq ▸ hpieces _ h'))

theorem notMem_breaking_of_mem_segmentsOf {url : List Char} (hs : s ∈ segmentsOf url) (hc : c ∈ s) : c ∉ breaking := by
  have hpiece := List.mem_of_mem_tail hs
  have hseparator : isSeparator c = false := isMark_of_mem_pieces hpiece c hc
  have hquery := List.all_eq_true.mp List.all_takeWhile c (mem_of_mem_pieces hpiece hc)
  have hsent := (List.takeWhile_prefix _).mem (mem_of_mem_pieces hpiece hc)
  have hfragment := List.all_eq_true.mp List.all_takeWhile c hsent
  have hignored := List.of_mem_filter ((List.takeWhile_prefix _).mem hsent)
  simp_all [breaking, isSeparator, isIgnored]

theorem mem_addSegment {kept : List (List Char)} {segment : List Char} {isLast : Bool}
    (h : s ∈ addSegment kept segment isLast) : s ∈ kept ∨ s = [] ∨ s = escape segment := by
  unfold addSegment at h
  split at h
  · split at h
    · exact (List.mem_cons.mp h).elim (fun h => .inr (.inl h)) .inl
    · exact .inl h
  · split at h
    · exact (List.mem_cons.mp h).elim (fun h => .inr (.inl h)) fun h => .inl (List.mem_of_mem_tail h)
    · exact .inl (List.mem_of_mem_tail h)
  · exact (List.mem_cons.mp h).elim (fun h => .inr (.inr h)) .inl

/-- Resolving drops segments, and escapes those that it keeps. -/
theorem mem_resolve {kept : List (List Char)} (h : s ∈ resolve kept segments) :
    s ∈ kept ∨ s = [] ∨ ∃ segment ∈ segments, s = escape segment := by
  induction segments generalizing kept with
  | nil => exact .inl (List.mem_reverse.mp h)
  | cons segment segments ih =>
    rw [resolve] at h
    rcases ih h with h | h | ⟨segment',hmem,h⟩
    · rcases mem_addSegment h with h | h | h
      · exact .inl h
      · exact .inr (.inl h)
      · exact .inr (.inr ⟨segment,List.mem_cons_self,h⟩)
    · exact .inr (.inl h)
    · exact .inr (.inr ⟨segment',List.mem_cons_of_mem segment hmem,h⟩)

theorem addSegment_of_not_dots {kept : List (List Char)} {isLast : Bool} (h₁ : dots s ≠ some 1) (h₂ : dots s ≠ some 2) :
    addSegment kept s isLast = escape s :: kept := by
  rw [addSegment]
  split
  · contradiction
  · contradiction
  · rfl

theorem mem_resolved {url : List Char} (h : s ∈ resolve [] (segmentsOf url)) :
    s = [] ∨ ∃ segment, s = escape segment ∧ ∀ c ∈ segment, c ∉ breaking := by
  rcases mem_resolve h with h | h | ⟨segment,hsegment,rfl⟩
  · cases h
  · exact .inl h
  · exact .inr ⟨segment,rfl,fun c hc => notMem_breaking_of_mem_segmentsOf hsegment hc⟩

theorem notMem_escape (hs : ∀ c ∈ s, c ∉ breaking) (hc : c ∈ breaking) : c ∉ escape s := by
  intro h
  rcases mem_escape h with ⟨h,-⟩ | h
  · exact hs c h hc
  · have hnone : ∀ d ∈ breaking, d ∉ "%0123456789ABCDEF".toList := by decide
    exact hnone c hc h

theorem notMem_resolved {url : List Char} (h : s ∈ resolve [] (segmentsOf url)) (hc : c ∈ breaking) : c ∉ s := by
  rcases mem_resolved h with rfl | ⟨segment,rfl,hsegment⟩
  · simp
  · exact notMem_escape hsegment hc

/-- The path is what resolving leaves of the URL before its query. -/
theorem path_eq (r : Request) : r.path = joined (resolve [] (segmentsOf r.url.toList)) := by
  have hfree : ∀ c ∈ joined (resolve [] (segmentsOf r.url.toList)), decide (c ≠ '?') = true := by
    intro c hc
    obtain ⟨s,hs,hmem⟩ := List.mem_flatMap.mp hc
    rw [decide_eq_true_iff]
    rintro rfl
    rcases List.mem_cons.mp hmem with h | h
    · cases h
    · exact notMem_resolved hs (by decide) h
  have hquery (sent : List Char) :
      ((sent.dropWhile (· ≠ '?')).flatMap (percentChar isReservedInQuery)).takeWhile (· ≠ '?') = [] := by
    cases hd : sent.dropWhile (· ≠ '?') with
    | nil => rfl
    | cons d ds =>
      have hhead : d = '?' := by
        have hnot := List.head?_dropWhile_not (· ≠ '?') sent
        rw [hd] at hnot
        simpa using hnot
      subst hhead
      rfl
  rw [Request.path, Request.target, target, String.toList_ofList]
  exact (List.takeWhile_append_of_pos hfree).trans (by rw [hquery, List.append_nil])

/-- Segments that nothing in them breaks are those of the URL that is put together of them. -/
theorem segmentsOf_joined (h : ∀ s ∈ segments, ∀ c ∈ s, c ∉ breaking) : segmentsOf (joined segments) = segments := by
  have hchars : ∀ c ∈ joined segments, isIgnored c = false ∧ c ≠ '#' ∧ c ≠ '?' := by
    intro c hc
    obtain ⟨s,hs,hmem⟩ := List.mem_flatMap.mp hc
    rcases List.mem_cons.mp hmem with rfl | hmem
    · decide
    · have hnot := h s hs c hmem
      simp_all [breaking, isIgnored]
  have hsent : (joined segments).filter (!isIgnored ·) = joined segments :=
    List.filter_eq_self.mpr fun c hc => by rw [(hchars c hc).1]; rfl
  have hfragment : (joined segments).takeWhile (· ≠ '#') = joined segments :=
    List.takeWhile_eq_self_iff.mpr fun c hc => decide_eq_true (hchars c hc).2.1
  have hquery : (joined segments).takeWhile (· ≠ '?') = joined segments :=
    List.takeWhile_eq_self_iff.mpr fun c hc => decide_eq_true (hchars c hc).2.2
  have hpieces : pieces isSeparator (joined segments) = [] :: segments := by
    refine pieces_joined rfl fun s hs c hc => ?_
    have hnot := h s hs c hc
    simp_all [breaking, isSeparator]
  rw [segmentsOf, hsent, hfragment, hquery, hpieces]
  rfl

end Http

namespace Api.Invocations
open Http
variable {r r' : Reply} {id id' : RequestId} {kind kind' : ReportKind}

/-- The segments of the path of the invocation API. -/
def baseSegments : List (List Char) := ["2018-06-01".toList,"runtime".toList,"invocation".toList]

/-- The identifier stays one segment of the path. -/
structure IsSegment (id : RequestId) : Prop where
  unbroken : ∀ c ∈ id.text.toList, c ∉ breaking
  stays : dots id.text.toList ≠ some 1
  keeps : dots id.text.toList ≠ some 2

def operationSegment (kind : ReportKind) : List Char := kind.operation.name.toList

/-- An identifier that is taken from a reply is not empty, and all of it but tabs is visible. -/
theorem visible_of_requestId? (h : requestId? r = some id) :
    id.text.toList ≠ [] ∧ ∀ c ∈ id.text.toList, c = '\t' ∨ isInvisible c = false := by
  obtain ⟨text,htext,rfl⟩ := Option.map_eq_some_iff.mp h
  obtain ⟨hread,hne⟩ := Option.filter_eq_some_iff.mp htext
  obtain ⟨⟨key,value⟩,-,hvalue⟩ := Option.bind_eq_some_iff.mp hread
  refine ⟨by simpa using hne,fun c hc => (visible_of_readable? hvalue c hc).imp_right fun hvisible => ?_⟩
  rw [isInvisible, Bool.or_eq_false_iff, decide_eq_false_iff_not, decide_eq_false_iff_not]
  omega

theorem spelled (h : requestId? r = some id) (hid : ∀ c ∈ id.text.toList, c ∉ breaking) :
    Spelled id.text.toList := by
  intro c hc hreserved
  have hbreaking := hid c hc
  rcases (visible_of_requestId? h).2 c hc with rfl | hvisible
  · exact absurd (by decide) hbreaking
  · have hmem : c ∈ [' ','"','#','<','>','?','\x60','\x7b','\x7d'] := by
      simpa [isReservedInPath, hvisible] using hreserved
    have hescapes : ∀ c ∈ [' ','"','#','<','>','?','\x60','\x7b','\x7d'], c ∉ breaking → ∃ e ∈ escapes, e.1 = c := by
      decide
    exact hescapes c hmem hbreaking

theorem toList_reportUrl (kind : ReportKind) (id : RequestId) :
    (reportUrl kind id).toList = joined (baseSegments ++ [id.text.toList,operationSegment kind]) := by
  simp [reportUrl, joined, baseSegments, basePath, operationSegment]

theorem resolve_report (s : List Char) (kind : ReportKind) :
    resolve [] (baseSegments ++ [s,operationSegment kind]) =
      if dots s = some 1 then baseSegments ++ [operationSegment kind]
      else if dots s = some 2 then baseSegments.dropLast ++ [operationSegment kind]
      else baseSegments ++ [escape s,operationSegment kind] := by
  have hbase : resolve [] (baseSegments ++ [s,operationSegment kind]) =
      resolve baseSegments.reverse [s,operationSegment kind] := rfl
  have hop : dots (operationSegment kind) ≠ some 1 ∧ dots (operationSegment kind) ≠ some 2 ∧
      escape (operationSegment kind) = operationSegment kind := by
    cases kind <;> decide
  have hlast (kept : List (List Char)) :
      resolve kept [operationSegment kind] = kept.reverse ++ [operationSegment kind] := by
    rw [resolve, addSegment_of_not_dots hop.1 hop.2.1, hop.2.2, resolve, List.reverse_cons]
  rw [hbase, resolve, hlast, addSegment]
  split
  · next h => rw [if_pos h]; rfl
  · next h =>
    have hne : dots s ≠ some 1 := by rw [h]; decide
    rw [if_neg hne, if_pos h]
    rfl
  · next h₁ h₂ => rw [if_neg h₁, if_neg h₂]; rfl

/-- The path tells the identifier and the operation: the identifier is what its last segment but one spells. -/
def Tells (path : List Char) (kind : ReportKind) (id : RequestId) : Prop :=
  ∃ segment, '/' ∉ segment ∧ path = basePath.toList ++ segment ++ '/' :: operationSegment kind ∧
    unescape segment = id.text.toList

/-- An identifier that stays one segment and holds no escape. -/
structure Fits (id : RequestId) : Prop extends IsSegment id where
  free : EscapeFree id.text.toList

theorem unbroken_segments (hid : ∀ c ∈ id.text.toList, c ∉ breaking) (kind : ReportKind) :
    ∀ s ∈ baseSegments ++ [id.text.toList,operationSegment kind], ∀ c ∈ s, c ∉ breaking := by
  have hbase : ∀ s ∈ baseSegments, ∀ c ∈ s, c ∉ breaking := by decide
  have hop : ∀ c ∈ operationSegment kind, c ∉ breaking := by cases kind <;> decide
  intro s hs
  simp only [List.mem_append, List.mem_cons, List.not_mem_nil, or_false] at hs
  rcases hs with hs | rfl | rfl
  · exact hbase s hs
  · exact hid
  · exact hop

theorem slashless_segments {segment : List Char} (h : '/' ∉ segment) (kind : ReportKind) :
    ∀ s ∈ baseSegments ++ [segment,operationSegment kind], '/' ∉ s := by
  have hbase : ∀ s ∈ baseSegments, '/' ∉ s := by decide
  have hop : '/' ∉ operationSegment kind := by cases kind <;> decide
  intro s hs
  simp only [List.mem_append, List.mem_cons, List.not_mem_nil, or_false] at hs
  rcases hs with hs | rfl | rfl
  · exact hbase s hs
  · exact h
  · exact hop

section Posted
variable {post post' : Request}

theorem path_report (hurl : post.url = reportUrl kind id) (hid : ∀ c ∈ id.text.toList, c ∉ breaking) :
    post.path = joined (resolve [] (baseSegments ++ [id.text.toList,operationSegment kind])) := by
  rw [path_eq, hurl, toList_reportUrl, segmentsOf_joined (unbroken_segments hid kind)]

theorem IsSegment.path (h : IsSegment id) (hurl : post.url = reportUrl kind id) :
    post.path = joined (baseSegments ++ [escape id.text.toList,operationSegment kind]) := by
  rw [path_report hurl h.unbroken, resolve_report, if_neg h.stays, if_neg h.keeps]

theorem tells_iff {path : List Char} : Tells path kind id ↔
    ∃ segment, '/' ∉ segment ∧ path = joined (baseSegments ++ [segment,operationSegment kind]) ∧
      unescape segment = id.text.toList := by
  have hjoined (segment : List Char) : basePath.toList ++ segment ++ '/' :: operationSegment kind =
      joined (baseSegments ++ [segment,operationSegment kind]) := by
    simp [joined, baseSegments, basePath]
  simp only [Tells, hjoined]

/-- The segments that are told are those that resolving has left. -/
theorem Tells.exists_segment (hurl : post.url = reportUrl kind id) (h : Tells post.path kind id) :
    ∃ segment, unescape segment = id.text.toList ∧
      resolve [] (segmentsOf (reportUrl kind id).toList) =
        baseSegments ++ [segment,operationSegment kind] := by
  obtain ⟨segment,hslash,hpath,hsegment⟩ := tells_iff.mp h
  rw [path_eq, hurl] at hpath
  refine ⟨segment,hsegment,joined_inj ?_ (slashless_segments hslash kind) hpath⟩
  exact fun s hs => notMem_resolved hs (by decide)

/-- Nothing breaks an identifier that the path tells. -/
theorem Tells.unbroken (hid : requestId? r = some id) (hurl : post.url = reportUrl kind id)
    (h : Tells post.path kind id) : ∀ c ∈ id.text.toList, c ∉ breaking := by
  obtain ⟨segment,hsegment,hresolve⟩ := h.exists_segment hurl
  have hmem : segment ∈ baseSegments ++ [segment,operationSegment kind] := by simp
  rw [← hresolve] at hmem
  rcases mem_resolved hmem with rfl | ⟨s,rfl,hs⟩
  · exact absurd hsegment.symm (visible_of_requestId? hid).1
  · rw [← hsegment]
    intro c hc hbreaking
    rcases mem_unescape hc with hc | ⟨e,he,rfl⟩
    · exact notMem_escape hs hbreaking hc
    · have hnone : ∀ e ∈ escapes, e.1 ∉ breaking := by decide
      exact hnone e he hbreaking

theorem tells_path_iff (hid : requestId? r = some id) (hurl : post.url = reportUrl kind id) :
    Tells post.path kind id ↔ Fits id := by
  constructor
  · intro h
    have hunbroken := h.unbroken hid hurl
    obtain ⟨segment,hsegment,hresolve⟩ := h.exists_segment hurl
    rw [toList_reportUrl, segmentsOf_joined (unbroken_segments hunbroken kind), resolve_report] at hresolve
    -- with a dot segment there are too few segments
    split at hresolve
    · exact absurd (congrArg List.length hresolve) (by simp)
    · next hstays =>
      split at hresolve
      · exact absurd (congrArg List.length hresolve) (by simp)
      · next hkeeps =>
        obtain ⟨rfl,-⟩ := List.cons_eq_cons.mp (List.append_cancel_left hresolve)
        rw [unescape_escape (spelled hid hunbroken)] at hsegment
        exact ⟨⟨hunbroken,hstays,hkeeps⟩,unescape_eq_self_iff.mp hsegment⟩
  · intro h
    have hsegment := unescape_escape (spelled hid h.unbroken)
    rw [unescape_eq_self_iff.mpr h.free] at hsegment
    exact tells_iff.mpr ⟨_,notMem_escape h.unbroken (by decide),h.toIsSegment.path hurl,hsegment⟩

/-- Identifiers that stay one segment go to one path only if they differ in nothing but escapes. -/
theorem path_eq_path_iff (hid : requestId? r = some id) (hid' : requestId? r' = some id') (h : IsSegment id)
    (h' : IsSegment id') (hurl : post.url = reportUrl kind id)
    (hurl' : post'.url = reportUrl kind' id') :
    post.path = post'.path ↔ kind = kind' ∧ unescape id.text.toList = unescape id'.text.toList := by
  rw [h.path hurl, h'.path hurl', ← escape_eq_escape_iff (spelled hid h.unbroken) (spelled hid' h'.unbroken)]
  constructor
  · intro heq
    have hsegments := joined_inj (slashless_segments (notMem_escape h.unbroken (by decide)) kind)
      (slashless_segments (notMem_escape h'.unbroken (by decide)) kind') heq
    obtain ⟨hescape,hop⟩ := List.cons_eq_cons.mp (List.append_cancel_left hsegments)
    refine ⟨?_,hescape⟩
    cases kind <;> cases kind' <;> first | rfl | exact absurd hop (by decide)
  · rintro ⟨rfl,hescape⟩
    rw [hescape]

end Posted

theorem exists_post (kind : ReportKind) (id : RequestId) (body : String) :
    ∃ post, (report kind id body).request = some post ∧ post.method = .post ∧ post.url = reportUrl kind id :=
  ⟨_,rfl,rfl,rfl⟩

/-- **A report is addressed to its invocation exactly if the identifier fits into the path**: the path of the request
is that of the API, one segment and the operation, and the segment spells the identifier. For that the identifier may
hold no slash, backslash, tab, question mark or number sign, may be no dot segment, and may hold no escape. Two such
identifiers never share a path, nor do the two kinds of reports; and of all identifiers that stay one segment, those
share a path that differ in nothing but escapes. -/
theorem report_tells_iff (hid : requestId? r = some id) (hid' : requestId? r' = some id') (kind kind' : ReportKind)
    (body body' : String) :
    ∃ post post', (report kind id body).request = some post ∧ (report kind' id' body').request = some post' ∧
      post.method = .post ∧ (Tells post.path kind id ↔ Fits id) ∧
      (Fits id → Fits id' → post.path = post'.path → kind = kind' ∧ id = id') ∧
      (IsSegment id → IsSegment id' →
        (post.path = post'.path ↔ kind = kind' ∧ unescape id.text.toList = unescape id'.text.toList)) := by
  obtain ⟨post,hpost,hmethod,hurl⟩ := exists_post kind id body
  obtain ⟨post',hpost',-,hurl'⟩ := exists_post kind' id' body'
  have heq_iff (h : IsSegment id) (h' : IsSegment id') := path_eq_path_iff hid hid' h h' hurl hurl'
  refine ⟨post,post',hpost,hpost',hmethod,tells_path_iff hid hurl,fun h h' heq => ?_,heq_iff⟩
  obtain ⟨hkind,htext⟩ := (heq_iff h.toIsSegment h'.toIsSegment).mp heq
  rw [unescape_eq_self_iff.mpr h.free, unescape_eq_self_iff.mpr h'.free, String.toList_inj] at htext
  cases id
  cases id'
  exact ⟨hkind,congrArg RequestId.mk htext⟩

/-- A reply that gives an invocation this identifier. -/
def naming (id : RequestId) : Reply where
  status := 200
  headers := [(requestIdHeader,utf8 id.text)]
  body := []
  complete := true

/-- A path tells an identifier with a blank; one with the escape of a blank in its place goes to the same path. -/
theorem report_tells_blank :
    let id : RequestId := ⟨"req 1"⟩
    let id' : RequestId := ⟨"req%201"⟩
    requestId? (naming id) = some id ∧ requestId? (naming id') = some id' ∧
    ∃ post post', (report .success id "1").request = some post ∧ (report .success id' "1").request = some post' ∧
      Tells post.path .success id ∧ post.path = post'.path := by
  intro id id'
  have hid : requestId? (naming id) = some id := by decide
  have hid' : requestId? (naming id') = some id' := by decide
  have hsegment : IsSegment id := ⟨by decide,by decide,by decide⟩
  have hsegment' : IsSegment id' := ⟨by decide,by decide,by decide⟩
  have hfree : EscapeFree id.text.toList := unescape_eq_self_iff.mp (by decide)
  obtain ⟨post,post',hpost,hpost',-,htells,-,hpaths⟩ := report_tells_iff hid hid' .success .success "1" "1"
  exact ⟨hid,hid',post,post',hpost,hpost',htells.mpr ⟨hsegment,hfree⟩,(hpaths hsegment hsegment').mpr ⟨rfl,by decide⟩⟩

/-- The reports of two invocations, of two kinds, go to one path that tells neither identifier nor operation. -/
theorem not_tells_fragments :
    let id : RequestId := ⟨"a#1"⟩
    let id' : RequestId := ⟨"a#2"⟩
    requestId? (naming id) = some id ∧ requestId? (naming id') = some id' ∧
    ∃ post post', (report .success id "1").request = some post ∧ (report .failure id' "1").request = some post' ∧
      post.path = post'.path ∧ ¬Tells post.path .success id ∧ ¬Tells post'.path .failure id' := by
  intro id id'
  obtain ⟨post,hpost,-,hurl⟩ := exists_post .success id "1"
  obtain ⟨post',hpost',-,hurl'⟩ := exists_post .failure id' "1"
  have hpath : post.path = (basePath ++ "a").toList := by
    rw [Request.path, Request.target, hurl]
    decide +kernel
  have hpath' : post'.path = (basePath ++ "a").toList := by
    rw [Request.path, Request.target, hurl']
    decide +kernel
  have hnot (kind : ReportKind) (text : String) : ¬Tells (basePath ++ "a").toList kind ⟨text⟩ := by
    have hjoined : (basePath ++ "a").toList = joined (baseSegments ++ [['a']]) := by decide
    intro h
    obtain ⟨segment,hslash,heq,-⟩ := tells_iff.mp h
    rw [hjoined] at heq
    have hsegments := joined_inj (by decide) (slashless_segments hslash kind) heq
    exact absurd (congrArg List.length hsegments) (by simp)
  exact ⟨by decide,by decide,post,post',hpost,hpost',hpath.trans hpath'.symm,hpath ▸ hnot _ _,hpath' ▸ hnot _ _⟩

end Api.Invocations
end InvocationHost
