import InvocationHost.Proofs.Verdicts

/-! # The invocation that a fetch gives

The identifier, the payload and the metadata of an invocation come out of one reply. Each part of the metadata has
a header of its own and depends on that header only; but a value with a byte beyond ASCII is taken for absent,
even if it is a text in UTF-8.
-/
namespace InvocationHost
open Http Text

/-- A byte that a header value may hold on the wire: no control byte but the tab. -/
def Http.IsLegal (b : UInt8) : Prop := b = 0x09 ∨ 0x20 ≤ b ∧ b ≠ 0x7F

theorem Http.IsLegal.plain {b : UInt8} (h : IsLegal b) (hb : b < 0x80) : IsPlain b := by
  rcases h with htab | ⟨hlow,hdelete⟩
  · exact .inl htab
  · refine .inr ⟨hlow,?_⟩
    have hlt : b.toNat < 128 := UInt8.lt_iff_toNat_lt.mp hb
    have hne : b.toNat ≠ 127 := fun heq => hdelete (UInt8.toNat_inj.mp heq)
    rw [UInt8.le_iff_toNat_le]
    change b.toNat ≤ 126
    omega

theorem Http.Reply.Carries.legal {r : Reply} {name : String} {value : List UInt8} (h : r.Carries name value)
    (hlegal : ∀ h ∈ r.headers, ∀ b ∈ h.2, IsLegal b) : ∀ b ∈ value, IsLegal b := by
  obtain ⟨before,key,after,hheaders,-⟩ := h
  have hmem : (key,value) ∈ r.headers := by
    rw [hheaders]
    exact List.mem_append_right before List.mem_cons_self
  exact hlegal _ hmem

namespace Api.Invocations

/-- A part of the metadata, with the header that it comes from. -/
structure Source where
  header : String
  field : Metadata → Option String

/-- The parts of the metadata. -/
def sources : List Source :=
  [⟨deadlineHeader,Metadata.deadline⟩,⟨traceIdHeader,Metadata.traceId⟩,⟨identityHeader,Metadata.identity⟩,
   ⟨clientContextHeader,Metadata.clientContext⟩,⟨functionArnHeader,Metadata.functionArn⟩]

/-- No header is another one in other letters. -/
theorem headers_apart : (requestIdHeader :: sources.map Source.header).Pairwise fun a b => sameHeader a b = false := by
  decide

variable {r : Reply} {source : Source}

theorem field_metadata (hs : source ∈ sources) (r : Reply) : source.field (metadata r) = r.header? source.header := by
  simp only [sources, List.mem_cons, List.not_mem_nil, or_false] at hs
  rcases hs with rfl | rfl | rfl | rfl | rfl <;> rfl

/-- A field is the text of its header where the header is there and is a text in UTF-8; it is none elsewhere. -/
def Source.Maps (source : Source) (r : Reply) (m : Metadata) : Prop :=
  ∀ text, source.field m = some text ↔ r.Carries source.header (utf8 text)

/-- A reply that passes the checks of a fetch is made an invocation. -/
theorem exists_invocation {text : String} (hstatus : r.status = 200) (hid : r.Gives requestIdHeader text)
    (hcomplete : r.complete = true) :
    ∃ inv, (next.settle (.answered r)).result = .ok inv ∧ inv.id.text = text ∧ inv.payload = r.body ∧
      inv.metadata = metadata r := by
  have hpassed : ∀ check ∈ [Check.status .next 200,Check.header .next requestIdHeader,Check.body .next],
      check.Passed r := by
    simp [Check.passed_status _ hstatus, Check.passed_header _ hid, Check.passed_body _ hcomplete]
  obtain ⟨inv,hinv⟩ := (next_decided.passes r).mpr hpassed
  obtain ⟨hgives,hpayload,hmetadata⟩ := next_decided.result r inv hinv
  exact ⟨inv,hinv,hgives.unique hid,hpayload,hmetadata⟩

/-- A header on the wire is read if it is a text of ASCII. -/
theorem field_eq_some_iff (hlegal : ∀ h ∈ r.headers, ∀ b ∈ h.2, IsLegal b) (hs : source ∈ sources)
    {text : String} : source.field (metadata r) = some text ↔
      r.Carries source.header (utf8 text) ∧ ∀ b ∈ utf8 text, b < 0x80 := by
  rw [field_metadata hs, Reply.header?_eq_some_iff]
  refine and_congr_right fun hcarries => forall₂_congr fun b hb => ⟨fun h => h.lt,fun h => ?_⟩
  exact (hcarries.legal hlegal b hb).plain h

/-- **An invocation is what its reply says, as far as that is ASCII.** From a complete reply with the right status and
an identifier of ASCII, the identifier is taken as it stands and so is the body. A part of the metadata has
the text of its own header exactly where that is there and ASCII; so it is the text of every such header that
is there and UTF-8 if and only if none of these has a byte beyond ASCII. It depends on no other header, and no
two parts of an invocation come from one header. -/
theorem next_takes_ascii_headers (hstatus : r.status = 200) (hcomplete : r.complete = true)
    (hlegal : ∀ h ∈ r.headers, ∀ b ∈ h.2, IsLegal b) {id : List UInt8} (hid : r.Carries requestIdHeader id)
    (hne : id ≠ []) (hascii : ∀ b ∈ id, b < 0x80) :
    ∃ inv, (next.settle (.answered r)).result = .ok inv ∧ utf8 inv.id.text = id ∧ inv.payload = r.body ∧
      ((requestIdHeader :: sources.map Source.header).Pairwise fun a b => sameHeader a b = false) ∧
      ∀ source ∈ sources,
        (∀ text, source.field inv.metadata = some text ↔
          r.Carries source.header (utf8 text) ∧ ∀ b ∈ utf8 text, b < 0x80) ∧
        (source.Maps r inv.metadata ↔
          ∀ text, r.Carries source.header (utf8 text) → ∀ b ∈ utf8 text, b < 0x80) ∧
        ∀ r' inv', (next.settle (.answered r')).result = .ok inv' →
          (∀ value, r.Carries source.header value ↔ r'.Carries source.header value) →
          source.field inv'.metadata = source.field inv.metadata := by
  have hplain : ∀ b ∈ id, IsPlain b := fun b hb => (hid.legal hlegal b hb).plain (hascii b hb)
  obtain ⟨text,hgives,hspells⟩ := hid.gives hne hplain
  obtain ⟨inv,hinv,htext,hpayload,hmetadata⟩ := exists_invocation hstatus hgives hcomplete
  rw [← htext] at hspells
  refine ⟨inv,hinv,hspells,hpayload,headers_apart,fun source hs => ?_⟩
  rw [hmetadata]
  refine ⟨?_,?_,?_⟩
  · intro text
    exact field_eq_some_iff hlegal hs
  · refine forall_congr' fun text => ?_
    rw [field_eq_some_iff hlegal hs]
    exact ⟨fun h hcarries => (h.mpr hcarries).2,fun h => ⟨And.left,fun hcarries => ⟨hcarries,h hcarries⟩⟩⟩
  · intro r' inv' hinv' hsame
    obtain ⟨-,-,hmetadata'⟩ := next_decided.result r' inv' hinv'
    rw [hmetadata', field_metadata hs, field_metadata hs]
    refine Option.ext fun text => ?_
    rw [Reply.header?_eq_some_iff, Reply.header?_eq_some_iff, hsame]

/-- A reply with a client context. -/
def withClientContext (value : List UInt8) : Reply where
  status := 200
  headers := [("Lambda-Runtime-Aws-Request-Id",[0x72,0x31]),("Lambda-Runtime-Client-Context",value)]
  body := [0x31]
  complete := true

theorem carries_requestId (value : List UInt8) : (withClientContext value).Carries requestIdHeader [0x72,0x31] :=
  ⟨[],_,_,rfl,by decide,by simp⟩

theorem carries_clientContext (value : List UInt8) : (withClientContext value).Carries clientContextHeader value :=
  ⟨[_],_,[],rfl,by decide,by decide⟩

/-- A client context of ASCII comes to the invocation. -/
theorem next_takes_client_context :
    ∃ inv, (next.settle (.answered (withClientContext (utf8 "[1]")))).result = .ok inv ∧
      utf8 inv.id.text = [0x72,0x31] ∧ inv.metadata.clientContext = some "[1]" := by
  have hbytes : utf8 "[1]" = [0x5B,0x31,0x5D] := by decide
  have hlegal : ∀ h ∈ (withClientContext (utf8 "[1]")).headers, ∀ b ∈ h.2, IsLegal b := by
    simp [withClientContext, hbytes, IsLegal]
  obtain ⟨inv,hinv,hid,-,-,hsources⟩ := next_takes_ascii_headers rfl rfl hlegal (carries_requestId _) (by simp)
    (by simp)
  obtain ⟨hfield,-⟩ := hsources ⟨clientContextHeader,Metadata.clientContext⟩ (by simp [sources])
  exact ⟨inv,hinv,hid,(hfield "[1]").mpr ⟨carries_clientContext _,by simp [hbytes]⟩⟩

/-- A client context with an accent in it. -/
def accented : List UInt8 := utf8 "\x7b\"custom\":\x7b\"name\":\"Zo\u00eb\"\x7d\x7d"

/-- An accent is enough for a client context to be lost. -/
theorem not_maps_accented :
    ∃ inv, (next.settle (.answered (withClientContext accented))).result = .ok inv ∧
      inv.metadata.clientContext = none ∧
      ¬Source.Maps ⟨clientContextHeader,Metadata.clientContext⟩ (withClientContext accented) inv.metadata := by
  have hnone : (metadata (withClientContext accented)).clientContext = none := by decide
  obtain ⟨text,hgives,-⟩ := (carries_requestId accented).gives (by simp) (by simp [IsPlain])
  obtain ⟨inv,hinv,-,-,hmetadata⟩ := exists_invocation rfl hgives rfl
  rw [← hmetadata] at hnone
  refine ⟨inv,hinv,hnone,fun hmaps => ?_⟩
  have hsome := (hmaps _).mpr (carries_clientContext accented)
  cases hnone.symm.trans hsome

end Api.Invocations
end InvocationHost
