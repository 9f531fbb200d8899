import EpistemicCompiler.LabelledLines
import EpistemicCompiler.ProfileCatalog
import EpistemicCompiler.TextEncodings

set_option autoImplicit false

/-!
# Capability tokens

The code of a token is taken over six of its fields, with bars between them. The other fields are
not covered, and a bar in a node id or a nonce can be read as a separator.
-/
namespace EpistemicCompiler.CapabilityTokens
open JsValues TextEncodings LabelledLines ProfileCatalog List

section Tokens

def bar : UInt16 := 0x7C

structure Identifier where
 text : JsString
 plain : bar ∉ text
 paired : unpairedSurrogate text=false
 deriving DecidableEq

inductive ToolProfile where
 | read
 | write
 | review

structure CapabilityToken where
 tokenId : Identifier
 runId : Identifier
 nodeId : JsString
 agentId : Identifier
 role : AgentRole
 toolProfile : ToolProfile
 allowedArtifactTypes : List ArtifactType
 leaseId : Option Identifier
 issuedAt : JsString
 expiresAt : JsString
 nonce : JsString

def roleText : AgentRole → JsString
 | .analyst => js "analyst"
 | .investigator => js "investigator"
 | .planner => js "planner"
 | .implementer => js "implementer"
 | .reviewer => js "reviewer"
 | .specReviewer => js "spec-reviewer"
 | .securityReviewer => js "security-reviewer"
 | .architectureReviewer => js "architecture-reviewer"
 | .testReviewer => js "test-reviewer"
 | .performanceReviewer => js "performance-reviewer"
 | .conflictResolver => js "conflict-resolver"
 | .finalSynthesizer => js "final-synthesizer"

def macText (token:CapabilityToken) : JsString :=
 token.tokenId.text++bar::(token.runId.text++bar::(token.nodeId++bar ::
  (token.agentId.text++bar::(roleText token.role++bar::token.nonce))))

variable (hmac:List UInt8 → List UInt8 → List UInt8)

def tokenMac (token:CapabilityToken) (secret:List UInt8) : JsString :=
 toHex (hmac secret (utf8 (macText token)))

inductive CapabilityError where
 | scopeMismatch
 | agentMismatch
 | expired
 | macInvalid

structure Expected where
 runId : Identifier
 nodeId : JsString
 agentId : Identifier
 now : JsString
 secret : Option (List UInt8)
 mac : Option JsString

def assertToken (token:CapabilityToken) (expected:Expected) : Except CapabilityError Unit :=
 if token.runId≠expected.runId ∨ token.nodeId≠expected.nodeId then .error .scopeMismatch
 else if token.agentId≠expected.agentId then .error .agentMismatch
 else if unitsLe token.expiresAt expected.now then .error .expired
 else
  match expected.secret, expected.mac with
  | some secret, some mac =>
    if fromHex (tokenMac hmac token secret)=fromHex mac then .ok () else .error .macInvalid
  | _, _ => .ok ()

end Tokens

section Authentication

structure SameUncovered (token other:CapabilityToken) : Prop where
 toolProfile : token.toolProfile=other.toolProfile
 allowedArtifactTypes : token.allowedArtifactTypes=other.allowedArtifactTypes
 leaseId : token.leaseId=other.leaseId
 issuedAt : token.issuedAt=other.issuedAt
 expiresAt : token.expiresAt=other.expiresAt

/-- The fields by which a token is checked and that the tools go by. -/
structure SameAuthority (token other:CapabilityToken) : Prop extends
  SameUncovered token other where
 runId : token.runId=other.runId
 nodeId : token.nodeId=other.nodeId
 agentId : token.agentId=other.agentId
 role : token.role=other.role

structure Admitted (token:CapabilityToken) (expected:Expected) : Prop where
 runId : token.runId=expected.runId
 nodeId : token.nodeId=expected.nodeId
 agentId : token.agentId=expected.agentId
 alive : unitsLe token.expiresAt expected.now=false

lemma roleText_plain (role:AgentRole) : bar ∉ roleText role := by
 cases role <;> decide

lemma roleText_injective {role other:AgentRole}
  (h:scalars (roleText role)=scalars (roleText other)) : role=other := by
 cases role <;> cases other <;> first | rfl | exact absurd h (by decide)

/-- Texts are cut at the same place if their fronts hold the mark equally often. -/
lemma cut_counted {α:Type} [DecidableEq α] {mark:α} {front front' back back':List α}
  (hcount:front.count mark=front'.count mark)
  (h:front++mark::back=front'++mark::back') : front=front' ∧ back=back' := by
 induction front generalizing front' with
 | nil =>
   have hplain:mark ∉ front':=count_eq_zero.mp (by simpa using hcount.symm)
   exact cut_injective not_mem_nil hplain h
 | cons unit front ih =>
   cases front' with
   | nil =>
     have hplain:mark ∉ unit::front:=count_eq_zero.mp (by simpa using hcount)
     exact cut_injective hplain not_mem_nil h
   | cons unit' front' =>
     obtain ⟨rfl,hrest⟩:=cons.inj h
     rw [count_cons,count_cons] at hcount
     obtain ⟨rfl,rfl⟩:=ih (by omega) hrest
     exact ⟨rfl,rfl⟩

lemma cut_scalars {front front' back back':JsString}
  (hcount:front.count bar=front'.count bar)
  (h:scalars (front++bar::back)=scalars (front'++bar::back')) :
  scalars front=scalars front' ∧ scalars back=scalars back' := by
 have hbar:bar<0x80 := by decide
 simp only [scalars_append_cons (plain_of_ascii hbar).2,scalars_cons (plain_of_ascii hbar).1] at h
 exact cut_counted (by rw [count_scalars hbar,count_scalars hbar,hcount]) h

lemma Identifier.count_bar (id:Identifier) : id.text.count bar=0 := count_eq_zero.mpr id.plain

lemma Identifier.ext_scalars {a b:Identifier} (h:scalars a.text=scalars b.text) : a=b := by
 have htext:=scalars_injective a.paired b.paired h
 cases a
 cases b
 simpa using htext

lemma covered_of_macText {token other:CapabilityToken}
  (h:utf8 (macText token)=utf8 (macText other))
  (hbars:token.nodeId.count bar=other.nodeId.count bar) :
  token.runId=other.runId ∧ utf8 token.nodeId=utf8 other.nodeId ∧ token.agentId=other.agentId ∧
   token.role=other.role := by
 have hid:∀a b : Identifier,a.text.count bar=b.text.count bar:=fun a b=>by
  rw [a.count_bar,b.count_bar]
 have hroles:(roleText token.role).count bar=(roleText other.role).count bar := by
  rw [count_eq_zero.mpr (roleText_plain _),count_eq_zero.mpr (roleText_plain _)]
 obtain ⟨-,hrest⟩:=cut_scalars (hid _ _) (scalars_eq_of_utf8 h)
 obtain ⟨hrun,hrest⟩:=cut_scalars (hid _ _) hrest
 obtain ⟨hnode,hrest⟩:=cut_scalars hbars hrest
 obtain ⟨hagent,hrest⟩:=cut_scalars (hid _ _) hrest
 obtain ⟨hrole,-⟩:=cut_scalars hroles hrest
 exact ⟨Identifier.ext_scalars hrun,by rw [utf8,utf8,hnode],Identifier.ext_scalars hagent,
  roleText_injective hrole⟩

variable {hmac:List UInt8 → List UInt8 → List UInt8}

lemma assertToken_ok_iff (hideal:∀secret,Function.Injective (hmac secret))
  {token other:CapabilityToken} {expected:Expected} {secret:List UInt8}
  (hsecret:expected.secret=some secret)
  (hmac':expected.mac=some (tokenMac hmac token secret)) :
  assertToken hmac other expected=.ok () ↔
   Admitted other expected ∧ utf8 (macText other)=utf8 (macText token) := by
 have hcode:fromHex (tokenMac hmac other secret)=fromHex (tokenMac hmac token secret) ↔
   utf8 (macText other)=utf8 (macText token) := by
  rw [tokenMac,tokenMac,fromHex_toHex,fromHex_toHex,(hideal secret).eq_iff]
 unfold assertToken
 rw [hsecret,hmac']
 dsimp only
 constructor
 · intro h
   split_ifs at h with hscope hagent halive htext
   rw [not_or,not_not,not_not] at hscope
   exact ⟨⟨hscope.1,hscope.2,not_not.mp hagent,Bool.eq_false_iff.mpr halive⟩,hcode.mp htext⟩
 · rintro ⟨⟨hrun,hnode,hagent,halive⟩,htext⟩
   simp [hrun,hnode,hagent,halive,hcode.mpr htext]

/-- A token cannot be altered exactly when the same bytes are never coded for a token with other
uncovered fields, with a node id of fewer or more bars, or with a node id that differs from the
first one in unpaired surrogates only. -/
theorem token_unaltered_iff (hmac:List UInt8 → List UInt8 → List UInt8)
  (hideal:∀secret,Function.Injective (hmac secret)) (token other:CapabilityToken)
  (expected:Expected) (secret:List UInt8) (hsecret:expected.secret=some secret)
  (hcode:expected.mac=some (tokenMac hmac token secret)) :
  (assertToken hmac other expected=.ok () → SameAuthority token other) ↔
   (Admitted other expected → utf8 (macText other)=utf8 (macText token) →
    SameUncovered token other ∧ token.nodeId.count bar=other.nodeId.count bar ∧
     (utf8 token.nodeId=utf8 other.nodeId → token.nodeId=other.nodeId)) := by
 rw [assertToken_ok_iff hideal hsecret hcode]
 constructor
 · intro h hadmitted htext
   have hsame:=h ⟨hadmitted,htext⟩
   exact ⟨hsame.toSameUncovered,by rw [hsame.nodeId],fun _=>hsame.nodeId⟩
 · rintro h ⟨hadmitted,htext⟩
   obtain ⟨huncovered,hbars,hpaired⟩:=h hadmitted htext
   obtain ⟨hrun,hnode,hagent,hrole⟩:=covered_of_macText htext.symm hbars
   exact ⟨huncovered,hrun,hpaired hnode,hagent,hrole⟩

def sampleMac (_ bytes:List UInt8) : List UInt8 := bytes

lemma sampleMac_injective (secret:List UInt8) : Function.Injective (sampleMac secret) :=
 Function.injective_id

def sampleId : Identifier := ⟨[],List.not_mem_nil,rfl⟩

def sampleToken : CapabilityToken where
 tokenId := sampleId
 runId := sampleId
 nodeId := js "node"
 agentId := sampleId
 role := .reviewer
 toolProfile := .review
 allowedArtifactTypes := [.reviewFindings]
 leaseId := none
 issuedAt := js "1"
 expiresAt := js "3"
 nonce := []

def sampleExpected : Expected :=
 ⟨sampleId,js "node",sampleId,js "2",some [],some (tokenMac sampleMac sampleToken [])⟩

theorem token_unaltered_iff_sample : assertToken sampleMac sampleToken sampleExpected=.ok () ∧
  SameAuthority sampleToken sampleToken := by
 have hok:assertToken sampleMac sampleToken sampleExpected=.ok () :=
  (assertToken_ok_iff sampleMac_injective rfl rfl).mpr ⟨⟨rfl,rfl,rfl,by decide⟩,rfl⟩
 exact ⟨hok,(token_unaltered_iff sampleMac sampleMac_injective sampleToken sampleToken
  sampleExpected [] rfl rfl).mpr (fun _ _=>⟨⟨rfl,rfl,rfl,rfl,rfl⟩,rfl,fun _=>rfl⟩) hok⟩

/-- A token for reviews is accepted as one for writes that lives longer. -/
theorem altered_token_accepted :
  assertToken sampleMac { sampleToken with toolProfile:=.write, expiresAt:=js "9" }
    sampleExpected=.ok () ∧
   ¬SameAuthority sampleToken
    { sampleToken with toolProfile:=.write, expiresAt:=js "9" } := by
 refine ⟨(assertToken_ok_iff sampleMac_injective rfl rfl).mpr
  ⟨⟨rfl,rfl,rfl,by decide⟩,rfl⟩,fun h=>?_⟩
 cases h.toolProfile

end Authentication

end EpistemicCompiler.CapabilityTokens
