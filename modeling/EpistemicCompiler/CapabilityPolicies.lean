import EpistemicCompiler.RelativePaths
import EpistemicCompiler.SignedRequests

set_option autoImplicit false

/-!
# Capability policies

The instructions that apply to a path may name capabilities in their front matter. An instruction of
the platform or of the user can allow a capability, and every instruction can deny one.
-/
namespace EpistemicCompiler.CapabilityPolicies
open JsValues SignedRequests Function List
open CanonicalJson (isDigit)
open RelativePaths (lowerUnit)

/-- A map has its own entries and those of the object that was assigned to `__proto__`. Numbers are
kept as they are written. -/
inductive YamlValue
 | text (value:JsString)
 | number (digits:JsString)
 | boolean (value:Bool)
 | list (items:List YamlValue)
 | map (own inherited:List (JsString×YamlValue))

abbrev Entries := List (JsString×YamlValue)

structure YamlMap where
 own : Entries := []
 inherited : Entries := []

def YamlMap.assign (map:YamlMap) (key:JsString) (value:YamlValue) : YamlMap :=
 if key=js "__proto__" then
  match value with
  | .map own inherited => { map with inherited:=own++inherited }
  | .list _ => { map with inherited:=[] }
  | _ => map
 else { map with own:=(key,value)::map.own.filter (·.1≠key) }

def YamlMap.field (map:YamlMap) (key:JsString) : Option YamlValue :=
 ((map.own++map.inherited).find? (·.1=key)).map (·.2)

def leadingSpaces (line:JsString) : ℕ := (line.takeWhile (·=0x20)).length

def isListLine (line:JsString) (indent:ℕ) : Bool :=
 leadingSpaces line=indent && (js "- ").isPrefixOf (line.drop indent)

def isSignificant (line:JsString) : Bool :=
 trim line≠[] && (line.dropWhile isJsSpace).head?≠some 0x23

def isLineTerminator (unit:UInt16) : Bool :=
 unit∈([0x0A,0x0D,0x2028,0x2029] : List UInt16)

def isWordUnit (unit:UInt16) : Bool :=
 isDigit unit || (0x61 ≤ lowerUnit unit && lowerUnit unit ≤ 0x7A) || unit=0x5F

def keyLine (trimmed:JsString) : Option (JsString×JsString) :=
 let isKeyUnit:=fun unit=>isWordUnit unit || unit=0x2D
 let key:=trimmed.takeWhile isKeyUnit
 match trimmed.dropWhile isKeyUnit with
 | 0x3A::rest =>
   let remainder:=rest.dropWhile isJsSpace
   if key=[] || remainder.any isLineTerminator then none else some (key,trim remainder)
 | _ => none

def parseScalar (raw:JsString) : YamlValue :=
 let digits:=if raw.head?=some 0x2D then raw.drop 1 else raw
 let quoted:=fun quote=>raw.head?=some quote && raw.getLast?=some quote
 if raw=js "true" then .boolean true
 else if raw=js "false" then .boolean false
 else if raw=js "null" || raw=js "~" then .text []
 else if digits≠[] && digits.all isDigit then .number raw
 else if quoted 0x22 || quoted 0x27 then .text (raw.drop 1).dropLast
 else .text raw

def nestedLine (rest:List JsString) (indent:ℕ) : Option JsString :=
 (rest.find? isSignificant).filter (indent<leadingSpaces ·)

mutual

def parseYamlValue : ℕ → List JsString → ℕ → Except JsString (YamlValue×List JsString)
 | fuel+1, line::rest, indent =>
   if isListLine line indent then parseYamlList fuel (line::rest) indent []
   else parseYamlMapping fuel (line::rest) indent {}
 | _, lines, _ => .ok (.map [] [],lines)

def parseYamlMapping :
    ℕ → List JsString → ℕ → YamlMap → Except JsString (YamlValue×List JsString)
 | fuel+1, line::rest, indent, result =>
   if !isSignificant line then parseYamlMapping fuel rest indent result
   else if leadingSpaces line < indent then .ok (.map result.own result.inherited,line::rest)
   else if indent<leadingSpaces line then .error (js "invalid yaml indent")
   else match keyLine (line.drop indent) with
    | none => .error (js "invalid yaml line: "++line.drop indent)
    | some (key,[]) =>
      match nestedLine rest indent with
      | some next => do
        let (value,rest) ← parseYamlValue fuel rest (leadingSpaces next)
        parseYamlMapping fuel rest indent (result.assign key value)
      | none => parseYamlMapping fuel rest indent (result.assign key (.text []))
    | some (key,remainder) =>
      parseYamlMapping fuel rest indent (result.assign key (parseScalar remainder))
 | _, lines, _, result => .ok (.map result.own result.inherited,lines)

def parseYamlList :
    ℕ → List JsString → ℕ → List YamlValue → Except JsString (YamlValue×List JsString)
 | fuel+1, line::rest, indent, items =>
   let remainder:=trim (line.drop (indent+1))
   if trim line=[] then parseYamlList fuel rest indent items
   else if !isListLine line indent then .ok (.list items,line::rest)
   else if remainder=[] then
    match nestedLine rest indent with
    | some next => do
      let (value,rest) ← parseYamlValue fuel rest (leadingSpaces next)
      parseYamlList fuel rest indent (items++[value])
    | none => parseYamlList fuel rest indent (items++[.text []])
   else if 0x3A∈remainder && remainder.head?≠some 0x27 && remainder.head?≠some 0x22 then do
    -- The lines that the nested mapping reads are read again by the list.
    let line:=replicate (indent+2) 0x20++remainder
    let (value,_) ← parseYamlMapping fuel (line::rest) (indent+2) {}
    parseYamlList fuel rest indent (items++[value])
   else parseYamlList fuel rest indent (items++[parseScalar remainder])
 | _, lines, _, items => .ok (.list items,lines)

end

/-- Three calls for each line are enough. -/
def parseYamlMap (block:JsString) : Except JsString YamlMap := do
 let lines:=block.splitOn 0x0A
 let (value,rest) ← parseYamlValue (3*lines.length+3) lines 0
 if rest.any (trim ·≠[]) then .error (js "unexpected trailing yaml")
 match value with
 | .map own inherited => .ok ⟨own,inherited⟩
 | _ => .error (js "frontmatter must be a mapping")

def beforeClose : JsString → Option JsString
 | [] => none
 | unit::rest =>
   if unit::rest=js "\n---" || (js "\n---\n").isPrefixOf (unit::rest) then some []
   else (beforeClose rest).map (unit::·)

def isForbidden (yamlBlock:JsString) : Bool :=
 (yamlBlock.tails.any fun rest=>(js "!!").isPrefixOf rest || (js "<<:").isPrefixOf rest ||
  (rest.head?=some 0x26 && (rest.drop 1).head?.any isWordUnit)) ||
 (yamlBlock.splitOnP isLineTerminator).any fun line=>
  (line.dropWhile isJsSpace).head?=some 0x2A

/-- The fields are `none` where the text has no front matter. -/
def parseYamlFrontmatter (text:JsString) : Except JsString (Option YamlMap) :=
 let stripped:=if text.head?=some 0xFEFF then text.drop 1 else text
 let normalized:=replacePair 0x0D 0x0A [0x0A] stripped
 let opened:=(js "---\n").isPrefixOf normalized
 if !opened && normalized≠js "---" && !(js "---\r").isPrefixOf normalized then .ok none
 else match beforeClose (normalized.drop (if opened then 4 else 3)) with
  | none => .error (js "unterminated frontmatter")
  | some yamlBlock =>
    if isForbidden yamlBlock then
     .error (js "yaml tags, aliases, or merge keys are not allowed")
    else some <$> parseYamlMap yamlBlock

def yamlMap : Option YamlValue → Entries
 | some (.map own _) => own
 | _ => []

inductive TrustLabel
 | platform | user | trustedProject | untrustedData
 deriving DecidableEq

inductive Capability
 | hostShell | secretEgress | network | promotion | signing | deployment
 deriving DecidableEq

inductive Operation
 | allow | deny

structure EffectiveInstruction where
 trust : TrustLabel
 verbatimContent : JsString

abbrev CapabilityPolicy := Capability → Bool

def capabilityKey (raw:JsString) : Option Capability :=
 let key:=(trim raw).map fun unit=>if unit=0x5F then 0x2D else lowerUnit unit
 if key=js "host-shell" || key=js "hostshell" then some .hostShell
 else if key=js "secret-egress" || key=js "secretegress" then some .secretEgress
 else if key=js "network" then some .network
 else if key=js "promotion" then some .promotion
 else if key=js "signing" then some .signing
 else if key=js "deployment" then some .deployment
 else none

def namedBy (entry:JsString×YamlValue) : Option Capability :=
 match entry.2 with
 | .boolean true => capabilityKey entry.1
 | _ => none

def hasAuthority (trust:TrustLabel) : Bool := trust=.platform || trust=.user

def applyEntry (trust:TrustLabel) (op:Operation) (policy:CapabilityPolicy)
    (entry:JsString×YamlValue) : CapabilityPolicy :=
 match namedBy entry, op with
 | none, _ => policy
 | some key, .deny => update policy key false
 | some key, .allow => if hasAuthority trust then update policy key true else policy

def applyCapabilityMap (policy:CapabilityPolicy) (fields:Entries) (trust:TrustLabel)
    (op:Operation) : CapabilityPolicy :=
 fields.foldl (applyEntry trust op) policy

/-- An instruction without front matter, or with front matter in error, has no fields. -/
def fieldsOf (instruction:EffectiveInstruction) (key:JsString) : Entries :=
 match parseYamlFrontmatter instruction.verbatimContent with
 | .ok (some fields) => yamlMap (fields.field key)
 | _ => []

def applyInstruction (policy:CapabilityPolicy) (instruction:EffectiveInstruction) :
    CapabilityPolicy :=
 applyCapabilityMap
  (applyCapabilityMap policy (fieldsOf instruction (js "allow")) instruction.trust .allow)
  (fieldsOf instruction (js "deny")) instruction.trust .deny

def resolveCapabilityPolicy (chain:List EffectiveInstruction) : CapabilityPolicy :=
 chain.foldl applyInstruction fun _=>false

section

variable {policy policy':CapabilityPolicy} {instruction:EffectiveInstruction}
 {chain chain':List EffectiveInstruction} {capability:Capability}

def denies (instruction:EffectiveInstruction) (capability:Capability) : Bool :=
 (fieldsOf instruction (js "deny")).any (namedBy ·=some capability)

def grants (instruction:EffectiveInstruction) (capability:Capability) : Bool :=
 hasAuthority instruction.trust &&
  (fieldsOf instruction (js "allow")).any (namedBy ·=some capability)

/-- The last instruction of the chain that has a say on the capability. -/
def lastWord (chain:List EffectiveInstruction) (capability:Capability) :
    Option EffectiveInstruction :=
 chain.reverse.find? fun instruction=>
  denies instruction capability || grants instruction capability

inductive Inserted : List EffectiveInstruction → List EffectiveInstruction → Prop
 | nil : Inserted [] []
 | keep (instruction:EffectiveInstruction) {chain chain':List EffectiveInstruction}
   (h:Inserted chain chain') : Inserted (instruction::chain) (instruction::chain')
 | insert (instruction:EffectiveInstruction) {chain chain':List EffectiveInstruction}
   (lower:hasAuthority instruction.trust=false) (h:Inserted chain chain') :
   Inserted chain (instruction::chain')

lemma applyCapabilityMap_iff (fields:Entries) (trust:TrustLabel) (op:Operation) :
  applyCapabilityMap policy fields trust op capability ↔
   if fields.any (namedBy ·=some capability) then
    op=.allow ∧ (hasAuthority trust ∨ policy capability) else policy capability := by
 induction fields generalizing policy with
 | nil => simp [applyCapabilityMap]
 | cons entry fields ih =>
   rw [applyCapabilityMap,foldl_cons,← applyCapabilityMap,ih,any_cons]
   cases hnamed : namedBy entry with
   | none => simp only [applyEntry,hnamed,reduceCtorEq,decide_false,Bool.false_or]
   | some key =>
     by_cases hkey : key=capability
     · subst hkey
       cases op <;> by_cases htrust : hasAuthority trust <;> simp [applyEntry,hnamed,htrust]
     · cases op <;> by_cases htrust : hasAuthority trust <;>
        simp [applyEntry,hnamed,htrust,hkey,update_of_ne (Ne.symm hkey)]

lemma applyInstruction_iff : applyInstruction policy instruction capability ↔
  denies instruction capability=false ∧
   (grants instruction capability ∨ policy capability) := by
 rw [applyInstruction,applyCapabilityMap_iff,applyCapabilityMap_iff,denies,grants]
 split_ifs <;> simp_all

lemma resolve_iff : resolveCapabilityPolicy chain capability ↔
  ∃last,lastWord chain capability=some last ∧ denies last capability=false := by
 induction chain using reverseRecOn with
 | nil => simp [resolveCapabilityPolicy,lastWord]
 | append_singleton chain last ih =>
   rw [resolveCapabilityPolicy,foldl_append,foldl_cons,foldl_nil,applyInstruction_iff,
    ← resolveCapabilityPolicy,ih,lastWord,lastWord,reverse_append,reverse_singleton,
    singleton_append,find?_cons]
   cases hdenies : denies last capability <;> cases hgrant : grants last capability <;>
    simp [hdenies]

lemma resolve_of_inserted (h:Inserted chain chain')
  (hpolicy:policy' capability → policy capability)
  (hon:chain'.foldl applyInstruction policy' capability) :
  chain.foldl applyInstruction policy capability := by
 induction h generalizing policy policy' with
 | nil => exact hpolicy hon
 | keep instruction _ ih =>
   refine ih (fun h=>?_) hon
   rw [applyInstruction_iff] at h ⊢
   exact ⟨h.1,h.2.imp_right hpolicy⟩
 | insert instruction hlower _ ih =>
   refine ih (fun h=>?_) hon
   rw [applyInstruction_iff,grants,hlower] at h
   simpa using hpolicy (by simpa using h.2)

structure Respected (chain:List EffectiveInstruction) (capability:Capability) : Prop where
 granted : resolveCapabilityPolicy chain capability →
  ∃instruction∈chain,grants instruction capability
 inserted : ∀chain',Inserted chain chain' → resolveCapabilityPolicy chain' capability →
  resolveCapabilityPolicy chain capability
 denied : (∃instruction∈chain,instruction.trust=.platform ∧ denies instruction capability) →
  resolveCapabilityPolicy chain capability=false

theorem respected_iff : Respected chain capability ↔
  ((∃instruction∈chain,instruction.trust=.platform ∧ denies instruction capability) →
   ∀last,lastWord chain capability=some last → denies last capability) := by
 have hoff:resolveCapabilityPolicy chain capability=false ↔
   ∀last,lastWord chain capability=some last → denies last capability := by
  rw [← Bool.not_eq_true,resolve_iff]
  simp
 constructor
 · intro h hdenied
   exact hoff.mp (h.denied hdenied)
 · intro h
   refine ⟨fun hon=>?_,fun chain' hinserted=>resolve_of_inserted hinserted id,fun hdenied=>
    hoff.mpr (h hdenied)⟩
   obtain ⟨last,hlast,hkept⟩:=resolve_iff.mp hon
   have hword:=find?_some hlast
   rw [hkept,Bool.false_or] at hword
   exact ⟨last,mem_reverse.mp (mem_of_find?_eq_some hlast),hword⟩

theorem user_allows_after_platform_denies :
  ¬ Respected [⟨.platform,js "---\ndeny:\n  network: true\n---\n"⟩,
   ⟨.user,js "---\nallow:\n  network: true\n---\n"⟩] .network := by
 intro h
 have hoff:=h.denied ⟨_,mem_cons_self,rfl,by decide +kernel⟩
 exact absurd hoff (by decide +kernel)

end

end EpistemicCompiler.CapabilityPolicies
