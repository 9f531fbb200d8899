import EpistemicCompiler.Base64Text
import EpistemicCompiler.TextEncodings

set_option autoImplicit false

/-!
# Redaction of secrets

Every encoding of every secret is replaced in turn. The marker starts and ends with stars, so an
encoding without stars that is longer than the word between them never reaches across it.
-/
namespace EpistemicCompiler.SecretRedaction
open JsValues Base64Text CanonicalJson List
open TextEncodings (toHex)

abbrev Bytes := List UInt8

def ascii (text:JsString) : Bytes := text.map (·.toUInt8)

def upper (unit:UInt16) : UInt16 := if 0x61 ≤ unit && unit ≤ 0x7A then unit - 0x20 else unit

def toUpperCase (text:JsString) : JsString := text.map upper

def urlLetter (unit:UInt16) : UInt16 :=
 if unit=0x2B then 0x2D else if unit=0x2F then 0x5F else unit

def toBase64Url (bytes:Bytes) : JsString :=
 ((toBase64 bytes).filter (·≠0x3D)).map urlLetter

/-- The least and the greatest value of every byte that has to follow the first one of a character;
no byte is in the range that follows any other. -/
def following (first:UInt8) : List (UInt8×UInt8) :=
 if first ≤ 0x7F then []
 else if first ≤ 0xC1 then [(0xFF,0x00)]
 else if first ≤ 0xDF then [(0x80,0xBF)]
 else if first ≤ 0xEF then
  [(if first=0xE0 then 0xA0 else 0x80,if first=0xED then 0x9F else 0xBF),(0x80,0xBF)]
 else if first ≤ 0xF4 then
  [(if first=0xF0 then 0x90 else 0x80,if first=0xF4 then 0x8F else 0xBF),(0x80,0xBF),(0x80,0xBF)]
 else [(0xFF,0x00)]

def accepted : List (UInt8×UInt8) → Bytes → ℕ
 | (least,greatest)::ranges, byte::rest =>
   if least ≤ byte && byte ≤ greatest then accepted ranges rest+1 else 0
 | _, _ => 0

/-- `toString("utf8")` as the UTF-8 form of its result: where no character can be completed, what
has been read of it becomes U+FFFD. The next `skip` bytes have been read. -/
def decodeUtf8 : ℕ → Bytes → Bytes
 | _, [] => []
 | skip+1, _::rest => decodeUtf8 skip rest
 | 0, first::rest =>
   let read:=accepted (following first) rest
   (if read=(following first).length then first::rest.take read else [0xEF,0xBF,0xBD]) ++
    decodeUtf8 read rest

def unreserved (byte:UInt8) : Bool :=
 (0x41 ≤ byte && byte ≤ 0x5A) || (0x61 ≤ byte && byte ≤ 0x7A) || (0x30 ≤ byte && byte ≤ 0x39) ||
  byte∈[0x2D,0x5F,0x2E,0x21,0x7E,0x2A,0x27,0x28,0x29]

def encodeURIComponent (text:Bytes) : Bytes :=
 text.flatMap fun byte=>
  if unreserved byte then [byte] else 0x25::ascii (toUpperCase (toHex [byte]))

def encodingsOf (secret:Bytes) : List Bytes :=
 [secret,
  ascii (toHex secret),
  ascii (toUpperCase (toHex secret)),
  ascii (toBase64 secret),
  ascii (toBase64Url secret),
  encodeURIComponent (decodeUtf8 0 secret)]

def replacement : Bytes := ascii (js "***REDACTED***")

/-- Up to the first occurrence of the needle the bytes are copied, then a marker stands for it and
the search goes on behind it: `skip` bytes of it are still to come. -/
def replaceAll (needle:Bytes) : ℕ → Bytes → Bytes
 | _, [] => []
 | skip+1, _::rest => replaceAll needle skip rest
 | 0, byte::rest =>
   if needle.isPrefixOf (byte::rest) then replacement++replaceAll needle (needle.length - 1) rest
   else byte::replaceAll needle 0 rest

def replaceEach (current:Bytes) (needles:List Bytes) : Bytes :=
 needles.foldl (fun current needle=>replaceAll needle 0 current) current

def redactSecretMaterial (input:Bytes) (secrets:List Bytes) : Bytes :=
 secrets.foldl (fun current secret=>
  if secret.length=0 then current
  else replaceEach current
   ((encodingsOf secret).mergeSort fun left right=>right.length ≤ left.length)) input

section Cuts

variable {α:Type} {needle front back:List α} {letter:α}

lemma prefix_of_cut (hletter:letter ∉ needle) (h:needle <+: front++letter::back) :
  needle <+: front := by
 refine prefix_of_prefix_length_le h (prefix_append _ _) ?_
 by_contra hlen
 have hcut:front++[letter] <+: front++letter::back:=⟨back,by simp⟩
 have hlong:(front++[letter]).length ≤ needle.length := by
  rw [length_append,length_singleton]
  omega
 exact hletter ((prefix_of_prefix_length_le hcut h hlong).subset (by simp))

lemma infix_of_cut (hletter:letter ∉ needle) (h:needle <:+: front++letter::back) :
  needle <:+: front ∨ needle <:+: back := by
 induction front with
 | nil =>
   rcases infix_cons_iff.mp h with hstart | hlater
   · exact .inl (prefix_of_cut hletter hstart:needle <+: []).isInfix
   · exact .inr hlater
 | cons first front ih =>
   rcases infix_cons_iff.mp h with hstart | hlater
   · exact .inl (prefix_of_cut hletter hstart:needle <+: first::front).isInfix
   · exact (ih hlater).imp_left fun hfront=>hfront.trans (suffix_cons _ _).isInfix

end Cuts

section Runs

variable {needle other current:Bytes} {ns:List Bytes}

structure Solid (needle:Bytes) : Prop where
 unstarred : 0x2A ∉ needle
 long : 8<needle.length

lemma Solid.not_within (h:Solid needle) {word:Bytes} (hword:word.length ≤ 8) :
  ¬ needle <:+: word := by
 intro hwith
 have hlen:=hwith.length_le
 have hlong:=h.long
 omega

lemma Solid.infix_of_marked (h:Solid needle) {back:Bytes}
  (hmark:needle <:+: replacement++back) : needle <:+: back := by
 have hcut:∀front back : Bytes,front.length ≤ 8 → needle <:+: front++0x2A::back →
   needle <:+: back := fun _ _ hfront hwith=>
  (infix_of_cut h.unstarred hwith).resolve_left (h.not_within hfront)
 have hstars:=hcut [] _ (by decide) (hcut [] _ (by decide) (hcut [] _ (by decide) hmark))
 have hword:=hcut (ascii (js "REDACTED")) _ (by decide) hstars
 exact hcut [] _ (by decide) (hcut [] _ (by decide) hword)

lemma prefix_of_replaceAll (hother:0x2A ∉ other) (h:other <+: replaceAll needle 0 current) :
  other <+: current := by
 induction current generalizing other with
 | nil => exact h
 | cons byte rest ih =>
   rw [replaceAll] at h
   split_ifs at h
   · exact (prefix_of_cut hother h:other <+: []).trans nil_prefix
   · cases other with
     | nil => exact nil_prefix
     | cons first other =>
       rw [cons_prefix_cons] at h ⊢
       exact ⟨h.1,ih (fun hmem=>hother (mem_cons_of_mem _ hmem)) h.2⟩

lemma infix_of_replaceAll (hother:Solid other) {skip:ℕ}
  (h:other <:+: replaceAll needle skip current) : other <:+: current ∧ other≠needle := by
 induction current generalizing skip with
 | nil => exact absurd h (hother.not_within (by simp [replaceAll]))
 | cons byte rest ih =>
   have hlater:∀{skip},other <:+: replaceAll needle skip rest →
     other <:+: byte::rest ∧ other≠needle := fun hrest=>
    (ih hrest).imp_left fun hwith=>hwith.trans (suffix_cons _ _).isInfix
   cases skip with
   | succ skip => exact hlater h
   | zero =>
     rw [replaceAll] at h
     split_ifs at h with hmatch
     · exact hlater (hother.infix_of_marked h)
     · rcases infix_cons_iff.mp h with hstart | hrest
       · have hall:other <+: replaceAll needle 0 (byte::rest) := by
          rwa [replaceAll,if_neg hmatch]
         have hcurrent:=prefix_of_replaceAll hother.unstarred hall
         refine ⟨hcurrent.isInfix,?_⟩
         rintro rfl
         exact hmatch <| isPrefixOf_iff_prefix.mpr hcurrent
       · exact hlater hrest

lemma replaceAll_of_absent (h:¬ needle <:+: current) : replaceAll needle 0 current=current := by
 induction current with
 | nil => rfl
 | cons byte rest ih =>
   rw [infix_cons_iff,not_or] at h
   rw [replaceAll,if_neg fun hmatch=>h.1 <| isPrefixOf_iff_prefix.mp hmatch,ih h.2]

lemma infix_of_replaceEach (hother:Solid other)
  (h:other <:+: replaceEach current ns) :
  other <:+: current ∧ other ∉ ns := by
 induction ns generalizing current with
 | nil => exact ⟨h,not_mem_nil⟩
 | cons needle ns ih =>
   obtain ⟨hwith,hmem⟩:=ih h
   obtain ⟨hcurrent,hne⟩:=infix_of_replaceAll hother hwith
   exact ⟨hcurrent,by simp [hne,hmem]⟩

lemma replaceEach_of_absent (h:∀needle∈ns,¬ needle <:+: current) :
  replaceEach current ns=current := by
 induction ns with
 | nil => rfl
 | cons needle ns ih =>
   rw [forall_mem_cons] at h
   rw [replaceEach,foldl_cons,replaceAll_of_absent h.1]
   exact ih h.2

end Runs

section Secrets

variable {secret:Bytes}

lemma toHex_unstarred (bytes:Bytes) :
  0x2A ∉ ascii (toHex bytes) ∧ 0x2A ∉ ascii (toUpperCase (toHex bytes)) := by
 have hdigit:∀n<16,(hexDigit n).toUInt8≠0x2A ∧ (upper (hexDigit n)).toUInt8≠0x2A := by
  decide
 have hunits:∀unit∈toHex bytes,unit.toUInt8≠0x2A ∧ (upper unit).toUInt8≠0x2A := by
  intro unit hunit
  obtain ⟨byte,-,hunit⟩:=mem_flatMap.mp hunit
  have hbyte:=byte.toNat_lt
  rcases mem_pair.mp hunit with rfl | rfl
  · exact hdigit _ (by omega)
  · exact hdigit _ (by omega)
 simp only [ascii,toUpperCase,mem_map,exists_exists_and_eq_and,not_exists,not_and]
 exact ⟨fun unit hunit=>(hunits unit hunit).1,fun unit hunit=>(hunits unit hunit).2⟩

lemma length_toHex (bytes:Bytes) : (toHex bytes).length=2*bytes.length := by
 simp [toHex,length_flatMap,mul_comm]

lemma toBase64_unstarred (bytes:Bytes) :
  0x2A ∉ ascii (toBase64 bytes) ∧ 0x2A ∉ ascii (toBase64Url bytes) := by
 have hunits:=toBase64_forall (p:=fun unit=>unit.toUInt8≠0x2A ∧ (urlLetter unit).toUInt8≠0x2A)
  (by decide) (by decide) (by decide) bytes
 simp only [ascii,toBase64Url,mem_map,mem_filter,exists_exists_and_eq_and,not_exists,not_and]
 exact ⟨fun unit hunit=>(hunits unit hunit).1,fun unit hunit=>(hunits unit hunit.1).2⟩

lemma length_le_toBase64Url (bytes:Bytes) : bytes.length ≤ (toBase64Url bytes).length := by
 have hletter:∀value,letter value≠0x3D :=
  letter_forall (p := (·≠0x3D)) (by decide) (by decide)
 rw [toBase64Url,length_map]
 induction bytes using toBase64.induct with
 | case1 a b c rest ih =>
   simp only [toBase64,filter_cons,hletter,ne_eq,not_false_eq_true,decide_true,if_true,
    length_cons] at ih ⊢
   omega
 | case2 | case3 => simp [toBase64,hletter]
 | case4 => simp

lemma encodeURIComponent_spec {text:Bytes} (h:0x2A ∉ text) :
  0x2A ∉ encodeURIComponent text ∧ text.length ≤ (encodeURIComponent text).length := by
 induction text with
 | nil => exact ⟨h,le_rfl⟩
 | cons byte rest ih =>
   rw [mem_cons,not_or] at h
   obtain ⟨hstar,hlen⟩:=ih h.2
   rw [encodeURIComponent,flatMap_cons,← encodeURIComponent,length_append,length_cons,mem_append]
   split_ifs
   · exact ⟨by simp [h.1,hstar],by rw [length_singleton]; omega⟩
   · have hhex:=(toHex_unstarred [byte]).2
     exact ⟨by simp [hhex,hstar],by rw [length_cons]; omega⟩

lemma accepted_le (ranges:List (UInt8×UInt8)) (bytes:Bytes) :
  accepted ranges bytes ≤ ranges.length ∧ accepted ranges bytes ≤ bytes.length := by
 induction ranges generalizing bytes with
 | nil => simp [accepted]
 | cons range ranges ih =>
   cases bytes with
   | nil => simp [accepted]
   | cons byte rest =>
     have hrest:=ih rest
     rw [accepted,length_cons,length_cons]
     split_ifs <;> omega

/-- At most three bytes become U+FFFD, which has three, and a star only comes from a star. -/
lemma decodeUtf8_spec (bytes:Bytes) (skip:ℕ) :
  bytes.length ≤ (decodeUtf8 skip bytes).length+skip ∧
   (0x2A∈decodeUtf8 skip bytes → 0x2A∈bytes) := by
 induction bytes generalizing skip with
 | nil => simp [decodeUtf8]
 | cons first rest ih =>
   cases skip with
   | succ skip =>
     rw [decodeUtf8,length_cons]
     have hrest:=(ih skip).1
     exact ⟨by omega,fun h=>mem_cons_of_mem _ ((ih skip).2 h)⟩
   | zero =>
     have hshort:(following first).length ≤ 3 := by
      unfold following
      split_ifs <;> simp
     obtain ⟨hrange,hbytes⟩:=accepted_le (following first) rest
     obtain ⟨hlen,hstar⟩:=ih (accepted (following first) rest)
     rw [decodeUtf8,length_append,length_cons]
     refine ⟨?_,fun h=>?_⟩
     · split_ifs
       · rw [length_cons,length_take]
         omega
       · rw [length_cons,length_cons,length_singleton]
         omega
     · rcases mem_append.mp h with hread | hlater
       · split_ifs at hread
         · exact cons_subset_cons _ (take_subset _ _) hread
         · exact absurd hread (by decide)
       · exact mem_cons_of_mem _ (hstar hlater)

lemma solid_of_mem (hlong:16 ≤ secret.length) (hstar:0x2A ∉ secret) :
  ∀needle∈encodingsOf secret,Solid needle := by
 obtain ⟨hdecoded,hsame⟩:=decodeUtf8_spec secret 0
 obtain ⟨hunstarred,hencoded⟩:=encodeURIComponent_spec fun h=>hstar (hsame h)
 have hhex:=length_toHex secret
 have hurl:=length_le_toBase64Url secret
 have hbase:(toBase64Url secret).length ≤ (toBase64 secret).length := by
  rw [toBase64Url,length_map]
  exact length_filter_le _ _
 simp only [encodingsOf,forall_mem_cons,not_mem_nil,false_implies,implies_true,and_true]
 refine ⟨⟨hstar,?_⟩,⟨(toHex_unstarred secret).1,?_⟩,⟨(toHex_unstarred secret).2,?_⟩,
  ⟨(toBase64_unstarred secret).1,?_⟩,⟨(toBase64_unstarred secret).2,?_⟩,⟨hunstarred,?_⟩⟩
 all_goals
  try simp only [ascii,toUpperCase,length_map]
  omega

def needles (secret:Bytes) : List Bytes :=
 if secret.length=0 then []
 else (encodingsOf secret).mergeSort fun left right=>right.length ≤ left.length

lemma redactSecretMaterial_eq (input:Bytes) (secrets:List Bytes) :
  redactSecretMaterial input secrets =
   replaceEach input (secrets.flatMap needles) := by
 rw [replaceEach,foldl_flatMap,redactSecretMaterial]
 refine congrArg (foldl · input secrets) (funext₂ fun current secret=>?_)
 rw [needles]
 split_ifs <;> rfl

/-- Secrets of 16 bytes or more without stars are left in none of their encodings, and what holds
none of them stays as it is. -/
theorem redaction_complete (input:Bytes) (secrets:List Bytes)
  (h:∀secret∈secrets,16 ≤ secret.length ∧ 0x2A ∉ secret) :
  (∀secret∈secrets,∀needle∈encodingsOf secret,
    ¬ needle <:+: redactSecretMaterial input secrets) ∧
   ((∀secret∈secrets,∀needle∈encodingsOf secret,¬ needle <:+: input) →
    redactSecretMaterial input secrets=input) := by
 rw [redactSecretMaterial_eq]
 constructor
 · intro secret hsecret needle hneedle hwithin
   obtain ⟨hlong,hstar⟩:=h secret hsecret
   refine (infix_of_replaceEach (solid_of_mem hlong hstar needle hneedle) hwithin).2 ?_
   refine mem_flatMap.mpr ⟨secret,hsecret,?_⟩
   rw [needles,if_neg (by omega)]
   exact mem_mergeSort.mpr hneedle
 · intro hnone
   refine replaceEach_of_absent fun needle hneedle=>?_
   obtain ⟨secret,hsecret,hneedle⟩:=mem_flatMap.mp hneedle
   rw [needles] at hneedle
   split_ifs at hneedle
   · cases hneedle
   · exact hnone secret hsecret needle (mem_mergeSort.mp hneedle)

theorem redaction_complete_sample :
  ¬ replicate 16 0x61 <:+: redactSecretMaterial (replicate 40 0x61) [replicate 16 0x61] :=
 (redaction_complete _ [replicate 16 0x61] (by decide)).1 _ (mem_singleton_self _) _ mem_cons_self

end Secrets

end EpistemicCompiler.SecretRedaction
