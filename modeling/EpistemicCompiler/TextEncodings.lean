import EpistemicCompiler.CanonicalReading

set_option autoImplicit false

/-!
# Encodings of texts

Node turns a text into bytes as UTF-8, with U+FFFD in the place of every unpaired surrogate. Texts
without such surrogates are told apart by their bytes. Bytes are written as texts in hexadecimal.
-/
namespace EpistemicCompiler.TextEncodings
open JsValues CanonicalJson CanonicalReading List

def isHex (unit:UInt16) : Bool := isDigit unit || (0x61 ≤ unit && unit ≤ 0x66)

def isDigest (value:JsString) : Bool :=
 (js "sha256:").isPrefixOf value && (value.drop 7).length=64 && (value.drop 7).all isHex

def toHex (bytes:List UInt8) : JsString :=
 bytes.flatMap fun byte=>[hexDigit (byte.toNat/16),hexDigit (byte.toNat % 16)]

/-- `Buffer.from(text, "hex")`, which ends at the first pair that is not one of digits. -/
def fromHex : JsString → List UInt8
 | high::low::rest =>
   match hexValue high, hexValue low with
   | some high, some low => UInt8.ofNat (16*high+low)::fromHex rest
   | _, _ => []
 | _ => []

lemma fromHex_toHex (bytes:List UInt8) : fromHex (toHex bytes)=bytes := by
 induction bytes with
 | nil => rfl
 | cons byte bytes ih =>
   have hbyte:=byte.toNat_lt
   have hhigh:=(hexValue_hexDigit (byte.toNat/16) (by omega)).1
   have hlow:=(hexValue_hexDigit (byte.toNat % 16) (by omega)).1
   have hvalue:16*(byte.toNat/16)+byte.toNat % 16=byte.toNat := by omega
   change fromHex (hexDigit _::hexDigit _::toHex bytes)=_
   rw [fromHex,hhigh,hlow]
   simp only [hvalue,ih,UInt8.ofNat_toNat]

section Characters

def encodeUtf16 (c:Char) : List UInt16 :=
 let v:=c.val.toNat
 if v<0x10000 then [UInt16.ofNat v]
 else
  [UInt16.ofNat (0xD800+(v - 0x10000)/0x400),UInt16.ofNat (0xDC00+(v - 0x10000) % 0x400)]

def scalarOf (unit:UInt16) : Char :=
 if isLead unit || isTrail unit then Char.ofNat 0xFFFD else Char.ofNat unit.toNat

def pairOf (lead trail:UInt16) : Char :=
 Char.ofNat (0x10000+(lead.toNat - 0xD800)*0x400+(trail.toNat - 0xDC00))

def scalars : JsString → List Char
 | [] => []
 | [unit] => [scalarOf unit]
 | unit::next::rest =>
   if isLead unit && isTrail next then pairOf unit next::scalars rest
   else scalarOf unit::scalars (next::rest)

def utf8 (text:JsString) : List UInt8 := (scalars text).flatMap String.utf8EncodeChar

variable {unit:UInt16} {text left right:JsString}

lemma toNat_ofNat {n:ℕ} (h:n<0xD800 ∨ 0xE000 ≤ n ∧ n<0x110000) :
  (Char.ofNat n).val.toNat=n := by
 have hvalid:n.isValidChar := by
  rcases h with h | ⟨hlow,hhigh⟩
  · exact .inl h
  · exact .inr ⟨by omega,hhigh⟩
 rw [Char.ofNat,dif_pos hvalid]
 rfl

lemma isLead_iff (unit:UInt16) :
  isLead unit=true ↔ 0xD800 ≤ unit.toNat ∧ unit.toNat ≤ 0xDBFF := by
 simp [isLead,UInt16.le_iff_toNat_le]

lemma isTrail_iff (unit:UInt16) :
  isTrail unit=true ↔ 0xDC00 ≤ unit.toNat ∧ unit.toNat ≤ 0xDFFF := by
 simp [isTrail,UInt16.le_iff_toNat_le]

lemma scalarOf_toNat (h:isLead unit=false ∧ isTrail unit=false) :
  (scalarOf unit).val.toNat=unit.toNat := by
 have hlt:=unit.toNat_lt
 have hlead:=(isLead_iff unit).not.mp (by simp [h.1])
 have htrail:=(isTrail_iff unit).not.mp (by simp [h.2])
 simp only [scalarOf,h.1,h.2,Bool.or_self,Bool.false_eq_true,if_false]
 exact toNat_ofNat (by omega)

lemma pairOf_toNat {lead trail:UInt16} (hlead:isLead lead=true)
  (htrail:isTrail trail=true) : (pairOf lead trail).val.toNat =
   0x10000+(lead.toNat - 0xD800)*0x400+(trail.toNat - 0xDC00) := by
 rw [isLead_iff] at hlead
 rw [isTrail_iff] at htrail
 exact toNat_ofNat (by omega)

lemma encode_scalarOf (h:isLead unit=false ∧ isTrail unit=false) :
  encodeUtf16 (scalarOf unit)=[unit] := by
 have hlt:=unit.toNat_lt
 rw [encodeUtf16,scalarOf_toNat h,if_pos (by omega),UInt16.ofNat_toNat]

lemma encode_pairOf {lead trail:UInt16} (hlead:isLead lead=true)
  (htrail:isTrail trail=true) : encodeUtf16 (pairOf lead trail)=[lead,trail] := by
 have hvalue:=pairOf_toNat hlead htrail
 rw [isLead_iff] at hlead
 rw [isTrail_iff] at htrail
 have hhigh:0xD800+((pairOf lead trail).val.toNat - 0x10000)/0x400=lead.toNat := by omega
 have hlow:0xDC00+((pairOf lead trail).val.toNat - 0x10000) % 0x400=trail.toNat := by omega
 rw [encodeUtf16,if_neg (by omega),hhigh,hlow,UInt16.ofNat_toNat, UInt16.ofNat_toNat]

lemma scalars_cons (h:isLead unit=false) (rest:JsString) :
  scalars (unit::rest)=scalarOf unit::scalars rest := by
 cases rest with
 | nil => rfl
 | cons next rest => simp [scalars,h]

lemma scalars_append_cons (h:isTrail unit=false)
  (rest:JsString) : scalars (text++unit::rest)=scalars text++scalars (unit::rest) := by
 induction text using scalars.induct with
 | case1 => rfl
 | case2 last =>
   cases hlead : isLead last <;> simp [scalars,h]
 | case3 first next text hpair ih =>
   simp only [cons_append,scalars,hpair,if_true] at ih ⊢
   rw [ih]
 | case4 first next text hpair ih =>
   simp only [cons_append,scalars,hpair] at ih ⊢
   simpa using ih

section Marks

variable {mark:UInt16} (hmark:mark<0x80)
include hmark

lemma plain_of_ascii : isLead mark=false ∧ isTrail mark=false := by
 simp only [isLead,isTrail]
 grind

lemma scalarOf_eq_iff : scalarOf unit=scalarOf mark ↔ unit=mark := by
 refine ⟨fun h=>?_,fun h=>by rw [h]⟩
 have hascii:mark.toNat<0x80:=UInt16.lt_iff_toNat_lt.mp hmark
 have hvalue:=scalarOf_toNat (plain_of_ascii hmark)
 rw [← h] at hvalue
 by_cases hsurrogate : (isLead unit || isTrail unit)=true
 · rw [scalarOf,if_pos hsurrogate,toNat_ofNat (by omega)] at hvalue
   omega
 · rw [Bool.not_eq_true,Bool.or_eq_false_iff] at hsurrogate
   exact UInt16.toNat_inj.mp ((scalarOf_toNat hsurrogate).symm.trans hvalue)

/-- A mark of ASCII stands in the characters wherever it stands in the units. -/
lemma count_scalars (text:JsString) : (scalars text).count (scalarOf mark)=text.count mark := by
 induction text using scalars.induct with
 | case1 => rfl
 | case2 last => simp [scalars,count_singleton,scalarOf_eq_iff hmark]
 | case3 first next text hpair ih =>
   have hascii:mark.toNat<0x80:=UInt16.lt_iff_toNat_lt.mp hmark
   have hpair':=Bool.and_eq_true_iff.mp hpair
   have hvalue:=pairOf_toNat hpair'.1 hpair'.2
   have hchar:pairOf first next≠scalarOf mark:=fun h=>by
    rw [h,scalarOf_toNat (plain_of_ascii hmark)] at hvalue
    omega
   have hplain:=plain_of_ascii hmark
   have hfirst:first≠mark:=fun h=>by simp [h,hplain] at hpair
   have hnext:next≠mark:=fun h=>by simp [h,hplain] at hpair
   simp [scalars,hpair',hchar,hfirst,hnext,ih]
 | case4 first next text hpair ih =>
   simp only [scalars,hpair,Bool.false_eq_true,if_false]
   rw [count_cons,ih,count_cons (l:=next::text)]
   simp [scalarOf_eq_iff hmark]

end Marks

lemma utf16_scalars (h:unpairedSurrogate text=false) :
  (scalars text).flatMap encodeUtf16=text := by
 induction text using scalars.induct with
 | case1 => rfl
 | case2 last =>
   rw [unpairedSurrogate,Bool.or_eq_false_iff] at h
   simp [scalars,encode_scalarOf h]
 | case3 first next text hpair ih =>
   have hpair':=Bool.and_eq_true_iff.mp hpair
   simp only [unpairedSurrogate,hpair',if_true] at h
   simp only [scalars,hpair,if_true,flatMap_cons,ih h]
   rw [encode_pairOf hpair'.1 hpair'.2]
   rfl
 | case4 first next text hpair ih =>
   have hsingle:isLead first=false ∧ isTrail first=false ∧
     unpairedSurrogate (next::text)=false := by
    cases hlead : isLead first with
    | true =>
      simp only [hlead,Bool.true_and] at hpair
      simp [unpairedSurrogate,hlead,hpair] at h
    | false =>
      cases htrail : isTrail first with
      | true => simp [unpairedSurrogate,hlead,htrail] at h
      | false =>
        simp only [unpairedSurrogate,hlead,htrail,Bool.false_eq_true,if_false] at h
        exact ⟨rfl,rfl,h⟩
   rw [scalars_cons hsingle.1,flatMap_cons,encode_scalarOf ⟨hsingle.1,hsingle.2.1⟩, ih hsingle.2.2]
   rfl

lemma scalars_injective (hleft:unpairedSurrogate left=false)
  (hright:unpairedSurrogate right=false) (h:scalars left=scalars right) : left=right := by
 rw [← utf16_scalars hleft,h,utf16_scalars hright]

lemma scalars_eq_of_utf8 (h:utf8 left=utf8 right) :
  scalars left=scalars right := by
 have hencoded:(scalars left).utf8Encode=(scalars right).utf8Encode := by
  exact congrArg toByteArray h
 have hleft:=utf8Decode?_utf8Encode (l:=scalars left)
 rw [hencoded,utf8Decode?_utf8Encode] at hleft
 simpa using hleft.symm

lemma utf8_injective (hleft:unpairedSurrogate left=false)
  (hright:unpairedSurrogate right=false) (h:utf8 left=utf8 right) : left=right :=
 scalars_injective hleft hright (scalars_eq_of_utf8 h)

end Characters

end EpistemicCompiler.TextEncodings
