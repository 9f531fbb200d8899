import Mathlib.Data.List.Basic

set_option autoImplicit false

/-!
# Base64 texts

Writing is as in RFC 4648 with padding. Reading is lenient: both alphabets are read, the text ends
at the first `=`, units outside of the alphabets are skipped and left-over bits are dropped. So
reading undoes writing, but many texts read as the same bytes.
-/
namespace EpistemicCompiler.Base64Text
open List

abbrev Text := List UInt16

def letter (value:ℕ) : UInt16 :=
 if value<26 then UInt16.ofNat (0x41+value)
 else if value<52 then UInt16.ofNat (0x61+(value - 26))
 else if value<62 then UInt16.ofNat (0x30+(value - 52))
 else if value=62 then 0x2B
 else 0x2F

def value? (unit:UInt16) : Option ℕ :=
 if 0x41 ≤ unit && unit ≤ 0x5A then some (unit.toNat - 0x41)
 else if 0x61 ≤ unit && unit ≤ 0x7A then some (unit.toNat - 0x61+26)
 else if 0x30 ≤ unit && unit ≤ 0x39 then some (unit.toNat - 0x30+52)
 else if unit=0x2B || unit=0x2D then some 62
 else if unit=0x2F || unit=0x5F then some 63
 else none

def toBase64 : List UInt8 → Text
 | a::b::c::rest =>
   letter (a.toNat/4)::letter (a.toNat % 4*16+b.toNat/16) ::
    letter (b.toNat % 16*4+c.toNat/64)::letter (c.toNat % 64)::toBase64 rest
 | [a,b] =>
   [letter (a.toNat/4),letter (a.toNat % 4*16+b.toNat/16),letter (b.toNat % 16*4),
    0x3D]
 | [a] => [letter (a.toNat/4),letter (a.toNat % 4*16),0x3D,0x3D]
 | [] => []

def sextets (text:Text) : List ℕ := (text.takeWhile (·≠0x3D)).filterMap value?

def bytesOf : List ℕ → List UInt8
 | a::b::c::d::rest =>
   UInt8.ofNat (a*4+b/16)::UInt8.ofNat (b % 16*16+c/4) ::
    UInt8.ofNat (c % 4*64+d)::bytesOf rest
 | [a,b,c] => [UInt8.ofNat (a*4+b/16),UInt8.ofNat (b % 16*16+c/4)]
 | [a,b] => [UInt8.ofNat (a*4+b/16)]
 | _ => []

def fromBase64 (text:Text) : List UInt8 := bytesOf (sextets text)

lemma value_letter : ∀value<64,value? (letter value)=some value ∧ letter value≠0x3D := by
 decide

lemma sextets_letter {value:ℕ} (h:value<64) (text:Text) :
  sextets (letter value::text)=value::sextets text := by
 obtain ⟨hvalue,hpad⟩:=value_letter value h
 rw [sextets,takeWhile_cons_of_pos (by simpa using hpad),filterMap_cons_some hvalue]
 rfl

lemma sextets_pad (text:Text) : sextets (0x3D::text)=[] := rfl

lemma ofNat_eq {n:ℕ} (byte:UInt8) (h:n=byte.toNat) : UInt8.ofNat n=byte := by
 rw [h,UInt8.ofNat_toNat]

lemma fromBase64_toBase64 (bytes:List UInt8) : fromBase64 (toBase64 bytes)=bytes := by
 induction bytes using toBase64.induct with
 | case1 a b c rest ih =>
   have ha:=a.toNat_lt
   have hb:=b.toNat_lt
   have hc:=c.toNat_lt
   rw [toBase64,fromBase64,sextets_letter (by omega),sextets_letter (by omega),
    sextets_letter (by omega),sextets_letter (by omega),bytesOf,ofNat_eq a (by omega),
    ofNat_eq b (by omega),ofNat_eq c (by omega)]
   rw [fromBase64] at ih
   rw [ih]
 | case2 a b =>
   have ha:=a.toNat_lt
   have hb:=b.toNat_lt
   rw [toBase64,fromBase64,sextets_letter (by omega),sextets_letter (by omega),
    sextets_letter (by omega),sextets_pad,bytesOf,ofNat_eq a (by omega),
    ofNat_eq b (by omega)]
 | case3 a =>
   have ha:=a.toNat_lt
   rw [toBase64,fromBase64,sextets_letter (by omega),sextets_letter (by omega),sextets_pad,
    bytesOf,ofNat_eq a (by omega)]
 | case4 => rfl

lemma toBase64_injective : Function.Injective toBase64 :=
 Function.LeftInverse.injective fromBase64_toBase64

lemma letter_forall {p:UInt16 → Prop} (h:∀value<64,p (letter value)) (hlast:p 0x2F)
  (value:ℕ) : p (letter value) := by
 by_cases hvalue : value<64
 · exact h value hvalue
 · rw [letter,if_neg (by omega),if_neg (by omega),if_neg (by omega),if_neg (by omega)]
   exact hlast

lemma toBase64_forall {p:UInt16 → Prop} (h:∀value<64,p (letter value)) (hlast:p 0x2F)
  (hpad:p 0x3D) (bytes:List UInt8) : ∀unit∈toBase64 bytes,p unit := by
 have hletter:=letter_forall h hlast
 induction bytes using toBase64.induct with
 | case1 a b c rest ih => simpa [toBase64,hletter] using ih
 | case2 | case3 => simp [toBase64,hletter,hpad]
 | case4 => simp [toBase64]

lemma toBase64_lt (bytes:List UInt8) : ∀unit∈toBase64 bytes,unit.toNat<0x80 :=
 toBase64_forall (by decide) (by decide) (by decide) bytes

lemma toNat_ofNat_toNat (b:UInt8) : (Char.ofNat b.toNat).toNat=b.toNat := by
 have hvalid:b.toNat.isValidChar:=.inl (Nat.lt_trans b.toNat_lt (by decide))
 rw [Char.ofNat,dif_pos hvalid]
 rfl

lemma ofList_bytes_injective : Function.Injective fun bytes : List UInt8=>
   String.ofList (bytes.map fun b=>Char.ofNat b.toNat) := by
 intro bytes bytes' h
 refine map_injective_iff.mpr (fun b b' hb=>?_) (String.ofList_injective h)
 have hnat:=congrArg Char.toNat hb
 rw [toNat_ofNat_toNat,toNat_ofNat_toNat] at hnat
 exact UInt8.toNat_inj.mp hnat

end EpistemicCompiler.Base64Text
