import Mathlib.Data.Int.Log
import Mathlib.Data.Rat.Floor
import Mathlib.Data.UInt

set_option autoImplicit false

/-!
# Strings and numbers of JavaScript

A string is a sequence of 16-bit code units, paired surrogates or not. A number is a double: here
the rational number it stands for, an infinity or NaN, so that the two zeros are one number.
-/
namespace EpistemicCompiler.JsValues

abbrev JsString := List UInt16

instance : LawfulBEq JsString := List.instLawfulBEq

def js (text:String) : JsString := text.toList.map fun c=>UInt16.ofNat c.toNat

def isLead (unit:UInt16) : Bool := 0xD800 ≤ unit && unit ≤ 0xDBFF

def isTrail (unit:UInt16) : Bool := 0xDC00 ≤ unit && unit ≤ 0xDFFF

def unpairedSurrogate : JsString → Bool
 | [] => false
 | [unit] => isLead unit || isTrail unit
 | unit::next::rest =>
   if isLead unit then
    if isTrail next then unpairedSurrogate rest else true
   else if isTrail unit then true
   else unpairedSurrogate (next::rest)

lemma unpairedSurrogate_eq_false {s:JsString}
  (h:∀unit∈s,isLead unit=false ∧ isTrail unit=false) : unpairedSurrogate s=false := by
 induction s with
 | nil => rfl
 | cons unit rest ih =>
   obtain ⟨hlead,htrail⟩:=h unit List.mem_cons_self
   have hrest:=ih fun other hother=>h other (List.mem_cons_of_mem _ hother)
   cases rest with
   | nil => simp [unpairedSurrogate,hlead,htrail]
   | cons next rest => simp [unpairedSurrogate,hlead,htrail,hrest]

lemma unpairedSurrogate_append {s t:JsString} (hs:unpairedSurrogate s=false)
  (ht:unpairedSurrogate t=false) : unpairedSurrogate (s++t)=false := by
 fun_induction unpairedSurrogate s with
 | case1 => exact ht
 | case2 unit =>
   obtain ⟨hlead,htrail⟩:=Bool.or_eq_false_iff.mp hs
   cases t with
   | nil => simp [unpairedSurrogate,hlead,htrail]
   | cons next rest => simp [unpairedSurrogate,hlead,htrail,ht]
 | case3 unit next rest hlead htrail ih => simpa [unpairedSurrogate,hlead,htrail] using ih hs
 | case4 => cases hs
 | case5 => cases hs
 | case6 unit next rest hlead htrail ih => simpa [unpairedSurrogate,hlead,htrail] using ih hs

def utf16Compare : JsString → JsString → ℤ
 | [], right => -right.length
 | left, [] => left.length
 | a::left, b::right =>
   if a≠b then (a.toNat : ℤ) - b.toNat else utf16Compare left right

def unitsLe (left right:JsString) : Bool := utf16Compare left right ≤ 0

lemma unitsLe_iff {s t:JsString} :
  unitsLe s t=true ↔ ¬ t.map UInt16.toNat<s.map UInt16.toNat := by
 rw [unitsLe,decide_eq_true_eq]
 induction s generalizing t with
 | nil => cases t <;> simp [utf16Compare]
 | cons a s ih =>
   cases t with
   | nil => simp [utf16Compare]
   | cons b t =>
     rw [List.map_cons,List.map_cons,List.cons_lt_cons_iff]
     by_cases h : a=b
     · simp [utf16Compare,h,ih]
     · have hne:a.toNat≠b.toNat:=fun heq=>h (UInt16.toNat_inj.mp heq)
       simp [utf16Compare,h,hne.symm]

lemma unitsLe_total (s t:JsString) : (unitsLe s t || unitsLe t s)=true := by
 rw [Bool.or_eq_true,unitsLe_iff,unitsLe_iff]
 exact List.le_total _ _

lemma unitsLe_trans (s t u:JsString) (h:unitsLe s t=true) (h':unitsLe t u=true) :
  unitsLe s u=true :=
 unitsLe_iff.mpr (List.le_trans (unitsLe_iff.mp h) (unitsLe_iff.mp h'))

lemma unitsLe_antisymm {s t:JsString} (h:unitsLe s t=true) (h':unitsLe t s=true) :
  s=t :=
 List.map_injective_iff.mpr (fun _ _=>UInt16.toNat_inj.mp)
  (List.le_antisymm (unitsLe_iff.mp h) (unitsLe_iff.mp h'))

inductive JsNumber where
 | finite (value:ℚ)
 | infinite (negative:Bool)
 | nan
 deriving DecidableEq

def roundHalfEven (q:ℚ) : ℤ :=
 let rest:=q - ⌊q⌋
 if rest<1/2 then ⌊q⌋
 else if 1/2<rest then ⌊q⌋+1
 else if ⌊q⌋ % 2=0 then ⌊q⌋ else ⌊q⌋+1

/-- The weight of the last of 53 binary digits; doubles below 2^-1022 share the smallest one. -/
def lastPlace (q:ℚ) : ℤ := max (Int.log 2 |q| - 52) (-1074)

def toDouble (q:ℚ) : JsNumber :=
 let value : ℚ:=roundHalfEven (q/2 ^ lastPlace q)*2 ^ lastPlace q
 if |value|<2 ^ 1024 then .finite value else .infinite (q<0)

def maxSafeInteger : ℕ := 2 ^ 53 - 1

def isSafeInteger : JsNumber → Bool
 | .finite value => value.den=1 && value.num.natAbs ≤ maxSafeInteger
 | _ => false

lemma roundHalfEven_int (n:ℤ) : roundHalfEven n=n := by
 simp [roundHalfEven]

lemma lastPlace_int {n:ℤ} (h:n.natAbs ≤ maxSafeInteger) :
  ∃k : ℕ,lastPlace n=-(k:ℤ) := by
 have hlog:Int.log 2 |(n:ℚ)| ≤ 52 := by
  by_cases hzero : n=0
  · simp [hzero]
  · have hpos:0 < |(n:ℚ)|:=abs_pos.mpr (by exact_mod_cast hzero)
    have hlt:|(n:ℚ)|<((2 : ℕ) : ℚ) ^ (53 : ℤ) := by
     have hnat:n.natAbs<2 ^ 53 := by
      unfold maxSafeInteger at h
      omega
     rw [← Int.cast_abs,Int.abs_eq_natAbs]
     exact_mod_cast hnat
    have := (Int.lt_zpow_iff_log_lt (by norm_num) hpos).mp hlt
    omega
 refine ⟨(-lastPlace n).toNat,?_⟩
 unfold lastPlace
 omega

lemma toDouble_int {n:ℤ} (h:n.natAbs ≤ maxSafeInteger) : toDouble n=.finite n := by
 obtain ⟨k,hk⟩:=lastPlace_int h
 have hscale:(n:ℚ)/2 ^ lastPlace n=((n*2 ^ k : ℤ) : ℚ) := by
  rw [hk,zpow_neg,zpow_natCast,div_inv_eq_mul]
  push_cast
  rfl
 have hvalue:(roundHalfEven ((n:ℚ)/2 ^ lastPlace n) : ℚ)*2 ^ lastPlace n=n := by
  rw [hscale,roundHalfEven_int,← hscale,div_mul_cancel₀]
  exact zpow_ne_zero _ (by norm_num)
 have hbound:|(n:ℚ)|<2 ^ 1024 := by
  have hnat:n.natAbs<2 ^ 53 := by
   unfold maxSafeInteger at h
   omega
  have hpow:(2 : ℚ) ^ 53 ≤ 2 ^ 1024:=pow_le_pow_right₀ (by norm_num) (by norm_num)
  rw [← Int.cast_abs,Int.abs_eq_natAbs]
  exact lt_of_lt_of_le (by exact_mod_cast hnat) hpow
 simp only [toDouble,hvalue,if_pos hbound]

end EpistemicCompiler.JsValues
