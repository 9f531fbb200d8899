import Mathlib.Data.Nat.Digits.Lemmas
import EpistemicCompiler.CanonicalJson

set_option autoImplicit false

/-!
# Reading canonical text back

The reader undoes the writer token by token, whatever the assignment of a parsed field does.
-/
namespace EpistemicCompiler.CanonicalReading
open JsValues CanonicalJson List Option Nat

variable {assign:Fields → JsString → JsonValue → Fields} {shortest:ℚ → JsString}

variable (unit:UInt16) (text:JsString) {c:UInt16}

lemma hexValue_hexDigit : ∀n<16,hexValue (hexDigit n)=some n ∧ hexDigit n≠0x5C ∧
  hexDigit n≠0x22 := by
 decide

lemma escapeUnit_cases :
  (∃x,escapeUnit unit=[0x5C,x] ∧ simpleEscape x=some unit ∧ x≠0x75) ∨
  (∃h l,escapeUnit unit=[0x5C,0x75,0x30,0x30,h,l] ∧
   hexUnit 0x30 0x30 h l=some unit ∧ (h≠0x5C ∧ h≠0x22) ∧ l≠0x5C ∧ l≠0x22) ∨
  (escapeUnit unit=[unit] ∧ unit≠0x5C ∧ unit≠0x22 ∧ ¬ unit<0x20) := by
 by_cases hshort : unit∈([0x08,0x09,0x0A,0x0C,0x0D,0x22,0x5C] : List UInt16)
 · simp only [mem_cons,not_mem_nil,or_false] at hshort
   rcases hshort with rfl | rfl | rfl | rfl | rfl | rfl | rfl <;>
    exact .inl ⟨_,rfl,rfl,by decide⟩
 simp only [mem_cons,not_mem_nil,or_false,not_or] at hshort
 obtain ⟨h₁,h₂,h₃,h₄,h₅,h₆,h₇⟩:=hshort
 rw [escapeUnit,if_neg h₁,if_neg h₂,if_neg h₃,if_neg h₄,if_neg h₅,if_neg h₆,if_neg h₇]
 by_cases h₈ : unit<0x20
 · have hlt:unit.toNat<32:=h₈
   obtain ⟨hhigh,hhigh'⟩:=hexValue_hexDigit (unit.toNat/16) (by omega)
   obtain ⟨hlow,hlow'⟩:=hexValue_hexDigit (unit.toNat % 16) (by omega)
   have hzero:hexValue 0x30=some 0 := by decide
   have hvalue:0*4096+0*256+unit.toNat/16*16+unit.toNat % 16=unit.toNat := by
    omega
   refine .inr (.inl ⟨_,_,if_pos h₈,?_,hhigh',hlow'⟩)
   simp only [hexUnit,hzero,hhigh,hlow,Option.bind_eq_bind,Option.bind_some,Option.pure_def,
    hvalue,UInt16.ofNat_toNat]
 · exact .inr (.inr ⟨if_neg h₈,h₇,h₆,h₈⟩)

lemma scanString_backslash (next:UInt16) (text:JsString) :
  scanString (0x5C::next::text) =
   (scanString text).map fun scanned=>(0x5C::next::scanned.1,scanned.2) := by
 rw [scanString,if_pos rfl]
 cases scanString text <;> rfl

lemma scanString_plain {unit:UInt16} (hslash:unit≠0x5C) (hquote:unit≠0x22)
  (text:JsString) :
  scanString (unit::text) =
   (scanString text).map fun scanned=>(unit::scanned.1,scanned.2) := by
 rw [scanString.eq_def]
 simp only [if_neg hslash,if_neg hquote]
 cases scanString text <;> rfl

lemma scanString_escape :
  scanString (escapeUnit unit++text) =
   (scanString text).map fun scanned=>(escapeUnit unit++scanned.1,scanned.2) := by
 rcases escapeUnit_cases unit with ⟨x,hx,-⟩ | ⟨h,l,hx,-,hh,hl⟩ | ⟨hx,hslash,hquote,-⟩
 · rw [hx]
   exact scanString_backslash x text
 · rw [hx,cons_append,cons_append,scanString_backslash,cons_append,
    scanString_plain (by decide) (by decide),cons_append,
    scanString_plain (by decide) (by decide),cons_append,scanString_plain hh.1 hh.2,
    cons_append,scanString_plain hl.1 hl.2,nil_append]
   cases scanString text <;> rfl
 · rw [hx]
   exact scanString_plain hslash hquote text

lemma scanString_literal (value rest:JsString) :
  scanString (value.flatMap escapeUnit++0x22::rest) =
   .ok (value.flatMap escapeUnit,rest) := by
 induction value with
 | nil =>
   rw [flatMap_nil,nil_append,scanString.eq_def]
   simp
 | cons unit value ih =>
   rw [flatMap_cons,append_assoc,scanString_escape,ih]
   rfl

lemma unescape_escape : unescape (escapeUnit unit++text)=(unescape text).map (unit::·) := by
 rcases escapeUnit_cases unit with
  ⟨x,hx,hsimp,hu⟩ | ⟨h,l,hx,hhex,-⟩ | ⟨hx,hslash,hquote,hlow⟩
 · rw [hx,cons_append,cons_append,unescape.eq_def]
   simp only [if_true,if_neg hu,hsimp,bind_some,nil_append]
 · rw [hx]
   simp only [cons_append,nil_append]
   rw [unescape.eq_def]
   simp only [if_true,hhex,bind_some]
 · rw [hx,cons_append,nil_append,unescape.eq_def]
   simp [hslash,hquote,hlow]

lemma unescape_literal (value:JsString) : unescape (value.flatMap escapeUnit)=some value := by
 induction value with
 | nil => rfl
 | cons unit value ih =>
   rw [flatMap_cons,unescape_escape,ih]
   rfl

lemma parseJsonString_quote {value:JsString} (h:unpairedSurrogate value=false)
  (rest:JsString) : parseJsonString (quote value++rest)=.ok (value,rest) := by
 have htext:quote value++rest=0x22::(value.flatMap escapeUnit++0x22::rest) := by
  simp [quote]
 rw [htext,parseJsonString,if_neg (by simp),scanString_literal]
 simp only [bind,Except.bind,unescape_literal,rejectUnpairedSurrogates,h]
 rfl

section Numbers

variable (n:ℤ)

def Terminal (rest:JsString) : Prop :=
 ∀c r,rest=c::r → c=0x2C ∨ c=0x5D ∨ c=0x7D

lemma Terminal.cases {rest:JsString} (h:Terminal rest) :
  rest=[] ∨ ∃r,rest=0x2C::r ∨ rest=0x5D::r ∨ rest=0x7D::r := by
 cases rest with
 | nil => exact .inl rfl
 | cons c r => exact .inr ⟨r,by simpa using h c r rfl⟩

lemma digit_unit : ∀d<10,isDigit (UInt16.ofNat (0x30+d))=true ∧
  (UInt16.ofNat (0x30+d)).toNat - 0x30=d ∧ (UInt16.ofNat (0x30+d)=0x30 → d=0) := by
 decide

lemma decimal_cases (n:ℕ) :
  (n=0 ∧ decimal n=[0x30]) ∨
  ∃unit digits,decimal n=unit::digits ∧ unit≠0x30 ∧ isDigit unit=true ∧
    ∀u∈digits,isDigit u=true := by
 by_cases hn : n=0
 · exact .inl ⟨hn,if_pos hn⟩
 · have hne:digits 10 n≠[]:=digits_ne_nil_iff_ne_zero.mpr hn
   have hlast:=getLast_digit_ne_zero 10 hn
   have hlt:∀d∈digits 10 n,d<10:=fun d hd=>digits_lt_base (by norm_num) hd
   have hsplit:=dropLast_append_getLast hne
   refine .inr ⟨UInt16.ofNat (0x30+(digits 10 n).getLast hne),
    (digits 10 n).dropLast.reverse.map fun d=>UInt16.ofNat (0x30+d), ?_,?_,?_,?_⟩
   · rw [decimal,if_neg hn]
     nth_rewrite 1 [← hsplit]
     simp
   · exact fun heq=>hlast ((digit_unit _ (hlt _ (getLast_mem hne))).2.2 heq)
   · exact (digit_unit _ (hlt _ (getLast_mem hne))).1
   · intro u hu
     obtain ⟨d,hd,rfl⟩:=mem_map.mp hu
     exact (digit_unit d (hlt d (mem_of_mem_dropLast (mem_reverse.mp hd)))).1

lemma decimal_head (n:ℕ) : ∃unit tail,decimal n=unit::tail ∧ isDigit unit=true := by
 rcases decimal_cases n with ⟨-,hzero⟩ | ⟨unit,digits,hdigits,-,hunit,-⟩
 · exact ⟨0x30,[],hzero,by decide⟩
 · exact ⟨unit,digits,hdigits,hunit⟩

lemma foldl_digits (digits:List ℕ) (h:∀d∈digits,d<10) :
  digitsValue (digits.reverse.map fun d=>UInt16.ofNat (0x30+d))=ofDigits 10 digits := by
 induction digits with
 | nil => rfl
 | cons d digits ih =>
   have hd:=(digit_unit d (h d mem_cons_self)).2.1
   have hrest:=ih fun e he=>h e (mem_cons_of_mem d he)
   unfold digitsValue at hrest ⊢
   rw [reverse_cons,map_append,foldl_append,hrest]
   simp only [map_cons,map_nil,foldl_cons,foldl_nil,hd, ofDigits_cons]
   omega

lemma digitsValue_decimal (n:ℕ) : digitsValue (decimal n)=n := by
 by_cases hn : n=0
 · rw [hn]
   rfl
 · rw [decimal,if_neg hn,foldl_digits _ fun d hd=>digits_lt_base (by norm_num) hd]
   exact ofDigits_digits 10 n

variable {rest:JsString}

lemma span_digits {digits:JsString} (h:∀u∈digits,isDigit u=true)
  (hrest:Terminal rest) :
  (digits++rest).takeWhile isDigit=digits ∧ (digits++rest).dropWhile isDigit=rest := by
 have hstop:rest.takeWhile isDigit=[] ∧ rest.dropWhile isDigit=rest := by
  rcases hrest.cases with rfl | ⟨r,rfl | rfl | rfl⟩ <;> exact ⟨rfl,rfl⟩
 rw [takeWhile_append_of_pos h,dropWhile_append_of_pos h,hstop.1,hstop.2]
 simp

lemma matchInteger_decimal (n:ℕ) (hrest:Terminal rest) :
  matchInteger (decimal n++rest)=some (decimal n,rest) := by
 rcases decimal_cases n with ⟨-,hzero⟩ | ⟨unit,digits,hdigits,hne,hunit,hmore⟩
 · rw [hzero,cons_append,matchInteger,if_pos rfl,nil_append]
 · obtain ⟨htake,hdrop⟩:=span_digits hmore hrest
   rw [hdigits,cons_append,matchInteger,if_neg hne,if_pos hunit,htake,hdrop]

lemma matchFraction_terminal (hrest:Terminal rest) : matchFraction rest=([],rest) := by
 rcases hrest.cases with rfl | ⟨r,rfl | rfl | rfl⟩ <;> rfl

lemma matchExponent_terminal (hrest:Terminal rest) : matchExponent rest=(false,[],rest) := by
 rcases hrest.cases with rfl | ⟨r,rfl | rfl | rfl⟩ <;> rfl

def integerText : JsString := (if n<0 then [0x2D] else [])++decimal n.natAbs

lemma integerText_head :
  ∃unit tail,integerText n=unit::tail ∧ (unit=0x2D ∨ isDigit unit=true) := by
 unfold integerText
 split_ifs with hneg
 · exact ⟨0x2D,decimal n.natAbs,rfl,.inl rfl⟩
 · obtain ⟨unit,tail,htext,hunit⟩:=decimal_head n.natAbs
   exact ⟨unit,tail,htext,.inr hunit⟩

lemma matchMinus_decimal (n:ℕ) (rest:JsString) :
  matchMinus (decimal n++rest)=(false,decimal n++rest) := by
 obtain ⟨unit,tail,htext,hunit⟩:=decimal_head n
 have hne:unit≠0x2D := by
  rintro rfl
  exact absurd hunit (by decide)
 rw [htext,cons_append,matchMinus,if_neg hne]

lemma matchMinus_integer (rest:JsString) :
  matchMinus (integerText n++rest)=(decide (n<0),decimal n.natAbs++rest) := by
 unfold integerText
 by_cases hneg : n<0
 · simp [hneg,matchMinus]
 · rw [if_neg hneg,nil_append,matchMinus_decimal,decide_eq_false hneg]

lemma value_integer : NumberToken.value ⟨decide (n<0),decimal n.natAbs,[],false,[]⟩=n := by
 have hdigits:digitsValue (decimal n.natAbs++[])=n.natAbs := by
  rw [append_nil,digitsValue_decimal]
 have habs:((n.natAbs : ℕ) : ℚ)=|(n:ℚ)| := by
  rw [← Int.cast_abs,Int.abs_eq_natAbs]
  rfl
 simp only [NumberToken.value,hdigits,habs]
 by_cases hneg : n<0
 · have hcast:(n:ℚ)<0 := by exact_mod_cast hneg
   simp [hneg,abs_of_neg hcast,digitsValue]
 · have hcast:0 ≤ (n:ℚ) := by exact_mod_cast not_lt.mp hneg
   simp [hneg,abs_of_nonneg hcast,digitsValue]

lemma numeric_not_mem {unit:UInt16} (h:unit=0x2D ∨ isDigit unit=true) :
  unit ∉ ([0x20,0x0A,0x0D,0x09,0x5D,0x7D,0xFEFF,0x7B,0x5B,0x22,0x74,0x66,0x6E] :
   List UInt16) := by
 intro hmem
 rcases h with rfl | hdigit
 · revert hmem
   decide
 · have hall:([0x20,0x0A,0x0D,0x09,0x5D,0x7D,0xFEFF,0x7B,0x5B,0x22,0x74,0x66,
     0x6E] : List UInt16).all (fun c=>!isDigit c)=true := by decide
   have hno:=all_eq_true.mp hall unit hmem
   rw [hdigit] at hno
   cases hno

lemma parseScalar_integer {n:ℤ} (h:n.natAbs ≤ maxSafeInteger) (hrest:Terminal rest) :
  parseScalar (integerText n++rest)=.ok (.number (.finite n),rest) := by
 obtain ⟨unit,tail,htext,hunit⟩:=integerText_head n
 have hlit:∀letter word,letter∈[(0x74 : UInt16),0x66,0x6E] →
   (letter::word).isPrefixOf (integerText n++rest)=false := by
  intro letter word hletter
  have hne:letter≠unit := by
   rintro rfl
   refine numeric_not_mem hunit ?_
   simp only [mem_cons,not_mem_nil,or_false] at hletter ⊢
   tauto
  rw [htext,cons_append,isPrefixOf]
  simp [hne]
 have htrue:(js "true").isPrefixOf (integerText n++rest)=false :=
  hlit 0x74 _ (by simp)
 have hfalse:(js "false").isPrefixOf (integerText n++rest)=false :=
  hlit 0x66 _ (by simp)
 have hnull:(js "null").isPrefixOf (integerText n++rest)=false :=
  hlit 0x6E _ (by simp)
 rw [parseScalar,htrue,hfalse,hnull]
 simp only [Bool.false_eq_true,if_false,matchNumber,matchMinus_integer,
  matchInteger_decimal _ hrest,bind_eq_bind,Option.bind_some,Option.pure_def,
  matchFraction_terminal hrest,matchExponent_terminal hrest,value_integer,toDouble_int h]

end Numbers

section Values

inductive Plain : JsonValue → Prop where
 | null : Plain .null
 | bool (value:Bool) : Plain (.bool value)
 | number (n:ℤ) (h:n.natAbs ≤ maxSafeInteger) : Plain (.number (.finite n))
 | string (value:JsString) (h:unpairedSurrogate value=false) : Plain (.string value)
 | array (items:List JsonValue) (h:∀item∈items,Plain item) : Plain (.array items)
 | object (fields:Fields) (hkeys:(fields.map (·.1)).Nodup)
   (h:∀field∈fields,Plain field.2) : Plain (.object fields)

mutual

def rebuild (assign:Fields → JsString → JsonValue → Fields) : JsonValue → JsonValue
 | .array items => .array (rebuildItems assign items)
 | .object fields => .object (((rebuildFields assign fields).mergeSort fieldLe).foldl
   (fun built field=>assign built field.1 field.2) [])
 | value => value

def rebuildItems (assign:Fields → JsString → JsonValue → Fields) :
    List JsonValue → List JsonValue
 | [] => []
 | item::items => rebuild assign item::rebuildItems assign items

def rebuildFields (assign:Fields → JsString → JsonValue → Fields) : Fields → Fields
 | [] => []
 | field::fields => (field.1,rebuild assign field.2)::rebuildFields assign fields

end

variable {options:CanonicalizeOptions}

lemma rebuildItems_eq (items:List JsonValue) :
  rebuildItems assign items=items.map (rebuild assign) := by
 induction items with
 | nil => rfl
 | cons item items ih => rw [rebuildItems,ih,map_cons]

lemma rebuildFields_eq (fields:Fields) :
  rebuildFields assign fields=fields.map fun field=>(field.1,rebuild assign field.2) := by
 induction fields with
 | nil => rfl
 | cons field fields ih => rw [rebuildFields,ih,map_cons]

lemma walkFields_eq (fields:Fields) :
  walkFields shortest options fields =
   fields.map fun field=>(field.1,walk shortest options field.2) := by
 induction fields with
 | nil => rfl
 | cons field fields ih => rw [walkFields,ih,map_cons]

lemma mergeSort_fields {α β:Type} (f:α → β) (fields:List (JsString×α)) :
  (fields.map fun field=>(field.1,f field.2)).mergeSort fieldLe =
   (fields.mergeSort fieldLe).map fun field=>(field.1,f field.2) := by
 symm
 apply map_mergeSort
 intro _ _ _ _
 rfl

end Values

/-- No value starts with a space, with what closes a list or with a byte order mark. -/
def Opens : Prop :=
 ∃c r,text=c::r ∧ isSpace c=false ∧ c≠0x5D ∧ c≠0x7D ∧ c≠0xFEFF

lemma skipWhitespace_cons (h:isSpace c=false) (rest:JsString) :
  skipWhitespace (c::rest)=c::rest := by
 rw [skipWhitespace,dropWhile_cons,h]
 rfl

lemma skipWhitespace_opens {text:JsString} (h:Opens text) (rest:JsString) :
  skipWhitespace (text++rest)=text++rest := by
 obtain ⟨c,r,rfl,hspace,-⟩:=h
 exact skipWhitespace_cons hspace _

lemma skipWhitespace_terminal {rest:JsString} (h:Terminal rest) :
  skipWhitespace rest=rest := by
 rcases h.cases with rfl | ⟨r,rfl | rfl | rfl⟩ <;> rfl

lemma terminal_cons (h:c=0x2C ∨ c=0x5D ∨ c=0x7D) (rest:JsString) :
  Terminal (c::rest) := by
 intro d r heq
 cases heq
 exact h

lemma intercalate_cons (next:JsString) (texts:List JsString) :
  [0x2C].intercalate (text::next::texts) =
   text++0x2C::[0x2C].intercalate (next::texts) := by
 simp [intercalate]

section Reading

variable {fuel:ℕ}

/-- The reader turns this text into what it builds from the value, whatever follows. -/
def Reads (assign:Fields → JsString → JsonValue → Fields) (value:JsonValue)
    (text:JsString) : Prop :=
 Opens text ∧ ∀rest fuel,Terminal rest → text.length ≤ fuel →
  parseJsonValue assign fuel (text++rest)=.ok (rebuild assign value,rest)

variable {items:List JsonValue}

lemma parseItems_step {item:JsonValue} {text rest:JsString} (h:Reads assign item text)
  (hc:c=0x2C ∨ c=0x5D) (hfuel:text.length ≤ fuel) :
  parseItems assign (fuel+1) items (text++c::rest) =
   if c=0x2C then parseItems assign fuel (items++[rebuild assign item]) rest
   else .ok (.array (items++[rebuild assign item]),rest) := by
 have hterm:Terminal (c::rest):=terminal_cons (by tauto) rest
 obtain ⟨hopens,hparse⟩:=h
 have hne:text++c::rest≠[] := by simp
 rw [parseItems,if_neg hne,hparse _ _ hterm hfuel]
 rcases hc with rfl | rfl <;> rfl

lemma parseItems_texts {texts:List JsString} (h:List.Forall₂ (Reads assign) items texts)
  (hne:items≠[]) (built:List JsonValue) (rest:JsString)
  (hfuel:([0x2C].intercalate texts).length<fuel) :
  parseItems assign fuel built ([0x2C].intercalate texts++0x5D::rest) =
   .ok (.array (built++items.map (rebuild assign)),rest) := by
 induction h generalizing built fuel with
 | nil => exact absurd rfl hne
 | @cons item text items texts hitem htexts ih =>
   obtain ⟨fuel,rfl⟩ : ∃k,fuel=k+1:=⟨fuel - 1,by omega⟩
   cases htexts with
   | nil =>
     rw [intercalate_singleton] at hfuel ⊢
     rw [parseItems_step hitem (.inr rfl) (by omega),if_neg (by decide)]
     rfl
   | @cons next nextText items texts hnext htexts =>
     rw [intercalate_cons] at hfuel ⊢
     rw [length_append,length_cons] at hfuel
     rw [append_assoc,cons_append,parseItems_step hitem (.inl rfl) (by omega),
      if_pos rfl,ih (by simp) _ (by omega)]
     simp

def FieldReads (assign:Fields → JsString → JsonValue → Fields) (field:JsString×JsonValue)
    (part:JsString) : Prop :=
 ∃text,unpairedSurrogate field.1=false ∧ Reads assign field.2 text ∧
   part=quote field.1++[0x3A]++text

lemma opens_quote (value:JsString) : Opens (quote value) :=
 ⟨0x22,value.flatMap escapeUnit++[0x22],by simp [quote],by decide⟩

lemma Opens.append {text:JsString} (h:Opens text) (rest:JsString) : Opens (text++rest) := by
 obtain ⟨c,r,rfl,hc⟩:=h
 exact ⟨c,r++rest,rfl,hc⟩

lemma parseMembers_step {seen:List JsString} {built:Fields} {field:JsString×JsonValue}
  {part rest:JsString} (h:FieldReads assign field part) (hseen:field.1 ∉ seen)
  (hc:c=0x2C ∨ c=0x7D) (hfuel:part.length ≤ fuel) :
  parseMembers assign (fuel+1) seen built (part++c::rest) =
   if c=0x2C then
    parseMembers assign fuel (seen++[field.1])
     (assign built field.1 (rebuild assign field.2)) rest
   else .ok (.object (assign built field.1 (rebuild assign field.2)),rest) := by
 have hterm:Terminal (c::rest):=terminal_cons (by tauto) rest
 obtain ⟨text,hpair,⟨hopens,hparse⟩,rfl⟩:=h
 have htext:quote field.1++[0x3A]++text++c::rest =
   quote field.1++(0x3A::(text++c::rest)) := by simp
 have hlen:text.length ≤ fuel := by
  simp only [List.length_append] at hfuel
  omega
 have hcolon:isSpace 0x3A=false := by decide
 rw [htext,parseMembers,if_neg (by simp [quote]),skipWhitespace_opens (opens_quote field.1),
  parseJsonString_quote hpair]
 simp only [bind,Except.bind,if_neg hseen,skipWhitespace_cons hcolon,ne_eq,not_true_eq_false,
  if_false,
  hparse _ _ hterm hlen,skipWhitespace_terminal hterm]
 rcases hc with rfl | rfl <;> rfl

lemma parseMembers_texts {fields:Fields} {parts:List JsString}
  (h:List.Forall₂ (FieldReads assign) fields parts) (hne:fields≠[])
  (hkeys:(fields.map (·.1)).Nodup) (seen:List JsString)
  (hseen:∀field∈fields,field.1 ∉ seen) (built:Fields) (rest:JsString)
  (hfuel:([0x2C].intercalate parts).length<fuel) :
  parseMembers assign fuel seen built ([0x2C].intercalate parts++0x7D::rest) =
   .ok (.object ((fields.map fun field=>(field.1,rebuild assign field.2)).foldl
    (fun built field=>assign built field.1 field.2) built),rest) := by
 induction h generalizing seen built fuel with
 | nil => exact absurd rfl hne
 | @cons field part fields parts hfield hparts ih =>
   obtain ⟨fuel,rfl⟩ : ∃k,fuel=k+1:=⟨fuel - 1,by omega⟩
   have hfresh:field.1 ∉ seen:=hseen field mem_cons_self
   cases hparts with
   | nil =>
     rw [intercalate_singleton] at hfuel ⊢
     rw [parseMembers_step hfield hfresh (.inr rfl) (by omega),if_neg (by decide)]
     rfl
   | @cons next nextPart fields parts hnext hparts =>
     rw [map_cons,nodup_cons] at hkeys
     have hlater:∀other∈next::fields,other.1 ∉ seen++[field.1] := by
      intro other hother hmem
      rcases mem_append.mp hmem with hmem | hmem
      · exact hseen other (mem_cons_of_mem _ hother) hmem
      · rw [mem_singleton] at hmem
        exact hkeys.1 (hmem ▸ mem_map_of_mem hother)
     rw [intercalate_cons] at hfuel ⊢
     rw [length_append,length_cons] at hfuel
     rw [append_assoc,cons_append, parseMembers_step hfield hfresh (.inl rfl) (by omega),if_pos rfl,
      ih (by simp) hkeys.2 _ hlater _ (by omega)]
     rfl

lemma opens_intercalate {text:JsString} (h:Opens text) (texts:List JsString) :
  Opens ([0x2C].intercalate (text::texts)) := by
 cases texts with
 | nil => rwa [intercalate_singleton]
 | cons next texts =>
   rw [intercalate_cons]
   exact h.append _

lemma reads_array {texts:List JsString} (h:List.Forall₂ (Reads assign) items texts) :
  Reads assign (.array items) ([0x5B]++[0x2C].intercalate texts++[0x5D]) := by
 refine ⟨⟨_,_,rfl,by decide⟩,fun rest fuel hrest hfuel=>?_⟩
 rw [length_append,length_append,length_singleton,length_singleton] at hfuel
 obtain ⟨fuel,rfl⟩ : ∃k,fuel=k+1:=⟨fuel - 1,by omega⟩
 have htext:[0x5B]++[0x2C].intercalate texts++[0x5D]++rest =
   0x5B::([0x2C].intercalate texts++0x5D::rest) := by simp
 rw [htext,parseJsonValue,skipWhitespace_cons (by decide)]
 simp only [rebuild,rebuildItems_eq]
 cases h with
 | nil => rfl
 | @cons item text items texts hitem htexts =>
   have hlen:([0x2C].intercalate (text::texts)).length<fuel := by omega
   have hparse:=parseItems_texts (.cons hitem htexts) (by simp) [] rest hlen
   obtain ⟨c,r,htail,hspace,hclose,-⟩:=opens_intercalate hitem.1 texts
   rw [htail,cons_append] at hparse ⊢
   rw [skipWhitespace_cons hspace]
   simp only [if_neg hclose]
   exact hparse

lemma reads_object {fields:Fields} {parts:List JsString} (hkeys:(fields.map (·.1)).Nodup)
  (h:List.Forall₂ (FieldReads assign) (fields.mergeSort fieldLe) parts) :
  Reads assign (.object fields) ([0x7B]++[0x2C].intercalate parts++[0x7D]) := by
 refine ⟨⟨_,_,rfl,by decide⟩,fun rest fuel hrest hfuel=>?_⟩
 rw [length_append,length_append,length_singleton,length_singleton] at hfuel
 obtain ⟨fuel,rfl⟩ : ∃k,fuel=k+1:=⟨fuel - 1,by omega⟩
 have htext:[0x7B]++[0x2C].intercalate parts++[0x7D]++rest =
   0x7B::([0x2C].intercalate parts++0x7D::rest) := by simp
 have hsort:((fields.mergeSort fieldLe).map (·.1)).Nodup :=
  ((fields.mergeSort_perm fieldLe).map _).nodup_iff.mpr hkeys
 rw [htext,parseJsonValue,skipWhitespace_cons (by decide)]
 simp only [rebuild,rebuildFields_eq,mergeSort_fields]
 generalize fields.mergeSort fieldLe=sorted at h hsort
 cases h with
 | nil => rfl
 | @cons field part sorted parts hfield hparts =>
   have hlen:([0x2C].intercalate (part::parts)).length<fuel := by omega
   have hparse:=parseMembers_texts (.cons hfield hparts) (by simp) hsort []
    (fun _ _ h=>by cases h) [] rest hlen
   have hopens:Opens part := by
    obtain ⟨text,-,-,rfl⟩:=hfield
    exact ((opens_quote _).append _).append _
   obtain ⟨c,r,htail,hspace,-,hclose,-⟩:=opens_intercalate hopens parts
   rw [htail,cons_append] at hparse ⊢
   rw [skipWhitespace_cons hspace]
   simp only [if_neg hclose]
   exact hparse

lemma reads_string {value:JsString} (h:unpairedSurrogate value=false) :
  Reads assign (.string value) (quote value) := by
 refine ⟨opens_quote value,fun rest fuel _ hfuel=>?_⟩
 cases fuel with
 | zero => simp [quote] at hfuel
 | succ fuel =>
   have htext:quote value++rest=0x22::(value.flatMap escapeUnit++[0x22]++rest) := by
    simp [quote]
   have hparse:=parseJsonString_quote h rest
   rw [htext] at hparse ⊢
   rw [parseJsonValue,skipWhitespace_cons (by decide)]
   simp only [hparse]
   rfl

lemma reads_scalar {value:JsonValue} {tail:JsString}
  (hopens:isSpace c=false ∧ c≠0x5D ∧ c≠0x7D ∧ c≠0xFEFF) (hobj:c≠0x7B)
  (harray:c≠0x5B) (hquote:c≠0x22) (hrebuild:rebuild assign value=value)
  (h:∀rest,Terminal rest → parseScalar (c::tail++rest)=.ok (value,rest)) :
  Reads assign value (c::tail) := by
 refine ⟨⟨c,tail,rfl,hopens⟩,fun rest fuel hrest hfuel=>?_⟩
 rw [length_cons] at hfuel
 obtain ⟨fuel,rfl⟩ : ∃k,fuel=k+1:=⟨fuel - 1,by omega⟩
 rw [cons_append,parseJsonValue,skipWhitespace_cons hopens.1]
 simp only [if_neg hobj,if_neg harray,if_neg hquote,hrebuild]
 exact h rest hrest

end Reading

end EpistemicCompiler.CanonicalReading
