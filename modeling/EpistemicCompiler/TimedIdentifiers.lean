import EpistemicCompiler.EncodedOrders
import EpistemicCompiler.TextEncodings

set_option autoImplicit false

/-!
# Identifiers in the order of time

The text of a version 7 identifier is the hexadecimal text of sixteen bytes with four dashes in it.
The first six bytes are the time, so that the texts sort by it.
-/
namespace EpistemicCompiler.TimedIdentifiers
open List JsValues CanonicalJson TextEncodings EncodedOrders

def dash : UInt16 := 0x2D

def slices (hex:JsString) : List JsString :=
 [hex.take 8,(hex.drop 8).take 4,(hex.drop 12).take 4,(hex.drop 16).take 4,(hex.drop 20).take 12]

def dashed (hex:JsString) : JsString := [dash].intercalate (slices hex)

def uuidV7Pattern (body:JsString) : Bool :=
 let groups:=body.splitOn dash
 groups.map length=[8,4,4,4,12] && groups.all (·.all isHex) &&
  (groups.getD 2 []).head?=some 0x37 &&
  (js "89ab").any fun unit=>(groups.getD 3 []).head?=some unit

def parseUuidV7Bytes (body:JsString) : Option (List UInt8) :=
 if !uuidV7Pattern body then none
 else
  let hex:=body.filter (· != dash)
  let bytes:=fromHex hex
  if bytes.getD 6 0 >>> 4≠7 || bytes.getD 8 0 >>> 6≠2 then none
  else if dashed hex≠body then none
  else some bytes

def uuidV7Bytes (ms:ℕ) (rand:List UInt8) : List UInt8 :=
 [UInt8.ofNat (ms >>> 40),UInt8.ofNat (ms >>> 32),UInt8.ofNat (ms >>> 24),UInt8.ofNat (ms >>> 16),
  UInt8.ofNat (ms >>> 8),UInt8.ofNat ms,(rand.getD 0 0 &&& 0x0F) ||| 0x70,rand.getD 1 0,
  (rand.getD 2 0 &&& 0x3F) ||| 0x80]++(rand.drop 3).take 7

def uuidV7Body (nowMs:ℕ) (rand:List UInt8) : Except String JsString :=
 if rand.length<10 then .error "uuid v7 rand must be 10 bytes"
 else .ok (dashed (toHex (uuidV7Bytes nowMs rand)))

section

variable {bytes:List UInt8}

lemma hexDigit_plain : ∀n<16,isHex (hexDigit n)=true ∧ hexDigit n≠dash := by decide

lemma hex_plain : ∀unit∈toHex bytes,isHex unit=true ∧ unit≠dash := by
 intro unit hunit
 obtain ⟨byte,-,hunit⟩:=mem_flatMap.mp hunit
 have hbyte:=byte.toNat_lt
 rcases mem_pair.mp hunit with rfl | rfl
 · exact hexDigit_plain _ (by omega)
 · exact hexDigit_plain _ (by omega)

lemma mem_of_mem_slices {hex slice:JsString} {unit:UInt16} (hslice:slice∈slices hex)
  (h:unit∈slice) : unit∈hex := by
 simp only [slices,mem_cons,not_mem_nil,or_false] at hslice
 rcases hslice with rfl | rfl | rfl | rfl | rfl
 · exact mem_of_mem_take h
 all_goals exact mem_of_mem_drop (mem_of_mem_take h)

lemma splitOn_dashed : (dashed (toHex bytes)).splitOn dash=slices (toHex bytes) :=
 splitOn_intercalate dash
  (fun _ hslice hdash=>(hex_plain dash (mem_of_mem_slices hslice hdash)).2 rfl) (by simp [slices])

lemma filter_dashed (hlen:bytes.length=16) :
  (dashed (toHex bytes)).filter (· != dash)=toHex bytes := by
 have hkeep:∀slice∈slices (toHex bytes),slice.filter (· != dash)=slice:=fun slice hslice=>
  filter_eq_self.mpr fun unit hunit=>
   bne_iff_ne.mpr (hex_plain unit (mem_of_mem_slices hslice hunit)).2
 have hhex:(toHex bytes).length=32 := by simp [toHex,length_flatMap,hlen]
 calc (dashed (toHex bytes)).filter (· != dash)=(slices (toHex bytes)).flatten := by
       simp only [slices,forall_mem_cons] at hkeep
       simp [dashed,slices,intercalate,filter_append,hkeep]
  _ = (toHex bytes).take (8+(4+(4+(4+12)))) := by
       rw [take_add,take_add,take_add,take_add]
       simp [slices]
  _ = toHex bytes := take_of_length_le hhex.le

lemma uuidV7Pattern_dashed (hlen:bytes.length=16) (hversion:bytes.getD 6 0 >>> 4=7)
  (hvar:bytes.getD 8 0 >>> 6=2) : uuidV7Pattern (dashed (toHex bytes))=true := by
 have hdigit:∀n<16,n/4=2 → ((js "89ab").any fun unit=>some (hexDigit n)=some unit)=true := by
  decide
 have hall:(slices (toHex bytes)).all (·.all isHex)=true :=
  all_eq_true.mpr fun slice hslice=>all_eq_true.mpr fun unit hunit=>
   (hex_plain unit (mem_of_mem_slices hslice hunit)).1
 match bytes, hlen with
 | [_,_,_,_,_,_,seventh,_,ninth,_,_,_,_,_,_,_], _ =>
   replace hversion:seventh.toNat/16=7 := by
    simpa [Nat.shiftRight_eq_div_pow] using congrArg UInt8.toNat hversion
   replace hvar:ninth.toNat/64=2 := by
    simpa [Nat.shiftRight_eq_div_pow] using congrArg UInt8.toNat hvar
   have hninth:=ninth.toNat_lt
   rw [uuidV7Pattern,splitOn_dashed,hall]
   change (decide (some (hexDigit (seventh.toNat/16))=some 0x37) &&
    (js "89ab").any fun unit=>some (hexDigit (ninth.toNat/16))=some unit)=true
   rw [hversion,hdigit _ (by omega) (by omega)]
   rfl

lemma parseUuidV7Bytes_dashed (hlen:bytes.length=16) (hversion:bytes.getD 6 0 >>> 4=7)
  (hvar:bytes.getD 8 0 >>> 6=2) :
  parseUuidV7Bytes (dashed (toHex bytes))=some bytes := by
 simpa [parseUuidV7Bytes,filter_dashed hlen,uuidV7Pattern_dashed hlen hversion hvar,
  fromHex_toHex] using And.intro hversion hvar

end

section

def code : Option UInt8 → List ℕ
 | none => [dash.toNat]
 | some byte => (toHex [byte]).map UInt16.toNat

def rank : Option UInt8 → ℕ
 | none => 0
 | some byte => byte.toNat+1

def symbols (bytes:List UInt8) : List (Option UInt8) :=
 (bytes.take 4).map some++none::(((bytes.drop 4).take 2).map some++none ::
  (((bytes.drop 6).take 2).map some++none::(((bytes.drop 8).take 2).map some++none ::
   (bytes.drop 10).map some)))

lemma hexDigit_lt : ∀m<16,∀n<16,m<n → (hexDigit m).toNat<(hexDigit n).toNat := by decide

lemma dash_lt : ∀n<16,dash.toNat<(hexDigit n).toNat := by decide

lemma ranked_code : Ranked code rank := by
 refine ⟨fun symbol=>?_,fun a b h=>?_,fun a b h=>?_⟩
 · cases symbol <;> simp [code,toHex]
 · cases a <;> cases b
   · rfl
   · simp [rank] at h
   · simp [rank] at h
   · simpa [rank,UInt8.toNat_inj] using h
 · cases a with
   | none =>
     cases b with
     | none => exact absurd h (lt_irrefl _)
     | some b =>
       have hb:=b.toNat_lt
       exact below_head (dash_lt _ (by omega)) _ _
   | some a =>
     cases b with
     | none => exact absurd h (Nat.not_lt_zero _)
     | some b =>
       have ha:=a.toNat_lt
       have hb:=b.toNat_lt
       replace h:a.toNat<b.toNat:=Nat.lt_of_succ_lt_succ h
       by_cases hhigh : a.toNat/16=b.toNat/16
       · change Below [(hexDigit (a.toNat/16)).toNat,_] [_,_]
         rw [hhigh]
         exact (below_head (hexDigit_lt _ (by omega) _ (by omega) (by omega)) _ _).cons _
       · exact below_head (hexDigit_lt _ (by omega) _ (by omega) (by omega)) _ _

lemma text_eq {bytes:List UInt8} (hlen:bytes.length=16) :
  (dashed (toHex bytes)).map UInt16.toNat=(symbols bytes).flatMap code := by
 match bytes, hlen with
 | [_,_,_,_,_,_,_,_,_,_,_,_,_,_,_,_], _ => rfl

variable {ms later:ℕ} {rand other:List UInt8}

lemma length_uuidV7Bytes (h:10 ≤ rand.length) : (uuidV7Bytes ms rand).length=16 := by
 simp [uuidV7Bytes]
 omega

lemma version_stamp {byte:UInt8} : ((byte &&& 0x0F) ||| 0x70) >>> 4=7 := by
 rw [UInt8.shiftRight_or,UInt8.shiftRight_and]
 change (_ &&& 0) ||| (7 : UInt8)=7
 rw [UInt8.and_zero,UInt8.zero_or]

lemma variant_stamp {byte:UInt8} : ((byte &&& 0x3F) ||| 0x80) >>> 6=2 := by
 rw [UInt8.shiftRight_or,UInt8.shiftRight_and]
 change (_ &&& 0) ||| (2 : UInt8)=2
 rw [UInt8.and_zero,UInt8.zero_or]

lemma cons_lt_of {a b:ℕ} {s t:List ℕ} (hle:a ≤ b) (h:a=b → s<t) :
  a::s<b::t := by
 rcases hle.lt_or_eq with hlt | rfl
 · exact cons_lt_cons_iff.mpr (.inl hlt)
 · exact cons_lt_cons_iff.mpr (.inr ⟨rfl,h rfl⟩)

lemma symbols_lt (hlt:ms<later) (hlater:later<2 ^ 48) :
  (symbols (uuidV7Bytes ms rand)).map rank<(symbols (uuidV7Bytes later other)).map rank := by
 have hrank:∀n,rank (some (UInt8.ofNat n))=n % 256+1:=fun n=>by simp [rank]
 simp only [symbols,uuidV7Bytes,cons_append,nil_append,take_succ_cons,drop_succ_cons,map_cons,
  take_zero,drop_zero,map_nil,hrank,Nat.shiftRight_eq_div_pow]
 refine cons_lt_of (by omega) fun h₀=>cons_lt_of (by omega) fun h₁=>cons_lt_of (by omega) fun h₂=>
  cons_lt_of (by omega) fun h₃=>cons_lt_of le_rfl fun _=>cons_lt_of (by omega) fun h₄=>
   cons_lt_cons_iff.mpr (.inl ?_)
 omega

theorem uuid_v7_body (hms:ms<2 ^ 48) (hrand:10 ≤ rand.length) :
  ∃body bytes,uuidV7Body ms rand=.ok body ∧ parseUuidV7Bytes body=some bytes ∧
   ((bytes.take 6).foldl (fun n byte=>n*256+byte.toNat) 0=ms) ∧
   ∀later other,ms<later → later<2 ^ 48 → 10 ≤ other.length → ∃next,
    uuidV7Body later other=.ok next ∧ ∀kind,unitsLe (kind++next) (kind++body)=false := by
 refine ⟨_,uuidV7Bytes ms rand,if_neg (not_lt.mpr hrand),?_,?_,?_⟩
 · exact parseUuidV7Bytes_dashed (length_uuidV7Bytes hrand) version_stamp variant_stamp
 · simp [uuidV7Bytes,Nat.shiftRight_eq_div_pow]
   omega
 · intro later other hlt hlater hother
   refine ⟨_,if_neg (not_lt.mpr hother),fun kind=>?_⟩
   rw [← Bool.not_eq_true,unitsLe_iff,not_not,map_append,map_append,
    text_eq (length_uuidV7Bytes hrand),text_eq (length_uuidV7Bytes hother)]
   exact append_left_lt (ranked_code.lt_of_lt (symbols_lt hlt hlater))

theorem uuid_v7_body_sample : ∃body bytes,uuidV7Body 1 (replicate 10 0)=.ok body ∧
  parseUuidV7Bytes body=some bytes ∧
  ∃next,uuidV7Body 2 (replicate 10 0)=.ok next ∧ unitsLe next body=false := by
 obtain ⟨body,bytes,hbody,hbytes,-,hlater⟩:=@uuid_v7_body 1 (replicate 10 0) (by decide) (by decide)
 obtain ⟨next,hnext,hlt⟩:=hlater 2 (replicate 10 0) (by decide) (by decide) (by decide)
 exact ⟨body,bytes,hbody,hbytes,next,hnext,hlt []⟩

end

end EpistemicCompiler.TimedIdentifiers
