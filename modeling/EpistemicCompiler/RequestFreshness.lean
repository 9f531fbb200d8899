import Mathlib.Data.List.Find
import EpistemicCompiler.FallibleRuns
import EpistemicCompiler.SignedRequests

set_option autoImplicit false

/-!
# Freshness of signed requests

The signature check compares the clock with the time of creation only, and the cache forgets a nonce
when its request expires. So a request with a short life is accepted after its expiry, and its nonce
is reserved again.
-/
namespace EpistemicCompiler.RequestFreshness
open JsValues CanonicalJson SignedRequests ExpiringRegister FallibleRuns List Option Bool

variable {κ:Type} {services:RequestServices κ}

lemma present_ok_iff {α:Type} {reason:VerifyReason} {value:Option α} {result:α} :
  present reason value=.ok result ↔ value=some result := by
 cases value <;> simp [present]

lemma demand_ok_iff {reason:VerifyReason} {condition:Bool} :
  demand reason condition=.ok () ↔ condition=true := by
 cases condition <;> simp [demand]

lemma finiteValue_eq_some_iff {number:JsNumber} {value:ℚ} :
  finiteValue number=some value ↔ number=.finite value := by
 cases number <;> simp [finiteValue]

structure Verified (services:RequestServices κ) (input:VerifyMutationInput κ)
  (params:SignatureParams) (created expires:ℤ) : Prop where
 keyid : params.keyid=input.expectedKeyId
 nonce : isNonce params.nonce=true
 created_eq : params.created=.finite created
 expires_eq : params.expires=.finite expires
 skew : |created - input.nowSeconds| ≤ 30
 lifetime : expires - created ≤ 120
 later : created<expires

lemma verified_of_ok {input:VerifyMutationInput κ} {params:SignatureParams}
  (h:verifyMutation services input=.ok params) :
  ∃created expires,Verified services input params created expires := by
 simp only [verifyMutation,bind_ok_iff,Unique.exists_iff,PUnit.default_eq_unit,present_ok_iff,
  demand_ok_iff,decide_eq_true_eq,finiteValue_eq_some_iff,checkTimes,and_eq_true] at h
 obtain ⟨-,-,-,-,found,-,-,-,hkeyid,-,-,-,hnonce,-,-,-,-,issued,-,expiresAt,-,
  created,hcreated,expires,hexpires,⟨hskew,⟨hlifetime,hlater⟩,hissued,hexpiresAt⟩,-,-,-,
  hparam⟩ := h
 obtain rfl : found=params:=Except.ok.inj hparam
 subst hissued hexpiresAt
 refine ⟨issued,expiresAt,hkeyid,hnonce,hcreated,hexpires,?_,?_,?_⟩
 · unfold maxCreatedSkewSeconds at hskew
   exact_mod_cast hskew
 · unfold maxLifetimeSeconds at hlifetime
   exact_mod_cast hlifetime
 · exact_mod_cast hlater

section Arrivals

structure SignedArrival (κ:Type) where
 arrival : Arrival κ
 principalId : JsString
 params : SignatureParams
 expires : ℚ

def signedArrival (services:RequestServices κ) (arrival:Arrival κ) :
    Option (SignedArrival κ) :=
 if arrival.isRead then none
 else do
  let principalId ← arrival.principalId
  let key ← arrival.key
  let params ← (arrival.verified services principalId key).toOption
  pure ⟨arrival,principalId,params,(finiteValue params.expires).getD 0⟩

def SignedArrival.identity (signed:SignedArrival κ) : JsString×JsString×JsString :=
 (signed.principalId,signed.params.keyid,signed.params.nonce)

def SignedArrival.visit (signed:SignedArrival κ) : Visit JsString JsString :=
 nonceVisit signed.arrival signed.principalId signed.params signed.expires

variable {arrival:Arrival κ} {signed:SignedArrival κ}

lemma signedArrival_eq_some_iff :
  signedArrival services arrival=some signed ↔ arrival.isRead=false ∧
   ∃principalId key params,arrival.principalId=some principalId ∧ arrival.key=some key ∧
     arrival.verified services principalId key=.ok params ∧
     signed=⟨arrival,principalId,params,(finiteValue params.expires).getD 0⟩ := by
 unfold signedArrival
 cases arrival.isRead with
 | true => simp
 | false =>
   cases arrival.principalId with
   | none => simp
   | some principalId =>
     cases arrival.key with
     | none => simp
     | some key =>
       cases hverified : arrival.verified services principalId key with
       | error => simp [hverified,Except.toOption]
       | ok params => simp [hverified,Except.toOption,eq_comm]

structure Regular (signed:SignedArrival κ) : Prop where
 keyid : signed.params.keyid=signed.principalId
 nonce : signed.params.nonce.length=43
 whole : ∃expires : ℤ,signed.expires=expires ∧ signed.params.expires=.finite signed.expires

lemma regular_of_signedArrival (h:signedArrival services arrival=some signed) :
  Regular signed := by
 obtain ⟨-,principalId,key,params,-,-,hverified,rfl⟩:=signedArrival_eq_some_iff.mp h
 obtain ⟨created,expires,hfacts⟩:=verified_of_ok hverified
 have hnonce:=hfacts.nonce
 simp only [isNonce,and_eq_true,decide_eq_true_eq] at hnonce
 have hvalue:(finiteValue params.expires).getD 0=expires := by
  rw [hfacts.expires_eq]
  rfl
 exact ⟨hfacts.keyid,hnonce.1,expires,hvalue,hfacts.expires_eq.trans (by rw [hvalue])⟩

lemma Regular.visit_expires (h:Regular signed) :
  (signed.visit.entry.expires : ℚ)=signed.expires*1000 := by
 obtain ⟨expires,hexpires,-⟩:=h.whole
 have hfloor:(signed.expires*1000).floor=expires*1000 := by
  rw [hexpires,← Int.cast_ofNat,← Int.cast_mul]
  exact Rat.floor_intCast _
 rw [SignedArrival.visit,nonceVisit,hfloor,hexpires]
 push_cast
 rfl

lemma visit_key_eq_iff {other:SignedArrival κ} (h:Regular signed) (h':Regular other) :
  signed.visit.key=other.visit.key ↔ signed.identity=other.identity := by
 constructor
 · intro hkey
   simp only [SignedArrival.visit,nonceVisit,nonceKey,h.keyid,h'.keyid,append_assoc] at hkey
   have hlen:=congrArg length hkey
   simp only [length_append,length_cons,length_nil,h.nonce,h'.nonce] at hlen
   have hprincipal:signed.principalId.length=other.principalId.length := by omega
   obtain ⟨hsame,hrest⟩:=append_inj hkey hprincipal
   obtain ⟨-,hrest⟩:=append_inj hrest rfl
   obtain ⟨-,hrest⟩:=append_inj hrest hprincipal
   obtain ⟨-,hnonce⟩:=append_inj hrest rfl
   rw [SignedArrival.identity,SignedArrival.identity,h.keyid,h'.keyid,hsame,hnonce]
 · intro hpair
   obtain ⟨hprincipal,hrest⟩:=Prod.mk.inj hpair
   obtain ⟨hkeyid,hnonce⟩:=Prod.mk.inj hrest
   rw [SignedArrival.visit,SignedArrival.visit,nonceVisit,nonceVisit,hprincipal,hkeyid, hnonce]

end Arrivals

def handledSigned : NonceCache → List (SignedArrival κ) → List (SignedArrival κ×Answer)
 | _, [] => []
 | cache, signed::rest =>
   (signed,(reserve cache signed.visit).1)::handledSigned (reserve cache signed.visit).2 rest

def acceptedPart : Arrival κ×Handled → Option (Arrival κ×SignatureParams×Answer)
 | (arrival,.accepted params answer) => some (arrival,params,answer)
 | _ => none

def signedPart (pair:SignedArrival κ×Answer) : Option (Arrival κ×SignatureParams×Answer) :=
 if pair.2=.conflict then none else some (pair.1.arrival,pair.1.params,pair.2)

lemma mem_acceptedPart_iff {results:List (Arrival κ×Handled)} {arrival:Arrival κ}
  {params:SignatureParams} {answer:Answer} :
  (arrival,params,answer)∈results.filterMap acceptedPart ↔
   (arrival,Handled.accepted params answer)∈results := by
 rw [mem_filterMap]
 constructor
 · rintro ⟨⟨other,handled⟩,hmem,hpart⟩
   cases handled with
   | unsigned => cases hpart
   | unauthenticated => cases hpart
   | accepted params answer =>
     cases hpart
     exact hmem
 · exact fun h=>⟨_,h,rfl⟩

lemma handle_eq (services:RequestServices κ) (cache:NonceCache) (arrival:Arrival κ) :
  (acceptedPart (arrival,(verifyMutationOrThrow services cache arrival).1) =
   (signedArrival services arrival).bind fun signed=>
    signedPart (signed,(reserve cache signed.visit).1)) ∧
  (verifyMutationOrThrow services cache arrival).2 =
   ((signedArrival services arrival).map fun signed=>
     (reserve cache signed.visit).2).getD cache := by
 unfold verifyMutationOrThrow signedArrival
 cases arrival.isRead with
 | true => exact ⟨rfl,rfl⟩
 | false =>
   cases hprincipal : arrival.principalId with
   | none => cases arrival.bootstrap <;> exact ⟨rfl,rfl⟩
   | some principalId =>
     cases hkey : arrival.key with
     | none => exact ⟨rfl,rfl⟩
     | some key =>
       cases hverified : arrival.verified services principalId key with
       | error reason => simp [acceptedPart,hverified,Except.toOption]
       | ok params =>
         simp only [Bool.false_eq_true,if_false,hverified,Except.toOption,Option.bind_eq_bind,
          Option.bind_some,Option.pure_def,Option.map_some,Option.getD_some,
          SignedArrival.visit]
         refine ⟨?_,trivial⟩
         by_cases hconflict : (reserve cache (nonceVisit arrival principalId params
           ((finiteValue params.expires).getD 0))).1=.conflict
         · rw [if_pos hconflict]
           exact (if_pos hconflict).symm
         · rw [if_neg hconflict]
           exact (if_neg hconflict).symm

lemma accepted_eq (cache:NonceCache) (arrivals:List (Arrival κ)) :
  (handleAll services cache arrivals).filterMap acceptedPart =
   (handledSigned cache (arrivals.filterMap (signedArrival services))).filterMap signedPart := by
 induction arrivals generalizing cache with
 | nil => rfl
 | cons arrival arrivals ih =>
   obtain ⟨haccept,hcache⟩:=handle_eq services cache arrival
   rw [handleAll,hcache]
   cases hsign : signedArrival services arrival with
   | none =>
     rw [hsign] at haccept
     rw [filterMap_cons_none haccept,filterMap_cons_none hsign]
     exact ih cache
   | some signed =>
     rw [hsign] at haccept
     rw [filterMap_cons,haccept,filterMap_cons_some hsign,handledSigned,
      filterMap_cons,bind_some,map_some,getD_some,ih]

lemma answers_eq (cache:NonceCache) (signed:List (SignedArrival κ)) :
  answers cache (signed.map SignedArrival.visit) =
   (handledSigned cache signed).map fun pair=>(pair.1.visit,pair.2) := by
 induction signed generalizing cache with
 | nil => rfl
 | cons first signed ih =>
   rw [map_cons,answers,ih]
   rfl

lemma mem_handledSigned_iff {signed:List (SignedArrival κ)} {item:SignedArrival κ}
  {answer:Answer} :
  (item,answer)∈handledSigned empty signed ↔ ∃front back,signed=front++item::back ∧
   answer=(reserve (after empty (front.map SignedArrival.visit)) item.visit).1 := by
 have hrest:∀cache,(item,answer)∈handledSigned cache signed ↔
   ∃front back,signed=front++item::back ∧
     answer=(reserve (after cache (front.map SignedArrival.visit)) item.visit).1 := by
  induction signed with
  | nil =>
    intro cache
    refine iff_of_false not_mem_nil ?_
    rintro ⟨front,back,h,-⟩
    exact append_ne_nil_of_right_ne_nil _ (cons_ne_nil _ _) h.symm
  | cons first signed ih =>
    intro cache
    rw [handledSigned,mem_cons,ih]
    constructor
    · rintro (hfirst | ⟨front,back,rfl,hanswer⟩)
      · obtain ⟨rfl,rfl⟩:=Prod.mk.inj hfirst
        exact ⟨[],signed,rfl,rfl⟩
      · exact ⟨first::front,back,rfl,hanswer⟩
    · rintro ⟨front,back,hsplit,hanswer⟩
      cases front with
      | nil =>
        obtain ⟨hfirst,-⟩:=cons.inj hsplit
        refine .inl (Prod.ext hfirst.symm ?_)
        rw [hanswer,hfirst]
        rfl
      | cons head front =>
        obtain ⟨rfl,rfl⟩:=cons.inj hsplit
        exact .inr ⟨front,back,rfl,hanswer⟩
 exact hrest empty

section Freshness

def InTime (results:List (Arrival κ×Handled)) : Prop :=
 ∀arrival params answer,(arrival,Handled.accepted params answer)∈results →
   ∀expires,params.expires=.finite expires → (arrival.clockMs : ℚ) ≤ expires*1000

def reservedNonces (results:List (Arrival κ×Handled)) :
    List (Option JsString×JsString×JsString) :=
 (results.filterMap acceptedPart).filterMap fun part=>
  if part.2.2=.reserved then
   some (part.1.principalId,part.2.1.keyid,part.2.1.nonce)
  else none

/-- Of the requests with good signatures, the first one with its nonce comes before it expires. A
later one comes before the first one expires, and before it expires itself if it is about the same
operation. -/
def Timely (signed:List (SignedArrival κ)) : Prop :=
 ∀front item back,signed=front++item::back →
   match front.find? (·.identity=item.identity) with
   | none => (item.arrival.clockMs : ℚ) ≤ item.expires*1000
   | some first => (item.arrival.cacheMs : ℚ)<first.expires*1000 ∧
     (item.arrival.operationId=first.arrival.operationId →
      (item.arrival.clockMs : ℚ) ≤ item.expires*1000)

variable {signed:List (SignedArrival κ)}
 {front:List (SignedArrival κ)} {item:SignedArrival κ}

lemma regular_of_split {back:List (SignedArrival κ)} (hreg:∀item∈signed,Regular item)
  (hsplit:signed=front++item::back) : (∀other∈front,Regular other) ∧ Regular item := by
 rw [hsplit] at hreg
 exact ⟨fun other hother=>hreg other (mem_append_left _ hother),
  hreg item (mem_append_right _ mem_cons_self)⟩

lemma split_visits {back:List (SignedArrival κ)} (hsplit:signed=front++item::back) :
  signed.map SignedArrival.visit=front.map SignedArrival.visit ++
   item.visit::back.map SignedArrival.visit := by
 rw [hsplit,map_append,map_cons]

lemma visits_ordered (services:RequestServices κ) {arrivals:List (Arrival κ)}
  (horder:arrivals.Pairwise fun a b=>a.cacheMs ≤ b.cacheMs) :
  ((arrivals.filterMap (signedArrival services)).map SignedArrival.visit).Pairwise
    fun a b=>a.time ≤ b.time := by
 rw [pairwise_map,pairwise_filterMap]
 refine horder.imp fun {a b} hle itemA hA itemB hB=>?_
 obtain ⟨-,_,_,_,-,-,-,rfl⟩:=signedArrival_eq_some_iff.mp hA
 obtain ⟨-,_,_,_,-,-,-,rfl⟩:=signedArrival_eq_some_iff.mp hB
 exact hle

lemma find_visit (hfront:∀other∈front,Regular other) (hitem:Regular item) :
  (front.map SignedArrival.visit).find? (·.key=item.visit.key) =
   (front.find? (·.identity=item.identity)).map SignedArrival.visit := by
 rw [find?_map]
 congr 1
 refine find?_congr fun other hother=>?_
 simp only [Function.comp_apply,decide_eq_decide]
 exact visit_key_eq_iff (hfront other hother) hitem

lemma lasting_iff (hreg:∀item∈signed,Regular item) :
  Lasting (signed.map SignedArrival.visit) ↔
   ∀front item back,signed=front++item::back →
     ∀first,front.find? (·.identity=item.identity)=some first →
       (item.arrival.cacheMs : ℚ)<first.expires*1000 := by
 have hsplits:∀{front back:List (SignedArrival κ)} {item first:SignedArrival κ},
   signed=front++item::back → front.find? (·.identity=item.identity)=some first →
   (front.map SignedArrival.visit).find? (·.key=item.visit.key)=some first.visit ∧
    ((item.visit.time<first.visit.entry.expires) ↔
      (item.arrival.cacheMs : ℚ)<first.expires*1000) := by
  intro front back item first hsplit hfirst
  obtain ⟨hfront,hitem⟩:=regular_of_split hreg hsplit
  rw [find_visit hfront hitem,hfirst]
  refine ⟨rfl,?_⟩
  rw [← (hfront first (mem_of_find?_eq_some hfirst)).visit_expires]
  exact Int.cast_lt.symm
 constructor
 · intro h front item back hsplit first hfirst
   obtain ⟨hvisit,htimes⟩:=hsplits hsplit hfirst
   exact htimes.mp (h _ _ _ (split_visits hsplit) _ hvisit)
 · intro h front visit back hsplit first hfirst
   obtain ⟨front,rest,rfl,rfl,hrest⟩:=map_eq_append_iff.mp hsplit
   obtain ⟨item,back,rfl,rfl,rfl⟩:=map_eq_cons_iff.mp hrest
   obtain ⟨hfront,hitem⟩:=regular_of_split hreg rfl
   rw [find_visit hfront hitem,map_eq_some_iff] at hfirst
   obtain ⟨first,hfirst,rfl⟩:=hfirst
   exact (hsplits rfl hfirst).2.mpr (h _ _ _ rfl _ hfirst)

def reservedSigned (signed:List (SignedArrival κ)) : List (SignedArrival κ) :=
 ((handledSigned empty signed).filter fun pair=>pair.2=.reserved).map (·.1)

lemma reservations_eq :
  reservations (signed.map SignedArrival.visit) =
   (reservedSigned signed).map SignedArrival.visit := by
 rw [reservations,answers_eq,List.filter_map,List.map_map,reservedSigned,List.map_map]
 rfl

lemma mem_of_mem_reservedSigned (h:item∈reservedSigned signed) : item∈signed := by
 obtain ⟨⟨item,answer⟩,hpair,rfl⟩:=mem_map.mp h
 obtain ⟨front,back,hsplit,-⟩:=mem_handledSigned_iff.mp (mem_filter.mp hpair).1
 rw [hsplit]
 exact mem_append_right _ mem_cons_self

lemma reservedNonces_eq (arrivals:List (Arrival κ)) :
  reservedNonces (handleAll services empty arrivals) =
   (reservedSigned (arrivals.filterMap (signedArrival services))).map fun item=>
    (item.arrival.principalId,item.params.keyid,item.params.nonce) := by
 rw [reservedNonces,accepted_eq,List.filterMap_filterMap,reservedSigned,List.map_map,
  ← filterMap_eq_map,filterMap_filter]
 congr 1
 funext pair
 obtain ⟨item,answer⟩:=pair
 cases answer <;> rfl

lemma principalId_of_signedArrival {arrival:Arrival κ}
  (h:signedArrival services arrival=some item) :
  item.arrival.principalId=some item.principalId := by
 obtain ⟨-,principalId,key,params,hprincipal,-,-,rfl⟩:=signedArrival_eq_some_iff.mp h
 exact hprincipal

lemma reservedNonces_nodup_iff {arrivals:List (Arrival κ)}
  (horder:arrivals.Pairwise fun a b=>a.cacheMs ≤ b.cacheMs) :
  (reservedNonces (handleAll services empty arrivals)).Nodup ↔
   Lasting ((arrivals.filterMap (signedArrival services)).map SignedArrival.visit) := by
 rw [← reservations_pairwise_iff (visits_ordered services horder),reservations_eq,reservedNonces_eq,
  List.Nodup,pairwise_map,pairwise_map]
 refine List.Pairwise.iff_of_mem fun {a b} ha hb=>not_congr ?_
 obtain ⟨arrivalA,-,hA⟩:=mem_filterMap.mp (mem_of_mem_reservedSigned ha)
 obtain ⟨arrivalB,-,hB⟩:=mem_filterMap.mp (mem_of_mem_reservedSigned hb)
 rw [visit_key_eq_iff (regular_of_signedArrival hA) (regular_of_signedArrival hB),
  principalId_of_signedArrival hA,principalId_of_signedArrival hB]
 simp only [SignedArrival.identity,Prod.mk.injEq,some.injEq]

lemma inTime_iff (arrivals:List (Arrival κ)) :
  InTime (handleAll services empty arrivals) ↔
   ∀pair∈handledSigned empty (arrivals.filterMap (signedArrival services)),
     pair.2≠.conflict → (pair.1.arrival.clockMs : ℚ) ≤ pair.1.expires*1000 := by
 have hreg:∀pair∈handledSigned empty (arrivals.filterMap (signedArrival services)),
   Regular pair.1 := by
  rintro ⟨item,answer⟩ hpair
  obtain ⟨front,back,hsplit,-⟩:=mem_handledSigned_iff.mp hpair
  have hmem:item∈arrivals.filterMap (signedArrival services) := by
   rw [hsplit]
   exact mem_append_right _ mem_cons_self
  obtain ⟨arrival,-,hsign⟩:=mem_filterMap.mp hmem
  exact regular_of_signedArrival hsign
 constructor
 · intro h pair hpair hanswer
   obtain ⟨-,-,hexpires⟩:=(hreg pair hpair).whole
   have haccept:(pair.1.arrival,pair.1.params,pair.2) ∈
     (handleAll services empty arrivals).filterMap acceptedPart := by
    rw [accepted_eq]
    exact mem_filterMap.mpr ⟨pair,hpair,if_neg hanswer⟩
   exact h _ _ _ (mem_acceptedPart_iff.mp haccept) _ hexpires
 · intro h arrival params answer haccept expires hexpires
   rw [← mem_acceptedPart_iff,accepted_eq] at haccept
   obtain ⟨pair,hpair,hpart⟩:=mem_filterMap.mp haccept
   obtain ⟨hanswer,hpart⟩:=ite_none_left_eq_some.mp hpart
   obtain ⟨rfl,rfl,rfl⟩ : pair.1.arrival=arrival ∧ pair.1.params=params ∧
     pair.2=answer := by simpa using hpart
   obtain ⟨-,-,hown⟩:=(hreg pair hpair).whole
   obtain rfl : pair.1.expires=expires:=JsNumber.finite.inj (hown.symm.trans hexpires)
   exact h pair hpair hanswer

/-- Nothing is accepted after its expiry and no nonce is reserved twice exactly when the requests
with good signatures come in time. -/
theorem accepted_fresh_iff (services:RequestServices κ) (arrivals:List (Arrival κ))
  (hordered:arrivals.Pairwise fun a b=>a.cacheMs ≤ b.cacheMs) :
  (InTime (handleAll services empty arrivals) ∧
   (reservedNonces (handleAll services empty arrivals)).Nodup) ↔
   Timely (arrivals.filterMap (signedArrival services)) := by
 have hregular:∀item∈arrivals.filterMap (signedArrival services),Regular item := by
  intro item hitem
  obtain ⟨arrival,-,hsigned⟩:=mem_filterMap.mp hitem
  exact regular_of_signedArrival hsigned
 have hvisits:=visits_ordered services hordered
 rw [reservedNonces_nodup_iff hordered,inTime_iff]
 -- The first request with its nonce is always reserved; what the cache says about a later one
 -- depends on the first as long as the visits last.
 constructor
 · rintro ⟨htime,hlasting⟩ front item back hsplit
   obtain ⟨hfront,hitem⟩:=regular_of_split hregular hsplit
   have hanswer:(reserve (after empty (front.map SignedArrival.visit)) item.visit).1≠.conflict →
     (item.arrival.clockMs : ℚ) ≤ item.expires*1000 :=
    htime (item,_) (mem_handledSigned_iff.mpr ⟨front,back,hsplit,rfl⟩)
   have hfind:=find_visit hfront hitem
   cases hfirst : front.find? (·.identity=item.identity) with
   | none =>
     rw [hfirst] at hfind
     exact hanswer (by rw [reserved_of_find_none hfind]; decide)
   | some first =>
     rw [hfirst] at hfind
     refine ⟨(lasting_iff hregular).mp hlasting front item back hsplit first hfirst,
      fun hsame=>hanswer ?_⟩
     have htag:first.visit.entry.tag=item.visit.entry.tag:=hsame.symm
     rw [hlasting.reserve_eq hvisits (split_visits hsplit) hfind,if_pos htag]
     decide
 · intro htimely
   have hlasting:=(lasting_iff hregular).mpr fun front item back hsplit first hfirst=>by
    have := htimely front item back hsplit
    rw [hfirst] at this
    exact this.1
   refine ⟨?_,hlasting⟩
   rintro ⟨item,answer⟩ hpair hanswer
   obtain ⟨front,back,hsplit,rfl⟩:=mem_handledSigned_iff.mp hpair
   obtain ⟨hfront,hitem⟩:=regular_of_split hregular hsplit
   have hfind:=find_visit hfront hitem
   have hitemTimely:=htimely front item back hsplit
   cases hfirst : front.find? (·.identity=item.identity) with
   | none =>
     rw [hfirst] at hitemTimely
     exact hitemTimely
   | some first =>
     rw [hfirst] at hfind hitemTimely
     refine hitemTimely.2 ?_
     rw [hlasting.reserve_eq hvisits (split_visits hsplit) hfind] at hanswer
     by_contra hdifferent
     exact hanswer (if_neg fun hsame=>hdifferent hsame.symm)

end Freshness

/-- Dates are counted in seconds, and a signature is the length of the text. -/
def sampleServices : RequestServices Unit where
 toUpperCase := id
 toLowerCase := id
 dateParse := fun text=>some (digitsValue text*1000)
 sha256 := fun bytes=>[UInt8.ofNat bytes.length]
 shortest := fun _=>[]
 verify := fun _ _ text signature=>signature=[UInt8.ofNat text.length]

def sampleNonce : JsString := List.replicate 43 0x41

def sampleHeaders (expires:JsString) : Headers :=
 [(js "host",js "localhost"),(js "content-digest",contentDigestSha256 sampleServices []),
   (js "content-type",js "application/json"),(js "content-length",js "0"),
   (js "operation-id",js "op"),(js "x-hec-issued-at",js "100"),(js "x-hec-expires-at",expires),
   (js "x-hec-nonce",sampleNonce)]

def sampleMessage (expires:JsString) : MutationMessage where
 method := js "POST"
 authority := js "localhost"
 targetUri := js "https://localhost/jobs"
 headers := sampleHeaders expires
 body := []

def sampleSignature (expires:JsString) : Headers :=
 match signMutation sampleServices (fun _ text=>[UInt8.ofNat text.length])
  ⟨sampleMessage expires,js "runner",.ed25519,.finite 100,.finite (digitsValue expires),
   sampleNonce⟩ with
 | some signed => [(js "signature-input",signed.signatureInput),(js "signature",signed.signature)]
 | none => []

def sampleArrival (expires:JsString) (time:ℤ) : Arrival Unit where
 isRead := false
 bootstrap := false
 method := js "POST"
 principalId := some (js "runner")
 key := some ()
 headers := (sampleHeaders expires++sampleSignature expires).map fun header=>
  (header.1,.one header.2)
 url := js "/jobs"
 rawBody := none
 clockMs := time
 cacheMs := time

def repeatedArrivals (expires:JsString) : List (Arrival Unit) :=
 [sampleArrival expires 120000,sampleArrival expires 121000]

theorem accepted_fresh_iff_sample :
  ((repeatedArrivals (js "160")).filterMap (signedArrival sampleServices)).length=2 ∧
   Timely ((repeatedArrivals (js "160")).filterMap (signedArrival sampleServices)) := by
 have hrun:((repeatedArrivals (js "160")).filterMap (signedArrival sampleServices)).length=2 ∧
   (∀part∈(handleAll sampleServices empty (repeatedArrivals (js "160"))).filterMap acceptedPart,
    part.2.1.expires=.finite 160 ∧ (part.1.clockMs:ℚ) ≤ 160*1000) ∧
   (reservedNonces (handleAll sampleServices empty (repeatedArrivals (js "160")))).Nodup := by
  decide +kernel
 obtain ⟨hlength,haccepted,hnonces⟩:=hrun
 refine ⟨hlength,(accepted_fresh_iff sampleServices _ (by decide)).mp ⟨?_,hnonces⟩⟩
 intro arrival params answer hmem expires hexpires
 obtain ⟨hsame,htime⟩:=haccepted _ (mem_acceptedPart_iff.mpr hmem)
 obtain rfl:=JsNumber.finite.inj (hsame.symm.trans hexpires)
 exact htime

/-- A request that has expired in second 101 is accepted in second 120, and its nonce is reserved
again when the same request comes in the next second. -/
theorem expired_request_replayed :
  ¬InTime (handleAll sampleServices empty (repeatedArrivals (js "101"))) ∧
   ¬(reservedNonces (handleAll sampleServices empty (repeatedArrivals (js "101")))).Nodup := by
 have hrun:(((handleAll sampleServices empty (repeatedArrivals (js "101"))).filterMap
    acceptedPart).any fun part=>part.2.1.expires=.finite 101 &&
     (101*1000 : ℚ)<part.1.clockMs)=true ∧
   ¬(reservedNonces (handleAll sampleServices empty (repeatedArrivals (js "101")))).Nodup := by
  decide +kernel
 refine ⟨fun h=>?_, hrun.2⟩
 obtain ⟨⟨arrival,params,answer⟩,hpart,hlate⟩:=any_eq_true.mp hrun.1
 rw [and_eq_true,decide_eq_true_eq,decide_eq_true_eq] at hlate
 exact absurd (h arrival params answer (mem_acceptedPart_iff.mp hpart) 101 hlate.1)
  (not_le.mpr hlate.2)

end EpistemicCompiler.RequestFreshness
