import EpistemicCompiler.CanonicalReading
import EpistemicCompiler.FallibleRuns

set_option autoImplicit false

/-!
# The canonical round trip

What the reader builds from a canonical text depends only on the assignment of a parsed field. With
one that keeps every field the text determines the value up to the order of keys; with the one of
JavaScript the field `__proto__` is lost.
-/
namespace EpistemicCompiler.CanonicalRoundTrip
open JsValues CanonicalJson CanonicalReading FallibleRuns List

variable {assign:Fields → JsString → JsonValue → Fields} {shortest:ℚ → JsString}
 {value:JsonValue}

variable (fields:Fields) {key text:JsString}

mutual

def sortKeys : JsonValue → JsonValue
 | .array items => .array (sortKeysItems items)
 | .object fields => .object ((sortKeysFields fields).mergeSort fieldLe)
 | value => value

def sortKeysItems : List JsonValue → List JsonValue
 | [] => []
 | item::items => sortKeys item::sortKeysItems items

def sortKeysFields : Fields → Fields
 | [] => []
 | field::fields => (field.1,sortKeys field.2)::sortKeysFields fields

end

mutual

def allKeys : JsonValue → List JsString
 | .array items => allKeysItems items
 | .object fields => allKeysFields fields
 | _ => []

def allKeysItems : List JsonValue → List JsString
 | [] => []
 | item::items => allKeys item++allKeysItems items

def allKeysFields : Fields → List JsString
 | [] => []
 | field::fields => field.1::allKeys field.2++allKeysFields fields

end

lemma sortKeysItems_eq (items:List JsonValue) : sortKeysItems items=items.map sortKeys := by
 induction items with
 | nil => rfl
 | cons item items ih => rw [sortKeysItems,ih,map_cons]

lemma sortKeysFields_eq :
  sortKeysFields fields=fields.map fun field=>(field.1,sortKeys field.2) := by
 induction fields with
 | nil => rfl
 | cons field fields ih => rw [sortKeysFields,ih,map_cons]

lemma mem_allKeys_array {items:List JsonValue} :
  key∈allKeys (.array items) ↔ ∃item∈items,key∈allKeys item := by
 rw [allKeys]
 induction items with
 | nil => simp [allKeysItems]
 | cons item items ih => simp [allKeysItems,ih]

lemma mem_allKeys_object {fields:Fields} :
  key∈allKeys (.object fields) ↔ ∃field∈fields,key=field.1 ∨ key∈allKeys field.2 := by
 rw [allKeys]
 induction fields with
 | nil => simp [allKeysFields]
 | cons field fields ih => simp [allKeysFields,ih,or_assoc]

lemma mem_allKeys_sortKeys {value:JsonValue} (h:Plain value) :
  key∈allKeys (sortKeys value) ↔ key∈allKeys value := by
 induction h with
 | null | bool | number | string => exact Iff.rfl
 | array items _ ih =>
   rw [sortKeys,sortKeysItems_eq,mem_allKeys_array,mem_allKeys_array]
   simp only [mem_map,exists_exists_and_eq_and]
   exact exists_congr fun item=>and_congr_right fun hitem=>ih item hitem
 | object fields _ _ ih =>
   rw [sortKeys,sortKeysFields_eq,mem_allKeys_object,mem_allKeys_object]
   simp only [mem_mergeSort,mem_map,exists_exists_and_eq_and]
   exact exists_congr fun field=>and_congr_right fun hfield=>or_congr_right (ih field hfield)

lemma sortKeys_sortKeys {value:JsonValue} (h:Plain value) :
  sortKeys (sortKeys value)=sortKeys value := by
 induction h with
 | null | bool | number | string => rfl
 | array items _ ih =>
   rw [sortKeys,sortKeys,sortKeysItems_eq,sortKeysItems_eq,map_map]
   exact congrArg JsonValue.array (map_congr_left ih)
 | object fields _ _ ih =>
   rw [sortKeys,sortKeys,sortKeysFields_eq,sortKeysFields_eq,← mergeSort_fields,map_map]
   have hmap:(fields.map ((fun field=>(field.1,sortKeys field.2)) ∘
     fun field=>(field.1,sortKeys field.2))) =
     fields.map fun field=>(field.1,sortKeys field.2) :=
    map_congr_left fun field hfield=>congrArg (Prod.mk field.1) (ih field hfield)
   have hsorted:=@pairwise_mergeSort _ fieldLe
     (fun a b c=>unitsLe_trans a.1 b.1 c.1) (fun a b=>unitsLe_total a.1 b.1)
    (fields.map fun field=>(field.1,sortKeys field.2))
   rw [hmap,mergeSort_of_pairwise hsorted]

lemma serializeNumber_integer {n:ℤ} (h:n.natAbs ≤ maxSafeInteger) :
  serializeNumber shortest contractOptions (.finite n)=.ok (integerText n) := by
 have hsafe:isSafeInteger (.finite n)=true := by simp [isSafeInteger,h]
 have hsign:((n:ℚ)<0) ↔ n<0 := by exact_mod_cast Iff.rfl
 simp [serializeNumber,numberText,hsafe,integerText,hsign]

lemma walkItems_eq (items:List JsonValue) :
  walkItems shortest contractOptions items=items.mapM (walk shortest contractOptions) := by
 induction items with
 | nil => rfl
 | cons item items ih => rw [walkItems,ih,mapM_cons]

lemma fieldText_ok_iff {part:JsString} {text:Except CanonicalizationError JsString} :
  fieldText (key,text)=.ok part ↔
   unpairedSurrogate key=false ∧ ∃t,text=.ok t ∧ part=quote key++[0x3A]++t := by
 cases hkey : unpairedSurrogate key <;> cases text <;>
  simp [fieldText,rejectUnpairedSurrogates,hkey,bind,Except.bind,pure,Except.pure,eq_comm]

lemma exists_walk_iff (h:Plain value) :
  (∃text,walk shortest contractOptions value=.ok text) ↔
   ∀key∈allKeys value,unpairedSurrogate key=false := by
 induction h with
 | null | bool => exact iff_of_true ⟨_,rfl⟩ (by simp [allKeys])
 | number n hn =>
   rw [walk,serializeNumber_integer hn]
   exact iff_of_true ⟨_,rfl⟩ (by simp [allKeys])
 | string value hvalue =>
   rw [walk,rejectUnpairedSurrogates,hvalue]
   exact iff_of_true ⟨_,rfl⟩ (by simp [allKeys])
 | array items _ ih =>
   calc (∃text,walk shortest contractOptions (.array items)=.ok text)
     ↔ ∃texts,items.mapM (walk shortest contractOptions)=.ok texts := by
         rw [walk,walkItems_eq,exists_bind_pure_ok_iff]
    _ ↔ ∀item∈items,∀key∈allKeys item,unpairedSurrogate key=false := by
        rw [exists_mapM_ok_iff]
        exact forall₂_congr ih
    _ ↔ ∀key∈allKeys (.array items),unpairedSurrogate key=false := by
        simp only [mem_allKeys_array]
        constructor
        · rintro h key ⟨item,hitem,hkey⟩
          exact h item hitem key hkey
        · intro h item hitem key hkey
          exact h key ⟨item,hitem,hkey⟩
 | object fields _ _ ih =>
   calc (∃text,walk shortest contractOptions (.object fields)=.ok text)
     ↔ ∃parts,((fields.mergeSort fieldLe).map fun field=>
         (field.1,walk shortest contractOptions field.2)).mapM fieldText=.ok parts := by
         rw [walk,walkFields_eq,mergeSort_fields,exists_bind_pure_ok_iff]
    _ ↔ ∀field∈fields,unpairedSurrogate field.1=false ∧
          ∀key∈allKeys field.2,unpairedSurrogate key=false := by
        rw [exists_mapM_ok_iff,forall_mem_map]
        simp only [mem_mergeSort,fieldText_ok_iff]
        refine forall₂_congr fun field hfield=>?_
        rw [← ih field hfield]
        simp
    _ ↔ ∀key∈allKeys (.object fields),unpairedSurrogate key=false := by
        simp only [mem_allKeys_object]
        constructor
        · rintro h key ⟨field,hfield,rfl | hkey⟩
          · exact (h field hfield).1
          · exact (h field hfield).2 key hkey
        · intro h field hfield
          exact ⟨h _ ⟨field,hfield,.inl rfl⟩, fun key hkey=>h key ⟨field,hfield,.inr hkey⟩⟩

lemma reads_walk (h:Plain value) (hwalk:walk shortest contractOptions value=.ok text) :
  Reads assign value text := by
 induction h generalizing text with
 | null =>
   cases hwalk
   exact reads_scalar (by decide) (by decide) (by decide) (by decide) rfl fun _ _=>rfl
 | bool value =>
   cases hwalk
   cases value <;>
    exact reads_scalar (by decide) (by decide) (by decide) (by decide) rfl fun _ _=>rfl
 | number n hn =>
   rw [walk,serializeNumber_integer hn] at hwalk
   cases hwalk
   obtain ⟨unit,tail,htext,hunit⟩:=integerText_head n
   have hparse:∀rest,Terminal rest → parseScalar (integerText n++rest)=_ :=
    fun rest hrest=>parseScalar_integer hn hrest
   rw [htext] at hparse ⊢
   have hother:=numeric_not_mem hunit
   simp only [mem_cons,not_mem_nil,or_false,not_or] at hother
   refine reads_scalar ⟨?_,?_⟩ ?_ ?_ ?_ rfl hparse
   · simp [isSpace,hother]
   all_goals tauto
 | string value hvalue =>
   rw [walk,rejectUnpairedSurrogates,hvalue] at hwalk
   cases hwalk
   exact reads_string hvalue
 | array items _ ih =>
   rw [walk,walkItems_eq] at hwalk
   obtain ⟨texts,htexts,hwalk⟩:=bind_eq_ok hwalk
   cases hwalk
   apply reads_array
   have htexts:=(forall₂_and_left _ _).mpr ⟨fun _ h=>h, mapM_forall₂ htexts⟩
   exact htexts.imp fun item text h=>ih item h.1 h.2
 | object fields hkeys _ ih =>
   rw [walk,walkFields_eq,mergeSort_fields] at hwalk
   obtain ⟨parts,hparts,hwalk⟩:=bind_eq_ok hwalk
   cases hwalk
   apply reads_object hkeys
   have hparts:=(forall₂_and_left _ _).mpr
    ⟨fun _ h=>h, forall₂_map_left_iff.mp (mapM_forall₂ hparts)⟩
   apply hparts.imp
   rintro field part ⟨hfield,hpart⟩
   obtain ⟨hkey,text,htext,rfl⟩:=fieldText_ok_iff.mp hpart
   exact ⟨text,hkey,ih field (mem_mergeSort.mp hfield) htext,rfl⟩

lemma parseText_walk (h:Plain value) (hwalk:walk shortest contractOptions value=.ok text) :
  parseText assign text=.ok (rebuild assign value) := by
 have hreads:Reads assign value text:=reads_walk h hwalk
 have hparse:=hreads.2 [] (text.length+1) (fun _ _ h=>by cases h) (Nat.le_succ _)
 rw [append_nil] at hparse
 obtain ⟨⟨c,r,rfl,-,-,-,hmark⟩,-⟩:=hreads
 rw [parseText,hparse]
 simp only [if_neg hmark]
 rfl

def keepField (key:JsString) (value:JsonValue) : Fields :=
 fields++[(key,value)]

lemma foldl_assign_eq {fields:Fields}
  (h:∀field∈fields,∀built value,assign built field.1 value=built++[(field.1,value)])
  (built:Fields) :
  fields.foldl (fun built field=>assign built field.1 field.2) built=built++fields := by
 induction fields generalizing built with
 | nil => simp
 | cons field fields ih =>
   rw [foldl_cons,h field (by simp),ih fun f hf=>h f (by simp [hf])]
   simp

lemma rebuild_eq_sortKeys (hvalue:Plain value)
  (h:∀key∈allKeys value,∀built value,assign built key value=built++[(key,value)]) :
  rebuild assign value=sortKeys value := by
 induction hvalue with
 | null | bool | number | string => rfl
 | array items _ ih =>
   rw [rebuild,sortKeys,rebuildItems_eq,sortKeysItems_eq]
   refine congrArg JsonValue.array (map_congr_left fun item hitem=>?_)
   exact ih item hitem fun key hkey=>h key (mem_allKeys_array.mpr ⟨item,hitem,hkey⟩)
 | object fields _ _ ih =>
   have hmap:(fields.map fun field=>(field.1,rebuild assign field.2)) =
     fields.map fun field=>(field.1,sortKeys field.2) := by
    refine map_congr_left fun field hfield=>congrArg (Prod.mk field.1) ?_
    exact ih field hfield fun key hkey=>
     h key (mem_allKeys_object.mpr ⟨field,hfield,.inr hkey⟩)
   rw [rebuild,sortKeys,rebuildFields_eq,sortKeysFields_eq,hmap,mergeSort_fields, foldl_assign_eq]
   · rfl
   · intro field hfield
     obtain ⟨source,hsrc,rfl⟩:=mem_map.mp hfield
     exact h _ (mem_allKeys_object.mpr ⟨source,mem_mergeSort.mp hsrc,.inl rfl⟩)

lemma foldl_assignField (built:Fields) :
  fields.foldl (fun built field=>assignField built field.1 field.2) built =
   built++fields.filter fun field=>field.1≠js "__proto__" := by
 induction fields generalizing built with
 | nil => simp
 | cons field fields ih =>
   rw [foldl_cons,ih,assignField]
   by_cases h : field.1=js "__proto__" <;> simp [h]

lemma proto_not_mem_rebuild (h:Plain value) :
  js "__proto__" ∉ allKeys (rebuild assignField value) := by
 induction h with
 | null | bool | number | string => exact not_mem_nil
 | array items _ ih =>
   rw [rebuild,rebuildItems_eq,mem_allKeys_array]
   simp only [mem_map,exists_exists_and_eq_and]
   rintro ⟨item,hitem,hkey⟩
   exact ih item hitem hkey
 | object fields _ _ ih =>
   rw [rebuild,rebuildFields_eq,foldl_assignField,nil_append,mem_allKeys_object]
   rintro ⟨field,hfield,hkey⟩
   simp only [mem_filter,mem_mergeSort,mem_map,decide_eq_true_eq] at hfield
   obtain ⟨⟨source,hsrc,rfl⟩,hname⟩:=hfield
   rcases hkey with hkey | hkey
   · exact hname hkey.symm
   · exact ih source hsrc hkey

lemma plain_rebuild (h:Plain value) : Plain (rebuild assignField value) := by
 induction h with
 | null => exact .null
 | bool value => exact .bool value
 | number n hn => exact .number n hn
 | string value hvalue => exact .string value hvalue
 | array items _ ih =>
   rw [rebuild,rebuildItems_eq]
   refine .array _ fun item hitem=>?_
   obtain ⟨source,hsrc,rfl⟩:=mem_map.mp hitem
   exact ih source hsrc
 | object fields hkeys _ ih =>
   rw [rebuild,rebuildFields_eq,foldl_assignField,nil_append]
   refine .object _ ?_ fun field hfield=>?_
   · have hperm:=(mergeSort_perm
      (fields.map fun field=>(field.1,rebuild assignField field.2)) fieldLe).map (·.1)
     have hnodup:((fields.map fun field=>
       (field.1,rebuild assignField field.2)).map (·.1)).Nodup := by
      rw [map_map]
      exact hkeys
     exact (hperm.nodup_iff.mpr hnodup).sublist (filter_sublist.map _)
   · obtain ⟨source,hsrc,rfl⟩ :=
      mem_map.mp (mem_mergeSort.mp (mem_filter.mp hfield).1)
     exact ih source hsrc

lemma rebuild_keepField (h:Plain value) : rebuild keepField value=sortKeys value :=
 rebuild_eq_sortKeys h fun _ _ _ _=>rfl

/-- The canonical text determines a plain value up to the order of its keys. -/
lemma sortKeys_eq_of_walk {other:JsonValue} (hvalue:Plain value) (hother:Plain other)
  (h:walk shortest contractOptions value=.ok text)
  (h':walk shortest contractOptions other=.ok text) : sortKeys value=sortKeys other := by
 have hread:parseText keepField text=.ok (sortKeys value) := by
  rw [parseText_walk hvalue h,rebuild_keepField hvalue]
 have hread':parseText keepField text=.ok (sortKeys other) := by
  rw [parseText_walk hother h',rebuild_keepField hother]
 exact Except.ok.inj (hread.symm.trans hread')

/-- Reading the canonical text of a value returns the value, up to the order of keys, exactly when
every key has a canonical text and none is `__proto__`. Values with equal text are equal. -/
theorem canonical_round_trip (shortest:ℚ → JsString) (value:JsonValue) (h:Plain value) :
  ((∃text result,canonicalize shortest value=.ok text ∧
      parseCanonicalJsonText text=.ok result ∧ sortKeys result=sortKeys value) ↔
    ∀key∈allKeys value,unpairedSurrogate key=false ∧ key≠js "__proto__") ∧
  ∀other text,Plain other → canonicalize shortest value=.ok text →
    canonicalize shortest other=.ok text → sortKeys value=sortKeys other := by
 refine ⟨⟨?_,fun hkeys=>?_⟩,fun other text hother=>sortKeys_eq_of_walk h hother⟩
 · rintro ⟨text,result,htext,hparse,hsort⟩ key hkey
   refine ⟨exists_walk_iff h |>.mp ⟨text,htext⟩ key hkey,?_⟩
   rintro rfl
   rw [parseCanonicalJsonText,parseText_walk h htext] at hparse
   cases hparse
   rw [← mem_allKeys_sortKeys h,← hsort,mem_allKeys_sortKeys (plain_rebuild h)] at hkey
   exact proto_not_mem_rebuild h hkey
 · obtain ⟨text,htext⟩ : ∃text,canonicalize shortest value=.ok text :=
    (exists_walk_iff h).mpr fun key hkey=>(hkeys key hkey).1
   have hbuilt:rebuild assignField value=sortKeys value :=
    rebuild_eq_sortKeys h fun key hkey built value=>if_neg (hkeys key hkey).2
   refine ⟨text,sortKeys value,htext,?_,sortKeys_sortKeys h⟩
   rw [parseCanonicalJsonText,parseText_walk h htext,hbuilt]

def sampleValue : JsonValue :=
 .object [(js "b",.array [.number (.finite ((-7 : ℤ) : ℚ)),.null]),(js "a",.string (js "x"))]

lemma plain_sampleValue : Plain sampleValue := by
 refine .object _ (by decide) ?_
 simp only [forall_mem_cons,not_mem_nil,false_implies,implies_true,and_true]
 refine ⟨.array _ ?_,.string _ (by decide)⟩
 simp only [forall_mem_cons,not_mem_nil,false_implies,implies_true,and_true]
 exact ⟨.number _ (by decide),.null⟩

theorem canonical_round_trip_sample :
  Plain sampleValue ∧ ∃text result,canonicalize (fun _=>[]) sampleValue=.ok text ∧
   parseCanonicalJsonText text=.ok result ∧ sortKeys result=sortKeys sampleValue :=
 ⟨plain_sampleValue,(canonical_round_trip _ _ plain_sampleValue).1.mpr (by decide)⟩

/-- An object whose only field is called `__proto__` comes back without it. -/
theorem canonical_round_trip_proto :
  Plain (.object [(js "__proto__",.null)]) ∧
  ∃text,canonicalize (fun _=>[]) (.object [(js "__proto__",.null)])=.ok text ∧
    parseCanonicalJsonText text=.ok (.object []) ∧
    sortKeys (.object [])≠sortKeys (.object [(js "__proto__",.null)]) := by
 have hplain:Plain (.object [(js "__proto__",.null)]) :=
  .object _ (nodup_singleton _) (forall_mem_singleton.mpr .null)
 obtain ⟨text,htext⟩ : ∃text,canonicalize (fun _=>[])
   (.object [(js "__proto__",.null)])=.ok text :=
  (exists_walk_iff hplain).mpr (by decide)
 refine ⟨hplain,text,htext,?_,?_⟩
 · rw [parseCanonicalJsonText,parseText_walk hplain htext]
   simp [rebuild,rebuildFields,assignField]
 · simp [sortKeys,sortKeysFields]

end EpistemicCompiler.CanonicalRoundTrip
