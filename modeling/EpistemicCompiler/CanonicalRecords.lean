import EpistemicCompiler.CanonicalRoundTrip

set_option autoImplicit false

/-!
# Records and their canonical texts

A record is written as an object with fixed keys. It has a canonical text exactly when its fields
have one, and two records with one text have the same fields. No canonical text has unpaired
surrogates.
-/
namespace EpistemicCompiler.CanonicalRecords
open JsValues CanonicalJson CanonicalReading CanonicalRoundTrip FallibleRuns List

variable {shortest:ℚ → JsString} {fields others:Fields} {value other:JsonValue}

def Writable (shortest:ℚ → JsString) (value:JsonValue) : Prop :=
 ∃text,canonicalize shortest value=.ok text

lemma writable_string {text:JsString} :
  Writable shortest (.string text) ↔ unpairedSurrogate text=false := by
 cases h : unpairedSurrogate text <;>
  simp [Writable,canonicalize,walk,rejectUnpairedSurrogates,h,bind,Except.bind,pure,Except.pure]

lemma writable_array {items:List JsonValue} :
  Writable shortest (.array items) ↔ ∀item∈items,Writable shortest item := by
 unfold Writable canonicalize
 rw [walk,walkItems_eq]
 exact exists_bind_pure_ok_iff.trans exists_mapM_ok_iff

lemma writable_object : Writable shortest (.object fields) ↔
  ∀field∈fields,unpairedSurrogate field.1=false ∧ Writable shortest field.2 := by
 unfold Writable canonicalize
 rw [walk,walkFields_eq,mergeSort_fields]
 refine exists_bind_pure_ok_iff.trans (exists_mapM_ok_iff.trans ?_)
 simp only [forall_mem_map,mem_mergeSort,fieldText_ok_iff,exists_and_left]
 refine forall₂_congr fun field _=>and_congr_right fun _=>⟨?_,?_⟩
 · rintro ⟨_,text,htext,-⟩
   exact ⟨text,htext⟩
 · rintro ⟨text,htext⟩
   exact ⟨_,text,htext,rfl⟩

lemma writable_record (hkeys:∀key∈fields.map (·.1),unpairedSurrogate key=false)
  (h:∀field∈fields,Writable shortest field.2) : Writable shortest (.object fields) :=
 writable_object.mpr fun field hfield=>⟨hkeys _ (mem_map_of_mem hfield),h field hfield⟩

lemma writable_number {n:ℕ} (h:n ≤ maxSafeInteger) :
  Writable shortest (.number (.finite n)) :=
 ⟨_,serializeNumber_integer (n:=n) h⟩

lemma sort_fields {β:Type} {fields sorted:List (JsString×β)} (hperm:sorted ~ fields)
  (hkeys:(sorted.map (·.1)).Pairwise fun a b=>unitsLe a b=true ∧ a≠b) :
  fields.mergeSort fieldLe=sorted := by
 have hnodup:(sorted.map (·.1)).Nodup:=hkeys.imp And.right
 have hsorted:sorted.Pairwise fun a b=>fieldLe a b=true:=(pairwise_map.mp hkeys).imp And.left
 have hmerged:(fields.mergeSort fieldLe).Pairwise fun a b=>fieldLe a b=true :=
  pairwise_mergeSort (fun a b c=>unitsLe_trans a.1 b.1 c.1) (fun a b=>unitsLe_total a.1 b.1) fields
 refine ((mergeSort_perm fields fieldLe).trans hperm.symm).eq_of_pairwise ?_ hmerged hsorted
 intro a b ha hb hab hba
 exact inj_on_of_nodup_map hnodup (hperm.mem_iff.mpr (mem_mergeSort.mp ha)) hb
  (unitsLe_antisymm hab hba)

section

lemma escapeUnit_of_le {unit:UInt16} (h:0x80 ≤ unit) : escapeUnit unit=[unit] := by
 unfold escapeUnit
 grind

lemma paired_escapeUnit {unit:UInt16} (h:isLead unit=false ∧ isTrail unit=false) :
  unpairedSurrogate (escapeUnit unit)=false := by
 have hcontrol:∀n<32,unpairedSurrogate (js "\\u00"++[hexDigit (n/16),hexDigit (n % 16)])=false := by
  decide
 unfold escapeUnit
 split_ifs with _ _ _ _ _ _ _ hsmall
 all_goals first | rfl | exact hcontrol _ hsmall | simp [unpairedSurrogate,h]

lemma paired_escape {text:JsString} (h:unpairedSurrogate text=false) :
  unpairedSurrogate (text.flatMap escapeUnit)=false := by
 fun_induction unpairedSurrogate text with
 | case1 => rfl
 | case2 unit => simpa using paired_escapeUnit (Bool.or_eq_false_iff.mp h)
 | case3 unit next rest hlead htrail ih =>
   have hunit:0x80 ≤ unit := by grind [isLead]
   have hnext:0x80 ≤ next := by grind [isTrail]
   rw [flatMap_cons,flatMap_cons,escapeUnit_of_le hunit,escapeUnit_of_le hnext]
   simpa [unpairedSurrogate,hlead,htrail] using ih h
 | case4 => cases h
 | case5 => cases h
 | case6 unit next rest hlead htrail ih =>
   rw [flatMap_cons]
   exact unpairedSurrogate_append (paired_escapeUnit (by simp [hlead,htrail])) (ih h)

lemma paired_quote {text:JsString} (h:unpairedSurrogate text=false) :
  unpairedSurrogate (quote text)=false :=
 unpairedSurrogate_append (unpairedSurrogate_append rfl (paired_escape h)) rfl

lemma paired_intercalate {texts:List JsString} (h:∀text∈texts,unpairedSurrogate text=false) :
  unpairedSurrogate ([0x2C].intercalate texts)=false := by
 induction texts with
 | nil => rfl
 | cons text texts ih =>
   rw [forall_mem_cons] at h
   cases texts with
   | nil => simpa [intercalate] using h.1
   | cons next texts =>
     rw [intercalate_cons]
     exact unpairedSurrogate_append h.1
      (unpairedSurrogate_append (s:=[0x2C]) rfl (ih h.2))

lemma paired_decimal (n:ℕ) : unpairedSurrogate (decimal n)=false := by
 have hdigit:∀unit,isDigit unit=true → isLead unit=false ∧ isTrail unit=false := by
  unfold isDigit isLead isTrail
  grind
 refine unpairedSurrogate_eq_false fun unit hunit=>hdigit unit ?_
 rcases decimal_cases n with ⟨-,hzero⟩ | ⟨first,digits,htext,-,hfirst,hdigits⟩
 · rw [hzero,mem_singleton] at hunit
   rw [hunit]
   decide
 · rw [htext] at hunit
   rcases mem_cons.mp hunit with rfl | hunit
   · exact hfirst
   · exact hdigits unit hunit

variable (hshortest:∀q,unpairedSurrogate (shortest q)=false)
include hshortest

lemma paired_numberText (q:ℚ) : unpairedSurrogate (numberText shortest q)=false := by
 unfold numberText
 split_ifs
 · exact unpairedSurrogate_append rfl (paired_decimal _)
 · exact unpairedSurrogate_append rfl (paired_decimal _)
 · exact hshortest q

lemma paired_canonicalize (value:JsonValue) {text:JsString}
  (h:canonicalize shortest value=.ok text) : unpairedSurrogate text=false := by
 unfold canonicalize at h
 match value with
 | .null =>
   cases h
   decide
 | .bool b =>
   cases h
   cases b <;> decide
 | .number (.finite q) =>
   rw [walk,serializeNumber] at h
   split_ifs at h
   cases h
   exact paired_numberText hshortest q
 | .number (.infinite _) | .number .nan => cases h
 | .string s =>
   have hpaired:=writable_string.mp ⟨text,h⟩
   rw [walk,rejectUnpairedSurrogates,hpaired] at h
   cases h
   exact paired_quote hpaired
 | .array items =>
   rw [walk,walkItems_eq] at h
   obtain ⟨texts,htexts,h⟩:=bind_eq_ok h
   cases h
   refine unpairedSurrogate_append (unpairedSurrogate_append rfl (paired_intercalate ?_)) rfl
   intro part hpart
   obtain ⟨item,hitem,hwalk⟩:=mem_of_mapM_ok htexts hpart
   exact paired_canonicalize item hwalk
 | .object fields =>
   rw [walk,walkFields_eq,mergeSort_fields] at h
   obtain ⟨parts,hparts,h⟩:=bind_eq_ok h
   cases h
   refine unpairedSurrogate_append (unpairedSurrogate_append rfl (paired_intercalate ?_)) rfl
   intro part hpart
   obtain ⟨written,hmem,hpart⟩:=mem_of_mapM_ok hparts hpart
   obtain ⟨field,hfield,rfl⟩:=mem_map.mp hmem
   obtain ⟨hkey,fieldText,hwalk,rfl⟩:=fieldText_ok_iff.mp hpart
   have hmem:field∈fields:=mem_mergeSort.mp hfield
   exact unpairedSurrogate_append (unpairedSurrogate_append (paired_quote hkey) rfl)
    (paired_canonicalize field.2 hwalk)
 | .other _ => cases h
termination_by sizeOf value
decreasing_by
 · have hlt:=sizeOf_lt_of_mem hitem
   simp_all
   omega
 · have hlt:=sizeOf_lt_of_mem hmem
   have hsnd:sizeOf field.2<sizeOf field := by
    cases field
    simp
   simp_all
   omega

end

inductive Whole : JsonValue → Prop where
 | null : Whole .null
 | bool (value:Bool) : Whole (.bool value)
 | number (n:ℤ) : Whole (.number (.finite n))
 | string (value:JsString) : Whole (.string value)
 | array (items:List JsonValue) (h:∀item∈items,Whole item) : Whole (.array items)
 | object (fields:Fields) (hkeys:(fields.map (·.1)).Nodup)
   (h:∀field∈fields,Whole field.2) : Whole (.object fields)

lemma plain_of_writable (h:Whole value) (hwritable:Writable shortest value) : Plain value := by
 induction h with
 | null => exact .null
 | bool value => exact .bool value
 | number n =>
   by_cases hsafe : n.natAbs ≤ maxSafeInteger
   · exact .number n hsafe
   · have hlarge:isSafeInteger (.finite n)=false := by simp [isSafeInteger,hsafe]
     obtain ⟨text,htext⟩:=hwritable
     rw [canonicalize,walk,serializeNumber,hlarge] at htext
     simp [contractOptions] at htext
 | string value => exact .string value (writable_string.mp hwritable)
 | array items _ ih =>
   exact .array items fun item hitem=>ih item hitem (writable_array.mp hwritable item hitem)
 | object fields hkeys _ ih =>
   exact .object fields hkeys fun field hfield=>
    ih field hfield (writable_object.mp hwritable field hfield).2

lemma sortKeys_eq_of_front (hvalue:Whole value) (hother:Whole other)
  {text text' rest rest':JsString} (h:canonicalize shortest value=.ok text)
  (h':canonicalize shortest other=.ok text')
  (heq:text++0x2C::rest=text'++0x2C::rest') : sortKeys value=sortKeys other ∧ rest=rest' := by
 have hplain:=plain_of_writable hvalue ⟨text,h⟩
 have hplain':=plain_of_writable hother ⟨text',h'⟩
 have hterminal:∀rest,Terminal (0x2C::rest):=terminal_cons (.inl rfl)
 have hread:=(reads_walk hplain h:Reads keepField value text).2 (0x2C::rest)
  (max text.length text'.length) (hterminal rest) (le_max_left _ _)
 have hread':=(reads_walk hplain' h':Reads keepField other text').2 (0x2C::rest')
  (max text.length text'.length) (hterminal rest') (le_max_right _ _)
 rw [heq,hread'] at hread
 obtain ⟨hsame,hrest⟩:=Prod.mk.inj (Except.ok.inj hread)
 rw [rebuild_keepField hplain,rebuild_keepField hplain'] at hsame
 exact ⟨hsame.symm,(cons.inj hrest).2.symm⟩

lemma sortKeys_eq_of_canonicalize (hvalue:Whole value) (hother:Whole other)
  {text:JsString} (h:canonicalize shortest value=.ok text)
  (h':canonicalize shortest other=.ok text) : sortKeys value=sortKeys other :=
 (sortKeys_eq_of_front hvalue hother h h' (rfl:text++[0x2C]=text++[0x2C])).1

lemma exists_field_of_sortKeys (h:sortKeys (.object fields)=sortKeys (.object others))
  {key:JsString} (hmem:(key,value)∈fields) :
  ∃other,(key,other)∈others ∧ sortKeys value=sortKeys other := by
 rw [sortKeys,sortKeys,sortKeysFields_eq,sortKeysFields_eq,JsonValue.object.injEq] at h
 have hmem:(key,sortKeys value) ∈
   (fields.map fun field=>(field.1,sortKeys field.2)).mergeSort fieldLe :=
  mem_mergeSort.mpr (mem_map.mpr ⟨(key,value),hmem,rfl⟩)
 rw [h] at hmem
 obtain ⟨⟨key',other⟩,hfield,heq⟩:=mem_map.mp (mem_mergeSort.mp hmem)
 obtain ⟨rfl,hsort⟩:=Prod.mk.inj heq
 exact ⟨other,hfield,hsort.symm⟩

lemma field_eq_of_sortKeys (hkeys:(others.map (·.1)).Nodup)
  (h:sortKeys (.object fields)=sortKeys (.object others)) (i:ℕ) {key:JsString}
  {value other:JsonValue} (hvalue:fields[i]?=some (key,value))
  (hother:others[i]?=some (key,other)) :
  sortKeys value=sortKeys other := by
 obtain ⟨found,hfound,hsort⟩:=exists_field_of_sortKeys h (mem_of_getElem? hvalue)
 obtain rfl:=(Prod.mk.inj (inj_on_of_nodup_map hkeys hfound (mem_of_getElem? hother) rfl)).2
 exact hsort

lemma text_eq_of_sortKeys (hkeys:(others.map (·.1)).Nodup)
  (h:sortKeys (.object fields)=sortKeys (.object others)) (i:ℕ) {key value other:JsString}
  (hvalue:fields[i]?=some (key,.string value))
  (hother:others[i]?=some (key,.string other)) : value=other :=
 JsonValue.string.inj (field_eq_of_sortKeys hkeys h i hvalue hother)

end EpistemicCompiler.CanonicalRecords
