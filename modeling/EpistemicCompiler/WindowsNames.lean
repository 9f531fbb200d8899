import EpistemicCompiler.RelativePaths

set_option autoImplicit false

/-!
# Component names on Windows

`reject_component_name` is the runner's own copy of the rules for a segment. On ASCII names both
copies refuse the same trailing marks, device names and short names.
-/
namespace EpistemicCompiler.WindowsNames
open List JsValues TextEncodings RelativePaths

inductive PathReject where
 | reservedName
 | trailingDotOrSpace
 | eightDotThreeAlias
 deriving DecidableEq

def splitOnce (mark:UInt16) (text:JsString) : Option (JsString×JsString) :=
 if mark∈text then some (text.takeWhile (·≠mark),(text.dropWhile (·≠mark)).tail) else none

def isReservedComponent (name:JsString) : Bool :=
 reservedBase.contains (((name.splitOn 0x2E).headD name).map upperUnit)

def is83AliasName (name:JsString) : Bool :=
 let upper:=name.map upperUnit
 let parts:=match splitOnce 0x2E upper with
  | some (stem,ext) => (stem,some ext)
  | none => (upper,none)
 match splitOnce 0x7E parts.1 with
 | none => false
 | some (left,right) =>
   if left=[] || left.length > 6 then false
   else if right=[] || !right.all isDigit then false
   else !parts.2.any fun ext=>ext.length > 3

def rejectComponentName (name:JsString) : Except PathReject Unit :=
 if name.getLast?=some 0x20 || name.getLast?=some 0x2E then .error .trailingDotOrSpace
 else if isReservedComponent name then .error .reservedName
 else if is83AliasName name then .error .eightDotThreeAlias
 else .ok ()

variable {unicode:Unicode} {name:JsString}

lemma rejectComponentName_ok_iff : rejectComponentName name=.ok () ↔
  ¬ (name.getLast?=some 0x20 || name.getLast?=some 0x2E) ∧ isReservedComponent name=false ∧
   is83AliasName name=false := by
 unfold rejectComponentName
 split_ifs <;> simp_all

lemma splitOn_cons {mark:UInt16} {stem ext:JsString} (h:mark ∉ stem) :
  (stem++mark::ext).splitOn mark=stem::ext.splitOn mark := by
 have hjoin:(stem++mark::ext).splitOn mark=stem.splitOn mark++ext.splitOn mark:=
  splitOnP_append_cons stem ext (beq_self_eq_true mark)
 rw [hjoin,splitOn_eq_singleton h,singleton_append]

lemma splitOnce_cons {mark:UInt16} {stem ext:JsString} (h:mark ∉ stem) :
  splitOnce mark (stem++mark::ext)=some (stem,ext) := by
 have hall:∀unit∈stem,decide (unit≠mark)=true:=fun unit hunit=>
  decide_eq_true fun heq=>h (heq ▸ hunit)
 rw [splitOnce,if_pos (by simp),takeWhile_append_of_pos hall,dropWhile_append_of_pos hall]
 simp

lemma isReservedComponent_eq (h:isAscii name) :
  RelativePaths.isReservedComponent unicode name=isReservedComponent name := by
 have hstem:isAscii ((name.splitOn 0x2E).headD name) := by
  by_cases hdot : 0x2E∈name
  · obtain ⟨stem,ext,rfl,hstem⟩:=eq_append_cons_of_mem hdot
    rw [splitOn_cons hstem]
    exact fun unit hunit=>h unit (mem_append_left _ hunit)
  · rw [splitOn_eq_singleton hdot]
    exact h
 rw [RelativePaths.isReservedComponent,unicode.toUpperCase_ascii _ hstem]
 rfl

lemma isEightDotThree_eq (h:isAscii name) :
  isEightDotThree unicode name=is83AliasName name := by
 rw [isEightDotThree,is83AliasName,unicode.toUpperCase_ascii _ h]
 generalize name.map upperUnit=upper
 by_cases hdot : 0x2E∈upper
 · obtain ⟨stem,ext,rfl,hstem⟩:=eq_append_cons_of_mem hdot
   have hlong:1<(stem::ext.splitOn 0x2E).length:=
    Nat.succ_lt_succ (length_pos_of_ne_nil (splitOnP_ne_nil _ _))
   simp only [splitOn_cons hstem,splitOnce_cons hstem,gt_iff_lt,if_pos hlong,tail_cons,headD_cons,
    intercalate_splitOn]
   by_cases htilde : 0x7E∈stem <;> simp [splitOnce,htilde,-length_tail]
 · simp only [splitOn_eq_singleton hdot,splitOnce,if_neg hdot]
   by_cases htilde : 0x7E∈upper <;> simp [htilde,-length_tail]

lemma utf8ByteLength_ascii {text:JsString} (h:isAscii text) :
  utf8ByteLength text=text.length := by
 induction text with
 | nil => rfl
 | cons unit rest ih =>
   have hunit:=h unit mem_cons_self
   have hplain:=plain_of_ascii hunit
   have hsize:(scalarOf unit).utf8Size=1 := by
    rw [Char.utf8Size_eq_one_iff,UInt32.le_iff_toNat_le,scalarOf_toNat hplain]
    exact Nat.le_of_lt_succ (UInt16.lt_iff_toNat_lt.mp hunit)
   have hrest:=ih fun other hother=>h other (mem_cons_of_mem _ hother)
   unfold utf8ByteLength utf8 at hrest ⊢
   rw [scalars_cons hplain.1,flatMap_cons,length_append,String.length_utf8EncodeChar,hsize,hrest,
    length_cons,Nat.add_comm]

lemma upperUnit_mark {unit mark:UInt16} (hmark:mark=slash ∨ mark=backslash)
  (h:unit≠mark) : upperUnit unit≠mark := by
 unfold upperUnit slash backslash at *
 grind

lemma not_deviceNamespace (h:isAscii name) (hslash:slash ∉ name)
  (hbackslash:backslash ∉ name) : isDeviceNamespace unicode name=false := by
 have hsame:name.map (fun unit=>if unit=slash then backslash else unit)=name := by
  refine (map_congr_left fun unit hunit=>?_).trans (map_id name)
  rw [if_neg fun heq:unit=slash=>hslash (heq ▸ hunit)]
  rfl
 rw [isDeviceNamespace,hsame,unicode.toUpperCase_ascii name h]
 cases name with
 | nil => rfl
 | cons unit rest =>
   have hfirst:upperUnit unit≠0x2F:=
    upperUnit_mark (.inl rfl) fun heq=>hslash (mem_cons.mpr (.inl heq.symm))
   have hfirst':upperUnit unit≠0x5C:=
    upperUnit_mark (.inr rfl) fun heq=>hbackslash (mem_cons.mpr (.inl heq.symm))
   simp [js,isPrefixOf,hfirst.symm,hfirst'.symm]

lemma not_driveRelative (h:0x3A ∉ name) : isDriveRelative name=false := by
 unfold isDriveRelative
 split
 · next first second rest =>
   have hsnd:second≠0x3A:=fun heq=>h (by simp [heq])
   simp [hsnd]
 · rfl

theorem segment_rules (h:isAscii name) (hsegment:slash ∉ name) (allowGit:Bool) :
  classifyRelativePath unicode name allowGit=none ↔ rejectComponentName name=.ok () ∧
   name≠[] ∧ name.length ≤ pathSegmentMaxUtf8Bytes ∧ 0 ∉ name ∧ backslash ∉ name ∧
   0x3A ∉ name ∧ (allowGit=false → name.map upperUnit≠js ".GIT") := by
 have hgit:isProtectedGitSegment unicode name=decide (name.map upperUnit=js ".GIT") := by
  rw [isProtectedGitSegment,caseFoldKey,unicode.normalize_ascii name h,
   if_neg Bool.false_ne_true,unicode.toUpperCase_ascii name h]
 rw [classifyRelativePath_eq_none_iff,segments_name hsegment,forall_mem_singleton,
  classifySegment_eq_none_iff,rejectComponentName_ok_iff,isReservedComponent_eq h,
  isEightDotThree_eq h,hgit,utf8ByteLength_ascii h,unicode.normalize_ascii name h]
 constructor
 · rintro ⟨hnul,hback,-,hcolon,-,-,hname,hlast,hreserved,hshort,hgit⟩
   simp only [Bool.or_eq_true,decide_eq_true_eq,not_or,length_eq_zero_iff,gt_iff_lt,not_lt]
    at hname hback
   exact ⟨⟨hlast,hreserved,hshort⟩,hname.1.1.1,hname.2,hnul,hback.1,hcolon,
    fun hoff=>of_decide_eq_false (hgit hoff)⟩
 · rintro ⟨⟨hlast,hreserved,hshort⟩,hnil,hlength,hnul,hback,hcolon,hgit⟩
   refine ⟨hnul,?_,?_,hcolon,rfl,hlength.trans (by decide),?_,hlast,hreserved,hshort,
    fun hoff=>decide_eq_false (hgit hoff)⟩
   · simpa [hback] using fun heq=>hsegment (mem_of_head? heq)
   · simp [not_deviceNamespace h hsegment hback,not_driveRelative hcolon]
   · -- Both texts of dots end in one, which the rule on the last unit refuses.
     have hdot:name≠js "." ∧ name≠js "..":=
      ⟨fun heq=>hlast (heq ▸ by decide),fun heq=>hlast (heq ▸ by decide)⟩
     simpa [hnil,hdot] using hlength

theorem segment_rules_colon : rejectComponentName (js "ab:c")=.ok () ∧
  classifyRelativePath asciiTables (js "ab:c") false=some .pathAds := by decide

theorem segment_rules_sample : classifyRelativePath asciiTables (js "src") false=none := by
 have hascii:(js "src").all (·<0x80)=true := by decide
 exact (@segment_rules asciiTables (js "src")
  (fun unit hunit=>of_decide_eq_true (all_eq_true.mp hascii unit hunit)) (by decide) false).mpr
  (by decide)

end EpistemicCompiler.WindowsNames
