import Mathlib.Data.List.TakeWhile
import EpistemicCompiler.TextEncodings

set_option autoImplicit false

/-!
# Relative paths

A path is a string of code units with `/` between its segments. `classifyRelativePath` names the
first reason to refuse one; the tables of Unicode behind it are a parameter with the few laws that
the proofs rest on.
-/
namespace EpistemicCompiler.RelativePaths
open JsValues TextEncodings List UInt8

variable (unit:UInt16) (path:JsString)

abbrev slash : UInt16 := 0x2F

abbrev backslash : UInt16 := 0x5C

def isAscii (text:JsString) : Prop := ∀unit∈text,unit<0x80

def upperUnit : UInt16 :=
 if 0x61 ≤ unit ∧ unit ≤ 0x7A then unit - 0x20 else unit

/-- `normalize("NFC")` and `toUpperCase` of strings. No character combines with the separators, and
both functions are known on ASCII. -/
structure Unicode where
 normalize : JsString → JsString
 toUpperCase : JsString → JsString
 normalize_slash : ∀left right,
  normalize (left++slash::right)=normalize left++slash::normalize right
 slash_not_mem_normalize : ∀text,slash ∉ text → slash ∉ normalize text
 normalize_ascii : ∀text,isAscii text → normalize text=text
 toUpperCase_ascii : ∀text,isAscii text → toUpperCase text=text.map upperUnit

def asciiTables : Unicode where
 normalize text := text
 toUpperCase text := text.map upperUnit
 normalize_slash _ _ := rfl
 slash_not_mem_normalize _ h := h
 normalize_ascii _ _ := rfl
 toUpperCase_ascii _ _ := rfl

def utf8ByteLength (value:JsString) : ℕ := (utf8 value).length

def pathMaxUtf8Bytes : ℕ := 32767

def pathSegmentMaxUtf8Bytes : ℕ := 1024

section

inductive RelativePathRejectCode where
 | pathTraversal
 | pathAbsolute
 | pathDevice
 | pathAds
 | pathReserved
 | pathProtected
 | pathLength
 | unicodeCollision
 deriving DecidableEq

def reservedBase : List JsString :=
 ["CON","PRN","AUX","NUL","COM0","COM1","COM2","COM3","COM4","COM5","COM6","COM7",
  "COM8","COM9","LPT0","LPT1","LPT2","LPT3","LPT4","LPT5","LPT6","LPT7","LPT8","LPT9",
  "CONIN$","CONOUT$"].map js

def segments : List JsString := path.splitOn slash

def isDigit : Bool := 0x30 ≤ unit && unit ≤ 0x39

variable (unicode:Unicode)

def caseFoldKey (text:JsString) (caseSensitive:Bool) : JsString :=
 let nfc:=unicode.normalize text
 if caseSensitive then nfc else unicode.toUpperCase nfc

def isReservedComponent (name:JsString) : Bool :=
 let stem:=(name.splitOn 0x2E).headD name
 reservedBase.contains (unicode.toUpperCase stem)

def isEightDotThree (name:JsString) : Bool :=
 let upper:=unicode.toUpperCase name
 let split:=upper.splitOn 0x2E
 let stem:=split.headD upper
 let ext:=if split.length > 1 then some ([0x2E].intercalate split.tail) else none
 let left:=stem.takeWhile (·≠0x7E)
 let right:=(stem.dropWhile (·≠0x7E)).tail
 if 0x7E ∉ stem then false
 else if left.length=0 || left.length > 6 then false
 else if right.length=0 || !right.all isDigit then false
 else !ext.any fun text=>text.length > 3

def isDriveRelative : JsString → Bool
 | first::second::rest =>
   let letter:=(65 ≤ first && first ≤ 90) || (97 ≤ first && first ≤ 122)
   if !letter || second≠0x3A then false
   else
    match rest with
    | [] => true
    | third::_ => third≠slash && third≠backslash
 | _ => false

def isDeviceNamespace (path:JsString) : Bool :=
 let upper:=unicode.toUpperCase (path.map fun unit=>if unit=slash then backslash else unit)
 (js "\\\\.\\").isPrefixOf upper || (js "\\\\?\\").isPrefixOf upper ||
  (js "\\??\\").isPrefixOf upper || (js "//./").isPrefixOf upper || (js "//?/").isPrefixOf upper

def isProtectedGitSegment (segment:JsString) : Bool :=
 caseFoldKey unicode segment false=js ".GIT"

def classifySegment (allowGit:Bool) (segment:JsString) : Option RelativePathRejectCode :=
 if segment.length=0 || segment=js "." || segment=js ".." ||
   utf8ByteLength segment > pathSegmentMaxUtf8Bytes then some .pathTraversal
 else if segment.getLast?=some 0x20 || segment.getLast?=some 0x2E then some .pathReserved
 else if isReservedComponent unicode segment then some .pathReserved
 else if isEightDotThree unicode segment then some .pathReserved
 else if !allowGit && isProtectedGitSegment unicode segment then some .pathProtected
 else none

def classifyRelativePath (path:JsString) (allowProtectedGit:Bool) :
    Option RelativePathRejectCode :=
 if 0∈path then some .pathTraversal
 else if backslash∈path || path.head?=some slash then some .pathAbsolute
 else if isDeviceNamespace unicode path || isDriveRelative path then some .pathDevice
 else if 0x3A∈path then some .pathAds
 else if unicode.normalize path≠path then some .unicodeCollision
 else if utf8ByteLength path > pathMaxUtf8Bytes then some .pathLength
 else (segments path).findSome? (classifySegment unicode allowProtectedGit)

end

section

def parentPath : Option JsString :=
 match path.reverse.dropWhile (·≠slash) with
 | [] => none
 | _::rest => some rest.reverse

def basename : JsString := (path.reverse.takeWhile (·≠slash)).reverse

def isPrefixPath (dir other:JsString) : Bool := other=dir || (dir++[slash]).isPrefixOf other

lemma path_cases : slash ∉ path ∨ ∃dir name,slash ∉ name ∧ path=dir++slash::name := by
 induction path with
 | nil => exact .inl not_mem_nil
 | cons unit path ih =>
   rcases ih with h | ⟨dir,name,hname,rfl⟩
   · by_cases hunit : unit=slash
     · exact .inr ⟨[],path,h,by rw [hunit]; rfl⟩
     · exact .inl (by simp [h,Ne.symm hunit])
   · exact .inr ⟨unit::dir,name,hname,rfl⟩

variable {name:JsString}

lemma takeWhile_reverse_name (h:slash ∉ name) (rest:JsString) :
  (name.reverse++slash::rest).takeWhile (·≠slash)=name.reverse ∧
   (name.reverse++slash::rest).dropWhile (·≠slash)=slash::rest := by
 have hall:∀unit∈name.reverse,decide (unit≠slash)=true := by
  intro unit hunit
  rw [mem_reverse] at hunit
  exact decide_eq_true fun heq=>h (heq ▸ hunit)
 rw [takeWhile_append_of_pos hall,dropWhile_append_of_pos hall]
 simp

lemma parentPath_join (dir:JsString) (h:slash ∉ name) :
  parentPath (dir++slash::name)=some dir := by
 have hreverse:(dir++slash::name).reverse=name.reverse++slash::dir.reverse := by simp
 rw [parentPath,hreverse,(takeWhile_reverse_name h _).2]
 simp

lemma basename_join (dir:JsString) (h:slash ∉ name) :
  basename (dir++slash::name)=name := by
 have hreverse:(dir++slash::name).reverse=name.reverse++slash::dir.reverse := by simp
 rw [basename,hreverse,(takeWhile_reverse_name h _).1,reverse_reverse]

lemma parentPath_name (h:slash ∉ name) : parentPath name=none := by
 have hdrop:name.reverse.dropWhile (·≠slash)=[] := by
  rw [dropWhile_eq_nil_iff]
  intro unit hunit
  exact decide_eq_true fun heq=>h (heq ▸ mem_reverse.mp hunit)
 rw [parentPath,hdrop]

lemma basename_name (h:slash ∉ name) : basename name=name := by
 have htake:name.reverse.takeWhile (·≠slash)=name.reverse := by
  rw [takeWhile_eq_self_iff]
  intro unit hunit
  exact decide_eq_true fun heq=>h (heq ▸ mem_reverse.mp hunit)
 rw [basename,htake,reverse_reverse]

end

section

variable (unicode:Unicode)

lemma segments_join (left right:JsString) :
  segments (left++slash::right)=segments left++segments right :=
 splitOnP_append_cons left right (beq_self_eq_true slash)

lemma segments_name {name:JsString} (h:slash ∉ name) : segments name=[name] :=
 splitOn_eq_singleton h

lemma segments_ne_nil : segments path≠[] := splitOnP_ne_nil _ _

lemma intercalate_segments : [slash].intercalate (segments path)=path :=
 intercalate_splitOn slash

lemma path_induction {P:JsString → Prop} (hname:∀name,slash ∉ name → P name)
  (hjoin:∀dir name,slash ∉ name → P dir → P (dir++slash::name)) (path:JsString) :
  P path := by
 generalize hn : path.length=n
 induction n using Nat.strong_induction_on generalizing path with
 | _ n ih =>
   rcases path_cases path with h | ⟨dir,name,h,rfl⟩
   · exact hname path h
   · refine hjoin dir name h (ih dir.length ?_ dir rfl)
     rw [← hn,length_append,length_cons]
     omega

lemma slash_not_mem_segment {path segment:JsString} (h:segment∈segments path) :
  slash ∉ segment := by
 induction path using path_induction with
 | hname name hname =>
   rw [segments_name hname,mem_singleton] at h
   exact h ▸ hname
 | hjoin dir name hname ih =>
   rw [segments_join,segments_name hname,mem_append,mem_singleton] at h
   rcases h with h | rfl
   · exact ih h
   · exact hname

lemma mem_of_mem_segment {path segment:JsString} {unit:UInt16}
  (hpart:segment∈segments path) (hunit:unit∈segment) : unit∈path := by
 induction path using path_induction with
 | hname name hname =>
   rw [segments_name hname,mem_singleton] at hpart
   exact hpart ▸ hunit
 | hjoin dir name hname ih =>
   rw [segments_join,segments_name hname,mem_append,mem_singleton] at hpart
   rcases hpart with hdir | rfl
   · exact mem_append_left _ (ih hdir)
   · exact mem_append_right _ (mem_cons_of_mem _ hunit)

lemma segments_normalize (path:JsString) :
  segments (unicode.normalize path)=(segments path).map unicode.normalize := by
 induction path using path_induction with
 | hname name hname =>
   rw [segments_name hname,segments_name (unicode.slash_not_mem_normalize name hname)]
   rfl
 | hjoin dir name hname ih =>
   rw [unicode.normalize_slash,segments_join,segments_join,ih,segments_name hname,
    segments_name (unicode.slash_not_mem_normalize name hname),map_append]
   rfl

lemma basename_mem_segments : basename path∈segments path := by
 rcases path_cases path with h | ⟨dir,name,h,rfl⟩
 · simp [basename_name h,segments_name h]
 · simp [basename_join dir h,segments_join,segments_name h]

end

section

variable {unicode:Unicode} {allowGit:Bool} {path:JsString}

def lowerUnit : UInt16 :=
 if 0x41 ≤ unit ∧ unit ≤ 0x5A then unit+0x20 else unit

lemma upperUnit_lowerUnit : upperUnit (lowerUnit unit)=upperUnit unit := by
 simp only [upperUnit,lowerUnit,UInt16.le_iff_toNat_le]
 split_ifs with h h' h' <;> simp_all [UInt16.toNat_add,← UInt16.toNat_inj,UInt16.toNat_sub] <;>
  omega

lemma lt_of_lowerUnit_lt {unit:UInt16} (h:lowerUnit unit<0x80) : unit<0x80 := by
 simp only [lowerUnit,UInt16.le_iff_toNat_le,UInt16.lt_iff_toNat_lt] at h ⊢
 split_ifs at h with hupper
 · simp at hupper ⊢
   omega
 · exact h

variable {segment:JsString}

lemma isProtectedGitSegment_of_lower
  (h:segment.map lowerUnit=js ".git") : isProtectedGitSegment unicode segment=true := by
 have hascii:isAscii segment := by
  intro unit hunit
  have hlower:lowerUnit unit∈js ".git":=h ▸ mem_map_of_mem hunit
  have hall:(js ".git").all (·<0x80)=true := by decide
  exact lt_of_lowerUnit_lt (of_decide_eq_true (all_eq_true.mp hall _ hlower))
 have hupper:segment.map upperUnit=js ".GIT" := by
  calc segment.map upperUnit=(segment.map lowerUnit).map upperUnit := by
        rw [map_map]
        exact map_congr_left fun unit _=>(upperUnit_lowerUnit unit).symm
   _ = js ".GIT" := by rw [h]; decide
 rw [isProtectedGitSegment,caseFoldKey,unicode.normalize_ascii segment hascii]
 simp only [Bool.false_eq_true,if_false,unicode.toUpperCase_ascii segment hascii,hupper,
  decide_true]

structure SafePath (unicode:Unicode) (allowGit:Bool) (path:JsString) : Prop where
 noNul : 0 ∉ path
 noBackslash : backslash ∉ path
 noColon : 0x3A ∉ path
 normal : unicode.normalize path=path
 segments : ∀segment∈segments path,classifySegment unicode allowGit segment=none

lemma classifyRelativePath_eq_none_iff : classifyRelativePath unicode path allowGit=none ↔
  0 ∉ path ∧ ¬ (backslash∈path || path.head?=some slash) ∧
   ¬ (isDeviceNamespace unicode path || isDriveRelative path) ∧ 0x3A ∉ path ∧
   unicode.normalize path=path ∧ utf8ByteLength path ≤ pathMaxUtf8Bytes ∧
   ∀segment∈segments path,classifySegment unicode allowGit segment=none := by
 rw [← findSome?_eq_none_iff,← not_lt]
 unfold classifyRelativePath
 split_ifs <;> simp_all

lemma SafePath.of_classify (h:classifyRelativePath unicode path allowGit=none) :
  SafePath unicode allowGit path := by
 obtain ⟨hnul,habs,-,hcolon,hnorm,-,hparts⟩:=classifyRelativePath_eq_none_iff.mp h
 exact ⟨hnul,fun hmem=>habs (by simp [hmem]),hcolon,hnorm,hparts⟩

lemma classifySegment_eq_none_iff : classifySegment unicode allowGit segment=none ↔
  ¬ (segment.length=0 || segment=js "." || segment=js ".." ||
   utf8ByteLength segment > pathSegmentMaxUtf8Bytes) ∧
   ¬ (segment.getLast?=some 0x20 || segment.getLast?=some 0x2E) ∧
   isReservedComponent unicode segment=false ∧ isEightDotThree unicode segment=false ∧
   (allowGit=false → isProtectedGitSegment unicode segment=false) := by
 unfold classifySegment
 split_ifs <;> simp_all

lemma classifySegment_none (h:classifySegment unicode allowGit segment=none) :
  segment≠[] ∧ segment≠js "." ∧ segment≠js ".." ∧
   (allowGit=false → isProtectedGitSegment unicode segment=false) := by
 obtain ⟨hname,-,-,-,hgit⟩:=classifySegment_eq_none_iff.mp h
 simp only [Bool.or_eq_true,decide_eq_true_eq,not_or,length_eq_zero_iff] at hname
 exact ⟨hname.1.1.1,hname.1.1.2,hname.1.2,hgit⟩

lemma SafePath.normal_segment (h:SafePath unicode allowGit path)
  (hpart:segment∈RelativePaths.segments path) : unicode.normalize segment=segment := by
 have hmap:=segments_normalize unicode path
 rw [h.normal] at hmap
 have hmap:(RelativePaths.segments path).map unicode.normalize =
   (RelativePaths.segments path).map id := by rw [← hmap,map_id]
 exact map_inj_left.mp hmap segment hpart

end

end EpistemicCompiler.RelativePaths
