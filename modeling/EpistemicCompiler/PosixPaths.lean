import EpistemicCompiler.RelativePaths

set_option autoImplicit false

/-!
# Absolute paths of a POSIX host

A resolved path is the list of its names from the root of the file system on. `resolve` and
`relative` are those of the path module of Node on such a host, where a backslash is a letter like
any other.
-/
namespace EpistemicCompiler.PosixPaths
open JsValues RelativePaths List

def IsName (name:JsString) : Prop :=
 name≠[] ∧ name≠js "." ∧ name≠js ".." ∧ slash ∉ name

structure AbsolutePath where
 names : List JsString
 proper : ∀name∈names,IsName name

def isAbsolute (path:JsString) : Bool := path.head?=some slash

def enter (here:List JsString) (segment:JsString) : List JsString :=
 if segment=[] ∨ segment=js "." then here
 else if segment=js ".." then here.dropLast
 else here++[segment]

def resolvePart (here:List JsString) (part:JsString) : List JsString :=
 (segments part).foldl enter (if isAbsolute part then [] else here)

def resolve (here parts:List JsString) : List JsString := parts.foldl resolvePart here

def dirname (names:List JsString) : List JsString := names.dropLast

def relativeNames : List JsString → List JsString → List JsString
 | [], names => names
 | from', [] => List.replicate from'.length (js "..")
 | first::from', name::names =>
   if first=name then relativeNames from' names
   else List.replicate (from'.length+1) (js "..")++name::names

def relative (from' names:List JsString) : JsString :=
 [slash].intercalate (relativeNames from' names)

lemma proper_enter {here:List JsString} (hhere:∀name∈here,IsName name)
  {segment:JsString} (hpart:slash ∉ segment) : ∀name∈enter here segment,IsName name := by
 intro name hname
 unfold enter at hname
 split_ifs at hname with hstay hup
 · exact hhere name hname
 · exact hhere name (mem_of_mem_dropLast hname)
 · rcases mem_append.mp hname with h | h
   · exact hhere name h
   · rw [mem_singleton] at h
     rw [not_or] at hstay
     exact h ▸ ⟨hstay.1,hstay.2,hup,hpart⟩

lemma proper_resolvePart {here:List JsString} (hhere:∀name∈here,IsName name)
  (part:JsString) : ∀name∈resolvePart here part,IsName name := by
 unfold resolvePart
 have hstart:∀name∈if isAbsolute part then [] else here,IsName name := by
  intro name hname
  split_ifs at hname
  · cases hname
  · exact hhere name hname
 have hparts:∀segment∈segments part,slash ∉ segment:=fun _=>slash_not_mem_segment
 generalize (if isAbsolute part then [] else here)=start at hstart
 generalize segments part=names at hparts
 induction names generalizing start with
 | nil => exact hstart
 | cons segment rest ih =>
   refine ih _ (proper_enter hstart (hparts segment mem_cons_self)) ?_
   intro other hother
   exact hparts other (mem_cons_of_mem _ hother)

lemma proper_resolve {here:List JsString} (hhere:∀name∈here,IsName name)
  (parts:List JsString) : ∀name∈resolve here parts,IsName name := by
 induction parts generalizing here with
 | nil => exact hhere
 | cons part parts ih => exact ih (proper_resolvePart hhere part)

lemma resolve_names {names:List JsString} (h:∀name∈names,IsName name)
  (here:List JsString) : resolve here names=here++names := by
 induction names generalizing here with
 | nil => exact (append_nil here).symm
 | cons name names ih =>
   have hname:=h name mem_cons_self
   have hrelative:isAbsolute name=false := by
    refine decide_eq_false fun hhead=>hname.2.2.2 ?_
    exact mem_of_mem_head? hhead
   have hpart:resolvePart here name=here++[name] := by
    rw [resolvePart,segments_name hname.2.2.2,hrelative]
    exact (if_neg (not_or.mpr ⟨hname.1,hname.2.1⟩)).trans (if_neg hname.2.2.1)
   calc resolve here (name::names)=resolve (resolvePart here name) names := rfl
    _ = (here++[name])++names := by
      rw [hpart,ih (fun other hother=>h other (mem_cons_of_mem _ hother))]
    _ = here++name::names := by rw [append_assoc]; rfl

lemma relativeNames_append (root names:List JsString) :
  relativeNames root (root++names)=names := by
 induction root with
 | nil => rfl
 | cons name root ih =>
   rw [cons_append,relativeNames,if_pos rfl]
   exact ih

lemma relativeNames_cases (root names:List JsString) :
  (∃inner,names=root++inner) ∨
   ∃rest,relativeNames root names=js ".."::rest := by
 induction root generalizing names with
 | nil => exact .inl ⟨names,rfl⟩
 | cons first root ih =>
   cases names with
   | nil => exact .inr ⟨replicate root.length (js ".."),rfl⟩
   | cons name names =>
     by_cases h : first=name
     · rw [relativeNames,if_pos h]
       rcases ih names with ⟨inner,rfl⟩ | hup
       · exact .inl ⟨inner,by rw [h]; rfl⟩
       · exact .inr hup
     · rw [relativeNames,if_neg h]
       exact .inr ⟨replicate root.length (js "..")++name::names,rfl⟩

lemma intercalate_cons_eq (name:JsString) (names:List JsString) :
  ∃rest,[slash].intercalate (name::names)=name++rest ∧
    (rest=[] ∨ rest.head?=some slash) := by
 cases names with
 | nil => exact ⟨[],by simp [intercalate],.inl rfl⟩
 | cons next names =>
   exact ⟨slash::[slash].intercalate (next::names),by simp [intercalate],.inr rfl⟩

lemma intercalate_eq_nil_iff {names:List JsString} (h:∀name∈names,IsName name) :
  [slash].intercalate names=[] ↔ names=[] := by
 cases names with
 | nil => exact iff_of_true rfl rfl
 | cons name names =>
   obtain ⟨rest,hrest,-⟩:=intercalate_cons_eq name names
   have hname:=(h name mem_cons_self).1
   rw [hrest]
   simp [hname]

end EpistemicCompiler.PosixPaths
