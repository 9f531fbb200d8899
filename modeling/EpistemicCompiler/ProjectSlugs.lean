import Mathlib

set_option autoImplicit false

/-!
# The project id of a remote

`slug_from_origin` folds a URL to lower case, keeps the last part of it that is not empty and trims
what a project id may not begin or end with. The normal form of Unicode is a parameter.
-/
namespace EpistemicCompiler.ProjectSlugs
open List Char

def projectIdMaxBytes : ℕ := 128

def byteLength (text:List Char) : ℕ := (text.map utf8Size).sum

def trimStartText (pattern:List Char) : ℕ → List Char → List Char
 | 0, text => text
 | fuel+1, text =>
   if pattern.isPrefixOf text then trimStartText pattern fuel (text.drop pattern.length) else text

def trimEndText (text pattern:List Char) : List Char :=
 (trimStartText pattern.reverse text.length text.reverse).reverse

def trimMatches (ch:Char) (text:List Char) : List Char :=
 (text.dropWhile (·=ch)).rdropWhile (·=ch)

def isSlugChar (ch:Char) : Bool := ch.isAlphanum || ch = '.' || ch = '_' || ch = '-'

def pushSlug (slug:List Char) (ch:Char) : List Char :=
 if isSlugChar ch then slug++[ch]
 else if slug.getLast?=some '-' then slug
 else slug++['-']

def takeBytes : List Char → List Char → List Char
 | out, [] => out
 | out, ch::rest =>
   if byteLength (out++[ch]) > projectIdMaxBytes then out else takeBytes (out++[ch]) rest

def truncateProjectId (value:List Char) : List Char :=
 (takeBytes [] value).rdropWhile (·∈['-','.','_'])

variable (nfc:List Char → List Char)

def slugFromOrigin (url:List Char) : Option (List Char) := do
 let folded:=(nfc url).map toLower
 let trimmed:=trimEndText ((folded.rdropWhile (· = '/')).rdropWhile (· = '\\')) ".git".toList
 let last ← (trimmed.splitOnP (·∈['/',':','\\'])).reverse.find? (·≠[])
 let slug:=trimMatches '.' (trimMatches '-' (last.foldl pushSlug []))
 let slug:=slug.dropWhile fun ch=>!ch.isAlphanum
 if slug.head?.any isAlphanum then some (truncateProjectId slug) else none

def isIdChar (ch:Char) : Bool :=
 ch.isLower || ch.isDigit || ch = '.' || ch = '_' || ch = '-'

def isProjectId (value:List Char) : Bool :=
 if value=[] || byteLength value > projectIdMaxBytes || nfc value≠value then false
 else if !value.head?.any fun ch=>ch.isLower || ch.isDigit then false
 else value.all isIdChar

section

variable {text pattern:List Char} {ch:Char}

lemma mem_trimStartText {fuel:ℕ} (h:ch∈trimStartText pattern fuel text) : ch∈text := by
 induction fuel generalizing text with
 | zero => exact h
 | succ fuel ih =>
   unfold trimStartText at h
   split_ifs at h
   · exact mem_of_mem_drop (ih h)
   · exact h

lemma mem_of_mem_rdropWhile {p:Char → Bool} (h:ch∈text.rdropWhile p) : ch∈text :=
  rdropWhile_prefix _ _ |>.subset h

lemma mem_of_mem_trimMatches {mark:Char} (h:ch∈trimMatches mark text) : ch∈text :=
 (dropWhile_suffix _).subset (mem_of_mem_rdropWhile h)

lemma mem_of_mem_splitOnP {p:Char → Bool} {part:List Char} (hpart:part∈text.splitOnP p)
  (h:ch∈part) : ch∈text := by
 induction text generalizing part with
 | nil => simp_all
 | cons first text ih =>
   rw [splitOnP_cons_eq_if_modifyHead] at hpart
   split_ifs at hpart
   · rcases mem_cons.mp hpart with rfl | hpart
     · cases h
     · exact mem_cons_of_mem _ (ih hpart h)
   · obtain ⟨head,rest,hsplit⟩:=exists_cons_of_ne_nil (splitOnP_ne_nil p text)
     rw [hsplit] at ih hpart
     rcases mem_cons.mp hpart with rfl | hpart
     · exact (mem_cons.mp h).imp_right (ih mem_cons_self) |> mem_cons.mpr
     · exact mem_cons_of_mem _ (ih (mem_cons_of_mem _ hpart) h)

lemma foldl_pushSlug {slug:List Char} (hslug:∀ch∈slug,isIdChar ch)
  (h:∀ch∈text,isSlugChar ch → isIdChar ch) : ∀ch∈text.foldl pushSlug slug,isIdChar ch := by
 induction text generalizing slug with
 | nil => exact hslug
 | cons first text ih =>
   obtain ⟨hfirst,h⟩:=forall_mem_cons.mp h
   refine ih ?_ h
   unfold pushSlug
   split_ifs with hchar
   · exact forall_mem_append.mpr ⟨hslug,by simpa using hfirst hchar⟩
   · exact hslug
   · exact forall_mem_append.mpr ⟨hslug,forall_mem_singleton.mpr rfl⟩

lemma takeBytes_spec {out rest:List Char} (h:byteLength out ≤ projectIdMaxBytes) :
  out <+: takeBytes out rest ∧ takeBytes out rest <+: out++rest ∧
   byteLength (takeBytes out rest) ≤ projectIdMaxBytes := by
 induction rest generalizing out with
 | nil => simpa [takeBytes] using h
 | cons first rest ih =>
   unfold takeBytes
   split_ifs with hlong
   · exact ⟨prefix_rfl,prefix_append _ _,h⟩
   · obtain ⟨hout,hrest,hlen⟩:=ih (not_lt.mp hlong)
     exact ⟨(prefix_append _ _).trans hout,by simpa using hrest,hlen⟩

lemma isIdChar_toLower (h:isSlugChar ch.toLower) : isIdChar ch.toLower := by
 have hupper:ch.toLower.isUpper=false := by
  simp only [toLower,isUpper]
  split <;> grind
 simpa [isSlugChar,isIdChar,isAlphanum,isAlpha,hupper] using h

lemma utf8Size_of_isIdChar (h:isIdChar ch) : ch.utf8Size=1 := by
 simp only [isIdChar,isLower,isDigit,Bool.or_eq_true,decide_eq_true_eq] at h
 rcases h with ((h | rfl) | rfl) | rfl
 · rw [utf8Size_eq_one_iff]
   grind
 · rfl
 · rfl
 · rfl

/-- What is left of a text that begins with a letter or a digit begins with it, too. -/
lemma truncateProjectId_spec {rest:List Char} (hch:ch.isAlphanum) (hid:isIdChar ch) :
  ∃more,truncateProjectId (ch::rest)=ch::more ∧ more ⊆ rest ∧
   byteLength (ch::more) ≤ projectIdMaxBytes := by
 have hone:byteLength [ch] ≤ projectIdMaxBytes := by
  simp [byteLength,utf8Size_of_isIdChar hid,projectIdMaxBytes]
 obtain ⟨⟨more,hout⟩,hrest,hlen⟩:=@takeBytes_spec [ch] rest hone
 have htake:takeBytes [] (ch::rest)=ch::more := by
  rw [takeBytes,nil_append,if_neg (not_lt.mpr hone),← hout]
  rfl
 rw [← hout,singleton_append] at hrest hlen
 obtain ⟨tail,htail⟩ := rdropWhile_prefix (·∈['-','.','_']) (ch::more)
 rw [truncateProjectId,htake]
 cases hleft : (ch::more).rdropWhile (·∈['-','.','_']) with
 | nil =>
   have hdrop:=rdropWhile_eq_nil_iff.mp hleft ch mem_cons_self
   simp only [mem_cons,not_mem_nil,or_false,decide_eq_true_eq] at hdrop
   rcases hdrop with rfl | rfl | rfl <;> cases hch
 | cons first left =>
   rw [hleft,cons_append] at htail
   obtain ⟨rfl,rfl⟩:=cons.inj htail
   refine ⟨left,rfl,fun c hc=>?_,?_⟩
   · exact (cons_prefix_cons.mp hrest).2.subset (mem_append_left _ hc)
   · simp only [byteLength,map_cons,map_append,sum_cons,sum_append] at hlen ⊢
     omega

variable {nfc}

theorem slug_is_project_id (hnfc:∀text,(∀ch∈text,ch.utf8Size=1) → nfc text=text)
  {url slug:List Char} (h:slugFromOrigin nfc url=some slug) : isProjectId nfc slug=true := by
 obtain ⟨last,hlast,h⟩:=Option.bind_eq_some_iff.mp h
 obtain ⟨hhead,h⟩:=Option.ite_none_right_eq_some.mp h
 have hchars:∀ch∈last.foldl pushSlug [],isIdChar ch := by
  refine foldl_pushSlug (by simp) fun ch hch hslug=>?_
  have hmem:=mem_of_mem_splitOnP (mem_reverse.mp (mem_of_find?_eq_some hlast)) hch
  replace hmem:=mem_reverse.mp (mem_trimStartText (mem_reverse.mp hmem))
  replace hmem:=mem_of_mem_rdropWhile (mem_of_mem_rdropWhile hmem)
  obtain ⟨ch,-,rfl⟩:=mem_map.mp hmem
  exact isIdChar_toLower hslug
 have hids:∀ch∈(trimMatches '.' (trimMatches '-' (last.foldl pushSlug []))).dropWhile
   (fun ch=>!ch.isAlphanum),isIdChar ch := by
  intro ch hch
  replace hch:=(dropWhile_suffix _).subset hch
  exact hchars ch (mem_of_mem_trimMatches (mem_of_mem_trimMatches hch))
 generalize (trimMatches '.' _).dropWhile _ = value at *
 cases value with
 | nil => cases hhead
 | cons ch rest =>
   obtain ⟨hch,hrest⟩:=forall_mem_cons.mp hids
   obtain ⟨more,hslug,hmore,hlength⟩:=@truncateProjectId_spec ch rest hhead hch
   rw [hslug] at h
   cases h
   have hall:∀c∈ch::more,isIdChar c :=
    forall_mem_cons.mpr ⟨hch,fun c hc=>hrest c (hmore hc)⟩
   have hnormal:=hnfc _ fun c hc=>utf8Size_of_isIdChar (hall c hc)
   have hfirst:ch.isLower || ch.isDigit := by
    simp only [isIdChar,Bool.or_eq_true,decide_eq_true_eq] at hch ⊢
    rcases hch with ((hch | rfl) | rfl) | rfl
    · exact hch
    · cases hhead
    · cases hhead
    · cases hhead
   rw [isProjectId,if_neg (by simp [hnormal,hlength]),
    if_neg (by simpa [or_iff_not_imp_left] using hfirst)]
   exact all_eq_true.mpr hall

theorem slug_is_project_id_sample : isProjectId id "my-app".toList=true :=
 @slug_is_project_id id (fun _ _=>rfl) "https://github.com/Acme/My App.git".toList "my-app".toList
  (by decide)

end

end EpistemicCompiler.ProjectSlugs
