import EpistemicCompiler.CandidateMaterializer
import EpistemicCompiler.SymlinkResolution

set_option autoImplicit false

/-!
# Accepted trees on disk

The validator and the materialiser judge paths and link targets by rules of their own. An accepted
tree is written without an error when its entries pass the second rules too, and it reads back as it
was when it holds nothing that the writing loses.
-/
namespace EpistemicCompiler.MaterializedTrees
open JsValues TextEncodings RelativePaths ChangeSetTree ChangeSets ChangeSetEffects
 ChangeSetInvariants Option
open List hiding intercalate_cons_cons
open FallibleRuns LocalUpdates PosixPaths CandidateMaterializer SymlinkResolution

variable {services:Services} {root:List JsString}

structure Allowed (unicode:Unicode) (inner:List JsString) : Prop where
 below : inner≠[]
 start : ∀name∈inner.head?,(js "..").isPrefixOf name=false
 unprotected : ∀name∈inner,∀piece∈pieces name,isProtectedGitSegment unicode piece=false

structure EntryAllowed (unicode:Unicode) (root:List JsString) (path:JsString)
  (content:EntryContent) : Prop where
 names : Allowed unicode (segments path)
 target : ∀target digest,content=.symlink target digest →
  ∃inner,resolve (root++(segments path).dropLast) [target]=root++inner ∧
    Allowed unicode inner

variable {name path:JsString} {disk:Disk} {names:List JsString} {entry:CandidateEntry}

def Materializable (unicode:Unicode) (root:List JsString) (contents:Contents) : Prop :=
 ∀path content,contents path=some content → EntryAllowed unicode root path content

def Reproducible (contents:Contents) : Prop :=
 ∀path content,contents path=some content →
   content.entryType≠.submodule ∧ ∀bytes digest,content≠.file .executable bytes digest

def EmptyDestination (disk:Disk) (root:List JsString) : Prop :=
 (∀item,disk.lookup root=some item → item=.directory) ∧
  ∀names,names≠[] → disk.lookup (root++names)=none

def readItem (services:Services) : DiskItem → EntryContent
 | .directory => .directory
 | .file gitMode bytes => .file gitMode bytes (services.sha256Hex bytes)
 | .symlink target => .symlink target (services.sha256Hex (utf8 target))

def readBack (services:Services) (disk:Disk) (root:List JsString) : Contents := fun path=>
 (disk.lookup (root++segments path)).map (readItem services)

lemma abortWhen_ok_iff {condition:Prop} [Decidable condition] {code:MaterializeCode}
  {message:JsString} : abortWhen condition code message=.ok () ↔ ¬condition := by
 unfold abortWhen
 split_ifs with h
 · exact iff_of_false (fun heq=>by cases heq) (not_not.mpr h)
 · exact iff_of_true rfl h

lemma not_protected_nil (unicode:Unicode) : isProtectedGitSegment unicode []=false := by
 rw [isProtectedGitSegment,caseFoldKey,unicode.normalize_ascii [] (by simp [isAscii])]
 rw [if_neg (by decide),unicode.toUpperCase_ascii [] (by simp [isAscii])]
 decide

lemma assertResolvedNotProtected_ok_iff {dest:List JsString} :
  assertResolvedNotProtected services root dest path=.ok () ↔
   relative root dest≠[] ∧ ∀piece∈pieces (relative root dest),
    isProtectedGitSegment services.unicode piece=false := by
 rw [assertResolvedNotProtected,check_bind_ok_iff,abortWhen_ok_iff,forM_ok_iff]
 refine and_congr_right fun _=>forall₂_congr fun piece _=>?_
 by_cases hnil : piece.length=0
 · rw [if_pos hnil,length_eq_zero_iff.mp hnil]
   exact iff_of_true rfl (not_protected_nil _)
 · rw [if_neg hnil,abortWhen_ok_iff,isProtectedGitSegment,decide_eq_false_iff_not]

lemma pieces_intercalate (h:names≠[]) :
  pieces ([slash].intercalate names)=names.flatMap pieces := by
 induction names with
 | nil => exact absurd rfl h
 | cons name names ih =>
   cases names with
   | nil => simp [List.intercalate]
   | cons next names =>
     have hsplit:pieces (name++slash::[slash].intercalate (next::names)) =
       pieces name++pieces ([slash].intercalate (next::names)) :=
      splitOnP_append_cons _ _ (by simp)
     rw [intercalate_cons_cons,hsplit,ih (by simp)]
     rfl

lemma dots_prefix_intercalate (h:IsName name) (names:List JsString) :
  (js "..").isPrefixOf ([slash].intercalate (name::names))=(js "..").isPrefixOf name := by
 obtain ⟨rest,hrest,hend⟩:=intercalate_cons_eq name names
 rw [hrest]
 have hjs:js ".."=[0x2E,0x2E]:=rfl
 rw [hjs]
 match name, h with
 | [], h => exact absurd rfl h.1
 | [unit], _ =>
   rcases hend with rfl | hend
   · rfl
   · obtain ⟨tail,rfl⟩:=List.head?_eq_some_iff.mp hend
     have hslash:(0x2E : UInt16)≠slash := by decide
     simp [List.isPrefixOf,hslash]
 | first::second::_, _ => rfl

lemma not_isAbsolute_intercalate (h:IsName name) (names:List JsString) :
  isAbsolute ([slash].intercalate (name::names))=false := by
 obtain ⟨rest,hrest,-⟩:=intercalate_cons_eq name names
 rw [hrest]
 match name, h with
 | [], h => exact absurd rfl h.1
 | unit::_, h =>
   refine decide_eq_false fun hhead=>h.2.2.2 ?_
   rw [← some.inj hhead]
   exact mem_cons_self

/-- The two checks of a resolved path, as a condition on the names below the root. -/
lemma inside_iff (services:Services) (root:List JsString) {resolved:List JsString}
  (hresolved:∀name∈resolved,IsName name) (path:JsString) :
  (isInside root resolved=true ∧
    assertResolvedNotProtected services root resolved path=.ok ()) ↔
   ∃inner,resolved=root++inner ∧ Allowed services.unicode inner := by
 rw [assertResolvedNotProtected_ok_iff]
 rcases relativeNames_cases root resolved with ⟨inner,rfl⟩ | ⟨rest,hup⟩
 · have hinner:∀name∈inner,IsName name:=fun name hname=>
    hresolved name (mem_append_right _ hname)
   have hrelative:relative root (root++inner)=[slash].intercalate inner := by
    rw [relative,relativeNames_append]
   simp only [append_cancel_left_eq,exists_eq_left']
   rw [isInside,hrelative]
   cases inner with
   | nil => exact iff_of_false (fun h=>h.2.1 rfl) (fun h=>h.below rfl)
   | cons name names =>
     have hne:[slash].intercalate (name::names)≠[] := by
      rw [ne_eq,intercalate_eq_nil_iff hinner]
      simp
     have hname:=hinner name mem_cons_self
     simp only [hne,decide_false,Bool.false_or,dots_prefix_intercalate hname,
      not_isAbsolute_intercalate hname,Bool.not_false,Bool.and_true,Bool.not_eq_true',
      pieces_intercalate (cons_ne_nil name names),mem_flatMap,ne_eq,
      not_false_eq_true,true_and]
     constructor
     · rintro ⟨hstart,hpieces⟩
       refine ⟨cons_ne_nil _ _,?_,fun n hn piece hpiece=>hpieces piece ⟨n,hn,hpiece⟩⟩
       simpa using hstart
     · intro h
       refine ⟨h.start name rfl,?_⟩
       rintro piece ⟨n,hn,hpiece⟩
       exact h.unprotected n hn piece hpiece
 · -- A path outside is told by the `..` at the start of the way to it.
   have hrelative:∃tail,relative root resolved=0x2E::0x2E::tail := by
    obtain ⟨tail,htail,-⟩:=intercalate_cons_eq (js "..") rest
    exact ⟨tail,by rw [relative,hup,htail]; rfl⟩
   obtain ⟨tail,hrelative⟩:=hrelative
   constructor
   · rintro ⟨hinside,-⟩
     rw [isInside,hrelative] at hinside
     simp [js,List.isPrefixOf] at hinside
   · rintro ⟨inner,rfl,hallow⟩
     rw [relativeNames_append] at hup
     have hname:=hresolved (js "..") (mem_append_right _ (by rw [hup]; simp))
     exact absurd rfl hname.2.2.1

section Paths

variable {path:JsString} {unicode:Unicode}

lemma classify_without_git (h:classifyRelativePath unicode path true=none) :
  classifyRelativePath unicode path false=none ↔
   ∀segment∈segments path,isProtectedGitSegment unicode segment=false := by
 have hparts:=(SafePath.of_classify h).segments
 have hiff:(segments path).findSome? (classifySegment unicode false)=none ↔
   ∀segment∈segments path,isProtectedGitSegment unicode segment=false := by
  rw [List.findSome?_eq_none_iff]
  refine forall₂_congr fun segment hpart=>?_
  have hnone:=hparts segment hpart
  unfold classifySegment at hnone ⊢
  split_ifs at hnone ⊢ with _ _ _ _ _ hgit
  all_goals simp_all
 unfold classifyRelativePath at h ⊢
 split_ifs at h ⊢
 exact hiff

lemma isName_of_safe {allowGit:Bool}
  (h:SafePath unicode allowGit path) : ∀name∈segments path,IsName name := by
 intro name hname
 obtain ⟨hnil,hdot,hdots,-⟩:=classifySegment_none (h.segments name hname)
 exact ⟨hnil,hdot,hdots,slash_not_mem_segment hname⟩

lemma pieces_of_safe {allowGit:Bool} (h:SafePath unicode allowGit path)
  (hname:name∈segments path) : pieces name=[name] := by
 apply splitOnP_eq_singleton
 intro unit hunit
 have hslash:unit≠slash := by
  rintro rfl
  exact slash_not_mem_segment hname hunit
 have hback:unit≠backslash := by
  rintro rfl
  exact h.noBackslash (mem_of_mem_segment hname hunit)
 simp [hslash,hback]

lemma resolveInside_ok_iff (hroot:∀name∈root,IsName name)
  (h:classifyRelativePath services.unicode path true=none) {dest:List JsString} :
  resolveInside services root path=.ok dest ↔
   dest=root++segments path ∧ Allowed services.unicode (segments path) := by
 have hsafe:=SafePath.of_classify h
 have hnames:=isName_of_safe hsafe
 have hresolve:=resolve_names hnames root
 have hresolved:∀name∈root++segments path,IsName name := by
  intro name hname
  exact (mem_append.mp hname).elim (hroot name) (hnames name)
 have hinside:=inside_iff services root hresolved path
 simp only [append_cancel_left_eq,exists_eq_left'] at hinside
 unfold resolveInside
 cases hclass : classifyRelativePath services.unicode path false with
 | some code =>
   refine iff_of_false (fun heq=>by cases heq) ?_
   rintro ⟨-,hallow⟩
   have hfree:classifyRelativePath services.unicode path false=none := by
    rw [classify_without_git h]
    intro segment hpart
    refine hallow.unprotected segment hpart segment ?_
    rw [pieces_of_safe hsafe hpart]
    exact mem_singleton_self segment
   rw [hclass] at hfree
   cases hfree
 | none =>
   simp only [hresolve,check_bind_ok_iff,abortWhen_ok_iff,← and_assoc]
   rw [Bool.not_eq_true',Bool.not_eq_false,hinside,and_comm]
   refine and_congr_left fun _=>?_
   exact ⟨fun heq=>(Except.ok.inj heq).symm, fun heq=>by rw [heq]; rfl⟩

end Paths

section Entries

variable {entry:CandidateEntry}

def writtenItem : EntryContent → DiskItem
 | .directory | .submodule _ => .directory
 | .file _ bytes _ => .file .regular bytes
 | .symlink target _ => .symlink target

structure Ready (services:Services) (entry:CandidateEntry) : Prop where
 safe : classifyRelativePath services.unicode entry.path true=none
 digest : assertEntryDigest services entry=.ok ()

lemma create_ok_iff {disk':Disk} {item:DiskItem} :
  create disk names item=.ok disk' ↔
   disk.lookup names.dropLast=some .directory ∧ disk.lookup names=none ∧
    disk'=(names,item)::disk := by
 unfold create
 by_cases hparent : disk.lookup names.dropLast=some .directory
 · rw [if_neg (not_not.mpr hparent)]
   cases hnames : disk.lookup names with
   | some existing => simp
   | none => simp [hparent,eq_comm]
 · rw [if_pos hparent]
   exact iff_of_false (fun h=>by cases h) (fun h=>hparent h.1)

lemma dropLast_append_segments :
  (root++segments path).dropLast=root++(segments path).dropLast :=
 dropLast_append_of_ne_nil (segments_ne_nil path)

lemma writeEntry_ok_iff (hroot:∀name∈root,IsName name) (h:Ready services entry)
  {disk':Disk} :
  writeEntry services root disk entry (root++segments entry.path)=.ok disk' ↔
   (∀target digest,entry.content=.symlink target digest →
    ∃inner,resolve (root++(segments entry.path).dropLast) [target]=root++inner ∧
      Allowed services.unicode inner) ∧
   create disk (root++segments entry.path) (writtenItem entry.content)=.ok disk' := by
 unfold writeEntry
 cases hcontent : entry.content with
 | directory | submodule id | file gitMode bytes digest =>
   exact (and_iff_right fun _ _ heq=>by cases heq).symm
 | symlink target digest =>
   have hdir:∀name∈root++(segments entry.path).dropLast,IsName name := by
    intro name hname
    rcases mem_append.mp hname with hname | hname
    · exact hroot name hname
    · exact isName_of_safe (.of_classify h.safe) name (mem_of_mem_dropLast hname)
   have hinside:=inside_iff services root (proper_resolve hdir [target]) entry.path
   simp only [check_bind_ok_iff,abortWhen_ok_iff,dirname,dropLast_append_segments, ← and_assoc]
   rw [Bool.not_eq_true',Bool.not_eq_false,hinside]
   refine and_congr_left fun _=>⟨?_,fun hall=>hall target digest rfl⟩
   intro hone target' digest' heq
   cases heq
   exact hone

lemma materializeEntry_ok_iff (hroot:∀name∈root,IsName name) (h:Ready services entry)
  {state state':Disk×List JsString} :
  materializeEntry services root state entry=.ok state' ↔
   EntryAllowed services.unicode root entry.path entry.content ∧
    create state.1 (root++segments entry.path) (writtenItem entry.content)=.ok state'.1 ∧
     state'.2=state.2++[entry.path] := by
 unfold materializeEntry
 rw [check_bind_ok_iff,and_iff_right h.digest]
 constructor
 · intro hok
   obtain ⟨dest,hdest,hok⟩:=bind_eq_ok hok
   obtain ⟨rfl,hallow⟩:=(resolveInside_ok_iff hroot h.safe).mp hdest
   obtain ⟨disk,hdisk,hok⟩:=bind_eq_ok hok
   obtain ⟨htarget,hcreate⟩:=(writeEntry_ok_iff hroot h).mp hdisk
   cases hok
   exact ⟨⟨hallow,htarget⟩,hcreate,rfl⟩
 · rintro ⟨hallow,hcreate,hwritten⟩
   have hdest:=(resolveInside_ok_iff hroot h.safe).mpr ⟨rfl,hallow.names⟩
   have hwrite:=(writeEntry_ok_iff hroot h).mpr ⟨hallow.target,hcreate⟩
   rw [hdest,ok_bind,hwrite,ok_bind,← hwritten]
   rfl

end Entries

lemma utf16Compare_append (text rest:JsString) :
  utf16Compare (text++rest) text=rest.length := by
 induction text with
 | nil => cases rest <;> simp [utf16Compare]
 | cons unit text ih =>
   rw [cons_append,utf16Compare,if_neg (not_not.mpr rfl)]
   exact ih

lemma not_writeLe_parent {dir:CandidateEntry} (hdir:dir.content=.directory)
  (hparent:parentPath entry.path=some dir.path) : ¬writeLe entry dir := by
 have hzero:rank dir.content.entryType=0 := by rw [hdir]; rfl
 rcases path_cases entry.path with h | ⟨parent,name,h,hpath⟩
 · rw [parentPath_name h] at hparent
   cases hparent
 rw [hpath,parentPath_join parent h] at hparent
 cases hparent
 rintro (hrank | ⟨-,hle⟩)
 · omega
 · rw [hpath,unitsLe,utf16Compare_append,decide_eq_true_eq,length_cons] at hle
   omega

lemma writeLe_total (left right:CandidateEntry) : writeLe left right ∨ writeLe right left := by
 rcases Nat.lt_trichotomy (rank left.content.entryType) (rank right.content.entryType) with
  hlt | heq | hgt
 · exact .inl (.inl hlt)
 · have htotal:=unitsLe_total left.path right.path
   rw [Bool.or_eq_true] at htotal
   exact htotal.imp (fun hle=>.inr ⟨heq,hle⟩) (fun hle=>.inr ⟨heq.symm,hle⟩)
 · exact .inr (.inl hgt)

lemma writeLe_trans {a b c:CandidateEntry} (hab:writeLe a b) (hbc:writeLe b c) :
  writeLe a c := by
 rcases hab with hab | ⟨hab,hle⟩
 · rcases hbc with hbc | ⟨hbc,-⟩
   · exact .inl (by omega)
   · exact .inl (by omega)
 · rcases hbc with hbc | ⟨hbc,hle'⟩
   · exact .inl (by omega)
   · exact .inr ⟨by omega,unitsLe_trans a.path b.path c.path hle hle'⟩

lemma pairwise_sorted (entries:List CandidateEntry) :
  (entries.insertionSort writeLe).Pairwise writeLe := by
 have : Std.Total writeLe:=⟨writeLe_total⟩
 have : IsTrans CandidateEntry writeLe:=⟨fun _ _ _=>writeLe_trans⟩
 exact pairwise_insertionSort writeLe entries

section Runs

variable {entries:List CandidateEntry}

structure WritableTree (services:Services) (entries:List CandidateEntry) : Prop where
 distinct : (entries.map (·.path)).Nodup
 ready : ∀entry∈entries,Ready services entry
 parent : ∀entry∈entries,∀parent,parentPath entry.path=some parent →
  ∃dir∈entries,dir.path=parent ∧ dir.content=.directory

structure Written (root:List JsString) (start:Disk) (done:List CandidateEntry)
  (disk:Disk) : Prop where
 placed : ∀entry∈done,
  disk.lookup (root++segments entry.path)=some (writtenItem entry.content)
 frame : ∀names,(∀entry∈done,names≠root++segments entry.path) →
  disk.lookup names=start.lookup names

lemma segments_inj {other:JsString} (h:segments path=segments other) : path=other := by
 rw [← intercalate_segments path,h,intercalate_segments]

lemma Written.step {start:Disk} {done:List CandidateEntry} (h:Written root start done disk)
  (hnew:∀other∈done,other.path≠entry.path) :
  Written root start (done++[entry])
   ((root++segments entry.path,writtenItem entry.content)::disk) := by
 have hplace:∀other : CandidateEntry,other.path≠entry.path →
   root++segments other.path≠root++segments entry.path := by
  intro other hother heq
  exact hother (segments_inj (append_cancel_left heq))
 constructor
 · intro other hother
   rcases mem_append.mp hother with hdone | hlast
   · rw [lookup_cons,beq_eq_false_iff_ne.mpr (hplace other (hnew other hdone))]
     exact h.placed other hdone
   · rw [mem_singleton.mp hlast]
     exact lookup_cons_self
 · intro names hnames
   have hentry:=hnames entry (by simp)
   rw [lookup_cons,beq_eq_false_iff_ne.mpr hentry]
   exact h.frame names fun other hother=>hnames other (mem_append_left _ hother)

lemma Written.create_ok {start:Disk} {done rest:List CandidateEntry}
  (h:Written root start done disk) (htree:WritableTree services entries)
  (hsort:entries.insertionSort writeLe=done++entry::rest)
  (hroot:start.lookup root=some .directory)
  (hempty:∀names,names≠[] → start.lookup (root++names)=none) :
  disk.lookup (root++segments entry.path).dropLast=some .directory ∧
   disk.lookup (root++segments entry.path)=none ∧
    ∀other∈done,other.path≠entry.path := by
 have hmem:∀other,other∈done++entry::rest ↔ other∈entries := by
  intro other
  rw [← hsort,mem_insertionSort]
 have hdist:((done++entry::rest).map (·.path)).Nodup := by
  rw [← hsort,((perm_insertionSort writeLe entries).map _).nodup_iff]
  exact htree.distinct
 have hnew:∀other∈done,other.path≠entry.path := by
  rw [map_append,nodup_append] at hdist
  intro other hother
  exact hdist.2.2 _ (mem_map_of_mem hother) _ (by simp)
 refine ⟨?_,?_,hnew⟩
 · rw [dropLast_append_segments]
   rcases path_cases entry.path with hname | ⟨dir,name,hname,hpath⟩
   · rw [segments_name hname,dropLast_singleton,append_nil,h.frame root,hroot]
     intro other _ heq
     exact segments_ne_nil other.path (self_eq_append_right.mp heq)
   · have hparent:parentPath entry.path=some dir := by rw [hpath,parentPath_join dir hname]
     obtain ⟨folder,hfold,rfl,hdirectory⟩ :=
      htree.parent entry ((hmem entry).mp (by simp)) dir hparent
     -- Later entries and the entry itself do not come before their directory.
     have hbefore:folder∈done := by
      have hpair:=pairwise_sorted entries
      rw [hsort,pairwise_append,pairwise_cons] at hpair
      rcases mem_append.mp ((hmem folder).mpr hfold) with hdone | hlater
      · exact hdone
      rcases mem_cons.mp hlater with rfl | hrest
      · have hlen:=congrArg List.length hpath
        simp only [length_append,length_cons] at hlen
        omega
      · exact absurd (hpair.2.1.1 folder hrest) (not_writeLe_parent hdirectory hparent)
     have hplaced:=h.placed folder hbefore
     rw [hdirectory] at hplaced
     rw [hpath,segments_join,segments_name hname,dropLast_concat]
     exact hplaced
 · rw [h.frame _ fun other hother heq=>hnew other hother
    (segments_inj (append_cancel_left heq)).symm]
   exact hempty _ (segments_ne_nil _)

lemma exists_written (hroot:∀name∈root,IsName name) (htree:WritableTree services entries)
  (hallow:∀entry∈entries,EntryAllowed services.unicode root entry.path entry.content)
  {start:Disk} (hstart:start.lookup root=some .directory)
  (hempty:∀names,names≠[] → start.lookup (root++names)=none) :
  ∃state,(entries.insertionSort writeLe).foldlM (materializeEntry services root) (start,[]) =
    .ok state ∧ Written root start (entries.insertionSort writeLe) state.1 := by
 -- The entries still to write go with the disk on which the others stand.
 let remains (rest:List CandidateEntry) (state:Disk×List JsString) : Prop :=
  ∃done,entries.insertionSort writeLe=done++rest ∧ Written root start done state.1
 have hfirst:remains (entries.insertionSort writeLe) (start,[]) :=
  ⟨[],rfl,fun _ hmem=>(by cases hmem), fun _ _=>rfl⟩
 have hturn:∀entry rest state,remains (entry::rest) state →
   ∃state',materializeEntry services root state entry=.ok state' ∧ remains rest state' := by
  intro entry rest state ⟨done,hsort,hwritten⟩
  have hentry:entry∈entries := by
   rw [← mem_insertionSort writeLe,hsort]
   simp
  obtain ⟨hparent,habs,hnew⟩:=hwritten.create_ok htree hsort hstart hempty
  refine ⟨((root++segments entry.path,writtenItem entry.content)::state.1,
   state.2++[entry.path]),?_,done++[entry],?_,hwritten.step hnew⟩
  · rw [materializeEntry_ok_iff hroot (htree.ready entry hentry),create_ok_iff]
    exact ⟨hallow entry hentry,⟨hparent,habs,rfl⟩,rfl⟩
  · rw [hsort,append_assoc]
    rfl
 obtain ⟨state,hstate,done,hdone,hwritten⟩:=exists_foldlM remains hturn hfirst
 rw [append_nil] at hdone
 exact ⟨state,hstate,hdone ▸ hwritten⟩

end Runs

section Destinations

variable {disk:Disk}

lemma lookup_mkdirs (paths:List (List JsString)) (names:List JsString) :
  (paths.foldl (fun disk path=>
    if (disk.lookup path).isSome then disk else (path,.directory)::disk) disk).lookup names =
   (disk.lookup names).or (if names∈paths then some .directory else none) := by
 induction paths generalizing disk with
 | nil => simp
 | cons path paths ih =>
   rw [foldl_cons,ih]
   by_cases hpath : (disk.lookup path).isSome
   · rw [if_pos hpath]
     by_cases heq : names=path
     · obtain ⟨item,hitem⟩:=isSome_iff_exists.mp hpath
       simp [heq,hitem]
     · simp [heq]
   · rw [if_neg hpath,lookup_cons]
     have hnone:=not_isSome_iff_eq_none.mp hpath
     by_cases heq : names=path
     · simp [heq,hnone]
     · rw [beq_eq_false_iff_ne.mpr heq]
       simp [heq]

lemma EmptyDestination.lookup_root (h:EmptyDestination disk root) :
  (mkdirRecursive disk root).lookup root=some .directory := by
 rw [mkdirRecursive,lookup_mkdirs,if_pos ((mem_inits _ _).mpr (prefix_refl root))]
 cases hlook : disk.lookup root with
 | none => rfl
 | some item => rw [h.1 item hlook]; rfl

lemma EmptyDestination.lookup_below (h:EmptyDestination disk root) (hnames:names≠[]) :
  (mkdirRecursive disk root).lookup (root++names)=none := by
 have hnotin:root++names ∉ root.inits := by
  rw [mem_inits]
  intro hfront
  have hlen := hfront.length_le
  have hpos:=length_pos_iff.mpr hnames
  rw [length_append] at hlen
  omega
 rw [mkdirRecursive,lookup_mkdirs,if_neg hnotin,h.2 names hnames]
 rfl

lemma mem_of_readdir (h:name∈readdir disk root) : (disk.lookup (root++[name])).isSome := by
 obtain ⟨⟨names,item⟩,hmem,hname⟩:=mem_filterMap.mp h
 split_ifs at hname with hparent
 have hnames:names=root++[name] := by
  rw [← hparent]
  exact (dropLast_append_getLast? name hname).symm
 rw [lookup_isSome_iff]
 exact ⟨(names,item),hmem,by simp [hnames]⟩

lemma EmptyDestination.readdir_eq (h:EmptyDestination disk root) :
  readdir (mkdirRecursive disk root) root=[] := by
 refine eq_nil_iff_forall_not_mem.mpr fun name hname=>?_
 have hsome:=mem_of_readdir hname
 rw [h.lookup_below (cons_ne_nil name [])] at hsome
 cases hsome

end Destinations

section Accepted

variable {changeSet:ChangeSet} {baseline:ChangeSetBaseline} {result:AppliedCandidateTree}
 {base final:EphemeralTree}

def LinkDigested (services:Services) (node:TreeNode) : Prop :=
 ∀target digest,node.content=.symlink target digest →
   digest=services.sha256Hex (utf8 target)

lemma linkDigested_rewrite {operation:ChangeOperation} {node:Option TreeNode}
  {node':TreeNode} (h:rewrite services operation node=some node') :
  LinkDigested services node' := by
 intro target digest hcontent
 unfold rewrite at h
 split at h
 · split at h <;> cases h
   cases hcontent
 · cases h
   cases hcontent
 · cases h
   cases hcontent
 · cases h
   cases hcontent
 · cases h
   cases hcontent
 · cases h
   cases hcontent
   rfl
 · cases h

lemma linkDigested_final (h:Accepted services changeSet baseline result base final) :
  ∀path node,final.get path=some node → LinkDigested services node := by
 rw [h.applied.get]
 refine run_invariant (fun _ _ _ _=>linkDigested_rewrite) (fun _ _ hnode=>hnode) ?_
 intro path node hnode
 have hmem:=EphemeralTree.mem_of_get hnode
 rw [h.built.nodes] at hmem
 have hread:=h.built.digests node hmem
 intro target digest hcontent
 simp only [fromBaseline,hcontent] at hread
 split_ifs at hread with hdigest
 · cases hread
 · exact (not_not.mp hdigest).symm

lemma writableTree_of_accepted (h:Accepted services changeSet baseline result base final) :
  WritableTree services result.entries := by
 have hsound:=sound_of_assertInvariants h.invariants
 refine ⟨?_,fun entry hentry=>⟨?_,?_⟩, fun entry hentry parent hparent=>?_⟩
 · rw [(h.perm_entries.map _).nodup_iff,List.map_map]
   exact final.distinct
 · obtain ⟨node,hnode,rfl⟩:=h.exists_node hentry
   exact hsound.safe node hnode
 · obtain ⟨node,hnode,rfl⟩:=h.exists_node hentry
   have hget:=EphemeralTree.get_of_mem hnode
   unfold assertEntryDigest
   cases hcontent : node.content with
   | file gitMode bytes digest =>
     exact abortWhen_ok_iff.mpr
      (not_not.mpr (digested_final h _ node hget gitMode bytes digest hcontent).symm)
   | symlink target digest =>
     exact abortWhen_ok_iff.mpr
      (not_not.mpr (linkDigested_final h _ node hget target digest hcontent).symm)
   | directory => rfl
   | submodule id => rfl
 · obtain ⟨node,hnode,rfl⟩:=h.exists_node hentry
   obtain ⟨dir,hdir,hpath,hdirectory⟩:=hsound.parent_directory hnode hparent
   exact ⟨dir.toCandidateEntry,h.mem_entries hdir,hpath,hdirectory⟩

lemma contentsOf_eq_some_iff {entries:List CandidateEntry} (h:(entries.map (·.path)).Nodup)
  {content:EntryContent} : contentsOf entries path=some content ↔ ⟨path,content⟩∈entries := by
 rw [contentsOf,map_eq_some_iff]
 constructor
 · rintro ⟨entry,hentry,rfl⟩
   obtain ⟨hmem,rfl⟩:=(entryAt_eq_some_iff h).mp hentry
   exact hmem
 · intro hmem
   exact ⟨⟨path,content⟩,(entryAt_eq_some_iff h).mpr ⟨hmem,rfl⟩,rfl⟩

lemma readItem_writtenItem_iff (h:Ready services entry) :
  readItem services (writtenItem entry.content)=entry.content ↔
   entry.content.entryType≠.submodule ∧
    ∀bytes digest,entry.content≠.file .executable bytes digest := by
 have hdigest:=h.digest
 unfold assertEntryDigest at hdigest
 cases hcontent : entry.content with
 | directory | submodule => simp [writtenItem,readItem,EntryContent.entryType]
 | file gitMode bytes digest =>
   rw [hcontent] at hdigest
   have hsame:=not_not.mp (abortWhen_ok_iff.mp hdigest)
   cases gitMode <;> simp [writtenItem,readItem,EntryContent.entryType,hsame]
 | symlink target digest =>
   rw [hcontent] at hdigest
   have hsame:=not_not.mp (abortWhen_ok_iff.mp hdigest)
   simp [writtenItem,readItem,EntryContent.entryType,hsame]

lemma readBack_eq_iff {entries:List CandidateEntry} (htree:WritableTree services entries)
  {start:Disk}
  (hwritten:Written root start (entries.insertionSort writeLe) disk)
  (hempty:∀names,names≠[] → start.lookup (root++names)=none) :
  readBack services disk root=contentsOf entries ↔ Reproducible (contentsOf entries) := by
 have hplaced:∀entry∈entries,readBack services disk root entry.path =
   some (readItem services (writtenItem entry.content)) := by
  intro entry hentry
  rw [readBack,hwritten.placed entry ((mem_insertionSort _).mpr hentry)]
  rfl
 have hfree:∀path,contentsOf entries path=none → readBack services disk root path=none := by
  intro path hnone
  have hframe:=hwritten.frame (root++segments path) (by
   intro entry hentry heq
   have hpath:=segments_inj (append_cancel_left heq)
   have hsome:=(contentsOf_eq_some_iff htree.distinct).mpr ((mem_insertionSort _).mp hentry)
   rw [← hpath,hnone] at hsome
   cases hsome)
  rw [readBack,hframe,hempty _ (segments_ne_nil path)]
  rfl
 constructor
 · intro heq path content hcontent
   have hmem:=(contentsOf_eq_some_iff htree.distinct).mp hcontent
   have hread:=hplaced _ hmem
   rw [heq,hcontent] at hread
   exact (readItem_writtenItem_iff (htree.ready _ hmem)).mp (some.inj hread).symm
 · intro hrepr
   funext path
   cases hcontent : contentsOf entries path with
   | none => exact hfree path hcontent
   | some content =>
     have hmem:=(contentsOf_eq_some_iff htree.distinct).mp hcontent
     rw [hplaced _ hmem,some_inj]
     exact (readItem_writtenItem_iff (htree.ready _ hmem)).mpr (hrepr path content hcontent)

lemma materialize_ok_iff (h:Accepted services changeSet baseline result base final)
  {cwd:AbsolutePath} {destRoot:JsString}
  (hempty:EmptyDestination disk (resolve cwd.names [destRoot]))
  {outcome:Disk×MaterializeResult} :
  materializeCandidateTree services cwd disk destRoot result.entries=.ok outcome ↔
   ∃state,(result.entries.insertionSort writeLe).foldlM
     (materializeEntry services (resolve cwd.names [destRoot]))
     (mkdirRecursive disk (resolve cwd.names [destRoot]),[])=.ok state ∧
     outcome=(state.1,⟨result.materializedTreeDigest,state.2⟩) := by
 unfold materializeCandidateTree
 simp only [check_bind_ok_iff,abortWhen_ok_iff,hempty.readdir_eq,length_nil,gt_iff_lt,
  lt_irrefl,not_false_eq_true,true_and,h.digest]
 constructor
 · intro hok
   obtain ⟨state,hstate,hok⟩:=bind_eq_ok hok
   exact ⟨state,hstate,(Except.ok.inj hok).symm⟩
 · rintro ⟨state,hstate,rfl⟩
   rw [hstate]
   rfl

/-- An accepted tree is written without an error exactly when the materialiser's own rules let its
paths and targets through, and then it reads back exactly when nothing in it is executable or a
submodule. -/
theorem materialized_iff (services:Services) (changeSet:ChangeSet)
  (baseline:ChangeSetBaseline) (result:AppliedCandidateTree)
  (haccepted:validateAndApplyChangeSet services changeSet baseline=.ok result)
  (cwd:AbsolutePath) (destRoot:JsString) (disk:Disk)
  (hempty:EmptyDestination disk (resolve cwd.names [destRoot])) :
  ((∃outcome,materializeCandidateTree services cwd disk destRoot result.entries =
     .ok outcome) ↔
    Materializable services.unicode (resolve cwd.names [destRoot])
     (describedContents services baseline changeSet.operations)) ∧
  ((∃outcome,materializeCandidateTree services cwd disk destRoot result.entries =
     .ok outcome ∧
      readBack services outcome.1 (resolve cwd.names [destRoot]) =
       contentsOf result.entries) ↔
    Materializable services.unicode (resolve cwd.names [destRoot])
     (describedContents services baseline changeSet.operations) ∧
    Reproducible (describedContents services baseline changeSet.operations)) := by
 obtain ⟨base,final,h⟩:=accepted_of_ok haccepted
 have htree:=writableTree_of_accepted h
 have hroot:=proper_resolve cwd.proper [destRoot]
 have hcontents:∀entry∈result.entries,
   contentsOf result.entries entry.path=some entry.content := fun entry hentry=>
  (contentsOf_eq_some_iff htree.distinct).mpr hentry
 have hnecessary:∀outcome,materializeCandidateTree services cwd disk destRoot result.entries =
   .ok outcome → Materializable services.unicode (resolve cwd.names [destRoot])
    (contentsOf result.entries) := by
  intro outcome hok path content hcontent
  obtain ⟨state,hstate,-⟩:=(materialize_ok_iff h hempty).mp hok
  have hmem:=(contentsOf_eq_some_iff htree.distinct).mp hcontent
  obtain ⟨before,after,hturn⟩:=exists_turn_of_foldlM hstate _
   ((mem_insertionSort _).mpr hmem)
  exact ((materializeEntry_ok_iff hroot (htree.ready _ hmem)).mp hturn).1
 have hsufficient:Materializable services.unicode (resolve cwd.names [destRoot])
   (contentsOf result.entries) → ∃outcome,
    materializeCandidateTree services cwd disk destRoot result.entries=.ok outcome ∧
     Written (resolve cwd.names [destRoot]) (mkdirRecursive disk (resolve cwd.names [destRoot]))
      (result.entries.insertionSort writeLe) outcome.1 := by
  intro hallowed
  obtain ⟨state,hstate,hwritten⟩:=exists_written hroot htree
   (fun entry hentry=>hallowed _ _ (hcontents entry hentry)) hempty.lookup_root
   fun names hnames=>hempty.lookup_below hnames
  exact ⟨_,(materialize_ok_iff h hempty).mpr ⟨state,hstate,rfl⟩,hwritten⟩
 rw [← contentsOf_described h]
 refine ⟨⟨fun ⟨outcome,hok⟩=>hnecessary outcome hok, fun hallowed=>?_⟩,?_,?_⟩
 · obtain ⟨outcome,hok,-⟩:=hsufficient hallowed
   exact ⟨outcome,hok⟩
 · rintro ⟨outcome,hok,hread⟩
   have hallowed:=hnecessary outcome hok
   obtain ⟨outcome',hok',hwritten⟩:=hsufficient hallowed
   rw [hok] at hok'
   cases hok'
   exact ⟨hallowed,(readBack_eq_iff htree hwritten fun names hnames=>
    hempty.lookup_below hnames).mp hread⟩
 · rintro ⟨hallowed,hreproducible⟩
   obtain ⟨outcome,hok,hwritten⟩:=hsufficient hallowed
   exact ⟨outcome,hok,(readBack_eq_iff htree hwritten fun names hnames=>
    hempty.lookup_below hnames).mpr hreproducible⟩

def sampleRoot : AbsolutePath := ⟨[],fun _ h=>by cases h⟩

def sampleDisk : Disk := [([],.directory),([js "t"],.directory)]

lemma sampleDisk_empty : EmptyDestination sampleDisk (resolve sampleRoot.names [js "/t"]) := by
 refine ⟨fun item hitem=>?_, fun names hnames=>?_⟩
 · exact (some.inj hitem).symm
 · cases names with
   | nil => exact absurd rfl hnames
   | cons name names => rfl

theorem materialized_iff_sample :
  ∃result,validateAndApplyChangeSet sampleServices
    (sampleChangeSet [.createDirectory (js "b")]) (sampleBaseline [sampleDirectory "a"]) =
     .ok result ∧
    Materializable asciiTables (resolve sampleRoot.names [js "/t"])
     (describedContents sampleServices (sampleBaseline [sampleDirectory "a"])
      [.createDirectory (js "b")]) := by
 obtain ⟨result,hresult,hrun⟩:=exists_ok_of_any (show (validateAndApplyChangeSet sampleServices
  (sampleChangeSet [.createDirectory (js "b")])
  (sampleBaseline [sampleDirectory "a"])).toOption.any (fun result=>
   (materializeCandidateTree sampleServices sampleRoot sampleDisk (js "/t")
    result.entries).isOk)=true by decide +kernel)
 have hiff:=materialized_iff _ _ _ _ hresult sampleRoot (js "/t") sampleDisk sampleDisk_empty
 exact ⟨result,hresult,hiff.1.mp (exists_ok_of_isOk hrun)⟩

/-- A link to the root of the tree is accepted and cannot be written. -/
theorem link_to_root_not_materialized :
  ∃result,validateAndApplyChangeSet sampleServices
    (sampleChangeSet [.symlink (js "d/l") (js "..") none sampleDigest])
    (sampleBaseline [sampleDirectory "d"])=.ok result ∧
    EmptyDestination sampleDisk (resolve sampleRoot.names [js "/t"]) ∧
    ¬∃outcome,materializeCandidateTree sampleServices sampleRoot sampleDisk (js "/t")
     result.entries=.ok outcome := by
 obtain ⟨result,hresult,hrun⟩:=exists_ok_of_any (show (validateAndApplyChangeSet sampleServices
  (sampleChangeSet [.symlink (js "d/l") (js "..") none sampleDigest])
  (sampleBaseline [sampleDirectory "d"])).toOption.any (fun result=>
   !(materializeCandidateTree sampleServices sampleRoot sampleDisk (js "/t")
     result.entries).isOk)=true by decide +kernel)
 refine ⟨result,hresult,sampleDisk_empty,?_⟩
 rintro ⟨outcome,hok⟩
 rw [hok] at hrun
 cases hrun

end Accepted

end EpistemicCompiler.MaterializedTrees
