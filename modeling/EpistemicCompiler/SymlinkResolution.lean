import EpistemicCompiler.ChangeSetInvariants
import EpistemicCompiler.PathWalks

set_option autoImplicit false

/-!
# Where symbolic links lead

`assertSymlinkTargetContained` takes every name in the target of a link for a directory. A file
system follows the links among these names, so that a `..` after them is taken from another
directory than the text suggests.
-/
namespace EpistemicCompiler.SymlinkResolution
open JsValues RelativePaths ChangeSetTree ChangeSets ChangeSetEffects ChangeSetInvariants List
 Option
open FallibleRuns LocalUpdates PathWalks

variable (path:JsString) {segment:JsString}

abbrev Contents := JsString → Option EntryContent

variable (contents:Contents)

def component (segment:JsString) : Component JsString :=
 if segment=[] ∨ segment=js "." then .stay
 else if segment=js ".." then .up
 else .child segment

def components : List (Component JsString) := (segments path).map component

def joinPath (names:List JsString) : JsString := [slash].intercalate names

def itemOf : EntryContent → Item JsString
 | .directory | .submodule _ => .folder
 | .symlink target _ =>
   if target.head?=some slash then .outside else .link (components target)
 | .file .. => .leaf

def itemAt (names:List JsString) : Option (Item JsString) :=
 if ∃name∈names,slash∈name then none else (contents (joinPath names)).map itemOf

def LinksContained : Prop :=
 ∀path target digest,contents path=some (.symlink target digest) →
   ∀state,Walks (itemAt contents) ⟨[],components path⟩ state →
     ¬Escapes (itemAt contents) state

/-- A link whose target goes through another link to the root, and then up. -/
def ClimbsThroughLink : Prop :=
 ∃path target digest dir name front back,contents path=some (.symlink target digest) ∧
   segments path=dir++[name] ∧ components target=front++.up::back ∧
   Walks (itemAt contents) ⟨dir,front⟩ ⟨[],[]⟩ ∧ ThroughLink (itemAt contents) dir front

def contentsOf (entries:List CandidateEntry) : Contents := fun path=>
 (entryAt entries path).map (·.content)

def describedContents (services:Services) (baseline:ChangeSetBaseline)
    (operations:List ChangeOperation) : Contents := fun path=>
 (run (effect services) operations (fun path=>baseline.entries.find? (·.path=path)) path).map
  (·.content)

section Names

variable {contents:Contents}

lemma itemAt_segments : itemAt contents (segments path)=(contents path).map itemOf := by
 have hslash:¬∃name∈segments path,slash∈name:=fun ⟨name,hname,hmem⟩=>
  slash_not_mem_segment hname hmem
 rw [itemAt,if_neg hslash,joinPath,intercalate_segments]

lemma exists_content_of_itemAt {names:List JsString} (hnames:names≠[])
  {item:Item JsString} (h:itemAt contents names=some item) :
  ∃path content,segments path=names ∧ contents path=some content ∧
    itemOf content=item := by
 unfold itemAt at h
 split_ifs at h with hslash
 obtain ⟨content,hcontent,hitem⟩:=map_eq_some_iff.mp h
 refine ⟨joinPath names,content,?_,hcontent,hitem⟩
 exact splitOn_intercalate slash (fun name hname hmem=>hslash ⟨name,hname,hmem⟩) hnames

lemma exists_link_of_itemAt {names:List JsString} (hnames:names≠[])
  {target':List (Component JsString)} (h:itemAt contents names=some (.link target')) :
  ∃path target digest,segments path=names ∧
    contents path=some (.symlink target digest) ∧ components target=target' := by
 obtain ⟨path,content,hpath,hcontent,hitem⟩:=exists_content_of_itemAt hnames h
 cases content with
 | symlink target digest =>
   simp only [itemOf] at hitem
   split_ifs at hitem
   exact ⟨path,target,digest,hpath,hcontent,Item.link.inj hitem⟩
 | file gitMode bytes digest | directory | submodule id => cases hitem

lemma followTarget_eq_follow (parts names:List JsString) :
  followTarget parts names=follow parts (names.map component) := by
 induction names generalizing parts with
 | nil => cases parts <;> rfl
 | cons name names ih =>
   rw [followTarget,map_cons,component]
   by_cases hstay : name=[] ∨ name=js "."
   · have hskip:(name.length=0 || name=js ".")=true := by simpa using hstay
     rw [if_pos hskip,if_pos hstay,ih]
     cases parts <;> rfl
   have hskip:¬(name.length=0 || name=js ".")=true := by simpa using hstay
   rw [if_neg hskip,if_neg hstay]
   by_cases hup : name=js ".."
   · rw [if_pos hup,if_pos hup]
     cases parts with
     | nil => rfl
     | cons part parts =>
       rw [if_neg (by simp),ih]
       rfl
   · rw [if_neg hup,if_neg hup,ih]
     cases parts <;> rfl

lemma parts_of_parentPath :
  ((parentPath path).map segments).getD []=(segments path).dropLast := by
 rcases path_cases path with h | ⟨dir,name,h,rfl⟩
 · rw [parentPath_name h,segments_name h]
   rfl
 · rw [parentPath_join dir h,segments_join,segments_name h,dropLast_concat]
   rfl

lemma segments_replaceBackslashes (text:JsString) :
  segments (replaceBackslashes text) =
   (segments text).flatMap fun segment=>segments (replaceBackslashes segment) := by
 induction text using path_induction with
 | hname name h => rw [segments_name h,flatMap_singleton]
 | hjoin dir name h ih =>
   have hreplace:replaceBackslashes (dir++slash::name) =
     replaceBackslashes dir++slash::replaceBackslashes name := by
    simp [replaceBackslashes]
   rw [hreplace,segments_join,segments_join,ih,flatMap_append,segments_name h, flatMap_singleton]

lemma segments_of_plain (unicode:Unicode) (hslash:slash ∉ segment)
  (hback:backslash ∉ segment) (hnorm:unicode.normalize segment=segment) :
  segments (replaceBackslashes (unicode.normalize segment))=[segment] := by
 have hreplace:replaceBackslashes segment=segment := by
  conv_rhs => rw [← map_id segment]
  refine map_congr_left fun unit hunit=>if_neg ?_
  rintro rfl
  exact hback hunit
 rw [hnorm,hreplace,segments_name hslash]

end Names

section Trees

structure LinkTree (unicode:Unicode) (contents:Contents) : Prop where
 safe : ∀path content,contents path=some content → SafePath unicode true path
 parent : ∀path content parent,contents path=some content →
  parentPath path=some parent → contents parent=some .directory
 target : ∀path target digest,contents path=some (.symlink target digest) →
  ContainedTarget unicode path target

variable {unicode:Unicode} {contents:Contents}

lemma component_of_safe {allowGit:Bool} {path:JsString} (h:SafePath unicode allowGit path)
  (hpart:segment∈segments path) : component segment=.child segment := by
 obtain ⟨hnil,hdot,hdots,-⟩:=classifySegment_none (h.segments segment hpart)
 rw [component,if_neg (by tauto),if_neg hdots]

lemma LinkTree.walks_to_parent (h:LinkTree unicode contents) {path:JsString}
  {content:EntryContent} (hcontent:contents path=some content)
  (rest:List (Component JsString)) :
  Walks (itemAt contents) ⟨[],(segments path).dropLast.map component++rest⟩
   ⟨(segments path).dropLast,rest⟩ := by
 induction path using path_induction generalizing content rest with
 | hname name hname =>
   rw [segments_name hname]
   exact .refl
 | hjoin dir name hname ih =>
   have hdir:=h.parent _ _ dir hcontent (parentPath_join dir hname)
   rw [segments_join,segments_name hname,dropLast_concat]
   obtain ⟨names,last,hparts⟩ : ∃names last,segments dir=names++[last] :=
    ⟨_,_,(dropLast_append_getLast (segments_ne_nil dir)).symm⟩
   have hwalk:=ih hdir (component last::rest)
   have hlast:component last=.child last :=
    component_of_safe (h.safe _ _ hdir) (by rw [hparts]; simp)
   have hfold:itemAt contents (names++[last])=some .folder := by
    rw [← hparts,itemAt_segments,hdir]
    rfl
   rw [hparts,dropLast_concat,hlast] at hwalk
   rw [hparts,map_append,map_singleton,hlast,append_assoc]
   exact hwalk.tail (step_folder hfold)

lemma LinkTree.not_outside (h:LinkTree unicode contents) (here:List JsString)
  (name:JsString) : itemAt contents (here++[name])≠some .outside := by
 intro hitem
 obtain ⟨path,content,-,hcontent,hitem⟩:=exists_content_of_itemAt (by simp) hitem
 cases content with
 | symlink target digest =>
   simp only [itemOf] at hitem
   split_ifs at hitem with hhead
   refine (h.target path target digest hcontent).relative ?_
   obtain ⟨rest,rfl⟩:=head?_eq_some_iff.mp hhead
   have hsplit:=unicode.normalize_slash [] rest
   rw [unicode.normalize_ascii [] (fun _ hmem=>by cases hmem)] at hsplit
   rw [nil_append,nil_append] at hsplit
   rw [hsplit]
   rfl
 | file gitMode bytes digest | directory | submodule id => cases hitem

lemma LinkTree.plain_of_folder (h:LinkTree unicode contents) {here:List JsString}
  {name:JsString} (hitem:itemAt contents (here++[name])=some .folder) :
  backslash ∉ name ∧ unicode.normalize name=name := by
 obtain ⟨path,content,hpath,hcontent,-⟩:=exists_content_of_itemAt (by simp) hitem
 have hsafe:=h.safe path content hcontent
 have hname:name∈segments path := by rw [hpath]; simp
 exact ⟨fun hback=>hsafe.noBackslash (mem_of_mem_segment hname hback), hsafe.normal_segment hname⟩

lemma component_cases :
  segment∈[[],js ".",js ".."] ∨ component segment=.child segment := by
 unfold component
 by_cases hstay : segment=[] ∨ segment=js "."
 · rcases hstay with rfl | rfl <;> simp
 · rw [if_neg hstay]
   by_cases hup : segment=js ".."
   · exact .inl (by simp [hup])
   · exact .inr (if_neg hup)

lemma eq_dots_of_component (h:component segment=.up) : segment=js ".." := by
 unfold component at h
 split_ifs at h with hstay hup
 exact hup

lemma plain_of_dots (h:segment∈[[],js ".",js ".."]) :
  backslash ∉ segment ∧ unicode.normalize segment=segment := by
 have hascii:∀text∈[[],js ".",js ".."],
   backslash ∉ text ∧ text.all (·<0x80)=true := by decide
 obtain ⟨hsep,hbelow⟩:=hascii segment h
 exact ⟨hsep,unicode.normalize_ascii segment fun unit hunit=>
  of_decide_eq_true (all_eq_true.mp hbelow unit hunit)⟩

lemma LinkTree.throughLink_of_climbs (h:LinkTree unicode contents)
  {path target digest:JsString} (hcontent:contents path=some (.symlink target digest))
  {dir:List JsString} {name:JsString} (hpath:segments path=dir++[name])
  {front back:List (Component JsString)} (hsplit:components target=front++.up::back)
  (hwalk:Walks (itemAt contents) ⟨dir,front⟩ ⟨[],[]⟩) :
  ThroughLink (itemAt contents) dir front := by
 by_contra hlinks
 obtain ⟨hfollow,hnames⟩:=follow_of_walks hwalk hlinks
 obtain ⟨parts,hinside⟩:=(h.target path target digest hcontent).inside
 obtain ⟨before,after,hparts,hbefore,hafter⟩:=map_eq_append_iff.mp hsplit
 obtain ⟨dots,after,rfl,hdots,-⟩:=map_eq_cons_iff.mp hafter
 rw [eq_dots_of_component hdots] at hparts
 -- Up to the climbing `..` the normalised target has the segments of the target.
 have hplain:∀segment∈before++[js ".."],
   segments (replaceBackslashes (unicode.normalize segment))=[segment] := by
  intro segment hpart
  have hmem:segment∈segments target := by
   rw [hparts,← singleton_append,← append_assoc]
   exact mem_append_left _ hpart
  have hread:backslash ∉ segment ∧ unicode.normalize segment=segment := by
   rcases component_cases with hdots | hchild
   · exact plain_of_dots hdots
   · rcases mem_append.mp hpart with hbefore' | hlast
     · obtain ⟨here,hitem⟩:=hnames segment
        (by rw [← hbefore,← hchild]; exact mem_map_of_mem hbefore')
       exact h.plain_of_folder hitem
     · exact plain_of_dots (by rw [mem_singleton.mp hlast]; simp)
  exact segments_of_plain unicode (slash_not_mem_segment hmem) hread.1 hread.2
 have hnor:∃rest,segments (replaceBackslashes (unicode.normalize target)) =
   before++js ".."::rest := by
  have hkept:=flatMap_congr hplain
  rw [segments_replaceBackslashes,segments_normalize,flatMap_map,hparts,
   ← singleton_append,← append_assoc,flatMap_append,hkept,
   flatMap_singleton',append_assoc]
  exact ⟨_,rfl⟩
 obtain ⟨rest,hrest⟩:=hnor
 rw [hrest,parts_of_parentPath,hpath,dropLast_concat,followTarget_eq_follow,
  map_append,map_cons,hbefore,hfollow] at hinside
 cases hinside

/-- In a sound tree the links stay inside exactly when none climbs through another link. -/
lemma LinkTree.contained_iff (h:LinkTree unicode contents) :
  LinksContained contents ↔ ¬ClimbsThroughLink contents := by
 constructor
 · rintro hcontained ⟨path,target,digest,dir,name,front,back,hcontent,hpath,hsplit,hwalk, -⟩
   -- The walk comes to the link, takes its target and goes up from the root.
   have hlink:itemAt contents (dir++[name])=some (.link (components target)) := by
    have hinside:=h.not_outside dir name
    rw [← hpath,itemAt_segments,hcontent,map_some,itemOf] at hinside ⊢
    split_ifs at hinside ⊢
    · exact absurd rfl hinside
    · rfl
   have hname:component name=.child name :=
    component_of_safe (h.safe path _ hcontent) (by rw [hpath]; simp)
   have hreach:=h.walks_to_parent hcontent [component name]
   rw [hpath,dropLast_concat,hname] at hreach
   refine hcontained path target digest hcontent ⟨[],.up::back⟩ ?_ trivial
   rw [components,hpath,map_append,map_singleton,hname]
   refine (hreach.tail (step_link hlink)).trans ?_
   rw [append_nil,hsplit]
   exact walks_append hwalk (.up::back)
 · intro hclimbs path target digest hcontent state hwalk hescapes
   rcases climbs_of_escapes hwalk hescapes with hown | ⟨here,name,target',hlink,hclimb⟩ |
    ⟨here,name,houtside⟩
   · -- The path of an entry has no `..`.
     obtain ⟨front,back,hsplit,-⟩:=hown
     obtain ⟨before,after,hparts,-,hafter⟩:=map_eq_append_iff.mp hsplit
     obtain ⟨dots,rest,rfl,hdots,-⟩:=map_eq_cons_iff.mp hafter
     have hchild:component dots=.child dots :=
      component_of_safe (h.safe path _ hcontent) (by rw [hparts]; simp)
     rw [hdots] at hchild
     cases hchild
   · obtain ⟨linkPath,linkTarget,linkDigest,hpath,hlinkContent,rfl⟩ :=
      exists_link_of_itemAt (by simp) hlink
     obtain ⟨front,back,hsplit,hfront⟩:=hclimb
     exact hclimbs ⟨linkPath,linkTarget,linkDigest,here,name,front,back,hlinkContent,hpath,
      hsplit,hfront,h.throughLink_of_climbs hlinkContent hpath hsplit hfront⟩
   · exact h.not_outside here name houtside

end Trees

section Accepted

variable {services:Services} {changeSet:ChangeSet} {baseline:ChangeSetBaseline}
 {result:AppliedCandidateTree} {base final:EphemeralTree}

lemma linkTree_of_sound {tree:EphemeralTree} (h:Sound services tree) :
  LinkTree services.unicode fun path=>(tree.get path).map (·.content) := by
 constructor
 · intro path content hcontent
   obtain ⟨node,hnode,-⟩:=map_eq_some_iff.mp hcontent
   rw [← EphemeralTree.path_of_get hnode]
   exact .of_classify (h.safe node (EphemeralTree.mem_of_get hnode))
 · intro path content parent hcontent hparent
   obtain ⟨node,hnode,-⟩:=map_eq_some_iff.mp hcontent
   rw [← EphemeralTree.path_of_get hnode] at hparent
   obtain ⟨dir,hdir,rfl,hdirectory⟩ :=
    h.parent_directory (EphemeralTree.mem_of_get hnode) hparent
   rw [EphemeralTree.get_of_mem hdir,map_some,hdirectory]
 · intro path target digest hcontent
   obtain ⟨node,hnode,hsymlink⟩:=map_eq_some_iff.mp hcontent
   have hcheck:=h.target node (EphemeralTree.mem_of_get hnode)
   rw [EphemeralTree.assertTarget,hsymlink,EphemeralTree.path_of_get hnode] at hcheck
   cases hassert : assertSymlinkTargetContained services.unicode path target with
   | error error => simp [hassert,Except.map] at hcheck
   | ok normalized => exact (assertSymlinkTargetContained_ok hassert).2

lemma contentsOf_result (h:Accepted services changeSet baseline result base final) :
  contentsOf result.entries=fun path=>(final.get path).map (·.content) := by
 funext path
 rw [contentsOf,h.entryAt_result,Option.map_map]
 rfl

lemma contentsOf_described (h:Accepted services changeSet baseline result base final) :
  contentsOf result.entries=describedContents services baseline changeSet.operations := by
 have hbase:base.get=fun path=>baseline.entries.find? (·.path=path) := by
  funext path
  rw [EphemeralTree.get,h.built.nodes]
 rw [contentsOf_result h,h.applied.get,hbase]
 rfl

/-- The links of an accepted change set stay inside the tree exactly when no link that its
operations leave goes up from the root after another link has led there. -/
theorem links_contained_iff (services:Services) (changeSet:ChangeSet)
  (baseline:ChangeSetBaseline) (result:AppliedCandidateTree)
  (haccepted:validateAndApplyChangeSet services changeSet baseline=.ok result) :
  LinksContained (contentsOf result.entries) ↔
   ¬ClimbsThroughLink (describedContents services baseline changeSet.operations) := by
 obtain ⟨base,final,h⟩:=accepted_of_ok haccepted
 have htree:=linkTree_of_sound (sound_of_assertInvariants h.invariants)
 rw [← contentsOf_result h] at htree
 rw [htree.contained_iff,contentsOf_described h]

theorem links_contained_iff_sample :
  ∃result,validateAndApplyChangeSet sampleServices
    (sampleChangeSet [.symlink (js "l") (js "a") none sampleDigest])
    (sampleBaseline [sampleDirectory "a"])=.ok result ∧
    LinksContained (contentsOf result.entries) := by
 obtain ⟨result,hresult⟩:=exists_ok_of_isOk (show (validateAndApplyChangeSet sampleServices
  (sampleChangeSet [.symlink (js "l") (js "a") none sampleDigest])
  (sampleBaseline [sampleDirectory "a"])).isOk=true by decide +kernel)
 refine ⟨result,hresult,(links_contained_iff _ _ _ _ hresult).mpr ?_⟩
 rintro ⟨path,target,digest,dir,name,front,back,hcontent,-,hsplit,-⟩
 have htarget:target=js "a" := by
  simp only [describedContents,run,sampleChangeSet,foldl_cons,foldl_nil,effect,
   operationPaths,Function.update_apply] at hcontent
  split_ifs at hcontent
  · cases hcontent
    decide
  · simp only [sampleBaseline,sampleDirectory,find?_cons,find?_nil] at hcontent
    split at hcontent <;> cases hcontent
 have hup:Component.up∈components (js "a") := by
  rw [← htarget,hsplit]
  simp
 revert hup
 decide

def climbingEntries : List CandidateEntry :=
 [⟨js "d",.directory⟩,⟨js "d/e",.directory⟩,⟨js "d/e/l",.symlink (js "../..") sampleDigest⟩,
   ⟨js "d/e/m",.symlink (js "l/..") sampleDigest⟩]

/-- The link `d/e/m` goes through `d/e/l`, which leads to the root, and then up. -/
theorem links_leave_root :
  ∃result,validateAndApplyChangeSet sampleServices
    (sampleChangeSet [.symlink (js "d/e/l") (js "../..") none sampleDigest,
     .symlink (js "d/e/m") (js "l/..") none sampleDigest])
    (sampleBaseline [sampleDirectory "d",sampleDirectory "d/e"])=.ok result ∧
    ¬LinksContained (contentsOf result.entries) := by
 obtain ⟨result,hresult,hentries⟩:=exists_ok_of_any (show (validateAndApplyChangeSet
   sampleServices (sampleChangeSet [.symlink (js "d/e/l") (js "../..") none sampleDigest,
    .symlink (js "d/e/m") (js "l/..") none sampleDigest])
   (sampleBaseline [sampleDirectory "d",sampleDirectory "d/e"])).toOption.any
    (fun result=>result.entries=climbingEntries)=true by decide +kernel)
 refine ⟨result,hresult,fun hcontained=>?_⟩
 rw [of_decide_eq_true hentries] at hcontained
 have hwalk:Walks (itemAt (contentsOf climbingEntries)) ⟨[],components (js "d/e/m")⟩
   ⟨[],[.up]⟩ := walks_of_walkFor (n := 6) (by decide +kernel)
 exact hcontained (js "d/e/m") (js "l/..") sampleDigest (by decide +kernel) _ hwalk trivial

end Accepted

end EpistemicCompiler.SymlinkResolution
