import Mathlib.Data.Nat.Notation
import Mathlib.Logic.Relation

set_option autoImplicit false

/-!
# Walking a path through links

A walk keeps the directory it has come to and the components still to take. A link puts the
components of its target in front of them, and `up` is taken from the directory the walk has really
come to. No bound is put on the number of links.
-/
namespace EpistemicCompiler.PathWalks
open List

variable {ν:Type}

inductive Component (ν:Type) where
 | stay
 | up
 | child (name:ν)
 deriving DecidableEq

inductive Item (ν:Type) where
 | folder
 | link (target:List (Component ν))
 | outside
 | leaf

structure State (ν:Type) where
 dir : List ν
 pending : List (Component ν)
 deriving DecidableEq

def step (look:List ν → Option (Item ν)) : State ν → Option (State ν)
 | ⟨_,[]⟩ => none
 | ⟨dir,.stay::rest⟩ => some ⟨dir,rest⟩
 | ⟨[],.up::_⟩ => none
 | ⟨name::names,.up::rest⟩ => some ⟨(name::names).dropLast,rest⟩
 | ⟨dir,.child name::rest⟩ =>
   match look (dir++[name]) with
   | some .folder => some ⟨dir++[name],rest⟩
   | some (.link target) => some ⟨dir,target++rest⟩
   | _ => none

def Walks (look:List ν → Option (Item ν)) : State ν → State ν → Prop :=
 Relation.ReflTransGen fun s t=>step look s=some t

def Escapes (look:List ν → Option (Item ν)) : State ν → Prop
 | ⟨[],.up::_⟩ => True
 | ⟨dir,.child name::_⟩ => look (dir++[name])=some .outside
 | _ => False

def follow : List ν → List (Component ν) → Option (List ν)
 | dir, [] => some dir
 | dir, .stay::rest => follow dir rest
 | [], .up::_ => none
 | name::names, .up::rest => follow (name::names).dropLast rest
 | dir, .child name::rest => follow (dir++[name]) rest

def ThroughLink (look:List ν → Option (Item ν)) (dir:List ν)
    (components:List (Component ν)) : Prop :=
 ∃front name back here target,components=front++.child name::back ∧
   Walks look ⟨dir,front⟩ ⟨here,[]⟩ ∧ look (here++[name])=some (.link target)

variable {look:List ν → Option (Item ν)} {dir dir':List ν}
 {pending pending' front back:List (Component ν)}
 {t s:State ν}

lemma step_cases {c:Component ν} (h:step look ⟨dir,c::pending⟩=some t) :
  (c=.stay ∧ t=⟨dir,pending⟩) ∨
  (c=.up ∧ dir≠[] ∧ t=⟨dir.dropLast,pending⟩) ∨
  (∃name,c=.child name ∧ look (dir++[name])=some .folder ∧
   t=⟨dir++[name],pending⟩) ∨
  ∃name target,c=.child name ∧ look (dir++[name])=some (.link target) ∧
    t=⟨dir,target++pending⟩ := by
 cases c with
 | stay =>
   cases h
   exact .inl ⟨rfl,rfl⟩
 | up =>
   cases dir with
   | nil => cases h
   | cons name names =>
     cases h
     exact .inr (.inl ⟨rfl,by simp,rfl⟩)
 | child name =>
   rw [step.eq_def] at h
   simp only at h
   split at h
   · rename_i hlook
     cases h
     exact .inr (.inr (.inl ⟨name,rfl,hlook,rfl⟩))
   · rename_i target hlook
     cases h
     exact .inr (.inr (.inr ⟨name,target,rfl,hlook,rfl⟩))
   · cases h

lemma step_folder {name:ν} (h:look (dir++[name])=some .folder) :
  step look ⟨dir,.child name::pending⟩=some ⟨dir++[name],pending⟩ := by
 rw [step.eq_def]
 simp only [h]

lemma step_link {name:ν} {target:List (Component ν)}
  (h:look (dir++[name])=some (.link target)) :
  step look ⟨dir,.child name::pending⟩=some ⟨dir,target++pending⟩ := by
 rw [step.eq_def]
 simp only [h]

lemma step_append (h:step look ⟨dir,pending⟩=some ⟨dir',pending'⟩)
  (rest:List (Component ν)) :
  step look ⟨dir,pending++rest⟩=some ⟨dir',pending'++rest⟩ := by
 cases pending with
 | nil => cases h
 | cons c pending =>
   rcases step_cases h with ⟨rfl,ht⟩ | ⟨rfl,hdir,ht⟩ | ⟨name,rfl,hlook,ht⟩ |
    ⟨name,target,rfl,hlook,ht⟩
   · cases ht
     rfl
   · cases ht
     obtain ⟨name,names,rfl⟩:=exists_cons_of_ne_nil hdir
     rfl
   · cases ht
     exact step_folder hlook
   · cases ht
     rw [append_assoc]
     exact step_link hlook

lemma walks_append (h:Walks look ⟨dir,pending⟩ ⟨dir',pending'⟩) (rest:List (Component ν)) :
  Walks look ⟨dir,pending++rest⟩ ⟨dir',pending'++rest⟩ := by
 have hlift:∀s t : State ν,Walks look s t →
   Walks look ⟨s.dir,s.pending++rest⟩ ⟨t.dir,t.pending++rest⟩ := by
  intro s t hwalk
  induction hwalk with
  | refl => exact .refl
  | tail _ hstep ih => exact ih.tail (step_append hstep rest)
 exact hlift _ _ h

lemma walks_cons {c:Component ν} (hstep:step look ⟨dir,c::pending⟩=some s)
  (h:Walks look s t) : Walks look ⟨dir,c::pending⟩ t :=
 .head hstep h

def walkFor (look:List ν → Option (Item ν)) : ℕ → State ν → Option (State ν)
 | 0, s => some s
 | n+1, s => (step look s).bind (walkFor look n)

lemma walks_of_walkFor {n:ℕ} (h:walkFor look n s=some t) : Walks look s t := by
 induction n generalizing s with
 | zero =>
   cases h
   exact .refl
 | succ n ih =>
   obtain ⟨mid,hstep,hrest⟩:=Option.bind_eq_some_iff.mp h
   exact .head hstep (ih hrest)

lemma eq_of_walks_nil (h:Walks look ⟨dir,[]⟩ t) : t=⟨dir,[]⟩ := by
 rcases h.cases_head with rfl | ⟨s,hstep,-⟩
 · rfl
 · cases hstep

lemma throughLink_cons {c:Component ν} {here:List ν}
  (hstep:∀rest,step look ⟨dir,c::rest⟩=some ⟨here,rest⟩)
  (h:ThroughLink look here front) : ThroughLink look dir (c::front) := by
 obtain ⟨front',name,back,there,target,rfl,hwalk,hlook⟩:=h
 exact ⟨c::front',name,back,there,target,rfl,walks_cons (hstep front') hwalk,hlook⟩

lemma follow_of_walks (h:Walks look ⟨dir,front⟩ ⟨dir',[]⟩)
  (hlinks:¬ThroughLink look dir front) :
  (∀rest,follow dir (front++rest)=follow dir' rest) ∧
   ∀name,.child name∈front → ∃here,look (here++[name])=some .folder := by
 induction front generalizing dir with
 | nil =>
   cases eq_of_walks_nil h
   exact ⟨fun _=>rfl, fun _ hmem=>by cases hmem⟩
 | cons c front ih =>
   rcases h.cases_head with heq | ⟨s,hstep,hwalk⟩
   · cases heq
   rcases step_cases hstep with ⟨rfl,rfl⟩ | ⟨rfl,hdir,rfl⟩ | ⟨name,rfl,hlook,rfl⟩ |
    ⟨name,target,rfl,hlook,rfl⟩
   · obtain ⟨hfollow,hnames⟩:=ih hwalk fun hlink=>
      hlinks (throughLink_cons (fun _=>rfl) hlink)
     exact ⟨hfollow,fun name hmem=>hnames name (by simpa using hmem)⟩
   · obtain ⟨name,names,rfl⟩:=exists_cons_of_ne_nil hdir
     obtain ⟨hfollow,hnames⟩:=ih hwalk fun hlink=>
      hlinks (throughLink_cons (fun _=>rfl) hlink)
     exact ⟨hfollow,fun name hmem=>hnames name (by simpa using hmem)⟩
   · obtain ⟨hfollow,hnames⟩:=ih hwalk fun hlink=>
      hlinks (throughLink_cons (fun _=>step_folder hlook) hlink)
     refine ⟨fun rest=>by rw [cons_append,follow.eq_def]; exact hfollow rest, ?_⟩
     intro other hmem
     rcases mem_cons.mp hmem with heq | hmem
     · cases heq
       exact ⟨dir,hlook⟩
     · exact hnames other hmem
   · exact absurd ⟨[],name,front,dir,target,rfl,.refl,hlook⟩ hlinks

def Climbs (look:List ν → Option (Item ν)) (dir:List ν) (components:List (Component ν)) :
    Prop :=
 ∃front back,components=front++.up::back ∧ Walks look ⟨dir,front⟩ ⟨[],[]⟩

/-- A step before components that climb: they climb before it, or it follows a link that does. -/
lemma climbs_of_step (hstep:step look s=some t) (h:Climbs look t.dir t.pending) :
  Climbs look s.dir s.pending ∨
   ∃here name target,look (here++[name])=some (.link target) ∧
     Climbs look here target := by
 obtain ⟨dir,pending⟩:=s
 cases pending with
 | nil => cases hstep
 | cons c pending =>
   obtain ⟨front,back,hsplit,hwalk⟩:=h
   have hplain:∀here,t=⟨here,pending⟩ →
     (∀rest,step look ⟨dir,c::rest⟩=some ⟨here,rest⟩) →
     Climbs look dir (c::pending) := by
    rintro here rfl hany
    exact ⟨c::front,back,congrArg (c::·) hsplit,walks_cons (hany front) hwalk⟩
   rcases step_cases hstep with ⟨rfl,ht⟩ | ⟨rfl,hdir,ht⟩ | ⟨name,rfl,hlook,ht⟩ |
    ⟨name,target,rfl,hlook,ht⟩
   · exact .inl (hplain _ ht fun _=>rfl)
   · obtain ⟨name,names,rfl⟩:=exists_cons_of_ne_nil hdir
     exact .inl (hplain _ ht fun _=>rfl)
   · exact .inl (hplain _ ht fun _=>step_folder hlook)
   · cases ht
     -- The step above the root belongs to the target of the link or to what comes after it.
     rcases append_eq_append_iff.mp hsplit with ⟨more,hfront,hrest⟩ | ⟨more,htarget,hrest⟩
     · cases hfront
       exact .inl ⟨.child name::more,back,by rw [hrest]; rfl, walks_cons (step_link hlook) hwalk⟩
     · cases more with
       | nil =>
         rw [append_nil] at htarget
         cases htarget
         exact .inl ⟨[.child name],back,congrArg (.child name::·) hrest.symm,
          walks_cons (step_link hlook) (by rwa [append_nil])⟩
       | cons first more =>
         cases hrest
         exact .inr ⟨dir,name,target,hlook,front,more,htarget,hwalk⟩

/-- A walk that leaves the tree does so in its own components, or in the target of some link, after
a part of them that leads to the root. -/
lemma climbs_of_escapes (h:Walks look s t) (hescapes:Escapes look t) :
  Climbs look s.dir s.pending ∨
   (∃here name target,look (here++[name])=some (.link target) ∧
    Climbs look here target) ∨
   ∃here name,look (here++[name])=some .outside := by
 induction h using Relation.ReflTransGen.head_induction_on with
 | refl =>
   obtain ⟨dir,pending⟩:=t
   cases pending with
   | nil =>
     cases dir <;> cases hescapes
   | cons c pending =>
     cases c with
     | stay => cases dir <;> cases hescapes
     | up =>
       cases dir with
       | nil => exact .inl ⟨[],pending,rfl,.refl⟩
       | cons name names => cases hescapes
     | child name =>
       refine .inr (.inr ⟨dir,name,?_⟩)
       cases dir <;> exact hescapes
 | head hstep _ ih =>
   rcases ih with hclimb | hrest
   · exact (climbs_of_step hstep hclimb).imp_right .inl
   · exact .inr hrest

end EpistemicCompiler.PathWalks
