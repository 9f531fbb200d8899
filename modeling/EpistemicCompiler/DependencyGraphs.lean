import Mathlib.Data.List.Infix
import Mathlib.Logic.Relation

set_option autoImplicit false

/-!
# Dependency graphs under insertion, removal and attachment

Nodes attached in front of a sink take over the dependencies that it has then, so each of them
depends on those attached before it, and attaching a node once more can close a cycle.
-/
namespace EpistemicCompiler.DependencyGraphs
open List

/-- `edge a b` says that `a` depends on `b`; only nodes depend on anything. -/
@[ext]
structure DependencyGraph (κ:Type) where
 node : κ → Prop
 edge : κ → κ → Prop
 edge_node : ∀{a b:κ},edge a b → node a

/-- Steps that commute wherever an invariant holds can be taken in any order. -/
lemma foldl_perm {σ α:Type} {f:σ → α → σ} {I:σ → Prop} {l l':List α} (h:l ~ l')
  (hstep:∀x∈l,∀s,I s → I (f s x))
  (hcomm:∀x∈l,∀y∈l,∀s,I s → f (f s x) y=f (f s y) x) {s:σ} (hs:I s) :
  l.foldl f s=l'.foldl f s := by
 induction h generalizing s with
 | nil => rfl
 | cons x _ ih =>
   exact ih (fun y hy=>hstep y (mem_cons_of_mem x hy))
    (fun y hy z hz=>hcomm y (mem_cons_of_mem x hy) z (mem_cons_of_mem x hz))
    (hstep x mem_cons_self s hs)
 | swap x y l =>
   rw [foldl_cons,foldl_cons,foldl_cons,foldl_cons,hcomm y (by simp) x (by simp) s hs]
 | trans h _ ih ih' =>
   rw [ih hstep hcomm hs]
   exact ih' (fun x hx=>hstep x (h.mem_iff.mpr hx))
    (fun x hx y hy=>hcomm x (h.mem_iff.mpr hx) y (h.mem_iff.mpr hy)) hs

namespace DependencyGraph

variable {κ:Type}

variable (G:DependencyGraph κ) {G':DependencyGraph κ}

def Reaches : κ → κ → Prop :=
 Relation.TransGen G.edge

def Cyclic : Prop :=
 ∃a,G.Reaches a a

lemma Reaches.mono {G:DependencyGraph κ} (hsub:∀a b,G.edge a b → G'.edge a b) {a b:κ}
  (h:G.Reaches a b) : G'.Reaches a b :=
 Relation.TransGen.mono hsub a b h

lemma reaches_of_isChain {G:DependencyGraph κ} {a:κ} {path:List κ}
  (h:(a::path).IsChain G.edge) : ∀k∈path,G.Reaches a k := by
 induction path generalizing a with
 | nil => simp
 | cons b path ih =>
   obtain ⟨hedge,hrest⟩:=isChain_cons_cons.mp h
   intro k hk
   rcases mem_cons.mp hk with rfl | hk
   · exact .single hedge
   · exact .head hedge (ih hrest k hk)

def insert (k:κ) (deps:κ → Prop) : DependencyGraph κ where
 node x := G.node x ∨ x=k
 edge a b := G.edge a b ∨ (a=k ∧ deps b)
 edge_node := by
  rintro a b (h | ⟨rfl,-⟩)
  · exact .inl (G.edge_node h)
  · exact .inr rfl

def remove (gone:κ → Prop) : DependencyGraph κ where
 node x := G.node x ∧ ¬ gone x
 edge a b := G.edge a b ∧ ¬ gone a ∧ ¬ gone b
 edge_node h := ⟨G.edge_node h.1,h.2.1⟩

def drop (k:κ) : DependencyGraph κ :=
 G.remove fun x=>x=k ∧ G.node k

def Inherits (sink k:κ) (fallback:κ → Prop) (b:κ) : Prop :=
 (G.edge sink b ∧ b≠k) ∨ ((∀d,¬ G.edge sink d) ∧ fallback b)

def attach (sink k:κ) (fallback:κ → Prop) : DependencyGraph κ where
 node x := G.node x ∨ x=k
 edge a b := G.edge a b ∨ (a=k ∧ G.Inherits sink k fallback b) ∨
  (a=sink ∧ G.node sink ∧ b=k)
 edge_node := by
  rintro a b (h | ⟨rfl,-⟩ | ⟨rfl,h,-⟩)
  · exact .inl (G.edge_node h)
  · exact .inr rfl
  · exact .inl h

def redirect (k:κ) (deps:κ → Prop) : DependencyGraph κ where
 node := G.node
 edge a b := (a≠k ∧ G.edge a b) ∨ (a=k ∧ G.node k ∧ deps b)
 edge_node := by
  rintro a b (⟨-,h⟩ | ⟨rfl,h,-⟩)
  · exact G.edge_node h
  · exact h

def close : DependencyGraph κ where
 node := G.node
 edge a b := G.edge a b ∧ G.node b
 edge_node h := G.edge_node h.1

section

variable (G:DependencyGraph κ) {k l sink:κ} {deps deps' fallback:κ → Prop}

lemma insert_insert_comm :
  (G.insert k deps).insert l deps'=(G.insert l deps').insert k deps := by
 ext a
 · exact or_right_comm
 · exact or_right_comm

lemma insert_attach_comm (hsink:k≠sink) :
  (G.insert k deps).attach sink l fallback=(G.attach sink l fallback).insert k deps := by
 have hnode:(G.insert k deps).node sink ↔ G.node sink := by
  simp [insert,hsink.symm]
 have hinherits:∀b,(G.insert k deps).Inherits sink l fallback b ↔
   G.Inherits sink l fallback b := by
  simp [Inherits,insert,hsink.symm]
 ext a b
 · exact or_right_comm
 · change (_ ∨ (_ ∧ (G.insert k deps).Inherits sink l fallback b) ∨
    (_ ∧ (G.insert k deps).node sink ∧ _)) ↔ _
   rw [hinherits,hnode]
   exact or_right_comm

lemma insert_drop_comm (hl:k≠l) (hdeps:¬ deps l) :
  (G.insert k deps).drop l=(G.drop l).insert k deps := by
 ext a b
 · simp only [drop,remove,insert]
   grind
 · simp only [drop,remove,insert]
   grind

lemma drop_edge_of_ne {a b:κ} (ha:a≠l) (hb:b≠l) : (G.drop l).edge a b ↔ G.edge a b := by
 simp [drop,remove,ha,hb]

lemma attach_drop_comm (hk:k≠l) (hsink:sink≠l) (hnone:¬ G.edge sink l)
  (hfall:¬ fallback l) :
  (G.attach sink k fallback).drop l=(G.drop l).attach sink k fallback := by
 have hnode:(G.drop l).node sink ↔ G.node sink := by
  simp [drop,remove,hsink]
 have hedge:∀b,(G.drop l).edge sink b ↔ G.edge sink b := by
  intro b
  by_cases hb : b=l
  · subst hb
    exact ⟨fun h=>h.1, fun h=>absurd h hnone⟩
  · exact G.drop_edge_of_ne hsink hb
 have hinherits:∀b,(G.drop l).Inherits sink k fallback b ↔ G.Inherits sink k fallback b := by
  simp [Inherits,hedge]
 have hkept:¬ G.Inherits sink k fallback l := by
  simp [Inherits,hnone,hfall]
 ext a b
 · simp only [drop,remove,attach]
   grind
 · change _ ↔ (_ ∨ (_ ∧ (G.drop l).Inherits sink k fallback b) ∨ (_ ∧ (G.drop l).node sink ∧ _))
   rw [hinherits,hnode]
   simp only [drop,remove,attach]
   grind

end

section

variable {G:DependencyGraph κ}

def Ranked (r:κ → ℕ) (G:DependencyGraph κ) : Prop :=
 ∀a b,G.edge a b → r b<r a

variable {r:κ → ℕ}

lemma Ranked.reaches (h:Ranked r G) {a b:κ} (hab:G.Reaches a b) : r b<r a := by
 induction hab with
 | single hstep => exact h _ _ hstep
 | tail _ hstep ih => exact (h _ _ hstep).trans ih

lemma Ranked.not_cyclic (h:Ranked r G) : ¬ G.Cyclic := by
 rintro ⟨a,ha⟩
 exact lt_irrefl _ (h.reaches ha)

lemma Ranked.insert (h:Ranked r G) {k:κ} {deps:κ → Prop}
  (hdeps:∀b,deps b → r b<r k) : Ranked r (G.insert k deps) := by
 rintro a b (hab | ⟨rfl,hb⟩)
 · exact h a b hab
 · exact hdeps b hb

lemma Ranked.attach (h:Ranked r G) {sink k:κ} {fallback:κ → Prop}
  (hsink:r k<r sink) (hdeps:∀b,G.edge sink b → b≠k → r b<r k)
  (hfall:∀b,fallback b → r b<r k) : Ranked r (G.attach sink k fallback) := by
 rintro a b (hab | ⟨rfl,⟨hb,hne⟩ | ⟨-,hb⟩⟩ | ⟨rfl,-,rfl⟩)
 · exact h a b hab
 · exact hdeps b hb hne
 · exact hfall b hb
 · exact hsink

lemma Ranked.mono (h:Ranked r G) (hsub:∀a b,G'.edge a b → G.edge a b) : Ranked r G' :=
 fun a b hab=>h a b (hsub a b hab)

end

section

variable {G:DependencyGraph κ} {sink:κ} {ks:List κ}

lemma pair_sublist_concat {x y k:κ} : [x,y] <+ ks++[k] ↔ [x,y] <+ ks ∨ (x∈ks ∧ y=k) := by
 induction ks with
 | nil => simp
 | cons head tail ih =>
   rw [cons_append,cons_sublist_cons',cons_sublist_cons',ih]
   simp only [singleton_sublist,mem_append,mem_cons,not_mem_nil,or_false]
   tauto

lemma interleaved_of_both {x y:κ} (hne:x≠y) (hxy:[x,y] <+ ks) (hyx:[y,x] <+ ks) :
  [x,y,x] <+ ks ∨ [y,x,y] <+ ks := by
 induction ks with
 | nil => cases hxy
 | cons k ks ih =>
   rw [cons_sublist_cons'] at hxy hyx
   rcases hxy with hxy | ⟨rfl,-⟩
   · rcases hyx with hyx | ⟨rfl,-⟩
     · exact (ih hxy hyx).imp (·.cons k) (·.cons k)
     · exact .inr (hxy.cons_cons y)
   · rcases hyx with hyx | ⟨rfl,-⟩
     · exact .inl (hyx.cons_cons x)
     · exact absurd rfl hne

lemma pair_sublist_of_idxOf_lt [DecidableEq κ] {x y:κ} (hy:y∈ks)
  (hlt:ks.idxOf x<ks.idxOf y) : [x,y] <+ ks := by
 induction ks with
 | nil => cases hy
 | cons k ks ih =>
   have hky:k≠y := by
    rintro rfl
    simp at hlt
   have hy':y∈ks:=(mem_cons.mp hy).resolve_left hky.symm
   by_cases hkx : k=x
   · subst hkx
     exact (singleton_sublist.mpr hy').cons_cons k
   · rw [idxOf_cons_ne _ hkx,idxOf_cons_ne _ hky] at hlt
     exact (ih hy' (by omega)).cons k

lemma pair_sublist_total {x y:κ} (hx:x∈ks) (hy:y∈ks) (hne:x≠y) :
  [x,y] <+ ks ∨ [y,x] <+ ks := by
 classical
 rcases Nat.lt_or_gt_of_ne fun heq=>hne ((idxOf_inj hx).mp heq) with hlt | hlt
 · exact .inl (pair_sublist_of_idxOf_lt hy hlt)
 · exact .inr (pair_sublist_of_idxOf_lt hx hlt)

/-- The nodes `ks` were attached in this order, some of them perhaps more than once. -/
structure Attached (G:DependencyGraph κ) (sink:κ) (ks:List κ) : Prop where
 present : ∀k∈ks,G.node k
 required : ∀k∈ks,G.edge sink k
 ordered : ∀k l,[k,l] <+ ks → k≠l → G.edge l k

lemma attached_nil : Attached G sink [] :=
 ⟨by simp,by simp,by simp⟩

lemma attached_singleton {k:κ} (hnode:G.node k) (hedge:G.edge sink k) :
  Attached G sink [k] := by
 refine ⟨by simpa using hnode,by simpa using hedge,fun x y hxy _=>?_⟩
 exact absurd hxy.length_le (by simp)

lemma Attached.attach (h:Attached G sink ks) (hsink:G.node sink) (k:κ)
  (fallback:κ → Prop) : Attached (G.attach sink k fallback) sink (ks++[k]) := by
 constructor
 · intro l hl
   rcases mem_append.mp hl with hl | hl
   · exact .inl (h.present l hl)
   · exact .inr (mem_singleton.mp hl)
 · intro l hl
   rcases mem_append.mp hl with hl | hl
   · exact .inl (h.required l hl)
   · exact .inr (.inr ⟨rfl,hsink,mem_singleton.mp hl⟩)
 · intro x y hxy hne
   rcases pair_sublist_concat.mp hxy with hxy | ⟨hx,rfl⟩
   · exact .inl (h.ordered x y hxy hne)
   · exact .inr (.inl ⟨rfl,.inl ⟨h.required x hx,hne⟩⟩)

lemma Attached.mono (h:Attached G sink ks) (hnode:∀k∈ks,G.node k → G'.node k)
  (hkept:∀a b,(a=sink ∨ a∈ks) → b∈ks → G.edge a b → G'.edge a b) :
  Attached G' sink ks := by
 constructor
 · intro k hk
   exact hnode k hk (h.present k hk)
 · intro k hk
   exact hkept _ _ (.inl rfl) hk (h.required k hk)
 · intro k l hkl hne
   have hk:k∈ks:=hkl.subset (by simp)
   have hl:l∈ks:=hkl.subset (by simp)
   exact hkept _ _ (.inr hl) hk (h.ordered k l hkl hne)

end

end DependencyGraph

end EpistemicCompiler.DependencyGraphs
