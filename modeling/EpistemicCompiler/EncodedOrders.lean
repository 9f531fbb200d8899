import Mathlib.Data.List.Lex
import Mathlib.Data.List.Pairwise
import Mathlib.Order.Lattice

set_option autoImplicit false

/-!
# Orders on encoded texts

Texts are encoded symbol by symbol and compared unit by unit, so the first symbol at which two texts
differ decides. Two encodings sort a list alike exactly if their ranks agree at those symbols of its
members.
-/
namespace EpistemicCompiler.EncodedOrders
open List

variable {α κ:Type} {e:α → List κ} {rank:α → ℕ}

section

variable [LT κ]

def Below (l m:List κ) : Prop :=
 ∃q a b u v,a<b ∧ l=q++a::u ∧ m=q++b::v

lemma Below.append {l m:List κ} (h:Below l m) (s t:List κ) : l++s < m++t := by
 obtain ⟨q,a,b,u,v,hab,rfl,rfl⟩:=h
 rw [append_assoc,append_assoc]
 exact append_left_lt (cons_lt_cons_iff.mpr (.inl hab))

lemma below_head {a b:κ} (h:a<b) (u v:List κ) : Below (a::u) (b::v) :=
 ⟨[],a,b,u,v,h,rfl,rfl⟩

lemma Below.cons {l m:List κ} (h:Below l m) (c:κ) : Below (c::l) (c::m) := by
 obtain ⟨q,a,b,u,v,hab,rfl,rfl⟩:=h
 exact ⟨c::q,a,b,u,v,hab,rfl,rfl⟩

structure Ranked (e:α → List κ) (rank:α → ℕ) : Prop where
 nonempty : ∀x,e x≠[]
 injective : Function.Injective rank
 below : ∀x y,rank x<rank y → Below (e x) (e y)

lemma Ranked.lt_of_lt (h:Ranked e rank) {s t:List α} (hlt:s.map rank<t.map rank) :
  s.flatMap e<t.flatMap e := by
 induction s generalizing t with
 | nil =>
   cases t with
   | nil => exact absurd hlt (not_lt_nil _)
   | cons y t =>
     obtain ⟨a,l,hcode⟩:=exists_cons_of_ne_nil (h.nonempty y)
     rw [flatMap_nil,flatMap_cons,hcode]
     exact nil_lt_cons a _
 | cons x s ih =>
   cases t with
   | nil => exact absurd hlt (not_lt_nil _)
   | cons y t =>
     rcases cons_lt_cons_iff.mp hlt with hxy | ⟨hxy,htail⟩
     · exact (h.below x y hxy).append _ _
     · obtain rfl:=h.injective hxy
       exact append_left_lt (ih htail)

lemma ranks_total (hinj:Function.Injective rank) (s t:List α) :
  s.map rank<t.map rank ∨ s=t ∨ t.map rank<s.map rank :=
 (lt_trichotomy (s.map rank) (t.map rank)).imp_right
  (.imp_left fun heq=>map_injective_iff.mpr hinj heq)

lemma Ranked.lt_iff [Std.Asymm (α := κ) (·<·)] (h:Ranked e rank) {s t:List α} :
  s.flatMap e<t.flatMap e ↔ s.map rank<t.map rank := by
 constructor
 · intro hlt
   rcases ranks_total h.injective s t with hranks | rfl | hranks
   · exact hranks
   · exact absurd hlt (List.lt_asymm hlt)
   · exact absurd hlt (List.lt_asymm (h.lt_of_lt hranks))
 · exact h.lt_of_lt

end

section

variable {rank':α → ℕ}

def Crossed (rank rank':α → ℕ) (s t:List α) : Prop :=
 ∃p x y u v,s=p++x::u ∧ t=p++y::v ∧ rank x<rank y ∧ rank' y<rank' x

lemma ranks_append (p:List α) {x y:α} (u v:List α) (h:rank x<rank y) :
  (p++x::u).map rank<(p++y::v).map rank := by
 rw [map_append,map_append]
 exact append_left_lt (cons_lt_cons_iff.mpr (.inl h))

variable (hinj:Function.Injective rank) (hinj':Function.Injective rank')
include hinj hinj'

lemma lt_or_crossed {s t:List α} (h:s.map rank<t.map rank) :
  s.map rank'<t.map rank' ∨ Crossed rank rank' s t := by
 induction s generalizing t with
 | nil =>
   cases t with
   | nil => exact absurd h (not_lt_nil _)
   | cons y t => exact .inl (nil_lt_cons _ _)
 | cons x s ih =>
   cases t with
   | nil => exact absurd h (not_lt_nil _)
   | cons y t =>
     rcases cons_lt_cons_iff.mp h with hlt | ⟨heq,htail⟩
     · rcases Nat.lt_trichotomy (rank' x) (rank' y) with h' | h' | h'
       · exact .inl (cons_lt_cons_iff.mpr (.inl h'))
       · obtain rfl:=hinj' h'
         omega
       · exact .inr ⟨[],x,y,s,t,rfl,rfl,hlt,h'⟩
     · obtain rfl:=hinj heq
       rcases ih htail with hlt | ⟨p,y,z,u,v,rfl,rfl,hrank⟩
       · exact .inl (cons_lt_cons_iff.mpr (.inr ⟨rfl,hlt⟩))
       · exact .inr ⟨x::p,y,z,u,v,rfl,rfl,hrank⟩

/-- Two ranks order two texts alike exactly if the texts do not part at a crossed pair. -/
lemma lt_iff_lt (s t:List α) :
  (s.map rank<t.map rank ↔ s.map rank'<t.map rank') ↔
   ¬ Crossed rank rank' s t ∧ ¬ Crossed rank' rank s t := by
 constructor
 · intro h
   constructor
   · rintro ⟨p,x,y,u,v,rfl,rfl,hlt,hgt⟩
     exact lt_asymm (h.mp (ranks_append p u v hlt)) (ranks_append p v u hgt)
   · rintro ⟨p,x,y,u,v,rfl,rfl,hlt,hgt⟩
     exact lt_asymm (h.mpr (ranks_append p u v hlt)) (ranks_append p v u hgt)
 · intro h
   constructor
   · intro hlt
     exact (lt_or_crossed hinj hinj' hlt).resolve_right h.1
   · intro hlt
     exact (lt_or_crossed hinj' hinj hlt).resolve_right h.2

end

section

structure Sorts (le:α → α → Bool) : Prop where
 trans : ∀a b c,le a b=true → le b c=true → le a c=true
 total : ∀a b,(le a b || le b a)=true

structure Orders (le:α → α → Bool) (xs:List α) : Prop where
 trans : ∀a b c,le a b=true → le b c=true → le a c=true
 total : ∀a b,(le a b || le b a)=true
 antisymm : ∀a∈xs,∀b∈xs,le a b=true → le b a=true → a=b

variable {le le':α → α → Bool} {xs ys:List α}

lemma Orders.sorted (h:Orders le xs) (ys:List α) :
  (ys.mergeSort le).Pairwise fun a b=>le a b=true :=
 pairwise_mergeSort h.trans h.total ys

lemma agree_of_sorted (h:Orders le xs) (h':Orders le' xs) {zs:List α}
  (hsub:∀a∈zs,a∈xs) (hle:zs.Pairwise fun a b=>le a b=true)
  (hle':zs.Pairwise fun a b=>le' a b=true) {a b:α} (ha:a∈zs) (hb:b∈zs)
  (hab:le a b=true) : le' a b=true := by
 by_cases heq : a=b
 · subst heq
   simpa using h'.total a a
 · have hpair:zs.Pairwise fun x y=>
     (le x y=true ∧ le' x y=true) ∨ (le y x=true ∧ le' y x=true) :=
    (hle.and hle').imp fun h=>.inl h
   have hsymm:Std.Symm fun x y=>
     (le x y=true ∧ le' x y=true) ∨ (le y x=true ∧ le' y x=true) := ⟨fun _ _ h=>h.symm⟩
   rcases hpair.forall ha hb heq with hboth | hboth
   · exact hboth.2
   · exact absurd (h.antisymm a (hsub a ha) b (hsub b hb) hab hboth.1) heq

/-- Two orders sort the arrangements of a list alike exactly if they agree on its members. -/
lemma mergeSort_eq_iff (h:Orders le xs) (h':Orders le' xs) (hperm:ys.Perm xs) :
  xs.mergeSort le=ys.mergeSort le' ↔ ∀a∈xs,∀b∈xs,le a b=true ↔ le' a b=true := by
 have hmem:∀a,a∈xs.mergeSort le ↔ a∈xs:=fun a=>(xs.mergeSort_perm le).mem_iff
 constructor
 · intro heq a ha b hb
   have hle:=h.sorted xs
   have hle':=h'.sorted ys
   rw [← heq] at hle'
   have hsub:∀a∈xs.mergeSort le,a∈xs:=fun a=>(hmem a).mp
   constructor
   · exact agree_of_sorted h h' hsub hle hle' ((hmem a).mpr ha) ((hmem b).mpr hb)
   · exact agree_of_sorted h' h hsub hle' hle ((hmem a).mpr ha) ((hmem b).mpr hb)
 · intro hagree
   have hmem':∀a,a∈ys.mergeSort le' ↔ a∈xs:=fun a=>
    (ys.mergeSort_perm le').mem_iff.trans hperm.mem_iff
   have hsort:(ys.mergeSort le').Pairwise fun a b=>le a b=true :=
    (h'.sorted ys).imp_of_mem fun {a b} ha hb hab=>
     (hagree a ((hmem' a).mp ha) b ((hmem' b).mp hb)).mpr hab
   apply List.Perm.eq_of_pairwise _ (h.sorted xs) hsort
   · exact (xs.mergeSort_perm le).trans (hperm.symm.trans (ys.mergeSort_perm le').symm)
   · intro a b ha hb
     exact h.antisymm a ((hmem a).mp ha) b ((hmem' b).mp hb)

/-- A stable sort leaves the members that are equal for the order where they are. -/
lemma filter_mergeSort (h:Sorts le) (a:α) (zs:List α) :
  (zs.mergeSort le).filter (fun b=>le a b && le b a)=zs.filter fun b=>le a b && le b a := by
 have hpairs:(zs.filter fun b=>le a b && le b a).Pairwise fun b c=>le b c=true := by
  refine pairwise_of_forall_mem_list fun b hb c hc=>?_
  rw [mem_filter,Bool.and_eq_true] at hb hc
  exact h.trans b a c hb.2.2 hc.2.1
 have hsublist:=(sublist_mergeSort h.trans h.total hpairs filter_sublist).filter
  fun b=>le a b && le b a
 simp only [List.filter_filter,Bool.and_self] at hsublist
 exact (hsublist.eq_of_length ((zs.mergeSort_perm le).filter _).length_eq.symm).symm

/-- The arrangements of a list are sorted alike exactly if the order tells its members apart. -/
lemma mergeSort_unordered_iff (h:Sorts le) (xs:List α) :
  (∀ys : List α,ys.Perm xs → ys.mergeSort le=xs.mergeSort le) ↔
   ∀a∈xs,∀b∈xs,le a b=true → le b a=true → a=b := by
 classical
 constructor
 · intro hsame a ha b hb hab hba
   have hfirst:∀c∈xs,le a c=true → le c a=true →
     (xs.filter fun b=>le a b && le b a).head?=some c := fun c hc hac hca=>by
    rw [← filter_mergeSort h,← hsame _ (perm_cons_erase hc).symm,filter_mergeSort h]
    simp [hac,hca]
   have haa:le a a=true := by simpa using h.total a a
   exact Option.some.inj ((hfirst a ha haa haa).symm.trans (hfirst b hb hab hba))
 · intro hanti ys hperm
   have horder:Orders le xs:=⟨h.trans,h.total,hanti⟩
   exact ((mergeSort_eq_iff horder horder hperm).mpr fun _ _ _ _=>.rfl).symm

end

section

variable {β:Type}

variable [DecidableEq β] {key:α → β} {le:β → β → Bool} {rest:α → α → Bool}

/-- A comparison by a key and, where two have the same, by the rest. -/
def lexLe (key:α → β) (le:β → β → Bool) (rest:α → α → Bool) (a b:α) : Bool :=
 if key a=key b then rest a b else le (key a) (key b)

variable (hanti:∀{x y},le x y=true → le y x=true → x=y)
include hanti

lemma Sorts.lexLe (h:Sorts le) (hrest:Sorts rest) : Sorts (lexLe key le rest) := by
 refine ⟨fun a b c hab hbc=>?_,fun a b=>?_⟩
 · unfold EncodedOrders.lexLe at hab hbc ⊢
   by_cases hkey : key a=key b
   · rw [if_pos hkey] at hab
     rw [hkey]
     split_ifs at hbc ⊢
     · exact hrest.trans a b c hab hbc
     · exact hbc
   · rw [if_neg hkey] at hab
     by_cases hkey' : key b=key c
     · rwa [← hkey',if_neg hkey]
     · rw [if_neg hkey'] at hbc
       rw [if_neg fun heq:key a=key c=>hkey (hanti hab (heq ▸ hbc))]
       exact h.trans _ _ _ hab hbc
 · unfold EncodedOrders.lexLe
   by_cases hkey : key a=key b
   · rw [if_pos hkey,if_pos hkey.symm]
     exact hrest.total a b
   · rw [if_neg hkey,if_neg (Ne.symm hkey)]
     exact h.total _ _

lemma lexLe_antisymm {a b:α} (hab:lexLe key le rest a b=true)
  (hba:lexLe key le rest b a=true) : key a=key b ∧ rest a b=true ∧ rest b a=true := by
 unfold lexLe at hab hba
 by_cases hkey : key a=key b
 · rw [if_pos hkey] at hab
   rw [if_pos hkey.symm] at hba
   exact ⟨hkey,hab,hba⟩
 · rw [if_neg hkey] at hab
   rw [if_neg (Ne.symm hkey)] at hba
   exact absurd (hanti hab hba) hkey

end

lemma any_neighbours_iff {le same:α → α → Bool} (h:Sorts le)
  (hsame:∀a b,same a b=true ↔ le a b=true ∧ le b a=true) {xs:List α}
  (hsort:xs.Pairwise fun a b=>le a b=true) :
  (xs.zip xs.tail).any (fun pair=>same pair.1 pair.2)=true ↔
   ¬ xs.Pairwise fun a b=>¬ same a b=true := by
 induction xs with
 | nil => simp
 | cons a xs ih =>
   obtain ⟨ha,hsort⟩:=pairwise_cons.mp hsort
   cases xs with
   | nil => simp
   | cons b xs =>
     have hfirst:(∀c∈b::xs,¬ same a c=true) ↔ ¬ same a b=true := by
      refine ⟨fun hall=>hall b mem_cons_self,fun hne c hc hac=>?_⟩
      rcases mem_cons.mp hc with rfl | hc
      · exact hne hac
      · exact hne ((hsame a b).mpr ⟨ha b mem_cons_self,
         h.trans b c a ((pairwise_cons.mp hsort).1 c hc) ((hsame a c).mp hac).2⟩)
     rw [pairwise_cons,hfirst,not_and_or,not_not,← ih hsort]
     simp

section

variable {β:Type} [LT κ] [Std.Asymm (α := κ) (·<·)]

lemma Ranked.orders (h:Ranked e rank) (text:β → List α) {le:β → β → Bool}
  (hle:∀a b,le a b=true ↔ ¬ (text b).flatMap e<(text a).flatMap e) {xs:List β}
  (hdist:∀a∈xs,∀b∈xs,text a=text b → a=b) : Orders le xs := by
 have hranks:∀a b,le a b=true ↔ ¬ (text b).map rank<(text a).map rank := by
  intro a b
  rw [hle,h.lt_iff]
 refine ⟨fun a b c hab hbc=>?_, fun a b=>?_, fun a ha b hb hab hba=>?_⟩
 · rw [hranks,not_lt] at hab hbc ⊢
   exact hab.trans hbc
 · rw [Bool.or_eq_true,hranks,hranks,not_lt,not_lt]
   exact le_total _ _
 · rw [hranks,not_lt] at hab hba
   exact hdist a ha b hb (map_injective_iff.mpr h.injective (hab.antisymm hba))

end

end EpistemicCompiler.EncodedOrders
