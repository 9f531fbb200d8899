import Mathlib.Data.Int.Notation
import Mathlib.Data.List.Pairwise
import Mathlib.Data.List.Induction
import Mathlib.Order.Basic

set_option autoImplicit false

/-!
# Registers whose entries expire

Each visit names a key and asks for an entry of its own. What has expired is swept out first, so a
key can be reserved again, unless every later visit of it comes before the first one expires.
-/
namespace EpistemicCompiler.ExpiringRegister
open Function List Option

section Register

structure Entry (ω:Type) where
 tag : ω
 expires : ℤ

abbrev Register (κ ω:Type) := κ → Option (Entry ω)

inductive Answer where
 | reserved
 | same
 | conflict
 deriving DecidableEq

structure Visit (κ ω:Type) where
 key : κ
 time : ℤ
 entry : Entry ω

variable {κ ω:Type}

def empty : Register κ ω := fun _=>none

def sweep (now:ℤ) (register:Register κ ω) : Register κ ω := fun key=>
 (register key).filter fun entry=>now<entry.expires

variable {register:Register κ ω} {visit:Visit κ ω}

lemma sweep_eq_some_iff {now:ℤ} {key:κ} {entry:Entry ω} :
  sweep now register key=some entry ↔ register key=some entry ∧ now<entry.expires := by
 rw [sweep,filter_eq_some_iff,decide_eq_true_eq]

variable [DecidableEq κ] [DecidableEq ω]

def reserve (register:Register κ ω) (visit:Visit κ ω) : Answer×Register κ ω :=
 let swept:=sweep visit.time register
 match swept visit.key with
 | none => (.reserved,update swept visit.key (some visit.entry))
 | some existing => (if existing.tag=visit.entry.tag then .same else .conflict,swept)

def answers : Register κ ω → List (Visit κ ω) → List (Visit κ ω×Answer)
 | _, [] => []
 | register, visit::visits =>
   (visit,(reserve register visit).1)::answers (reserve register visit).2 visits

def after (register:Register κ ω) (visits:List (Visit κ ω)) : Register κ ω :=
 visits.foldl (fun register visit=>(reserve register visit).2) register

lemma answers_append (front back:List (Visit κ ω)) :
  answers register (front++back) =
   answers register front++answers (after register front) back := by
 induction front generalizing register with
 | nil => rfl
 | cons visit front ih => exact congrArg _ ih

lemma after_concat (front:List (Visit κ ω)) (visit:Visit κ ω) :
  after register (front++[visit])=(reserve (after register front) visit).2 := by
 rw [after,foldl_append]
 rfl

lemma reserve_of_none (h:sweep visit.time register visit.key=none) :
  reserve register visit =
   (.reserved,update (sweep visit.time register) visit.key (some visit.entry)) := by
 simp only [reserve,h]

lemma reserve_of_some {existing:Entry ω}
  (h:sweep visit.time register visit.key=some existing) :
  reserve register visit=(if existing.tag=visit.entry.tag then .same else .conflict,
   sweep visit.time register) := by
 simp only [reserve,h]

lemma reserved_iff :
  (reserve register visit).1=.reserved ↔ sweep visit.time register visit.key=none := by
 cases hswept : sweep visit.time register visit.key with
 | none =>
   rw [reserve_of_none hswept]
   simp
 | some existing =>
   rw [reserve_of_some hswept]
   split_ifs <;> simp

lemma reserve_register {key:κ} {entry:Entry ω}
  (h:(reserve register visit).2 key=some entry) :
  register key=some entry ∨
   key=visit.key ∧ entry=visit.entry ∧ (reserve register visit).1=.reserved := by
 rw [reserved_iff]
 cases hswept : sweep visit.time register visit.key with
 | none =>
   simp only [reserve_of_none hswept] at h
   by_cases hkey : key=visit.key
   · rw [hkey,update_self] at h
     exact .inr ⟨hkey,(some.inj h).symm,rfl⟩
   · rw [update_of_ne hkey] at h
     exact .inl (sweep_eq_some_iff.mp h).1
 | some existing =>
   simp only [reserve_of_some hswept] at h
   exact .inl (sweep_eq_some_iff.mp h).1

lemma reserve_keeps {key:κ} {entry:Entry ω} (h:register key=some entry)
  (hlive:visit.time<entry.expires) : (reserve register visit).2 key=some entry := by
 have hkeeps:sweep visit.time register key=some entry:=sweep_eq_some_iff.mpr ⟨h,hlive⟩
 cases hswept : sweep visit.time register visit.key with
 | none =>
   have hkey:key≠visit.key:=fun heq=>by
    rw [← heq,hkeeps] at hswept
    cases hswept
   simp only [reserve_of_none hswept]
   rw [update_of_ne hkey,hkeeps]
 | some existing =>
   simp only [reserve_of_some hswept]
   exact hkeeps

end Register

section Histories

variable {κ ω:Type}
 {front:List (Visit κ ω)} {visit first:Visit κ ω}

variable [DecidableEq κ]

lemma find_concat {key:κ} {last:Visit κ ω}
  (h:(front++[last]).find? (·.key=key)=some first) :
  front.find? (·.key=key)=some first ∨
   front.find? (·.key=key)=none ∧ first=last ∧ last.key=key := by
 rw [find?_append] at h
 cases hfront : front.find? (·.key=key) with
 | some other =>
   rw [hfront,some_or] at h
   exact .inl h
 | none =>
   rw [hfront,none_or] at h
   obtain ⟨hkey,hlast⟩ : last.key=key ∧ last=first := by simpa using h
   exact .inr ⟨rfl,hlast.symm,hkey⟩

def Lasting (visits:List (Visit κ ω)) : Prop :=
 ∀front visit back,visits=front++visit::back →
   ∀first,front.find? (·.key=visit.key)=some first → visit.time<first.entry.expires

variable [DecidableEq ω]

def reservations (visits:List (Visit κ ω)) : List (Visit κ ω) :=
 ((answers empty visits).filter fun pair=>pair.2=.reserved).map (·.1)

lemma reservations_concat :
  reservations (front++[visit])=reservations front ++
   if (reserve (after empty front) visit).1=.reserved then [visit] else [] := by
 rw [reservations,answers_append,filter_append,map_append]
 congr 1
 by_cases h : (reserve (after empty front) visit).1=.reserved <;> simp [answers,h]

lemma mem_reservations_of_after {visits:List (Visit κ ω)} {key:κ} {entry:Entry ω}
  (h:after empty visits key=some entry) :
  ∃visit∈reservations visits,visit.key=key ∧ visit.entry=entry := by
 induction visits using reverseRecOn with
 | nil => cases h
 | append_singleton front visit ih =>
   rw [after_concat] at h
   rw [reservations_concat]
   rcases reserve_register h with hbefore | ⟨hkey,hentry,hreserved⟩
   · obtain ⟨other,hother,hrest⟩:=ih hbefore
     exact ⟨other,mem_append_left _ hother,hrest⟩
   · rw [if_pos hreserved]
     exact ⟨visit,mem_append_right _ (mem_singleton_self _),hkey.symm,hentry.symm⟩

lemma mem_of_mem_reservations {visits:List (Visit κ ω)}
  (h:visit∈reservations visits) : visit∈visits := by
 induction visits using reverseRecOn with
 | nil => cases h
 | append_singleton front last ih =>
   rw [reservations_concat,mem_append] at h
   rcases h with h | h
   · exact mem_append_left _ (ih h)
   · split_ifs at h
     · exact mem_append_right _ h
     · cases h

lemma reserved_of_find_none (h:front.find? (·.key=visit.key)=none) :
  (reserve (after empty front) visit).1=.reserved := by
 rw [reserved_iff]
 cases hswept : sweep visit.time (after empty front) visit.key with
 | none => rfl
 | some entry =>
   obtain ⟨other,hother,hkey,-⟩ :=
    mem_reservations_of_after (sweep_eq_some_iff.mp hswept).1
   exact absurd (decide_eq_true hkey) (find?_eq_none.mp h other (mem_of_mem_reservations hother))

lemma first_mem_reservations {visits:List (Visit κ ω)} {key:κ}
  (h:visits.find? (·.key=key)=some first) : first∈reservations visits := by
 induction visits using reverseRecOn with
 | nil => cases h
 | append_singleton front last ih =>
   rw [reservations_concat]
   rcases find_concat h with hfront | ⟨hfront,rfl,hkey⟩
   · exact mem_append_left _ (ih hfront)
   · rw [if_pos (reserved_of_find_none (hkey ▸ hfront))]
     exact mem_append_right _ (mem_singleton_self _)

lemma after_eq_first {key:κ} (hfirst:front.find? (·.key=key)=some first)
  (hlive:∀visit∈front,visit.time<first.entry.expires) :
  after empty front key=some first.entry := by
 induction front using reverseRecOn with
 | nil => cases hfirst
 | append_singleton front last ih =>
   rw [after_concat]
   rcases find_concat hfirst with hfront | ⟨hfront,rfl,hkey⟩
   · have hbefore:=ih hfront fun visit hvisit=>hlive visit (mem_append_left _ hvisit)
     exact reserve_keeps hbefore (hlive last (mem_append_right _ (mem_singleton_self _)))
   · rw [← hkey]
     have hreserved:=reserved_of_find_none (hkey ▸ hfront)
     simp only [reserve_of_none (reserved_iff.mp hreserved)]
     exact update_self _ _ _

variable {visits:List (Visit κ ω)}

/-- In a history that lasts, the first visit of a key decides about the later ones. -/
lemma Lasting.reserve_eq (hlasting:Lasting visits)
  (horder:visits.Pairwise fun a b=>a.time ≤ b.time) {back:List (Visit κ ω)}
  (hsplit:visits=front++visit::back)
  (hfirst:front.find? (·.key=visit.key)=some first) :
  (reserve (after empty front) visit).1 =
   if first.entry.tag=visit.entry.tag then .same else .conflict := by
 have hlive:=hlasting front visit back hsplit first hfirst
 rw [hsplit,pairwise_append] at horder
 have hentry:=after_eq_first hfirst fun other hother=>
  Int.lt_of_le_of_lt (horder.2.2 other hother visit mem_cons_self) hlive
 rw [reserve_of_some (sweep_eq_some_iff.mpr ⟨hentry,hlive⟩)]

lemma reservations_pairwise_iff (horder:visits.Pairwise fun a b=>a.time ≤ b.time) :
  (reservations visits).Pairwise (fun a b=>a.key≠b.key) ↔ Lasting visits := by
 constructor
 · intro hpair front visit back hsplit first hfirst
   have hresult:∃rest,reservations visits=reservations (front++[visit])++rest := by
    rw [hsplit,append_cons]
    exact ⟨_,by rw [reservations,answers_append,filter_append,map_append]; rfl⟩
   obtain ⟨rest,hrest⟩:=hresult
   rw [hrest,reservations_concat] at hpair
   have hfront:=(pairwise_append.mp (pairwise_append.mp hpair).1)
   have hmem:=first_mem_reservations hfirst
   have hkey:first.key=visit.key := by simpa using find?_some hfirst
   have hnot:(reserve (after empty front) visit).1≠.reserved:=fun hreserved=>by
    rw [if_pos hreserved] at hfront
    exact hfront.2.2 first hmem visit (mem_singleton_self _) hkey
   rw [ne_eq,reserved_iff] at hnot
   obtain ⟨entry,hentry⟩:=ne_none_iff_exists'.mp hnot
   obtain ⟨hbefore,hlive⟩:=sweep_eq_some_iff.mp hentry
   obtain ⟨other,hother,hotherKey,rfl⟩:=mem_reservations_of_after hbefore
   have hsame:other=first := by
    by_contra hne
    have hsymm:Std.Symm fun a b : Visit κ ω=>a.key≠b.key:=⟨fun _ _ h=>Ne.symm h⟩
    exact hfront.1.forall hother hmem hne (hotherKey.trans hkey.symm)
   exact hsame ▸ hlive
 · intro hlasting
   -- Extended visit by visit: a key that has been named is not reserved again.
   have hinit:∀front back,visits=front++back →
     (reservations front).Pairwise fun a b=>a.key≠b.key := by
    intro front
    induction front using reverseRecOn with
    | nil => exact fun _ _=>List.Pairwise.nil
    | append_singleton front visit ih =>
      intro back hsplit
      rw [append_assoc] at hsplit
      rw [reservations_concat,pairwise_append]
      refine ⟨ih _ hsplit,by split_ifs <;> simp,fun other hother last hlast=>?_⟩
      split_ifs at hlast with hreserved
      · obtain rfl:=mem_singleton.mp hlast
        intro hkey
        obtain ⟨first,hfirst⟩ : ∃first,front.find? (·.key=last.key)=some first := by
         rw [← isSome_iff_exists,find?_isSome]
         exact ⟨other,mem_of_mem_reservations hother,decide_eq_true hkey⟩
        rw [hlasting.reserve_eq horder hsplit hfirst] at hreserved
        split_ifs at hreserved
      · cases hlast
   exact hinit visits [] (append_nil _).symm

end Histories

end EpistemicCompiler.ExpiringRegister
