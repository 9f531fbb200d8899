import Mathlib.Data.List.Basic

set_option autoImplicit false

/-!
# Documents of labelled lines

A line is a label in quotes, a separator and a value. Labels without quotes and values without line
ends can be read back from the document.
-/
namespace EpistemicCompiler.LabelledLines
open List

variable {α:Type}

structure Marks (α:Type) where
 quote : α
 stop : α
 middle : List α

def line (marks:Marks α) (label value:List α) : List α :=
 marks.quote::(label++marks.quote::(marks.middle++value))

def document (marks:Marks α) (final:List α) :
    List (List α×List α) → List α → List α
 | [], last => line marks final last
 | entry::entries, last =>
   line marks entry.1 entry.2++marks.stop::document marks final entries last

lemma cut_injective {mark:α} {front front' back back':List α} (hfront:mark ∉ front)
  (hfront':mark ∉ front') (h:front++mark::back=front'++mark::back') :
  front=front' ∧ back=back' := by
 rcases append_eq_append_iff.mp h with ⟨mid,rfl,hback⟩ | ⟨mid,rfl,hback⟩
 · cases mid with
   | nil => exact ⟨(append_nil _).symm,(cons.inj hback).2⟩
   | cons a mid => simp [(cons.inj hback).1] at hfront'
 · cases mid with
   | nil => exact ⟨append_nil _,(cons.inj hback).2.symm⟩
   | cons a mid => simp [(cons.inj hback).1] at hfront

variable {marks:Marks α}

lemma line_injective {label label' value value' rest rest':List α}
  (hlabel:marks.quote ∉ label) (hlabel':marks.quote ∉ label')
  (h:line marks label value++rest=line marks label' value'++rest') :
  label=label' ∧ value++rest=value'++rest' := by
 simp only [line,cons_append,append_assoc] at h
 obtain ⟨hlabels,hrest⟩:=cut_injective hlabel hlabel' (cons.inj h).2
 exact ⟨hlabels,append_cancel_left hrest⟩

/-- Entries that can be read back: the label is not the last one and has no quotes, and the value is
on one line. -/
def Readable (marks:Marks α) (final:List α) (entry:List α×List α) : Prop :=
 marks.quote ∉ entry.1 ∧ entry.1≠final ∧ marks.stop ∉ entry.2

lemma document_injective {final:List α} (hfinal:marks.quote ∉ final)
  {entries entries':List (List α×List α)} {last last':List α}
  (hentries:∀entry∈entries,Readable marks final entry)
  (hentries':∀entry∈entries',Readable marks final entry)
  (h:document marks final entries last=document marks final entries' last') :
  entries=entries' ∧ last=last' := by
 induction entries generalizing entries' with
 | nil =>
   cases entries' with
   | nil =>
     simp only [document] at h
     rw [← append_nil (line _ _ last),← append_nil (line _ _ last')] at h
     exact ⟨rfl,by simpa using (line_injective hfinal hfinal h).2⟩
   | cons entry' entries' =>
     obtain ⟨hquote,hlabel,-⟩:=hentries' entry' mem_cons_self
     simp only [document] at h
     rw [← append_nil (line _ _ last)] at h
     exact absurd (line_injective hfinal hquote h).1.symm hlabel
 | cons entry entries ih =>
   obtain ⟨hquote,hlabel,hvalue⟩:=hentries entry mem_cons_self
   cases entries' with
   | nil =>
     simp only [document] at h
     rw [← append_nil (line _ _ last')] at h
     exact absurd (line_injective hquote hfinal h).1 hlabel
   | cons entry' entries' =>
     obtain ⟨hquote',-,hvalue'⟩:=hentries' entry' mem_cons_self
     obtain ⟨hlabels,hrest⟩:=line_injective hquote hquote' h
     obtain ⟨hval,hrest⟩:=cut_injective hvalue hvalue' hrest
     obtain ⟨rfl,hlast⟩:=ih (fun other hother=>hentries other (mem_cons_of_mem _ hother))
      (fun other hother=>hentries' other (mem_cons_of_mem _ hother)) hrest
     exact ⟨by rw [Prod.ext hlabels hval],hlast⟩

end EpistemicCompiler.LabelledLines
