import Mathlib.Data.List.Basic

set_option autoImplicit false

/-!
# Transactions over a table state

`executeWrite` runs its work in one transaction: a thrown error rolls every write back.
-/
namespace EpistemicCompiler.StoreTransactions

variable {ε σ α:Type}

def executeWrite (work:σ → Except ε (α×σ)) (s:σ) : Except ε α×σ :=
 match work s with
 | .ok (a,s') => (.ok a,s')
 | .error e => (.error e,s)

variable {work:σ → Except ε (α×σ)}

lemma executeWrite_ok {s s':σ} {a:α}
  (h:work s=.ok (a,s')) : executeWrite work s=(.ok a,s') := by
 simp only [executeWrite,h]

lemma executeWrite_error {s:σ} {e:ε}
  (h:work s=.error e) : executeWrite work s=(.error e,s) := by
 simp only [executeWrite,h]

lemma executeWrite_cases (work:σ → Except ε (α×σ)) (s:σ) :
  (∃a s',work s=.ok (a,s') ∧ executeWrite work s=(.ok a,s')) ∨
  (∃e,work s=.error e ∧ executeWrite work s=(.error e,s)) := by
 cases h : work s with
 | error e => exact .inr ⟨e,rfl,executeWrite_error h⟩
 | ok r => exact .inl ⟨r.1,r.2,rfl,executeWrite_ok h⟩

end EpistemicCompiler.StoreTransactions
