import EpistemicCompiler.PromotionPlan

set_option autoImplicit false

/-!
# Ending a journal

A journal ends in two steps: the receipt is written with the terminal state, then the lease is
handed back. The reads in between change nothing.
-/
namespace EpistemicCompiler.PromotionReceipts
open StepPrograms PromotionWorld PromotionFiles PromotionJournal PromotionGrant PromotionApply
 PromotionRecovery PromotionRules PromotionPlan

variable {env:Env} {req:ApplyRequest} {start:World} {v:Tree} {s:Store}
 {given:Premises}

section

variable {Q:Post Unit} {state state':JournalState}
 {lease:RecoveryState} {lease₀:RecoveryState×Option ℕ} {receipt:ApplyReceipt}

lemma meets_persistReceipt (hquiet:Quiet req start) (hsound:Sound env req start given v s)
  (hledger:Ledger req start s state (held start))
  (hends:Ends env.contentDigest req start given state' lease v)
  (hok:∀s',Opened env req start given state' (held start) v s' → Q (.ok ()) v s')
  (hfault:Faulty env .receipt → Q (.error .io) v s) :
  Meets (Sound env req start given) Q
   (persistReceipt env start.store.nextJournal state' receipt) v s := by
 refine .bind (meets_fallible hsound hfault ?_)
 rintro w rfl rfl
 refine ⟨hsound,?_⟩
 have hbegun:Opened env req start given state' (held start) (view w)
   (Store.setJournal w.store start.store.nextJournal state' (some (env.envelopeDigest receipt))) :=
  ⟨hledger.setJournal hquiet fun _=>rfl, hends.held _⟩
 exact meets_updateStore ⟨.inr ⟨_,_,hbegun⟩,hok _ hbegun⟩

lemma meets_dropLease (hledger:Ledger req start s state' lease₀)
  (hends:Ends env.contentDigest req start given state' lease v)
  (hok:∀s',Opened env req start given state' (lease,none) v s' → Q (.ok ()) v s') :
  Meets (Sound env req start given) Q
   (dropLease req.workspaceId lease) v s := by
 have hbegun:Opened env req start given state' (lease,none) v
   (Store.setWorkspace s req.workspaceId lease none) :=
  ⟨hledger.setWorkspace lease none,hends.dropped _⟩
 exact meets_updateStore ⟨.inr ⟨_,_,hbegun⟩,hok _ hbegun⟩

end

end EpistemicCompiler.PromotionReceipts
