import Mathlib

set_option autoImplicit false

/-!
# Classes of sensitivity
-/
namespace EpistemicCompiler.Classifications

inductive DataClassification where
 | publicData
 | internal
 | confidential
 | restricted
 deriving DecidableEq

def classificationRank : DataClassification → ℕ
 | .publicData => 0
 | .internal => 1
 | .confidential => 2
 | .restricted => 3

lemma classificationRank_injective : Function.Injective classificationRank := by
 intro a b h
 cases a <;> cases b <;> first | rfl | cases h

instance : LinearOrder DataClassification :=
 LinearOrder.lift' classificationRank classificationRank_injective

def maxClassification (values:List DataClassification) : DataClassification :=
 values.foldl (fun highest value=>
  if classificationRank highest<classificationRank value then value else highest) .publicData

end EpistemicCompiler.Classifications
