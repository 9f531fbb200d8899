import Mathlib
import EpistemicCompiler.EncodedOrders
import EpistemicCompiler.TextEncodings

set_option autoImplicit false

/-!
# The order of entries in a snapshot digest

Both sides sort the entries of a snapshot by path before they hash them. The TypeScript comparison
is called `compareUtf8` and compares the UTF-16 code units of two strings; the runner compares their
UTF-8 bytes.
-/
namespace EpistemicCompiler.EntryOrder
open EncodedOrders List UInt16
open TextEncodings (encodeUtf16)

variable {β γ δ D:Type}

variable (left:String) (text:β → String) (c:Char) (right:String)

def utf16 (s:String) : List UInt16 := s.toList.flatMap encodeUtf16

def utf8 (s:String) : List UInt8 := s.toList.flatMap String.utf8EncodeChar

structure Entry (β:Type) where
 path : String
 fields : β

structure ExcludedPath (γ:Type) where
 value : String
 fields : γ

structure SnapshotRoot (β γ δ:Type) where
 entries : List (Entry β)
 ignoredPathDigests : List String
 excludedPaths : List (ExcludedPath γ)
 rest : δ

variable (payload:SnapshotRoot β γ δ)

def compareUtf8 : ℤ :=
 if utf16 left<utf16 right then -1
 else if utf16 right<utf16 left then 1
 else 0

def unitsLe : Bool := compareUtf8 left right ≤ 0

def sortSnapshotRootPayload : SnapshotRoot β γ δ :=
 { payload with
   entries:=payload.entries.mergeSort fun left right=>unitsLe left.path right.path
   ignoredPathDigests:=payload.ignoredPathDigests.mergeSort unitsLe
   excludedPaths:=payload.excludedPaths.mergeSort fun left right=>
    unitsLe left.value right.value }

def sortCandidateEntries (entries:List (Entry β)) : List (Entry β) :=
 entries.mergeSort fun left right=>unitsLe left.path right.path

def bytesLe : Bool := !decide (utf8 right<utf8 left)

def sortEntriesField (entries:List (Entry β)) : List (Entry β) :=
 entries.mergeSort fun left right=>bytesLe left.path right.path

def sortSnapshotRoot : SnapshotRoot β γ δ :=
 { payload with
   entries:=payload.entries.mergeSort fun left right=>bytesLe left.path right.path
   ignoredPathDigests:=payload.ignoredPathDigests.mergeSort bytesLe
   excludedPaths:=payload.excludedPaths.mergeSort fun left right=>
    bytesLe left.value right.value }

structure Preimage (P:Type) where
 domain : String
 version : ℕ
 payload : P

def taggedHash {P:Type} (hash:Preimage P → D) (domain:String) (payload:P) : D :=
 hash ⟨domain,1,payload⟩

def snapshotRootDigest (hash:Preimage (SnapshotRoot β γ δ) → D)
    (payload:SnapshotRoot β γ δ) : D :=
 taggedHash hash "snapshot-root" (sortSnapshotRootPayload payload)

def runnerSnapshotRootDigest (hash:Preimage (SnapshotRoot β γ δ) → D)
    (payload:SnapshotRoot β γ δ) : D :=
 taggedHash hash "snapshot-root" (sortSnapshotRoot payload)

def candidateTreeDigest (hash:Preimage (List (Entry β)) → D) (entries:List (Entry β)) : D :=
 taggedHash hash "candidate-tree" (sortCandidateEntries entries)

def runnerCandidateTreeDigest (hash:Preimage (List (Entry β)) → D) (entries:List (Entry β)) :
    D :=
 taggedHash hash "candidate-tree" (sortEntriesField entries)

def rank16 : ℕ :=
 let v:=c.val.toNat
 if v<0xE000 then v else if v<0x10000 then v+0x100000 else v - 0x2000

def rank8 : ℕ := c.val.toNat

lemma char_range : c.val.toNat<0xD800 ∨ 0xE000 ≤ c.val.toNat ∧ c.val.toNat<0x110000 := by
 have h:=c.valid
 rcases h with h | ⟨h,h'⟩
 · exact .inl h
 · exact .inr ⟨by omega,h'⟩

lemma rank8_injective : Function.Injective rank8 := fun _ _ h=>
 Char.ext (UInt32.toNat_inj.mp h)

lemma rank16_injective : Function.Injective rank16 := by
 intro c d h
 apply rank8_injective
 have hc:=char_range c
 have hd:=char_range d
 simp only [rank16] at h
 simp only [rank8]
 split_ifs at h <;> omega

lemma ofNat16_lt {a b:ℕ} (h:a<b) (hb:b<2 ^ 16) : ofNat a<ofNat b := by
 rw [lt_iff_toNat_lt,toNat_ofNat',toNat_ofNat',Nat.mod_eq_of_lt hb,
  Nat.mod_eq_of_lt (by omega)]
 exact h

lemma ofNat8_lt {a b:ℕ} (h:a<b) (hb:b<2 ^ 8) : UInt8.ofNat a<UInt8.ofNat b := by
 rw [UInt8.lt_iff_toNat_lt,UInt8.toNat_ofNat',UInt8.toNat_ofNat',Nat.mod_eq_of_lt hb,
  Nat.mod_eq_of_lt (by omega)]
 exact h

lemma ranked_utf16 : Ranked encodeUtf16 rank16 where
 nonempty c := by
  unfold encodeUtf16
  dsimp only
  split_ifs <;> simp
 injective := rank16_injective
 below c d h := by
  have hc:=char_range c
  have hd:=char_range d
  simp only [rank16] at h
  simp only [encodeUtf16]
  by_cases hc' : c.val.toNat<0x10000
  · by_cases hd' : d.val.toNat<0x10000
    · rw [if_pos hc',if_pos hd']
      apply below_head
      apply ofNat16_lt _ hd'
      split_ifs at h <;> omega
    · rw [if_pos hc',if_neg hd']
      apply below_head
      apply ofNat16_lt <;> split_ifs at h <;> omega
  · by_cases hd' : d.val.toNat<0x10000
    · rw [if_neg hc',if_pos hd']
      apply below_head
      apply ofNat16_lt _ hd'
      split_ifs at h <;> omega
    · rw [if_neg hc',if_neg hd']
      have hlt:c.val.toNat<d.val.toNat := by split_ifs at h <;> omega
      by_cases hhigh : (c.val.toNat - 0x10000)/0x400=(d.val.toNat - 0x10000)/0x400
      · rw [hhigh]
        apply Below.cons
        apply below_head
        apply ofNat16_lt <;> omega
      · apply below_head
        apply ofNat16_lt <;> omega

lemma below_byte {a b:ℕ} {l m:List UInt8} (hle:a ≤ b) (hb:b<2 ^ 8)
  (h:a=b → Below l m) : Below (UInt8.ofNat a::l) (UInt8.ofNat b::m) := by
 rcases hle.lt_or_eq with hlt | heq
 · exact below_head (ofNat8_lt hlt hb) l m
 · rw [heq]
   exact (h heq).cons _

lemma ranked_utf8 : Ranked String.utf8EncodeChar rank8 where
 nonempty c := by
  unfold String.utf8EncodeChar
  dsimp only
  split_ifs <;> simp
 injective := rank8_injective
 below c d h := by
  have hd:=char_range d
  simp only [rank8] at h
  simp only [String.utf8EncodeChar]
  -- A longer code starts with a larger byte; codes of one length are compared byte by byte.
  by_cases hc₁ : c.val.toNat ≤ 127
  · split_ifs <;> exact below_head (ofNat8_lt (by omega) (by omega)) _ _
  · have hd₁:¬ d.val.toNat ≤ 127 := by omega
    rw [if_neg hc₁,if_neg hd₁]
    by_cases hc₂ : c.val.toNat ≤ 2047
    · rw [if_pos hc₂]
      by_cases hd₂ : d.val.toNat ≤ 2047
      · rw [if_pos hd₂]
        exact below_byte (by omega) (by omega) fun _=>
         below_head (ofNat8_lt (by omega) (by omega)) _ _
      · split_ifs <;> exact below_head (ofNat8_lt (by omega) (by omega)) _ _
    · have hd₂:¬ d.val.toNat ≤ 2047 := by omega
      rw [if_neg hc₂,if_neg hd₂]
      by_cases hd₃ : d.val.toNat ≤ 65535
      · rw [if_pos hd₃,if_pos (by omega)]
        exact below_byte (by omega) (by omega) fun _=>below_byte (by omega) (by omega) fun _=>
         below_head (ofNat8_lt (by omega) (by omega)) _ _
      · split_ifs
        · exact below_head (ofNat8_lt (by omega) (by omega)) _ _
        · exact below_byte (by omega) (by omega) fun _=>below_byte (by omega) (by omega) fun _=>
           below_byte (by omega) (by omega) fun _=>
            below_head (ofNat8_lt (by omega) (by omega)) _ _

/-- The paths part at a character of the upper basic plane and one beyond the basic plane. -/
def Straddles : Prop :=
 ∃p x y u v,left.toList=p++x::u ∧ right.toList=p++y::v ∧
   0xE000 ≤ x.val.toNat ∧ x.val.toNat<0x10000 ∧ 0x10000 ≤ y.val.toNat

lemma crossed_iff : Crossed rank8 rank16 left.toList right.toList ↔ Straddles left right := by
 have hranks:∀x y,rank8 x<rank8 y ∧ rank16 y<rank16 x ↔
   0xE000 ≤ x.val.toNat ∧ x.val.toNat<0x10000 ∧ 0x10000 ≤ y.val.toNat := by
  intro x y
  have hy:=char_range y
  simp only [rank8,rank16]
  split_ifs <;> omega
 simp only [Crossed,Straddles,hranks]

lemma crossed_comm (left right:List Char) :
  Crossed rank16 rank8 left right ↔ Crossed rank8 rank16 right left := by
 constructor
 · rintro ⟨p,x,y,u,v,hl,hr,h,h'⟩
   exact ⟨p,y,x,v,u,hr,hl,h',h⟩
 · rintro ⟨p,x,y,u,v,hr,hl,h,h'⟩
   exact ⟨p,y,x,v,u,hl,hr,h',h⟩

lemma unitsLe_iff : unitsLe left right=true ↔ ¬ utf16 right<utf16 left := by
 simp only [unitsLe,compareUtf8]
 split_ifs with hlt hgt
 · simpa using List.lt_asymm hlt
 · simpa using hgt
 · simpa using hgt

lemma bytesLe_iff : bytesLe left right=true ↔ ¬ utf8 right<utf8 left := by
 simp [bytesLe]

lemma le_iff_le :
  (unitsLe left right=true ↔ bytesLe left right=true) ↔
   ¬ Straddles left right ∧ ¬ Straddles right left := by
 rw [unitsLe_iff,bytesLe_iff,not_iff_not,utf16,utf16,utf8,utf8,ranked_utf16.lt_iff,
  ranked_utf8.lt_iff,lt_iff_lt rank16_injective rank8_injective,crossed_comm,crossed_iff,
  crossed_iff]

lemma orders_units {xs:List β} (hdist:∀a∈xs,∀b∈xs,text a=text b → a=b) :
  Orders (fun a b=>unitsLe (text a) (text b)) xs :=
 ranked_utf16.orders (fun a=>(text a).toList) (fun _ _=>unitsLe_iff _ _)
  fun a ha b hb h=>hdist a ha b hb (String.toList_injective h)

lemma orders_bytes {xs:List β} (hdist:∀a∈xs,∀b∈xs,text a=text b → a=b) :
  Orders (fun a b=>bytesLe (text a) (text b)) xs :=
 ranked_utf8.orders (fun a=>(text a).toList) (fun _ _=>bytesLe_iff _ _)
  fun a ha b hb h=>hdist a ha b hb (String.toList_injective h)

def Unstraddled (texts:List String) : Prop :=
 ∀left∈texts,∀right∈texts,¬ Straddles left right

lemma sorted_alike_iff {xs ys:List β} (hperm:ys.Perm xs)
  (hdist:∀a∈xs,∀b∈xs,text a=text b → a=b) :
  xs.mergeSort (fun a b=>unitsLe (text a) (text b)) =
    ys.mergeSort (fun a b=>bytesLe (text a) (text b)) ↔ Unstraddled (xs.map text) := by
 rw [mergeSort_eq_iff (orders_units text hdist) (orders_bytes text hdist) hperm]
 simp only [le_iff_le,Unstraddled,forall_mem_map]
 constructor
 · exact fun h a ha b hb=>(h a ha b hb).1
 · exact fun h a ha b hb=>⟨h a ha b hb,h b hb a ha⟩

structure Same (payload payload':SnapshotRoot β γ δ) : Prop where
 entries : payload'.entries.Perm payload.entries
 ignored : payload'.ignoredPathDigests.Perm payload.ignoredPathDigests
 excluded : payload'.excludedPaths.Perm payload.excludedPaths
 rest : payload'.rest=payload.rest

/-- The runner orders the entries of a snapshot as the TypeScript digests of a snapshot root and of
a candidate tree do exactly if no two paths straddle; then the digests are the same. -/
theorem entry_order_agrees_iff (payload':SnapshotRoot β γ δ) (hsame:Same payload payload')
  (hdistinct:(payload.entries.map (·.path)).Nodup) :
  ((sortSnapshotRootPayload payload).entries=(sortSnapshotRoot payload').entries ↔
    Unstraddled (payload.entries.map (·.path))) ∧
  (sortCandidateEntries payload.entries=(sortSnapshotRoot payload').entries ↔
   Unstraddled (payload.entries.map (·.path))) ∧
  (Unstraddled (payload.entries.map (·.path)) →
   (∀hash : Preimage (List (Entry β)) → D,
    candidateTreeDigest hash payload.entries =
     runnerCandidateTreeDigest hash payload'.entries) ∧
   ((payload.excludedPaths.map (·.value)).Nodup → Unstraddled payload.ignoredPathDigests →
     Unstraddled (payload.excludedPaths.map (·.value)) →
     ∀hash : Preimage (SnapshotRoot β γ δ) → D,
       snapshotRootDigest hash payload=runnerSnapshotRootDigest hash payload')) := by
 have horder:=sorted_alike_iff (·.path) hsame.entries fun a ha b hb h=>
  inj_on_of_nodup_map hdistinct ha hb h
 refine ⟨horder,horder,fun hentries=>⟨fun hash=>?_, ?_⟩⟩
 · exact congrArg (taggedHash hash "candidate-tree") (horder.mpr hentries)
 · intro hvalues hignored hexcluded hash
   have hdigests:=(sorted_alike_iff id hsame.ignored fun _ _ _ _ h=>h).mpr (by rwa [map_id])
   have hrefs:=(sorted_alike_iff (·.value) hsame.excluded fun a ha b hb h=>
    inj_on_of_nodup_map hvalues ha hb h).mpr hexcluded
   refine congrArg (taggedHash hash "snapshot-root") ?_
   unfold sortSnapshotRootPayload sortSnapshotRoot
   rw [horder.mpr hentries,hrefs,hsame.rest]
   congr 1

def sampleEntries : List (Entry Unit) := [⟨"｡",()⟩,⟨"😀",()⟩]

def samplePayload : SnapshotRoot Unit Unit Unit := ⟨sampleEntries,[],[],()⟩

lemma sample_straddles : Straddles "｡" "😀" :=
 ⟨[],'｡','😀',[],[],rfl,rfl,by decide,by decide,by decide⟩

/-- U+FF61 comes before U+1F600 in UTF-8 and after it in UTF-16. -/
theorem entry_order_differs :
  (samplePayload.entries.map (·.path)).Nodup ∧
   (sortSnapshotRootPayload samplePayload).entries≠(sortSnapshotRoot samplePayload).entries ∧
   sortCandidateEntries samplePayload.entries≠(sortSnapshotRoot samplePayload).entries := by
 have hnodup:(samplePayload.entries.map (·.path)).Nodup := by decide
 have hstraddled:¬ Unstraddled (samplePayload.entries.map (·.path)):=fun h=>
  h _ (mem_cons_self) _ (mem_cons_of_mem _ mem_cons_self) sample_straddles
 have horder:=sorted_alike_iff (·.path) (.refl samplePayload.entries) fun a ha b hb h=>
  inj_on_of_nodup_map hnodup ha hb h
 exact ⟨hnodup,fun h=>hstraddled (horder.mp h), fun h=>hstraddled (horder.mp h)⟩

theorem entry_order_agrees_iff_sample :
  (sortCandidateEntries [⟨"b",()⟩,⟨"a",()⟩] =
   (sortSnapshotRoot
    (⟨[⟨"a",()⟩,⟨"b",()⟩],[],[],()⟩ : SnapshotRoot Unit Unit Unit)).entries ↔
   Unstraddled ["b","a"]) := by
 have hresult:=entry_order_agrees_iff (D:=Unit) (⟨[⟨"b",()⟩,⟨"a",()⟩],[],[],()⟩ :
  SnapshotRoot Unit Unit Unit) ⟨[⟨"a",()⟩,⟨"b",()⟩],[],[],()⟩
  ⟨.swap _ _ _,.refl _,.refl _,rfl⟩ (by decide)
 exact hresult.2.1

end EpistemicCompiler.EntryOrder
