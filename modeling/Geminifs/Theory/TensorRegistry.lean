import Geminifs.Core.TensorRegistry
import Geminifs.Library.Runs
import Geminifs.Theory.GpuTransfer

/-!
# The Entries of Registered Tensors

A pointer that is registered has a context, and the entries that its context has built
for it. A transfer gets the head of the chain that the mapper has for the pointer.

Unregistering leaves the chains alone, and a chain keeps the head that it was made with.
So the head is what the context in force has built exactly if the pointer had no chain
when it was registered. That fails if the memory was registered before, if a
registration has failed half way through, if two tensors overlap, and if a list has a
tensor twice.

## Main definitions

* `InForce`: Transfers get the entries of the contexts in force.
* `Unmapped`: A call that registers only pointers without a chain.
* `head`, `Adds`: The entries at the head of a chain, and what adding entries does to it.
* `Built`: A context with a group for each of the tensor's pointers.

## Theorems

* `addAll_adds`: A head that is there stays, and the first one that is added stays.
* `install_spec`: When the pointers of new contexts have their entries.
* `inForce_step_iff`, `mappings_in_force_iff`: The same of a call, and of any number of calls.
-/

namespace Geminifs.Gemini

open Striping Runs Function

variable (new : List (Tensor × GeminifsDma)) {e : Tensor × GeminifsDma}

namespace GPUController

variable {granularity p : Nat} {c : GPUController} {env : RegisterEnv} {ctrls : List NVMeController}
  {d : GeminifsDma}

/-- A pointer that is registered has the entries that its context was built with, and a
    pointer that is not has none. -/
structure InForce (c : GPUController) : Prop where
  registered : ∀ p d, c.dmaContexts p = some d → ∃ entries,
    lookupMappings d.granularityGroups p = some entries ∧
      c.getPrpMappings p = some ⟨d.addr, entries⟩
  unregistered : ∀ p, c.dmaContexts p = none → c.getPrpMappings p = none

/-- The addresses at which the groups of a tensor start. -/
def groupPtrs (t : Tensor) (granularity : Nat) : List Nat :=
  if 0 < granularity then (pieces granularity t.size).map fun p => t.dataPtr + p.1
  else [t.dataPtr]

variable (c)

/-- No pointer of the tensors has a chain, and none has a group of an earlier tensor. -/
def Apart (granularity : Nat) (ts : List Tensor) : Prop :=
  (∀ t ∈ ts, ∀ p ∈ granules t granularity, c.hostMappings p = none) ∧
    ts.Pairwise fun t t' => ∀ p ∈ granules t' granularity, p ∉ groupPtrs t granularity

/-- A call that registers only pointers without a chain. -/
def Unmapped : Call → Prop
  | .registerTensorMemory ctrls t granularity env ok =>
    (c.registerTensorMemory ctrls t granularity env ok).2 = true →
      c.dmaContexts t.dataPtr = none → c.Apart granularity [t]
  | .registerTensorList ctrls ts granularity env ok =>
    (c.registerTensorList ctrls ts granularity env ok).2 = true →
      c.Apart granularity (c.toRegister ts)
  | .unregisterTensorMemory _ => True

/-! ### Contexts -/

theorem initGroups_ptrs {nIoaddrs : Nat} (gs : List GranularitySliceGroup) :
    ∀ {page gs'}, initGroups env nIoaddrs page gs = some gs' →
      gs'.map (·.gpuTensorPtr) = gs.map (·.gpuTensorPtr) := by
  induction gs with
  | nil =>
    intro page gs' h
    rw [← Option.some.inj h]
  | cons _ _ ih =>
    intro _ _ h
    rw [initGroups] at h
    split at h
    · cases h
    rcases Option.map_eq_some_iff.mp h with ⟨_, hrest, rfl⟩
    rw [List.map_cons, List.map_cons, ih hrest]

theorem performDMASlicing_ptrs (maxIo : Nat) (t : Tensor) (granularity : Nat) :
    (performDMASlicing maxIo t.dataPtr t.size granularity).map (·.gpuTensorPtr) =
      groupPtrs t granularity := by
  rw [performDMASlicing, groupPtrs]
  split
  · rw [List.map_map]
    rfl
  · rfl

theorem isSome_lookupMappings (groups : List GranularitySliceGroup) (p : Nat) :
    (lookupMappings groups p).isSome ↔ p ∈ groups.map (·.gpuTensorPtr) := by
  rw [lookupMappings, Option.isSome_map, List.find?_isSome, List.mem_map]
  simp only [decide_eq_true_eq]

/-- A context with a group for each of the tensor's pointers, and entries in each. -/
structure Built (granularity : Nat) (t : Tensor) (groups : List GranularitySliceGroup) : Prop where
  ptrs : groups.map (·.gpuTensorPtr) = groupPtrs t granularity
  filled : ∀ g ∈ groups, g.prpMappings ≠ []
  nonempty : groups ≠ []

theorem built_of_createDma {t : Tensor} {groups : List GranularitySliceGroup}
    (hvalid : validateTensor t = true) (hgran : ¬ (0 < granularity ∧ granularity % 4096 ≠ 0))
    (h : createDma ctrls t granularity env = some groups) : Built granularity t groups := by
  have hpage : 4096 ∣ t.size := by
    rw [validateTensor, Bool.and_eq_true, decide_eq_true_eq, decide_eq_true_eq] at hvalid
    omega
  have hdvd : 4096 ∣ granularity := by omega
  have hmake := h
  rw [createDma] at h
  split at h
  next n maxIo hn hmax =>
    split at h
    · cases h
    next made hinit =>
      split_ifs at h
      rw [Option.some.inj h, initializePRPEntries] at hinit
      split_ifs at hinit with hempty
      have hptrs := (initGroups_ptrs _ hinit).trans (performDMASlicing_ptrs maxIo t granularity)
      refine ⟨hptrs, fun g hg hnil => ?_, fun hnil => ?_⟩
      · rcases sliced_of_createDma hmax hpage hdvd hmake hg with ⟨offset, -, hpos, -, hsliced⟩
        have hfirst := (hsliced.index 0).mpr (by omega)
        rw [hnil] at hfirst
        exact absurd hfirst (Nat.lt_irrefl 0)
      · rw [hnil, List.map_nil, ← performDMASlicing_ptrs maxIo, eq_comm, List.map_eq_nil_iff]
          at hptrs
        rw [hptrs] at hempty
        exact hempty rfl
  next => cases h

/-- A tensor is registered under addresses at which it has groups. -/
theorem granules_subset (t : Tensor) (granularity : Nat) (h : p ∈ granules t granularity) :
    p ∈ groupPtrs t granularity := by
  rw [granules] at h
  rw [groupPtrs]
  split at h
  next hpos =>
    rw [if_pos hpos]
    rcases List.mem_map.mp h with ⟨i, hi, rfl⟩
    rw [List.mem_range] at hi
    -- The count is at most that of the groups, whether it overflows or not.
    have hle : (t.size + granularity - 1) % 2 ^ 64 / granularity ≤
        (t.size + granularity - 1) / granularity :=
      Nat.div_le_div_right (Nat.mod_le _ _)
    have hlt : i < (t.size + granularity - 1) / granularity := Nat.lt_of_lt_of_le hi hle
    have hmul : (i + 1) * granularity ≤ t.size + granularity - 1 :=
      (Nat.le_div_iff_mul_le hpos).mp hlt
    rw [Nat.add_mul] at hmul
    refine List.mem_map.mpr ⟨(i * granularity, _), (mem_pieces hpos).mpr ⟨i, by omega, rfl⟩, rfl⟩
  next hzero =>
    rw [if_neg hzero]
    exact h

/-! ### Chains -/

/-- The entries at the head of the chain for a pointer. -/
def head (p : Nat) : Option PRPMappingEntrySpan :=
  (c.hostMappings p).map GPUHashEntry.mappings

variable {c}

/-- The entries that a context has built for a pointer. -/
def spanOf (d : GeminifsDma) (p : Nat) : Option PRPMappingEntrySpan :=
  (lookupMappings d.granularityGroups p).map fun entries => ⟨d.addr, entries⟩

/-- The contexts and the next address stay, and so do the heads that are there. -/
structure Extends (c c' : GPUController) : Prop where
  dmaContexts : c'.dmaContexts = c.dmaContexts
  nextCtx : c'.nextCtx = c.nextCtx
  head : ∀ p s, c.head p = some s → c'.head p = some s

theorem Extends.refl (c : GPUController) : Extends c c := ⟨rfl, rfl, fun _ _ h => h⟩

theorem Extends.trans {c' c'' : GPUController} (h₁ : Extends c c') (h₂ : Extends c' c'') :
    Extends c c'' :=
  ⟨h₂.dmaContexts.trans h₁.dmaContexts, h₂.nextCtx.trans h₁.nextCtx,
    fun p s hs => h₂.head p s (h₁.head p s hs)⟩

/-- What adding entries does to the heads: those that are there stay, a new one is of an
    owner, and if all goes well each pointer has the entries given for it unless it had some. -/
structure Adds (c : GPUController) (spans : Nat → Option PRPMappingEntrySpan) (owners : Nat → Prop)
    (r : GPUController × Bool) : Prop where
  grows : Extends c r.1
  only : ∀ p s, r.1.head p = some s → c.head p = some s ∨ owners s.ctx
  all : r.2 = true → ∀ p, r.1.head p = (c.head p).or (spans p)

section

variable {c c₁ : GPUController} {spans first rest : Nat → Option PRPMappingEntrySpan}
  {owners : Nat → Prop} {r : GPUController × Bool}

theorem Adds.nil (c : GPUController) (owners : Nat → Prop) : Adds c (fun _ => none) owners (c, true) :=
  ⟨.refl c, fun _ _ hs => .inl hs, fun _ _ => Option.or_none.symm⟩

/-- Once something fails it does not matter what else was to be added. -/
theorem Adds.stop (h : Adds c first owners (c₁, false)) : Adds c spans owners (c₁, false) :=
  ⟨h.grows, h.only, nofun⟩

/-- One thing after another. -/
theorem Adds.next (h : Adds c first owners (c₁, true)) (h' : Adds c₁ rest owners r)
    (hspans : ∀ p, spans p = (first p).or (rest p)) : Adds c spans owners r := by
  refine ⟨h.grows.trans h'.grows, fun p s hs => ?_, fun hr p => ?_⟩
  · rcases h'.only p s hs with hs | hs
    · exact h.only p s hs
    · exact .inr hs
  · rw [h'.all hr p, h.all rfl p, Option.or_assoc, hspans p]

end

variable {owners : Nat → Prop}

theorem addBatchMappings_adds (c : GPUController) (ptr tensorSize : Nat)
    {span : PRPMappingEntrySpan} (hspan : span.entries ≠ []) (ok : Bool)
    (howner : owners span.ctx) : Adds c (fun p => if p = ptr then some span else none) owners
      (c.addBatchMappings ptr tensorSize span ok) := by
  have hfull : ¬ span.entries.isEmpty = true := fun h => hspan (List.isEmpty_iff.mp h)
  rw [addBatchMappings, if_neg hfull]
  split
  · exact ⟨.refl c, fun _ _ hs => .inl hs, nofun⟩
  dsimp only
  generalize hr : Prod.mk _ true = r
  have hhead : ∀ p, r.1.head p = (c.head p).or (if p = ptr then some span else none) := by
    intro p
    rw [← hr, head, head]
    by_cases hp : p = ptr
    · subst hp
      simp only [update_self]
      cases c.hostMappings p with
      | none | some => rfl
    · simp only [update_of_ne hp, if_neg hp, Option.or_none]
  refine ⟨⟨hr ▸ rfl, hr ▸ rfl, fun p s hs => ?_⟩, fun p s hs => ?_, fun _ p => hhead p⟩
  · exact (hhead p).trans (by rw [hs]; rfl)
  · replace hs := (hhead p).symm.trans hs
    rcases Option.or_eq_some_iff.mp hs with hs | ⟨-, hs⟩
    · exact .inl hs
    · split at hs
      · exact .inr (Option.some.inj hs ▸ howner)
      · cases hs

/-- The groups of a context are added: a head that is there stays, and otherwise it is the
    first one. -/
theorem addGroups_adds (ctx : Nat) (ok : Nat → Bool) (gs : List GranularitySliceGroup)
    (hgs : ∀ g ∈ gs, g.prpMappings ≠ []) (howner : owners ctx) (k : Nat)
    (c : GPUController) : Adds c (spanOf ⟨ctx, gs⟩) owners (addGroups ctx ok k gs c) := by
  induction gs generalizing k c with
  | nil => exact .nil c owners
  | cons g gs ih =>
    have hone := addBatchMappings_adds c g.gpuTensorPtr g.granularitySize
      (show (PRPMappingEntrySpan.mk ctx g.prpMappings).entries ≠ [] from
        hgs g List.mem_cons_self) (ok k) howner
    rw [addGroups]
    split
    next heq => exact (heq ▸ hone).stop
    next heq =>
      refine (heq ▸ hone).next (ih (List.forall_mem_cons.mp hgs).2 _ _) fun p => ?_
      rw [spanOf, spanOf, lookupMappings, lookupMappings]
      by_cases hp : p = g.gpuTensorPtr
      · simp [hp]
      · have hne : ¬ g.gpuTensorPtr = p := fun heq => hp heq.symm
        simp [hp, hne]

/-- The first context of a list that has a group at a pointer. -/
def firstSpan (p : Nat) : Option PRPMappingEntrySpan :=
  new.findSome? fun e => spanOf e.2 p

theorem firstSpan_cons (e : Tensor × GeminifsDma) (new : List (Tensor × GeminifsDma)) (p : Nat) :
    firstSpan (e :: new) p = (spanOf e.2 p).or (firstSpan new p) := by
  rw [firstSpan, List.findSome?_cons]
  cases spanOf e.2 p <;> rfl

theorem addAll_adds (granularity : Nat) (ok : Nat → Nat → Bool) (new : List (Tensor × GeminifsDma))
    (hnew : ∀ e ∈ new, Built granularity e.1 e.2.granularityGroups)
    (howners : ∀ e ∈ new, owners e.2.addr) (j : Nat) (c : GPUController) :
    Adds c (firstSpan new) owners (addAll ok j new c) := by
  induction new generalizing j c with
  | nil => exact .nil c owners
  | cons e new ih =>
    have hbuilt := hnew e List.mem_cons_self
    have hone := addGroups_adds e.2.addr (ok j) e.2.granularityGroups hbuilt.filled
      (howners e List.mem_cons_self) 0 c
    rw [addAll, addPRPMappingsToGPU, if_neg fun h => hbuilt.nonempty (List.isEmpty_iff.mp h)]
    split
    next heq => exact (heq ▸ hone).stop
    next heq =>
      exact (heq ▸ hone).next (ih (List.forall_mem_cons.mp hnew).2
        (List.forall_mem_cons.mp howners).2 _ _) (firstSpan_cons e new)

/-! ### New contexts -/

/-- The last context of a list that is entered under a pointer. -/
def lastContext (granularity : Nat) : List (Tensor × GeminifsDma) → Nat → Option GeminifsDma
  | [], _ => none
  | e :: rest, p =>
    (lastContext granularity rest p).or (if p ∈ granules e.1 granularity then some e.2 else none)

theorem foldl_update (d : GeminifsDma) (ps : List Nat) (contexts : Nat → Option GeminifsDma)
    (p : Nat) :
    ps.foldl (fun contexts p => update contexts p (some d)) contexts p =
      (if p ∈ ps then some d else none).or (contexts p) := by
  induction ps generalizing contexts with
  | nil => rfl
  | cons q ps ih =>
    rw [List.foldl_cons, ih]
    by_cases hp : p ∈ ps
    · rw [if_pos hp, if_pos (List.mem_cons_of_mem _ hp)]
      rfl
    · by_cases hq : p = q
      · subst hq
        rw [if_neg hp, if_pos List.mem_cons_self, update_self]
        rfl
      · have hnot : p ∉ q :: ps := fun hmem => (List.mem_cons.mp hmem).elim hq hp
        rw [if_neg hp, if_neg hnot, update_of_ne hq]

theorem foldl_enterContext (granularity : Nat) (new : List (Tensor × GeminifsDma))
    (c : GPUController) :
    (new.foldl (enterContext granularity) c).hostMappings = c.hostMappings ∧
      (new.foldl (enterContext granularity) c).nextCtx = c.nextCtx ∧
      ∀ p, (new.foldl (enterContext granularity) c).dmaContexts p =
        (lastContext granularity new p).or (c.dmaContexts p) := by
  induction new generalizing c with
  | nil => exact ⟨rfl, rfl, fun _ => rfl⟩
  | cons e _ ih =>
    rw [List.foldl_cons]
    rcases ih (enterContext granularity c e) with ⟨hmaps, hnext, hctx⟩
    refine ⟨hmaps, hnext, fun p => ?_⟩
    rw [hctx p, lastContext, Option.or_assoc]
    congr 1
    exact foldl_update e.2 _ c.dmaContexts p

theorem lastContext_some {new : List (Tensor × GeminifsDma)}
    (h : lastContext granularity new p = some d) :
    ∃ e ∈ new, e.2 = d ∧ p ∈ granules e.1 granularity := by
  induction new with
  | nil => cases h
  | cons e _ ih =>
    rcases Option.or_eq_some_iff.mp h with h | ⟨-, h⟩
    · rcases ih h with ⟨e', he', hd, hp⟩
      exact ⟨e', List.mem_cons_of_mem _ he', hd, hp⟩
    · split at h
      next hp => exact ⟨e, List.mem_cons_self, Option.some.inj h, hp⟩
      next => cases h

/-- A context has entries at the pointers of its groups. -/
theorem spanOf_eq_none_iff (hbuilt : Built granularity e.1 e.2.granularityGroups) (p : Nat) :
    spanOf e.2 p = none ↔ p ∉ groupPtrs e.1 granularity := by
  rw [← hbuilt.ptrs, ← isSome_lookupMappings, spanOf]
  simp

theorem spanOf_granule
    (hbuilt : Built granularity e.1 e.2.granularityGroups) (hp : p ∈ granules e.1 granularity) :
    ∃ s, spanOf e.2 p = some s ∧ s.ctx = e.2.addr := by
  cases hs : spanOf e.2 p with
  | none =>
    exact absurd (granules_subset e.1 granularity hp) ((spanOf_eq_none_iff hbuilt p).mp hs)
  | some =>
    rcases Option.map_eq_some_iff.mp hs with ⟨_, -, rfl⟩
    exact ⟨_, rfl, rfl⟩

/-- When the pointers of new contexts have the entries that these were built with: none had
    a head, and none has a group of an earlier context. The heads are those of older
    contexts, and what each context adds is older than what comes after it. -/
theorem last_has_first_iff (hnew : ∀ e ∈ new, Built granularity e.1 e.2.granularityGroups)
    (hincreasing : new.Pairwise fun e e' => e.2.addr < e'.2.addr) :
    ∀ heads : Nat → Option PRPMappingEntrySpan,
    (∀ p s, heads p = some s → ∀ e ∈ new, s.ctx < e.2.addr) →
    ((∀ p d, lastContext granularity new p = some d → (heads p).or (firstSpan new p) = spanOf d p) ↔
      (∀ e ∈ new, ∀ p ∈ granules e.1 granularity, heads p = none) ∧
        new.Pairwise fun e e' => ∀ p ∈ granules e'.1 granularity,
          p ∉ groupPtrs e.1 granularity) := by
  induction new with
  | nil =>
    intro heads _
    exact iff_of_true nofun ⟨nofun, List.Pairwise.nil⟩
  | cons e new ih =>
    intro heads hold
    rw [List.pairwise_cons] at hincreasing
    have hbuilt := hnew e List.mem_cons_self
    have hstep := ih (List.forall_mem_cons.mp hnew).2 hincreasing.2
      (fun p => (heads p).or (spanOf e.2 p)) (by
        intro p s hs e' he'
        rcases Option.or_eq_some_iff.mp hs with hs | ⟨-, hs⟩
        · exact hold p s hs e' (List.mem_cons_of_mem _ he')
        · rcases Option.map_eq_some_iff.mp hs with ⟨_, -, rfl⟩
          exact hincreasing.1 e' he')
    have hapart : (∀ e' ∈ new, ∀ p ∈ granules e'.1 granularity,
        (heads p).or (spanOf e.2 p) = none) ↔
        (∀ e' ∈ new, ∀ p ∈ granules e'.1 granularity, heads p = none) ∧
          ∀ e' ∈ new, ∀ p ∈ granules e'.1 granularity, p ∉ groupPtrs e.1 granularity := by
      simp only [Option.or_eq_none_iff, spanOf_eq_none_iff hbuilt, forall_and]
    rw [hapart] at hstep
    rw [List.pairwise_cons]
    constructor
    · intro hall
      have hrest := hstep.mp (fun p d hd => by
        have hp := hall p d (by rw [lastContext, hd]; rfl)
        rwa [firstSpan_cons, ← Option.or_assoc] at hp)
      refine ⟨fun e' he' p hp => ?_, hrest.1.2, hrest.2⟩
      rcases List.mem_cons.mp he' with rfl | he'
      · cases hlast : lastContext granularity new p with
        | some =>
          rcases lastContext_some hlast with ⟨e'', he'', -, hp''⟩
          exact hrest.1.1 e'' he'' p hp''
        | none =>
          have hself := hall p e'.2 (by rw [lastContext, hlast, if_pos hp]; rfl)
          cases hheads : heads p with
          | none => rfl
          | some s =>
            -- What is there is older than the context.
            rcases spanOf_granule hbuilt hp with ⟨_, hs', hctx⟩
            rw [hheads, hs', Option.some_or, Option.some.injEq] at hself
            have hlt := hold p s hheads e' List.mem_cons_self
            rw [hself, hctx] at hlt
            exact absurd hlt (Nat.lt_irrefl _)
      · exact hrest.1.1 e' he' p hp
    · rintro ⟨hnone, hfirst, hpairs⟩ p d hd
      rw [firstSpan_cons, ← Option.or_assoc]
      rcases Option.or_eq_some_iff.mp hd with hd | ⟨-, hd⟩
      · exact hstep.mpr ⟨⟨(List.forall_mem_cons.mp hnone).2, hfirst⟩, hpairs⟩
          p d hd
      · split at hd
        next hp =>
          rcases spanOf_granule hbuilt hp with ⟨s, hs, -⟩
          rw [← Option.some.inj hd, hnone e List.mem_cons_self p hp, hs]
          rfl
        next => cases hd

/-! ### One call -/

/-- The heads are those of contexts that were made. -/
def Bounded (c : GPUController) : Prop := ∀ p s, c.head p = some s → s.ctx < c.nextCtx

theorem newContexts_spec (addr : Nat) (built : List (Tensor × List GranularitySliceGroup)) :
    (newContexts addr built).map Prod.fst = built.map Prod.fst ∧
      (newContexts addr built).Pairwise (fun e e' => e.2.addr < e'.2.addr) ∧
      ∀ e ∈ newContexts addr built, addr ≤ e.2.addr ∧ e.2.addr < addr + built.length ∧
        (e.1, e.2.granularityGroups) ∈ built := by
  induction built generalizing addr with
  | nil => exact ⟨rfl, List.Pairwise.nil, nofun⟩
  | cons b built ih =>
    rcases ih (addr + 1) with ⟨hmap, hpairs, hmem⟩
    rw [newContexts]
    refine ⟨by rw [List.map_cons, List.map_cons, hmap], ?_, fun e he => ?_⟩
    · rw [List.pairwise_cons]
      refine ⟨fun e he => ?_, hpairs⟩
      have hle := (hmem e he).1
      show addr < e.2.addr
      omega
    · rw [List.length_cons]
      rcases List.mem_cons.mp he with rfl | he
      · exact ⟨Nat.le_refl _, by show addr < _; omega, List.mem_cons_self⟩
      · rcases hmem e he with ⟨hle, hlt, hin⟩
        exact ⟨by omega, by omega, List.mem_cons_of_mem _ hin⟩

theorem getPrpMappings_of_some (h : c.dmaContexts p = some d) : c.getPrpMappings p = c.head p := by
  rw [getPrpMappings, h]
  rfl

/-- All that matters for a pointer is its context, and that its head stays. -/
theorem inForce_iff (c : GPUController) : InForce c ↔ ∀ p d, c.dmaContexts p = some d →
    (lookupMappings d.granularityGroups p).isSome ∧ c.head p = spanOf d p := by
  constructor
  · intro h p d hd
    rcases h.registered p d hd with ⟨entries, hentries, hget⟩
    rw [getPrpMappings_of_some hd] at hget
    rw [hget, spanOf, hentries]
    exact ⟨rfl, rfl⟩
  · intro h
    refine ⟨fun p d hd => ?_, fun p hp => by rw [getPrpMappings, hp]⟩
    rcases h p d hd with ⟨hsome, hhead⟩
    rcases Option.isSome_iff_exists.mp hsome with ⟨entries, hentries⟩
    refine ⟨entries, hentries, ?_⟩
    rw [getPrpMappings_of_some hd, hhead, spanOf, hentries]
    rfl

/-- Spans that stay at the head keep every context in force. -/
theorem InForce.heads {c₁ : GPUController} (hc : InForce c)
    (hkept : ∀ p s, c.head p = some s → c₁.head p = some s) (hd : c.dmaContexts p = some d) :
    (lookupMappings d.granularityGroups p).isSome ∧ c₁.head p = spanOf d p := by
  rcases (inForce_iff c).mp hc p d hd with ⟨hsome, hold⟩
  rcases Option.isSome_iff_exists.mp hsome with ⟨entries, hentries⟩
  have hspan : spanOf d p = some ⟨d.addr, entries⟩ := by
    rw [spanOf, hentries]
    rfl
  exact ⟨hsome, (hkept p _ (hold.trans hspan)).trans hspan.symm⟩

theorem apart_map_fst (c : GPUController) (granularity : Nat) (new : List (Tensor × GeminifsDma)) :
    c.Apart granularity (new.map Prod.fst) ↔
      (∀ e ∈ new, ∀ p ∈ granules e.1 granularity, c.head p = none) ∧
        new.Pairwise fun e e' => ∀ p ∈ granules e'.1 granularity,
          p ∉ groupPtrs e.1 granularity := by
  rw [Apart, List.pairwise_map]
  simp only [List.forall_mem_map, head, Option.map_eq_none_iff]

theorem install_spec (hb : Bounded c) (hc : InForce c) (ok : Nat → Nat → Bool)
    (built : List (Tensor × List GranularitySliceGroup))
    (hbuilt : ∀ b ∈ built, Built granularity b.1 b.2) :
    Bounded (c.install granularity ok built).1 ∧ (InForce (c.install granularity ok built).1 ↔
        ((c.install granularity ok built).2 = true → c.Apart granularity (built.map Prod.fst))) := by
  rcases newContexts_spec c.nextCtx built with ⟨hmap, hincreasing, hmem⟩
  set new := newContexts c.nextCtx built with hnew
  have hnewBuilt : ∀ e ∈ new, Built granularity e.1 e.2.granularityGroups := fun e he =>
    hbuilt _ (hmem e he).2.2
  have hadds : Adds _ _ (· < c.nextCtx + built.length) _ := addAll_adds granularity ok new hnewBuilt
    (fun e he => (hmem e he).2.1) 0 { c with nextCtx := c.nextCtx + built.length }
  rw [install]
  generalize addAll ok 0 new { c with nextCtx := c.nextCtx + built.length } = added at hadds
  obtain ⟨c₁, added⟩ := added
  have hctx₁ : c₁.dmaContexts = c.dmaContexts := hadds.grows.dmaContexts
  have hnext₁ : c₁.nextCtx = c.nextCtx + built.length := hadds.grows.nextCtx
  have hbound : Bounded c₁ := by
    intro p s hs
    rw [hnext₁]
    rcases hadds.only p s hs with hs | hs
    · exact Nat.lt_add_right _ (hb p s hs)
    · exact hs
  -- A pointer that is not registered anew has the head that it had.
  have hstays : ∀ p d, c.dmaContexts p = some d →
      (lookupMappings d.granularityGroups p).isSome ∧ c₁.head p = spanOf d p :=
    fun p d hd => hc.heads hadds.grows.head hd
  cases added with
  | false =>
    refine ⟨hbound, iff_of_true ?_ nofun⟩
    rw [inForce_iff]
    intro p d hd
    exact hstays p d (hctx₁ ▸ hd)
  | true =>
    rcases foldl_enterContext granularity new c₁ with ⟨hmaps, hnext, hctx⟩
    have hhead₂ : ∀ p, (new.foldl (enterContext granularity) c₁).head p = c₁.head p := by
      intro p
      rw [head, hmaps]
      rfl
    refine ⟨fun p s hs => ?_, ?_⟩
    · rw [hnext]
      exact hbound p s ((hhead₂ p).symm.trans hs)
    have hiff := last_has_first_iff new hnewBuilt hincreasing c.head
      (fun p s hs e he => Nat.lt_of_lt_of_le (hb p s hs) (hmem e he).1)
    rw [← hmap, apart_map_fst, ← hiff, inForce_iff]
    have hfirst : ∀ p, c₁.head p = (c.head p).or (firstSpan new p) := fun p => hadds.all rfl p
    constructor
    · intro h _ p d hd
      rw [← hfirst p, ← hhead₂ p]
      exact (h p d (by rw [hctx p, hd]; rfl)).2
    · intro h p d hd
      rw [hctx p, hctx₁] at hd
      rw [hhead₂ p]
      rcases Option.or_eq_some_iff.mp hd with hd | ⟨-, hd⟩
      · refine ⟨?_, (hfirst p).trans (h rfl p d hd)⟩
        rcases lastContext_some hd with ⟨e, he, rfl, hp⟩
        rw [isSome_lookupMappings, (hnewBuilt e he).ptrs]
        exact granules_subset e.1 granularity hp
      · exact hstays p d hd

/-- How registering a tensor goes: nothing changes, or a context is built for it. -/
theorem registerTensorMemory_cases (c : GPUController) (ctrls : List NVMeController) (t : Tensor)
    (granularity : Nat) (env : RegisterEnv) (ok : Nat → Bool) :
    (∃ r, c.registerTensorMemory ctrls t granularity env ok = (c, r) ∧
        (r = true → (c.dmaContexts t.dataPtr).isSome)) ∨
      ∃ groups, c.dmaContexts t.dataPtr = none ∧ Built granularity t groups ∧
        c.registerTensorMemory ctrls t granularity env ok =
          c.install granularity (fun _ => ok) [(t, groups)] := by
  unfold registerTensorMemory
  split_ifs with hvalid hgran hthere
  · exact .inl ⟨false, rfl, nofun⟩
  · exact .inl ⟨true, rfl, fun _ => hthere⟩
  · cases hmake : createDMAContext ctrls t granularity env with
    | none => exact .inl ⟨false, rfl, nofun⟩
    | some groups =>
      rw [createDMAContext_eq] at hmake
      have hbuilt := built_of_createDma hvalid hgran hmake
      exact .inr ⟨groups, by simpa using hthere, hbuilt, rfl⟩
  · exact .inl ⟨false, rfl, nofun⟩

/-- The same of a list: it fails and nothing changes, or a context is built for each tensor
    that is not registered. -/
theorem registerTensorList_cases (c : GPUController) (ctrls : List NVMeController)
    (ts : List Tensor) (granularity : Nat) (env : RegisterEnv) (ok : Nat → Nat → Bool) :
    c.registerTensorList ctrls ts granularity env ok = (c, false) ∨
      ∃ built : List (Tensor × List GranularitySliceGroup), built.map Prod.fst = c.toRegister ts ∧
        (∀ b ∈ built, Built granularity b.1 b.2) ∧
        c.registerTensorList ctrls ts granularity env ok = c.install granularity ok built := by
  unfold registerTensorList
  split_ifs with hvalid hgran
  · exact .inl rfl
  · exact .inl rfl
  cases hmake : createDMAContexts ctrls (c.toRegister ts) granularity env with
  | none => exact .inl rfl
  | some all =>
    unfold createDMAContexts at hmake
    split at hmake
    · cases hmake
    split at hmake
    · cases hmake
    split_ifs at hmake
    -- Each context is built as if for its tensor alone.
    rcases List.forall₂_iff_zip.mp (createDmas_some _ hmake) with ⟨hlength, hcreated⟩
    refine .inr ⟨(c.toRegister ts).zip all, List.map_fst_zip (by rw [hlength]), ?_, rfl⟩
    intro b hb
    have hmem : b.1 ∈ ts := (List.mem_filter.mp (List.of_mem_zip hb).1).1
    have hv : validateTensor b.1 = true := by
      by_contra hnot
      exact hvalid (List.any_eq_true.mpr ⟨b.1, hmem, by simpa using hnot⟩)
    exact built_of_createDma hv hgran (hcreated hb)

/-- Unregistering leaves the entries of the other pointers. -/
theorem inForce_unregister (hb : Bounded c) (hc : InForce c) (ptr : Nat) :
    Bounded (c.unregisterTensorMemory ptr).1 ∧ InForce (c.unregisterTensorMemory ptr).1 := by
  rw [unregisterTensorMemory]
  split
  · exact ⟨hb, hc⟩
  · refine ⟨hb, ?_⟩
    rw [inForce_iff] at hc ⊢
    intro p e he
    simp only at he
    split_ifs at he
    exact hc p e he

/-- One call keeps the entries right exactly if it registers only pointers without a
    chain. -/
theorem inForce_step_iff (hb : Bounded c) (hc : InForce c) (call : Call) :
    Bounded (c.step call) ∧ (InForce (c.step call) ↔ Unmapped c call) := by
  cases call with
  | registerTensorMemory ctrls t granularity env ok =>
    rw [step, Unmapped]
    rcases registerTensorMemory_cases c ctrls t granularity env ok with
      ⟨r, hsame, hsome⟩ | ⟨groups, hnone, hbuilt, hcall⟩
    · rw [hsame]
      refine ⟨hb, iff_of_true hc (fun htrue hnone => ?_)⟩
      have hthere := hsome htrue
      rw [hnone] at hthere
      cases hthere
    · have hspec := install_spec hb hc (fun _ => ok) [(t, groups)] (fun b hb => by
        rw [List.mem_singleton.mp hb]
        exact hbuilt)
      rw [hcall]
      refine ⟨hspec.1, hspec.2.trans ?_⟩
      simp only [hnone, true_implies]
      rfl
  | registerTensorList ctrls ts granularity env ok =>
    rw [step, Unmapped]
    rcases registerTensorList_cases c ctrls ts granularity env ok with
      hsame | ⟨built, hfst, hbuilt, hcall⟩
    · rw [hsame]
      exact ⟨hb, iff_of_true hc (by simp)⟩
    · have hspec := install_spec hb hc ok built hbuilt
      rw [hfst] at hspec
      rw [hcall]
      exact hspec
  | unregisterTensorMemory ptr =>
    have hkept := inForce_unregister hb hc ptr
    exact ⟨hkept.1, iff_of_true hkept.2 trivial⟩

/-! ### Any number of calls -/

/-- Along any calls, each pointer that is registered has the entries of its context, and
    none that is not, exactly if each call registers only pointers without a chain. -/
theorem mappings_in_force_iff (calls : List Call) :
    Runs.Along step (fun c call => InForce (c.step call)) fresh calls ↔
      Runs.Along step Unmapped fresh calls := by
  have hstart : Bounded fresh ∧ InForce fresh :=
    ⟨nofun, ⟨nofun, fun _ _ => rfl⟩⟩
  constructor
  · intro h
    exact along_of_invariant (I := fun c => Bounded c ∧ InForce c)
      (fun c call hc hin => ⟨(inForce_step_iff hc.1 hc.2 call).1, hin⟩)
      (fun c call hc hin => (inForce_step_iff hc.1 hc.2 call).2.mp hin) hstart h
  · intro h
    exact along_of_invariant (I := fun c => Bounded c ∧ InForce c)
      (fun c call hc hun => ⟨(inForce_step_iff hc.1 hc.2 call).1,
        (inForce_step_iff hc.1 hc.2 call).2.mpr hun⟩)
      (fun c call hc hun => (inForce_step_iff hc.1 hc.2 call).2.mpr hun) hstart h

/-- A controller with I/Os of up to a megabyte. -/
def oneMegabyte : NVMeController := ⟨1048576, by decide, by decide⟩

/-- A tensor of 128 KiB is registered and unregistered, and one of 64 KiB is registered at
    its address: a transfer of the second one gets the entry of the first. -/
theorem reused_pointer_keeps_entries : (run step fresh
      [.registerTensorMemory [oneMegabyte] ⟨65536, 131072⟩ 0 ⟨some 32, true, true⟩ (fun _ => true),
        .unregisterTensorMemory 65536,
        .registerTensorMemory [oneMegabyte] ⟨65536, 65536⟩ 0 ⟨some 16, true, true⟩
          (fun _ => true)]).dmaContexts 65536 ≠ none ∧
    ((run step fresh
      [.registerTensorMemory [oneMegabyte] ⟨65536, 131072⟩ 0 ⟨some 32, true, true⟩ (fun _ => true),
        .unregisterTensorMemory 65536,
        .registerTensorMemory [oneMegabyte] ⟨65536, 65536⟩ 0 ⟨some 16, true, true⟩
          (fun _ => true)]).getPrpMappings 65536).map
      (fun s => (s.ctx, s.entries.map PRPMappingEntry.dataLength)) = some (0, [131072]) := by
  decide

end GPUController

end Geminifs.Gemini
