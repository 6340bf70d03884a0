import Geminifs.Core.GpuTransfer
import Mathlib.Logic.Function.Basic

/-!
# Registered Tensors

`GPUController` and its `GPUMemoryMapper`: which tensors are registered, and the PRP
entries that transfers use for them.

There are two maps. `dma_contexts_` has the context of each registered pointer: that of
a tensor, and with a granularity those of its granules. `host_mappings_` has the
entries of each group, in GPU memory; it is a map of chains, of which a lookup takes
the head. Registering fills both, group by group, and unregistering clears the first.

A context is known by its address, and the pages of an entry are those that its context
was mapped to. What the CUDA calls return is given in advance. A tensor lies in memory,
so its addresses are below `2 ^ 64`.

## Main definitions

* `GeminifsDma`: A context, with the groups it was built with.
* `GPUController`: The two maps.
* `GPUController.addBatchMappings`: The entries of one group.
* `GPUController.registerTensorMemory`, `GPUController.registerTensorList`,
  `GPUController.unregisterTensorMemory`: The calls.
* `GPUController.getPrpMappings`: The entries that a transfer gets.
-/

namespace Geminifs.Gemini

/-- `geminifs_dma`: its address, and the groups it was built with. -/
structure GeminifsDma where
  addr : Nat
  granularityGroups : List GranularitySliceGroup
  deriving DecidableEq, Repr

/-- Entries in GPU memory, with the context whose pages they name. -/
structure PRPMappingEntrySpan where
  ctx : Nat
  entries : List PRPMappingEntry
  deriving DecidableEq, Repr

/-- `GPUHashEntry`. The entry that `next` points to has none behind it. -/
structure GPUHashEntry where
  tensorSize : Nat
  mappings : PRPMappingEntrySpan
  next : Option PRPMappingEntrySpan
  deriving DecidableEq, Repr

/-- `GPUController`, as far as tensors go. -/
structure GPUController where
  dmaContexts : Nat → Option GeminifsDma
  hostMappings : Nat → Option GPUHashEntry
  nextCtx : Nat

/-- `num_granules`, in 64 bits. -/
def numGranules (tensorSize granularity : Nat) : Nat :=
  (tensorSize + granularity - 1) % 2 ^ 64 / granularity

/-- The pointers that a tensor is registered under. -/
def granules (t : Tensor) (granularity : Nat) : List Nat :=
  if 0 < granularity then
    (List.range (numGranules t.size granularity)).map fun i => t.dataPtr + i * granularity
  else [t.dataPtr]

variable (c : GPUController)

namespace GPUController

/-- A new controller. -/
def fresh : GPUController := ⟨fun _ => none, fun _ => none, 0⟩

/-- `addBatchMappings`, given whether there is memory for the entries. -/
def addBatchMappings (ptr tensorSize : Nat) (span : PRPMappingEntrySpan)
    (ok : Bool) : GPUController × Bool :=
  if span.entries.isEmpty then (c, true)
  else if ¬ ok then (c, false)
  else
    let entry :=
      match c.hostMappings ptr with
      -- What was behind the head is lost, and the head stays.
      | some head => { head with next := some span }
      | none => ⟨tensorSize, span, none⟩
    ({ c with hostMappings := Function.update c.hostMappings ptr (some entry) }, true)

/-- The loop of `addPRPMappingsToGPU` over the groups of a context, from the `k`-th on. -/
def addGroups (ctx : Nat) (ok : Nat → Bool) :
    Nat → List GranularitySliceGroup → GPUController → GPUController × Bool
  | _, [], c => (c, true)
  | k, g :: gs, c =>
    match c.addBatchMappings g.gpuTensorPtr g.granularitySize ⟨ctx, g.prpMappings⟩ (ok k) with
    | (c, false) => (c, false)
    | (c, true) => addGroups ctx ok (k + 1) gs c

/-- `addPRPMappingsToGPU`. -/
def addPRPMappingsToGPU (d : GeminifsDma) (ok : Nat → Bool) : GPUController × Bool :=
  if d.granularityGroups.isEmpty then (c, false)
  else addGroups d.addr ok 0 d.granularityGroups c

/-- The mappings of several contexts are added, until one fails. -/
def addAll (ok : Nat → Nat → Bool) :
    Nat → List (Tensor × GeminifsDma) → GPUController → GPUController × Bool
  | _, [], c => (c, true)
  | j, (_, d) :: rest, c =>
    match c.addPRPMappingsToGPU d (ok j) with
    | (c, false) => (c, false)
    | (c, true) => addAll ok (j + 1) rest c

/-- The loop that enters a context under each granule of its tensor. -/
def enterContext (granularity : Nat) (c : GPUController) (e : Tensor × GeminifsDma) :
    GPUController :=
  { c with
    dmaContexts := (granules e.1 granularity).foldl
      (fun contexts p => Function.update contexts p (some e.2)) c.dmaContexts }

/-- New contexts, at addresses of their own. -/
def newContexts : Nat → List (Tensor × List GranularitySliceGroup) → List (Tensor × GeminifsDma)
  | _, [] => []
  | addr, (t, groups) :: rest => (t, ⟨addr, groups⟩) :: newContexts (addr + 1) rest

/-- What both ways to register do once the entries are built. -/
def install (granularity : Nat) (ok : Nat → Nat → Bool)
    (built : List (Tensor × List GranularitySliceGroup)) : GPUController × Bool :=
  let new := newContexts c.nextCtx built
  match addAll ok 0 new { c with nextCtx := c.nextCtx + built.length } with
  | (c, false) => (c, false)
  | (c, true) => (new.foldl (enterContext granularity) c, true)

/-- `registerTensorMemory`. -/
def registerTensorMemory (ctrls : List NVMeController) (t : Tensor)
    (granularity : Nat) (env : RegisterEnv) (ok : Nat → Bool) : GPUController × Bool :=
  if ¬ validateTensor t then (c, false)
  else if 0 < granularity ∧ granularity % 4096 ≠ 0 then (c, false)
  else if (c.dmaContexts t.dataPtr).isSome then (c, true)
  else
    match createDMAContext ctrls t granularity env with
    | none => (c, false)
    | some groups => c.install granularity (fun _ => ok) [(t, groups)]

/-- The tensors of a list that are not registered. -/
def toRegister (ts : List Tensor) : List Tensor :=
  ts.filter fun t => (c.dmaContexts t.dataPtr).isNone

/-- `registerTesnsorList`. -/
def registerTensorList (ctrls : List NVMeController) (ts : List Tensor)
    (granularity : Nat) (env : RegisterEnv) (ok : Nat → Nat → Bool) : GPUController × Bool :=
  if ts.any fun t => ¬ validateTensor t then (c, false)
  else if 0 < granularity ∧ granularity % 4096 ≠ 0 then (c, false)
  else
    match createDMAContexts ctrls (c.toRegister ts) granularity env with
    | none => (c, false)
    | some all => c.install granularity ok ((c.toRegister ts).zip all)

/-- `unregisterTensorMemory`: every pointer of the context goes. -/
def unregisterTensorMemory (ptr : Nat) : GPUController × Bool :=
  match c.dmaContexts ptr with
  | none => (c, false)
  | some d =>
    ({ c with
        dmaContexts := fun p =>
          if (c.dmaContexts p).map GeminifsDma.addr = some d.addr then none
          else c.dmaContexts p },
      true)

/-- `get_prp_mappings`: the pointer has a context, and there is a chain for it. -/
def getPrpMappings (ptr : Nat) : Option PRPMappingEntrySpan :=
  match c.dmaContexts ptr with
  | none => none
  | some _ => (c.hostMappings ptr).map GPUHashEntry.mappings

/-- The calls, with what happens in them. -/
inductive Call where
  | registerTensorMemory (ctrls : List NVMeController) (t : Tensor) (granularity : Nat)
      (env : RegisterEnv) (ok : Nat → Bool)
  | registerTensorList (ctrls : List NVMeController) (ts : List Tensor) (granularity : Nat)
      (env : RegisterEnv) (ok : Nat → Nat → Bool)
  | unregisterTensorMemory (ptr : Nat)

def step : Call → GPUController
  | .registerTensorMemory ctrls t granularity env ok =>
    (c.registerTensorMemory ctrls t granularity env ok).1
  | .registerTensorList ctrls ts granularity env ok =>
    (c.registerTensorList ctrls ts granularity env ok).1
  | .unregisterTensorMemory ptr => (c.unregisterTensorMemory ptr).1

end GPUController

end Geminifs.Gemini
