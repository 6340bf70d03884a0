import Geminifs.Theory.Files.AutoFiles
import Geminifs.Theory.Files.GpuLog

/-!
# Creating GPU Files or Not

A GPU file is made of NVMe files on several controllers and of a record. If one of
them fails, the others are to be taken back.

Each loop is followed by saying which files it has added to each controller so far
(`Added`): making a file puts one in front, deleting the first one takes it away. At
the end of a call that fails, the files are as before exactly if none is left over.

`createGPUFile` takes back all it has made. `createGPUFiles` does so if no controller
has made files, or if the last record fails and there are at most four controllers.
Otherwise the files of the controllers that have made theirs stay, and so do those of
the GPU files behind the one that failed, and all from the fifth controller on.

## Main definitions

* `Added`: The files that were added to a controller.
* `AddedAll`: The files that were added to each controller.
* `deletedAt`: What deleting the files of a mapping does on each controller.
* `nvmeFiles`: The files of each controller.
* `NothingLeft`: The batches that fail without leaving files.

## Theorems

* `createOnOne_added`, `createOnEach_added`, `createOnAll_added`: What the loops add.
* `deleteOnOne_added`, `deleteOnEach_added`, `rollbackFiles_added`: What is taken back.
* `nvmeFiles_eq_iff`: The files are as before if none is left over.
* `creation_all_or_nothing_iff`: When a call that fails leaves everything as it was.
-/

namespace Geminifs.Gemini

open SlotLog Runs Function

namespace ManagedController

open FileManager

variable {c c' : ManagedController} {ids : List Nat}

/-- The files `ids` were added to a controller, which is otherwise as it was. -/
structure Added (c : ManagedController) (ids : List Nat) (c' : ManagedController) : Prop where
  worked : Worked c c'
  sound : Sound c'.fm
  initialized : c'.initialized = c.initialized
  ready : ids ≠ [] → c.initialized = true
  nodup : ids.Nodup
  free : ∀ id ∈ ids, c.fm.records id = none
  named : ∀ id ∈ ids, ∃ d, c'.fm.records id = some d ∧ d.name = decimal id
  other : ∀ id, id ∉ ids → c'.fm.records id = c.fm.records id

theorem Added.refl (hs : Sound c.fm) : Added c [] c where
  worked := .refl
  sound := hs
  initialized := rfl
  ready h := absurd rfl h
  nodup := List.nodup_nil
  free := nofun
  named := nofun
  other _ _ := rfl

variable {id : Nat}

theorem Added.lt (h : Added c ids c') (hid : id ∈ ids) : id < maxRecords := by
  rcases h.named id hid with ⟨d, hd, -⟩
  exact (h.sound.slot hd).1

/-- No file is made. -/
theorem AutoMade.added_nil (h : AutoMade c c' none) : Added c [] c' := by
  have hworked := Worked.make .refl h
  cases h with
  | failed hother hsound hrecords =>
    refine ⟨hworked, hsound, by rw [hother], fun h => absurd rfl h, List.nodup_nil, nofun, nofun,
      fun _ _ => by rw [hrecords]⟩

/-- One more file is made, before the others. -/
theorem Added.cons {c₁ : ManagedController} (h : AutoMade c c₁ (some id))
    (hrest : Added c₁ ids c') : Added c (id :: ids) c' := by
  have hworked := Worked.after h hrest.worked
  cases h with
  | made _ d _ hinit hother _ hfree _ hname hrecords =>
    have hself : c₁.fm.records id = some d := by rw [hrecords, update_self]
    have hnot : id ∉ ids := fun hmem =>
      absurd (hself.symm.trans (hrest.free id hmem)) (by simp)
    refine ⟨hworked, hrest.sound, ?_, fun _ => hinit, List.nodup_cons.mpr ⟨hnot, hrest.nodup⟩,
      fun id' hid => ?_, fun id' hid => ?_, fun id' hid => ?_⟩
    · rw [hrest.initialized, hother]
    · rcases List.mem_cons.mp hid with rfl | hid
      · exact hfree
      · have hne : id' ≠ id := fun heq => hnot (heq ▸ hid)
        have hnone := hrest.free id' hid
        rwa [hrecords, update_of_ne hne] at hnone
    · rcases List.mem_cons.mp hid with rfl | hid
      · exact ⟨d, (hrest.other id' hnot).trans hself, hname⟩
      · exact hrest.named id' hid
    · rw [List.mem_cons, not_or] at hid
      rw [hrest.other id' hid.2, hrecords, update_of_ne hid.1]

/-- The first of the files is deleted. -/
theorem Added.delete (h : Added c (id :: ids) c') (env : DeleteEnv) :
    Added c ids (c'.hostFileDeleteManaged id env).1 := by
  rcases h.named id List.mem_cons_self with ⟨d, hd, hname⟩
  have hinit := h.ready (List.cons_ne_nil id ids)
  rcases hostFileDeleteManaged_deleted h.sound (h.initialized.trans hinit) hd hname env with
    ⟨hdeleted, hrecords⟩
  have hnodup := List.nodup_cons.mp h.nodup
  refine ⟨h.worked.delete id env (h.free id List.mem_cons_self), hdeleted.sound,
    hdeleted.initialized.trans h.initialized, fun _ => hinit, hnodup.2,
    (List.forall_mem_cons.mp h.free).2, fun id' hid => ?_, fun id' hid => ?_⟩
  · have hne : id' ≠ id := fun heq => hnodup.1 (heq ▸ hid)
    rw [hrecords, update_of_ne hne]
    exact h.named id' (List.mem_cons_of_mem id hid)
  · rw [hrecords]
    by_cases hne : id' = id
    · -- What is left is what was there before.
      rw [hne, update_self, h.free id List.mem_cons_self]
    · rw [update_of_ne hne]
      exact h.other id' (fun hmem => (List.mem_cons.mp hmem).elim hne hid)

theorem Added.records_eq_iff (h : Added c ids c') : c'.fm.records = c.fm.records ↔ ids = [] := by
  constructor
  · intro heq
    cases ids with
    | nil => rfl
    | cons id =>
      rcases h.named id List.mem_cons_self with ⟨d, hd, -⟩
      rw [heq, h.free id List.mem_cons_self] at hd
      cases hd
  · rintro rfl
    exact funext fun id => h.other id List.not_mem_nil

end ManagedController

namespace GPUFileManager

open ManagedController

variable {cs cs' : List ManagedController} {results : List (List Nat)} {news : Nat → List Nat}
  {ids tensorShape : List Nat} {toCreate totalFileSize fileSize : Nat} {m m' : GPUFileManager}
  {env : Nat → NewFileEnv} {c c' : ManagedController} {r : Option (List Nat)}
  {mapping : CompactNVMeMapping}

/-! ### One controller -/

variable {n i t : Nat} {ok : Bool}

theorem createOnOne_added {per : Nat} (hs : FileManager.Sound c.fm)
    (h : createOnOne per env i n c = some (c', ids, ok)) :
    Added c ids c' ∧ (ok = true → ids.length = n) := by
  induction n generalizing i c ids with
  | zero =>
    cases h
    exact ⟨.refl hs, fun _ => rfl⟩
  | succ _ ih =>
    rw [createOnOne] at h
    split at h
    · cases h
    next hmake =>
      cases h
      exact ⟨(hostFileCreateManagedAuto_made hs hmake).added_nil, nofun⟩
    next c₁ id hmake =>
      have hmade := hostFileCreateManagedAuto_made hs hmake
      split at h
      · cases h
      next hloop =>
        cases h
        rcases ih hmade.sound hloop with ⟨hadded, hlength⟩
        exact ⟨.cons hmade hadded, fun hok => by rw [List.length_cons, hlength hok]⟩

/-- The first files are deleted, one after the other. -/
theorem deleteOnOne_added {env : Nat → DeleteEnv} {rest : List Nat} (h : Added c (ids ++ rest) c') :
    Added c rest (deleteOnOne env i c' ids) := by
  induction ids generalizing i c' with
  | nil => exact h
  | cons _ _ ih => exact ih (h.delete (env i))

/-- The task of a controller that fails leaves no files. -/
theorem createNVMeFilesPerDevice_added {nvmeCount : Nat} {undo : Nat → DeleteEnv}
    (hs : FileManager.Sound c.fm)
    (h : createNVMeFilesPerDevice c fileSize nvmeCount toCreate env undo = some (c', r)) :
    Added c (r.getD []) c' ∧ ∀ ids, r = some ids → ids.length = toCreate := by
  rw [createNVMeFilesPerDevice] at h
  split at h
  · cases h
    exact ⟨.refl hs, nofun⟩
  split at h
  · cases h
  next hloop =>
    cases h
    rcases createOnOne_added hs hloop with ⟨hadded, hlength⟩
    refine ⟨hadded, fun ids hids => ?_⟩
    cases hids
    exact hlength rfl
  next c₁ ids hloop =>
    cases h
    rcases createOnOne_added hs hloop with ⟨hadded, -⟩
    rw [← List.append_nil ids] at hadded
    exact ⟨deleteOnOne_added hadded, nofun⟩

/-! ### All controllers -/

/-- The files that were added to each controller. -/
structure AddedAll (cs : List ManagedController) (news : Nat → List Nat)
    (cs' : List ManagedController) : Prop where
  length : cs'.length = cs.length
  added : ∀ j c c', cs[j]? = some c → cs'[j]? = some c' → Added c (news j) c'

theorem AddedAll.nil (news : Nat → List Nat) : AddedAll [] news [] :=
  ⟨rfl, nofun⟩

theorem AddedAll.cons (h : Added c (news 0) c') (hrest : AddedAll cs (fun j => news (j + 1)) cs') :
    AddedAll (c :: cs) news (c' :: cs') := by
  refine ⟨by rw [List.length_cons, List.length_cons, hrest.length], fun j a a' ha ha' => ?_⟩
  cases j with
  | zero =>
    cases ha
    cases ha'
    exact h
  | succ j => exact hrest.added j a a' ha ha'

theorem AddedAll.congr {news' : Nat → List Nat} (h : AddedAll cs news cs')
    (heq : ∀ j, j < cs.length → news j = news' j) : AddedAll cs news' cs' := by
  refine ⟨h.length, fun j c c' hc hc' => ?_⟩
  rw [← heq j (List.getElem?_eq_some_iff.mp hc).1]
  exact h.added j c c' hc hc'

theorem AddedAll.refl (hs : ∀ c ∈ cs, FileManager.Sound c.fm) : AddedAll cs (fun _ => []) cs := by
  refine ⟨rfl, fun j c _ hc hc' => ?_⟩
  rw [hc, Option.some.injEq] at hc'
  rw [← hc']
  exact .refl (hs c (List.mem_of_getElem? hc))

/-- A controller at each position, before and after. -/
theorem AddedAll.exists_at (h : AddedAll cs news cs') {j : Nat} (hj : j < cs.length) :
    ∃ c c', cs[j]? = some c ∧ cs'[j]? = some c' ∧ Added c (news j) c' := by
  have hc := List.getElem?_eq_getElem hj
  have hc' := List.getElem?_eq_getElem (show j < cs'.length from h.length ▸ hj)
  exact ⟨_, _, hc, hc', h.added j _ _ hc hc'⟩

theorem AddedAll.sound (h : AddedAll cs news cs') : ∀ c' ∈ cs', FileManager.Sound c'.fm := by
  intro _ hmem
  rcases List.mem_iff_getElem?.mp hmem with ⟨j, hc'⟩
  have hj : j < cs.length := h.length ▸ (List.getElem?_eq_some_iff.mp hc').1
  rcases h.exists_at hj with ⟨c, _, -, hc'', hadded⟩
  rw [hc', Option.some.injEq] at hc''
  exact hc'' ▸ hadded.sound

/-- The files of each controller. -/
def nvmeFiles (cs : List ManagedController) : List (Nat → Option NVMeFileDesc) :=
  cs.map fun c => c.fm.records

theorem nvmeFiles_eq_iff (h : AddedAll cs news cs') :
    nvmeFiles cs' = nvmeFiles cs ↔ ∀ j, j < cs.length → news j = [] := by
  constructor
  · intro heq j hj
    rcases h.exists_at hj with ⟨c, c', hc, hc', hadded⟩
    have hat := congrArg (·[j]?) heq
    simp only [nvmeFiles, List.getElem?_map, hc, hc', Option.map_some, Option.some.injEq] at hat
    exact hadded.records_eq_iff.mp hat
  · intro hnil
    apply List.ext_getElem?
    intro j
    simp only [nvmeFiles, List.getElem?_map]
    by_cases hj : j < cs.length
    · rcases h.exists_at hj with ⟨c, _, hc, hc', hadded⟩
      rw [hc, hc', Option.map_some, Option.map_some, hadded.records_eq_iff.mpr (hnil j hj)]
    · rw [List.getElem?_eq_none (show cs'.length ≤ j by rw [h.length]; omega),
        List.getElem?_eq_none (by omega)]

/-- The tasks of a batch: what each controller has made, with nothing for one that
    failed. -/
theorem createOnAll_added {nvmeCount : Nat} {env : Nat → Nat → NewFileEnv}
    {undo : Nat → Nat → DeleteEnv} {j : Nat} (hs : ∀ c ∈ cs, FileManager.Sound c.fm)
    (h : createOnAll fileSize nvmeCount toCreate env undo j cs = some (cs', results)) :
    AddedAll cs (fun j => results.getD j []) cs' ∧ results.length = cs.length ∧
      ∀ ids ∈ results, ids = [] ∨ ids.length = toCreate := by
  induction cs generalizing j cs' results with
  | nil =>
    cases h
    exact ⟨.nil _, rfl, nofun⟩
  | cons c _ ih =>
    rw [createOnAll] at h
    split at h
    · cases h
    rename_i c₁ ids htask
    split at h
    · cases h
    rename_i cs₁ results₁ hloop
    cases h
    rcases createNVMeFilesPerDevice_added (hs c List.mem_cons_self) htask with ⟨hadded, hlength⟩
    rcases ih (List.forall_mem_cons.mp hs).2 hloop with ⟨hall, hcount, hlengths⟩
    refine ⟨.cons hadded hall, by rw [List.length_cons, List.length_cons, hcount],
      List.forall_mem_cons.mpr ⟨?_, hlengths⟩⟩
    cases ids with
    | none => exact .inl rfl
    | some ids => exact .inr (hlength ids rfl)

/-- One file on each controller, until one fails. -/
theorem createOnEach_added {per : Nat} (hs : ∀ c ∈ cs, FileManager.Sound c.fm)
    (h : createOnEach per env i cs = some (cs', ids, ok)) :
    AddedAll cs (fun j => ids[j]?.toList) cs' ∧ ids.length ≤ cs.length ∧
      (ok = true → ids.length = cs.length) := by
  induction cs generalizing i cs' ids with
  | nil =>
    cases h
    exact ⟨.nil _, Nat.le_refl _, fun _ => rfl⟩
  | cons c cs ih =>
    rcases List.forall_mem_cons.mp hs with ⟨hsc, hscs⟩
    rw [createOnEach] at h
    split at h
    · cases h
    next c₁ hmake =>
      cases h
      exact ⟨.cons (hostFileCreateManagedAuto_made hsc hmake).added_nil
        ((AddedAll.refl hscs).congr (fun _ _ => rfl)), Nat.zero_le _, nofun⟩
    next c₁ id hmake =>
      have hmade := hostFileCreateManagedAuto_made hsc hmake
      split at h
      · cases h
      rename_i cs₁ ids₁ ok₁ hloop
      cases h
      rcases ih hscs hloop with ⟨hall, hle, hlength⟩
      simp only [List.length_cons]
      exact ⟨.cons (Added.cons hmade (.refl hmade.sound)) hall, by omega,
        fun hok => by rw [hlength hok]⟩

/-- The files that were made are deleted, one on each controller. -/
theorem deleteOnEach_added {env : Nat → DeleteEnv} (h : AddedAll cs (fun j => ids[j]?.toList) cs') :
    AddedAll cs (fun _ => []) (deleteOnEach env i cs' ids) := by
  induction ids generalizing i cs cs' with
  | nil =>
    have hnil : deleteOnEach env i cs' [] = cs' := by
      cases cs' <;> rfl
    rw [hnil]
    exact h.congr (fun _ _ => rfl)
  | cons id ids ih =>
    cases cs' with
    | nil =>
      have hcs : cs = [] := List.length_eq_zero_iff.mp h.length.symm
      rw [hcs]
      exact .nil _
    | cons c' cs' =>
      cases cs with
      | nil => cases h.length
      | cons c cs =>
        have hhead : Added c [id] c' := h.added 0 c c' rfl rfl
        have htail : AddedAll cs (fun j => ids[j]?.toList) cs' :=
          ⟨Nat.succ.inj h.length, fun j a a' ha ha' => h.added (j + 1) a a' ha ha'⟩
        exact .cons (hhead.delete (env i)) (ih htail)

/-! ### Deleting the files of a mapping -/

/-- What turn `i` of the loop does on the controller at position `j`. -/
def deletedBy (mapping : CompactNVMeMapping) (env : Nat → DeleteEnv) (i : Fin 4) (j : Nat)
    (c : ManagedController) : ManagedController :=
  if mapping.hasNvmeController i = true ∧ i.val = j then
    (c.hostFileDeleteManaged (mapping.nvmeFileIds i).toNat (env i)).1
  else c

/-- What the whole loop does on it. -/
def deletedAt (mapping : CompactNVMeMapping) (env : Nat → DeleteEnv) (j : Nat)
    (c : ManagedController) : ManagedController :=
  if h : mapping.isValid = true ∧ j < 4 then deletedBy mapping env ⟨j, h.2⟩ j c else c

theorem deleteMapped_getElem? {env : Nat → DeleteEnv} (s : List ManagedController × Bool)
    (i : Fin 4) (j : Nat) :
    (deleteMapped mapping env s i).1[j]? = s.1[j]?.map (deletedBy mapping env i j) := by
  have hturn : (deleteMapped mapping env s i).1 = if mapping.hasNvmeController i then
      s.1.modify i fun c => (c.hostFileDeleteManaged (mapping.nvmeFileIds i).toNat (env i)).1
    else s.1 := by
    rw [deleteMapped, List.modify_eq_set_getElem?]
    split
    · cases s.1[i.val]? <;> rfl
    · rfl
  rw [hturn]
  split
  · cases hc : s.1[j]? <;> simp [List.getElem?_modify, deletedBy, *]
  · cases hc : s.1[j]? <;> simp [deletedBy, *]

theorem deleteNVMeFiles_eq (cs : List ManagedController) (mapping : CompactNVMeMapping)
    (env : Nat → DeleteEnv) :
    (deleteNVMeFilesForGPUFile cs mapping env).1 = cs.mapIdx (deletedAt mapping env) := by
  apply List.ext_getElem?
  intro j
  rw [deleteNVMeFilesForGPUFile, List.getElem?_mapIdx]
  cases hvalid : mapping.isValid with
  | false => cases hc : cs[j]? <;> simp [deletedAt, hvalid, hc]
  | true =>
    have hfour : List.finRange 4 = [0, 1, 2, 3] := rfl
    simp only [not_true_eq_false, if_false, hfour, List.foldl_cons, List.foldl_nil,
      deleteMapped_getElem?, Option.map_map]
    -- Only the turn of its own position does something to a controller.
    refine congrArg (cs[j]?.map ·) (funext fun c => ?_)
    rcases j with _ | _ | _ | _ | j <;> simp [deletedAt, deletedBy, hvalid]

/-- A controller is left alone, or it deletes the file that the mapping names. -/
theorem deletedAt_cases (mapping : CompactNVMeMapping) (env : Nat → DeleteEnv) (j : Nat)
    (c : ManagedController) :
    deletedAt mapping env j c = c ∨ ∃ k : Fin 4, k.val = j ∧ mapping.hasNvmeController k = true ∧
      deletedAt mapping env j c =
        (c.hostFileDeleteManaged (mapping.nvmeFileIds k).toNat (env k)).1 := by
  unfold deletedAt deletedBy
  split
  next hj =>
    split
    next hhas => exact .inr ⟨⟨j, hj.2⟩, rfl, hhas.1, rfl⟩
    · exact .inl rfl
  · exact .inl rfl

/-- The mapping names the first of the files that were added to each of the first four
    controllers. -/
def NamesHeads (mapping : CompactNVMeMapping) (cs : List ManagedController)
    (heads : Nat → Option Nat) : Prop :=
  mapping.isValid = true ∧ ∀ i : Fin 4, mapping.hasNvmeController i = decide (i.val < cs.length) ∧
      (i.val < cs.length → heads i.val = some (mapping.nvmeFileIds i).toNat)

/-- The files of such a mapping are deleted. -/
theorem AddedAll.delete (h : AddedAll cs news cs')
    (hmap : NamesHeads mapping cs (fun j => (news j).head?)) (env : Nat → DeleteEnv) :
    AddedAll cs (fun j => if j < 4 then (news j).tail else news j)
      (deleteNVMeFilesForGPUFile cs' mapping env).1 := by
  refine ⟨by rw [deleteNVMeFiles_eq, List.length_mapIdx, h.length], fun j c _ hc hc' => ?_⟩
  have hj : j < cs.length := (List.getElem?_eq_some_iff.mp hc).1
  rcases h.exists_at hj with ⟨a, _, ha, ha', hadded⟩
  rw [hc, Option.some.injEq] at ha
  subst ha
  rw [deleteNVMeFiles_eq, List.getElem?_mapIdx, ha', Option.map_some, Option.some.injEq] at hc'
  rw [← hc', deletedAt]
  by_cases hfour : j < 4
  · have hhas : mapping.hasNvmeController ⟨j, hfour⟩ = true :=
      (hmap.2 ⟨j, hfour⟩).1.trans (decide_eq_true hj)
    have hhead : (news j).head? = some (mapping.nvmeFileIds ⟨j, hfour⟩).toNat :=
      (hmap.2 ⟨j, hfour⟩).2 hj
    rw [if_pos hfour, dif_pos ⟨hmap.1, hfour⟩, deletedBy, if_pos ⟨hhas, rfl⟩]
    rcases List.head?_eq_some_iff.mp hhead with ⟨_, hnews⟩
    rw [hnews] at hadded ⊢
    exact hadded.delete _
  · rw [if_neg hfour, dif_neg (fun h => hfour h.2)]
    exact hadded

/-- The files of several mappings are deleted, each of which names the next file on each
    controller. -/
theorem rollbackFiles_added {env : Nat → Nat → DeleteEnv} {files : List (Nat × GPUFileDesc)}
    {k : Nat} (h : AddedAll cs news cs')
    (hmap : ∀ (t : Nat) (e : Nat × GPUFileDesc), files[t]? = some e →
      NamesHeads e.2.nvmeMapping cs (fun j => (news j)[t]?)) :
    AddedAll cs (fun j => if j < 4 then (news j).drop files.length else news j)
      (rollbackFiles env k files cs') := by
  induction files generalizing k cs' news with
  | nil => exact h.congr (fun j _ => by simp)
  | cons e files ih =>
    obtain ⟨slot, d⟩ := e
    have hfirst : NamesHeads d.nvmeMapping cs (fun j => (news j).head?) := by
      simpa only [List.head?_eq_getElem?] using hmap 0 (slot, d) rfl
    have hdeleted := h.delete hfirst (fun j => env j k)
    have hrest : ∀ (t : Nat) (e : Nat × GPUFileDesc), files[t]? = some e →
        NamesHeads e.2.nvmeMapping cs
          (fun j => (if j < 4 then (news j).tail else news j)[t]?) := by
      intro t e he
      rcases hmap (t + 1) e he with ⟨hvalid, hids⟩
      refine ⟨hvalid, fun i => ⟨(hids i).1, fun hi => ?_⟩⟩
      show (if i.val < 4 then (news i).tail else news i)[t]? = _
      rw [if_pos i.isLt, List.getElem?_tail]
      exact (hids i).2 hi
    refine (ih hdeleted hrest).congr (fun j _ => ?_)
    by_cases hj : j < 4
    · rw [if_pos hj, if_pos hj, if_pos hj, List.length_cons, List.drop_tail]
    · rw [if_neg hj, if_neg hj, if_neg hj]

/-! ### One GPU file -/

theorem AddedAll.append {ds ds' : List ManagedController} (h : AddedAll cs news cs')
    (hd : AddedAll ds (fun j => news (cs.length + j)) ds') :
    AddedAll (cs ++ ds) news (cs' ++ ds') := by
  refine ⟨by rw [List.length_append, List.length_append, h.length, hd.length],
    fun j c c' hc hc' => ?_⟩
  by_cases hj : j < cs.length
  · rw [List.getElem?_append_left hj] at hc
    rw [List.getElem?_append_left (h.length ▸ hj)] at hc'
    exact h.added j c c' hc hc'
  · rw [List.getElem?_append_right (by omega)] at hc
    rw [List.getElem?_append_right (by rw [h.length]; omega), h.length] at hc'
    have hadded := hd.added _ c c' hc hc'
    have hsum : cs.length + (j - cs.length) = j := by omega
    rwa [hsum] at hadded

/-- The NVMe files of one GPU file: none if one of them fails. -/
theorem createNVMeFilesForGPUFile_added {undo : Nat → DeleteEnv}
    (hs : ∀ c ∈ cs, FileManager.Sound c.fm)
    (h : createNVMeFilesForGPUFile cs fileSize env undo = some (cs', r)) :
    AddedAll cs (fun j => ((r.getD [])[j]?).toList) cs' ∧
      ∀ ids, r = some ids → ids.length = min 4 cs.length := by
  have hfirst : ∀ c ∈ cs.take 4, FileManager.Sound c.fm := fun c hc => hs c (List.mem_of_mem_take hc)
  have hlast : AddedAll (cs.drop 4) (fun _ => []) (cs.drop 4) :=
    .refl (fun c hc => hs c (List.mem_of_mem_drop hc))
  -- The controllers behind the fourth are left alone.
  have hall : ∀ {made : List ManagedController} {ids : List Nat}, ids.length ≤ (cs.take 4).length →
      AddedAll (cs.take 4) (fun j => ids[j]?.toList) made →
      AddedAll cs (fun j => ids[j]?.toList) (made ++ cs.drop 4) := by
    intro made ids hle hmade
    have happ := hmade.append (hlast.congr (fun j _ => by
      rw [List.getElem?_eq_none (by omega)]
      rfl))
    rwa [List.take_append_drop] at happ
  rw [createNVMeFilesForGPUFile] at h
  split at h
  · cases h
    exact ⟨(AddedAll.refl hs).congr (fun _ _ => rfl), nofun⟩
  split at h
  · cases h
  next made ids hloop =>
    cases h
    rcases createOnEach_added hfirst hloop with ⟨hmade, hle, hlength⟩
    refine ⟨hall hle hmade, fun _ hids => ?_⟩
    cases hids
    rw [hlength rfl, List.length_take]
  next made ids hloop =>
    cases h
    have hundone : AddedAll (cs.take 4) (fun j => ([] : List Nat)[j]?.toList)
        (deleteOnEach undo 0 made ids) :=
      (deleteOnEach_added (createOnEach_added hfirst hloop).1).congr (fun _ _ => rfl)
    exact ⟨hall (Nat.zero_le _) hundone, nofun⟩

/-- The mapping of a new file names the NVMe files it was made with. -/
theorem namesHeads_new (slot totalFileSize : Nat) (tensorShape : List Nat)
    (hlength : ∀ i : Fin 4, i.val < ids.length ↔ i.val < cs.length)
    (hlt : ∀ id ∈ ids, id < maxRecords) :
    NamesHeads (GPUFileDesc.new slot totalFileSize tensorShape ids).nvmeMapping cs
      (fun j => ids[j]?) := by
  refine ⟨GPUFileDesc.isValid_new .., fun i => ⟨?_, fun hi => ?_⟩⟩
  · rw [GPUFileDesc.hasNvmeController_new]
    exact decide_eq_decide.mpr (hlength i)
  · have hi' := (hlength i).mpr hi
    have hmem : ids[i.val] ∈ ids := List.getElem_mem hi'
    have hmax : maxRecords < 4294967296 := by decide
    have hsmall := hlt _ hmem
    show ids[i.val]? = _
    rw [GPUFileDesc.nvmeFileIds_new _ _ _ _ _ hi', UInt32.toNat_ofNat',
      List.getD_eq_getElem?_getD, List.getElem?_eq_getElem hi', Option.getD_some,
      Nat.mod_eq_of_lt (by omega)]

/-- The mapping of a new file that has one NVMe file on each of the first controllers. -/
theorem namesHeads_of_added (hadded : AddedAll cs (fun j => ids[j]?.toList) cs')
    (hlength : ids.length = min 4 cs.length) (slot totalFileSize : Nat) (tensorShape : List Nat) :
    NamesHeads (GPUFileDesc.new slot totalFileSize tensorShape ids).nvmeMapping cs
      (fun j => ids[j]?) := by
  refine namesHeads_new slot totalFileSize tensorShape (fun i => by omega) (fun _ hid => ?_)
  rcases List.mem_iff_getElem?.mp hid with ⟨j, hj⟩
  have hjlt := (List.getElem?_eq_some_iff.mp hj).1
  rcases hadded.exists_at (show j < cs.length by omega) with ⟨c, _, -, -, hat⟩
  exact hat.lt (by simp [hj])

/-- A GPU file that cannot be created leaves no files. -/
theorem CreatedOne.added {env : CreateOneEnv} {r : Option Nat}
    (hs : ∀ c ∈ m.controllers, FileManager.Sound c.fm)
    (h : CreatedOne m totalFileSize tensorShape env m' r) :
    ∃ news, AddedAll m.controllers news m'.controllers ∧
      (r = none → ∀ j, j < m.controllers.length → news j = []) := by
  cases h with
  | refused => exact ⟨_, .refl hs, fun _ _ _ => rfl⟩
  | failed _ hnvme =>
    exact ⟨_, (createNVMeFilesForGPUFile_added hs hnvme).1, fun _ _ _ => rfl⟩
  | undone _ ids slot hnvme =>
    rcases createNVMeFilesForGPUFile_added hs hnvme with ⟨hadded, hlength⟩
    have hlen := hlength ids rfl
    have hheads : NamesHeads (GPUFileDesc.new slot totalFileSize tensorShape ids).nvmeMapping
        m.controllers (fun j => ((((some ids).getD [])[j]?).toList).head?) := by
      simpa using namesHeads_of_added hadded hlen slot totalFileSize tensorShape
    refine ⟨_, hadded.delete hheads env.rollback, fun _ j _ => ?_⟩
    by_cases hfour : j < 4
    · simp only [if_pos hfour, Option.getD_some]
      cases ids[j]? <;> rfl
    · simp only [if_neg hfour, Option.getD_some]
      rw [List.getElem?_eq_none (by omega)]
      rfl
  | created _ ids _ hnvme =>
    refine ⟨fun j => ids[j]?.toList, ?_, nofun⟩
    rw [countWrites_controllers]
    exact (createNVMeFilesForGPUFile_added hs hnvme).1

/-! ### Several GPU files -/

/-- The files of one row, if each column is long enough. -/
theorem filterMap_row (h : ∀ ids ∈ results, t < ids.length) :
    results.filterMap (·[t]?) = results.map (fun ids => ids.getD t 0) := by
  refine List.filterMap_eq_map_iff_forall_eq_some.mpr (fun ids hids => ?_)
  rw [List.getD_eq_getElem?_getD, List.getElem?_eq_getElem (h ids hids), Option.getD_some]

theorem getElem?_filterMap_row (h : ∀ ids ∈ results, t < ids.length) (j : Nat) :
    (results.filterMap (·[t]?))[j]? = (results.getD j [])[t]? := by
  rw [filterMap_row h, List.getElem?_map, List.getD_eq_getElem?_getD]
  cases hj : results[j]? with
  | none => rfl
  | some ids =>
    have ht := h ids (List.mem_of_getElem? hj)
    rw [Option.map_some, Option.getD_some, List.getD_eq_getElem?_getD,
      List.getElem?_eq_getElem ht, Option.getD_some]

theorem getElem?_newFiles {slots : List Nat} {e : Nat × GPUFileDesc}
    (h : (newFiles totalFileSize tensorShape slots results)[t]? = some e) :
    t < slots.length ∧
      e.2 = GPUFileDesc.new e.1 totalFileSize tensorShape (results.filterMap (·[t]?)) := by
  rw [newFiles, List.getElem?_map, List.getElem?_zipIdx, Option.map_map] at h
  rcases Option.map_eq_some_iff.mp h with ⟨_, hslot, rfl⟩
  refine ⟨(List.getElem?_eq_some_iff.mp hslot).1, ?_⟩
  simp

/-- Each of several new files is mapped to the next NVMe file on each controller. -/
theorem newFiles_names (hadded : AddedAll cs (fun j => results.getD j []) cs')
    (hlength : results.length = cs.length) {slots : List Nat}
    (hlen : ∀ ids ∈ results, ids.length = slots.length) (t : Nat) {e : Nat × GPUFileDesc}
    (he : (newFiles totalFileSize tensorShape slots results)[t]? = some e) :
    NamesHeads e.2.nvmeMapping cs (fun j => (results.getD j [])[t]?) := by
  rcases getElem?_newFiles he with ⟨ht, hdesc⟩
  have hlong : ∀ ids ∈ results, t < ids.length := fun ids hids => by rw [hlen ids hids]; exact ht
  have hrow := getElem?_filterMap_row hlong
  have hwidth : (results.filterMap (·[t]?)).length = cs.length := by
    rw [filterMap_row hlong, List.length_map, hlength]
  have hlt : ∀ id ∈ results.filterMap (·[t]?), id < maxRecords := by
    intro _ hid
    rcases List.mem_iff_getElem?.mp hid with ⟨j, hj⟩
    have hjlt := (List.getElem?_eq_some_iff.mp hj).1
    rcases hadded.exists_at (hwidth ▸ hjlt) with ⟨c, _, -, -, hmade⟩
    exact hmade.lt (List.mem_of_getElem? ((hrow j).symm.trans hj))
  have hnames := namesHeads_new e.1 totalFileSize tensorShape (fun i => by rw [hwidth]) hlt
  rw [hdesc]
  simpa only [hrow] using hnames

/-- The controllers that have made all files. -/
theorem length_of_good
    (hgood : results.any (fun ids => ids.isEmpty || ids.length ≠ toCreate) = false) :
    ∀ ids ∈ results, ids.length = toCreate := by
  intro ids hids
  have hfine := List.any_eq_false.mp hgood ids hids
  simp only [decide_not, Bool.or_eq_true, Bool.not_eq_true', decide_eq_false_iff_not, not_or,
    not_not] at hfine
  exact hfine.2

/-- The batches that leave no files if they fail: they are refused at once, or no
    controller makes files, or all do, there are at most four, and only the last record
    fails. -/
def NothingLeft (m : GPUFileManager) (totalFileSize toCreate : Nat) (tensorShape : List Nat)
    (env : CreateManyEnv) : Prop :=
  (tensorShape.length ≠ 3 ∨
    ∃ slot ∈ findMultipleFreeSlots m.dirtyBitmap toCreate, (m.descs.lookup slot).isSome) ∨
  ∀ cs results, createOnAll totalFileSize m.controllers.length toCreate env.new env.cleanup 0
      m.controllers = some (cs, results) →
    (∀ ids ∈ results, ids = []) ∨ ((∀ ids ∈ results, ids ≠ []) ∧ m.controllers.length ≤ 4 ∧
        ∀ i, i + 1 < toCreate → env.recordOk i = true)

/-- Once the controllers were at work, what they have made decides. -/
theorem nothingLeft_iff {env : CreateManyEnv} (hshape : tensorShape.length = 3)
    (hnew : ∀ slot ∈ findMultipleFreeSlots m.dirtyBitmap toCreate, m.descs.lookup slot = none)
    (hnvme : createOnAll totalFileSize m.controllers.length toCreate env.new env.cleanup 0
      m.controllers = some (cs, results)) :
    NothingLeft m totalFileSize toCreate tensorShape env ↔
      (∀ ids ∈ results, ids = []) ∨ ((∀ ids ∈ results, ids ≠ []) ∧ m.controllers.length ≤ 4 ∧
        ∀ i, i + 1 < toCreate → env.recordOk i = true) := by
  constructor
  · rintro ((hbad | ⟨slot, hslot, hsome⟩) | hleft)
    · exact absurd hshape hbad
    · rw [hnew slot hslot] at hsome
      cases hsome
    · exact hleft cs results hnvme
  · intro hleft
    refine .inr (fun _ _ hnvme' => ?_)
    rw [hnvme, Option.some.injEq, Prod.mk.injEq] at hnvme'
    rw [← hnvme'.2]
    exact hleft

/-- What the controllers have made, by position and one by one. -/
theorem forall_getD_iff (hlength : results.length = n) :
    (∀ j, j < n → results.getD j [] = []) ↔ ∀ ids ∈ results, ids = [] := by
  subst hlength
  constructor
  · intro h _ hids
    rcases List.mem_iff_getElem?.mp hids with ⟨j, hj⟩
    have hat := h j (List.getElem?_eq_some_iff.mp hj).1
    rwa [List.getD_eq_getElem?_getD, hj] at hat
  · intro h j hj
    rw [List.getD_eq_getElem?_getD, List.getElem?_eq_getElem hj]
    exact h _ (List.getElem_mem hj)

/-- What is left over if the record of a file fails behind which there are others. -/
theorem undone_left_iff {done rest : Nat} {recordOk : Nat → Bool} (hlength : results.length = n)
    (hcreate : toCreate = done + 1 + rest) (hgood : ∀ ids ∈ results, ids.length = toCreate)
    (hfail : recordOk done = false) (hdone : ∀ j, j < done → recordOk j = true) :
    (∀ j, j < n → (if j < 4 then (results.getD j []).drop (done + 1) else results.getD j []) = []) ↔
      (∀ ids ∈ results, ids = []) ∨ ((∀ ids ∈ results, ids ≠ []) ∧ n ≤ 4 ∧
        ∀ i, i + 1 < toCreate → recordOk i = true) := by
  have hat : ∀ j, j < n → (results.getD j []).length = toCreate := by
    intro j hj
    rw [List.getD_eq_getElem?_getD, List.getElem?_eq_getElem (hlength ▸ hj)]
    exact hgood _ (List.getElem_mem (hlength ▸ hj))
  have hne : ∀ ids ∈ results, ids ≠ [] := by
    intro ids hids hnil
    have hlen := hgood ids hids
    rw [hnil, List.length_nil] at hlen
    omega
  constructor
  · intro hleft
    by_cases hn : n = 0
    · left
      intro ids hids
      rw [List.length_eq_zero_iff.mp (hlength.trans hn)] at hids
      cases hids
    · have hfirst := hleft 0 (by omega)
      have hzero := hat 0 (by omega)
      rw [if_pos (by omega), List.drop_eq_nil_iff] at hfirst
      refine .inr ⟨hne, ?_, fun i hi => hdone i (by omega)⟩
      by_contra hfour
      have hfifth := hleft 4 (by omega)
      have hlen := hat 4 (by omega)
      rw [if_neg (by omega)] at hfifth
      rw [hfifth, List.length_nil] at hlen
      omega
  · rintro (hnil | ⟨-, hfour, hok⟩) j hj
    · have hempty := (forall_getD_iff hlength).mpr hnil j hj
      rw [hempty, List.drop_nil, ite_self]
    · -- The record that fails is the last one.
      have hlast : ¬ done + 1 < toCreate := fun hlt => by
        rw [hok done hlt] at hfail
        cases hfail
      rw [if_pos (by omega), List.drop_eq_nil_iff, hat j hj]
      omega

/-- What a batch adds, and when that is nothing if it fails. -/
theorem CreatedMany.added {env : CreateManyEnv} (hs : ∀ c ∈ m.controllers, FileManager.Sound c.fm)
    (h : CreatedMany m totalFileSize toCreate tensorShape env m' r) :
    ∃ news, AddedAll m.controllers news m'.controllers ∧
      (r = none → ((∀ j, j < m.controllers.length → news j = []) ↔
        NothingLeft m totalFileSize toCreate tensorShape env)) := by
  cases h with
  | refused hwhy =>
    exact ⟨_, .refl hs, fun _ => iff_of_true (fun _ _ => rfl) (.inl hwhy)⟩
  | failed _ _ hshape hnew hnvme hbad =>
    rcases createOnAll_added hs hnvme with ⟨hadded, hlength, hlengths⟩
    refine ⟨_, hadded, fun _ => ?_⟩
    rw [forall_getD_iff hlength, nothingLeft_iff hshape hnew hnvme]
    refine ⟨.inl, fun hleft => ?_⟩
    rcases hleft with hnil | ⟨hne, -⟩
    · exact hnil
    · -- One of the controllers has failed.
      rcases List.any_eq_true.mp hbad with ⟨ids, hids, hwrong⟩
      rcases hlengths ids hids with hnil | hlen
      · exact absurd hnil (hne ids hids)
      · simp [hlen, hne ids hids] at hwrong
  | undone cs results slots done e rest hshape hnew hnvme hgood hslots hfiles hfail hdone =>
    rcases createOnAll_added hs hnvme with ⟨hadded, hlength, -⟩
    have hlen := length_of_good hgood
    have hcount : toCreate = done.length + 1 + rest.length := by
      have hall := congrArg List.length hfiles
      rw [newFiles, List.length_map, List.length_zipIdx, List.length_append,
        List.length_cons] at hall
      omega
    have hheads : ∀ (t : Nat) (e' : Nat × GPUFileDesc), (done ++ [e])[t]? = some e' →
        NamesHeads e'.2.nvmeMapping m.controllers (fun j => (results.getD j [])[t]?) := by
      intro t e' he'
      have hat : (newFiles totalFileSize tensorShape slots results)[t]? = some e' := by
        rw [hfiles, ← List.singleton_append, ← List.append_assoc,
          List.getElem?_append_left (List.getElem?_eq_some_iff.mp he').1, he']
      exact newFiles_names hadded hlength (fun ids hids => by rw [hlen ids hids, hslots]) t hat
    have hundone : AddedAll m.controllers _
        (rollbackFiles env.rollback 0 (done ++ [e]) cs) := rollbackFiles_added hadded hheads
    refine ⟨_, hundone, fun _ => ?_⟩
    rw [List.length_append, nothingLeft_iff hshape hnew hnvme]
    exact undone_left_iff hlength hcount hlen hfail hdone
  | created _ results _ hnvme =>
    refine ⟨fun j => results.getD j [], ?_, by simp⟩
    rw [countWrites_controllers]
    exact (createOnAll_added hs hnvme).1

/-! ### Any number of calls -/

theorem openMapped_sound {env : Nat → OpenEnv} {is : List (Fin 4)}
    (hs : ∀ c ∈ m.controllers, FileManager.Sound c.fm)
    (h : openMapped mapping env is m = some (m', ok)) :
    ∀ c ∈ m'.controllers, FileManager.Sound c.fm := by
  induction is generalizing m with
  | nil =>
    cases h
    exact hs
  | cons i _ ih =>
    rw [openMapped] at h
    split at h
    · cases h
      exact hs
    rename_i c hc
    split at h
    · exact ih hs h
    -- A controller that opens a file keeps its records.
    have hset : ∀ c' r, c.deviceFileOpenManagedById (mapping.nvmeFileIds i).toNat (env i) =
        some (c', r) → ∀ a ∈ m.controllers.set i c', FileManager.Sound a.fm := by
      intro c' r hopen a ha
      rcases List.mem_or_eq_of_mem_set ha with ha | rfl
      · exact hs a ha
      · exact (deviceFileOpenManaged_opened hopen).sound (hs c (List.mem_of_getElem? hc))
    split at h
    · cases h
    next c' hopen =>
      cases h
      exact hset c' none hopen
    next c' fd hopen => exact ih (hset c' (some fd) hopen) h

theorem controllers_sound_step (hs : ∀ c ∈ m.controllers, FileManager.Sound c.fm) {c : Call}
    (h : m.step c = some m') : ∀ c ∈ m'.controllers, FileManager.Sound c.fm := by
  cases step_stepped h with
  | one h | many h =>
    rcases h.added hs with ⟨_, hadded, -⟩
    exact hadded.sound
  | inited h =>
    cases h with
    | refused => exact hs
    | failed _ _ _ hopen => exact openMapped_sound hs hopen
    | pooled _ _ _ hopen =>
      have hopened := openMapped_sound hs hopen
      exact hopened
  | opened h => cases h <;> exact hs
  | closed h => cases h <;> exact hs
  | @removed _ env _ _ h =>
    cases h with
    | refused => exact hs
    | removed d =>
      rw [countWrites_controllers, deleteNVMeFiles_eq]
      intro _ hc
      rcases List.mem_mapIdx.mp hc with ⟨j, hj, rfl⟩
      have hsj := hs _ (List.getElem_mem hj)
      rcases deletedAt_cases d.nvmeMapping env.delete j m.controllers[j] with heq | ⟨k, -, -, heq⟩
      · rw [heq]
        exact hsj
      · rw [heq]
        exact hostFileDeleteManaged_sound hsj _ _

/-- A call to create files that fails leaves the bitmap and the map as they were. So it
    does the NVMe files if it was for one GPU file, and for several exactly if nothing
    is left. -/
theorem creation_all_or_nothing_iff (log : Option ByteFile) (controllers : List ManagedController)
    (threshold : Nat) (junk : LogHeader)
    (hctrls : ∀ c ∈ controllers, FileManager.Sound c.fm) (calls : List Call) (m : GPUFileManager)
    (hrun : run (lift step) (some (construct log controllers threshold junk)) calls = some m) :
    (∀ totalFileSize tensorShape env m',
      m.createGPUFile totalFileSize tensorShape env = some (m', none) →
        nvmeFiles m'.controllers = nvmeFiles m.controllers ∧ m'.dirtyBitmap = m.dirtyBitmap ∧
          m'.descs = m.descs) ∧
    ∀ totalFileSize toCreate tensorShape env m',
      m.createGPUFiles totalFileSize toCreate tensorShape env = some (m', none) →
        m'.dirtyBitmap = m.dirtyBitmap ∧ m'.descs = m.descs ∧
          (nvmeFiles m'.controllers = nvmeFiles m.controllers ↔
            NothingLeft m totalFileSize toCreate tensorShape env) := by
  have hs : ∀ c ∈ m.controllers, FileManager.Sound c.fm :=
    run_lift_invariant (P := fun _ _ => True)
      (I := fun m => ∀ c ∈ m.controllers, FileManager.Sound c.fm)
      (fun _ _ _ hs _ hstep => controllers_sound_step hs hstep) hctrls
      (along_of_forall (fun _ _ _ _ _ => trivial)) hrun
  refine ⟨fun totalFileSize tensorShape env m' h => ?_,
    fun _ _ _ _ _ h => ?_⟩
  · have hcreated := createGPUFile_created h
    rcases hcreated.added hs with ⟨news, hadded, hnone⟩
    refine ⟨(nvmeFiles_eq_iff hadded).mpr (hnone rfl), ?_⟩
    cases hcreated with
    | refused | failed | undone => exact ⟨rfl, rfl⟩
  · have hcreated := createGPUFiles_created h
    rcases hcreated.added hs with ⟨_, hadded, hleft⟩
    have hiff := (nvmeFiles_eq_iff hadded).trans (hleft rfl)
    cases hcreated with
    | refused | failed | undone => exact ⟨rfl, rfl, hiff⟩

/-- There is room for no file. -/
def noRoom : NewFileEnv where
  make := ⟨true, [], ⟨true, false, true, ⟨none, none⟩⟩⟩
  record := FileManager.writesOk 1
  undo := FileManager.writesOk 2
  unlinkOk := true

/-- A batch in which some controllers have room, and some records can be written. -/
def createManyWith (room : Nat → Bool) (recordOk : Nat → Bool) : CreateManyEnv where
  new j _ := if room j then createOk.new j else noRoom
  cleanup _ _ := deletesOk
  rollback _ _ := deletesOk
  recordOk := recordOk
  persist := ⟨true, true⟩

/-- Two controllers, mounted at `/m` and `/n`. -/
def twoControllers : List ManagedController :=
  [ManagedController.fresh ManagedController.mountM,
    ManagedController.fresh ⟨[47, 110], 4096, 512, by decide⟩]

theorem creation_all_or_nothing_iff_noRecord : ∃ m',
    (construct none twoControllers 4 (newHeader 0 0)).createGPUFile 131072 [1, 1, 4096]
      { createOk with recordOk := false } = some (m', none) ∧
    nvmeFiles m'.controllers =
      nvmeFiles (construct none twoControllers 4 (newHeader 0 0)).controllers := by
  have hcreate : (((construct none twoControllers 4 (newHeader 0 0)).createGPUFile 131072
      [1, 1, 4096] { createOk with recordOk := false }).map Prod.snd) = some none := by
    rw [construct_none]
    decide
  rcases Option.map_eq_some_iff.mp hcreate with ⟨⟨m', r⟩, hcreate, rfl⟩
  have hsound : ∀ c ∈ twoControllers, FileManager.Sound c.fm :=
    List.forall_mem_cons.mpr
      ⟨FileManager.sound_fresh 1000, List.forall_mem_singleton.mpr (FileManager.sound_fresh 1000)⟩
  exact ⟨m', hcreate, ((creation_all_or_nothing_iff none twoControllers 4 (newHeader 0 0) hsound []
    _ rfl).1 _ _ _ m' hcreate).1⟩

/-- Of two controllers the second one has no room: the file of the first one stays. Of two
    GPU files the first one gets no record: the NVMe files of the second one stay. -/
theorem batch_leaves_files :
    (((construct none twoControllers 4 (newHeader 0 0)).createGPUFiles 131072 1 [1, 1, 4096]
      (createManyWith (fun j => j == 0) (fun _ => true))).map fun r =>
        (r.2, r.1.controllers.map fun c => (c.fm.records 0).isSome)) =
      some (none, [true, false]) ∧
    (((construct none twoControllers 4 (newHeader 0 0)).createGPUFiles 131072 2 [1, 1, 4096]
      (createManyWith (fun _ => true) (fun i => i != 0))).map fun r =>
        (r.2, r.1.controllers.map fun c => ((c.fm.records 0).isSome, (c.fm.records 1).isSome))) =
      some (none, [(false, true), (false, true)]) ∧
    nvmeFiles (construct none twoControllers 4 (newHeader 0 0)).controllers =
      [fun _ => none, fun _ => none] := by
  rw [construct_none]
  refine ⟨by decide, by decide, ?_⟩
  rfl

end GPUFileManager

end Geminifs.Gemini
