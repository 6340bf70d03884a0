import Geminifs.Core.Snvme.IoQueues

/-!
# Operations on a Controller

Everything that can happen to a controller, each as one step: opening and
closing its device file, the ioctls, and binding, resetting and unbinding it.

## Main definitions

* `Op`: The operations.
* `exec`: What one does, returns and sends.
* `step`: What one does.
-/

namespace Geminifs.Snvme

/-- An operation. -/
inductive Op where
  | devOpen (fd task : Nat) (kzallocOk : Bool)
  | devRelease (fd : Nat)
  | mapHost (fd task : Nat) (req : MapReq) (env : MapEnv)
  | mapDevice (fd task : Nat) (req : MapReq) (env : MapEnv)
  | mapDeviceQueue (task : Nat) (req : MapReq) (env : MapEnv)
  | unmapHost (task vaddr : Nat) (copyIn : Bool)
  | unmapDevice (task vaddr : Nat) (copyIn : Bool)
  | unmapDeviceQueue (task vaddr : Nat) (copyIn : Bool)
  | createQueueGroup (fd flags : Nat) (reserved : List Nat) (env : CreateGroupEnv)
  | destroyQueueGroup (fd groupId : Nat) (copyIn : Bool)
  | addUserQueue (fd : Nat) (req : AddReq) (env : AddEnv)
  | setIoqNum (req : SetupReq) (copyIn : Bool)
  | setKernelIoqCap (cap : Nat) (copyIn : Bool)
  | setShareReg (ioqIdx : Int) (copyIn : Bool)
  | clearIoqNum
  | deviceBind (env : BindEnv)
  | deviceReset (env : ResetEnv)
  | deviceUnbind

/-- An operation that sends nothing for a user queue. -/
def quiet (r : State × Int) : Result := ⟨r.1, .ret r.2, []⟩

/-- What an operation does. -/
def exec (s : State) : Op → Result
  | .devOpen fd task ok => snvmDevOpen s fd task ok
  | .devRelease fd => snvmDevRelease s fd
  | .mapHost fd task req env => quiet (nvmMapHostMemory s fd task req env)
  | .mapDevice fd task req env => quiet (nvmMapDeviceMemory s fd task req env)
  | .mapDeviceQueue task req env => quiet (nvmMapDeviceQueueMemory s task req env)
  | .unmapHost task vaddr ok => quiet (nvmUnmapHostMemory s task vaddr ok)
  | .unmapDevice task vaddr ok => quiet (nvmUnmapDeviceMemory s task vaddr ok)
  | .unmapDeviceQueue task vaddr ok => quiet (nvmUnmapDeviceQueueMemory s task vaddr ok)
  | .createQueueGroup fd flags reserved env => nvmCreateQueueGroup s fd flags reserved env
  | .destroyQueueGroup fd groupId ok => nvmDestroyQueueGroup s fd groupId ok
  | .addUserQueue fd req env => nvmAddUserQueue s fd req env
  | .setIoqNum req ok => quiet (nvmSetIoqNum s req ok)
  | .setKernelIoqCap cap ok => quiet (nvmSetKernelIoqCap s cap ok)
  | .setShareReg ioqIdx ok => quiet (nvmSetShareReg s ioqIdx ok)
  | .clearIoqNum => quiet (nvmClearIoqNum s)
  | .deviceBind env => quiet (snvmDeviceBind s env)
  | .deviceReset env => quiet (controllerReset s env, 0)
  | .deviceUnbind => quiet (snvmDeviceUnbind s)

def step (s : State) (op : Op) : State := (exec s op).state

end Geminifs.Snvme
