import Geminifs.Core.HostStorage
import Geminifs.Library.Transfer

/-!
# Reading and Writing through the Host

`read_blocking` and `write_blocking`: a range check against the size of the
file, then the transfer loop around `pread` and `pwrite` at the offset behind
the file's header. Both checks are made on 64-bit sums, which wrap around.

The two differ in the call they make and nowhere else, so they are one
function here. A call's position is an `off_t`, which is signed; the kernel
refuses negative ones.

## Main definitions

* `BlockingIo`: The calls an operation made, and what it returned.
* `readBlocking`, `writeBlocking`: The operations.
* `BlockingIo.Touches`: A byte of the file that a call asked for.
-/

namespace Geminifs

/-- The calls made, each with its position in the file and the number of bytes
    asked for, and the value returned. Nothing is returned if the machine
    stopped inside a call. -/
structure BlockingIo where
  requests : List (Int × Nat)
  ret : Option Int
  deriving DecidableEq, Repr

/-- A conversion of a 64-bit value to `off_t`. -/
def offT (x : UInt64) : Int := if x.toNat < 2 ^ 63 then x.toNat else (x.toNat : Int) - 2 ^ 64

namespace HostStorage

/-- What is returned after a transfer: the number of bytes moved, or `-1`. -/
def transferRet (t : Transfer) : Option Int :=
  match t.ending with
  | .complete => some t.moved
  | .stalled => some t.moved
  | .failed => some (-1)
  | .pending => none

/-- The body that `read_blocking` and `write_blocking` share, given what its
    calls return. -/
def blockingIo (file : Option NvmeFile) (byteOffset len : UInt64) (nullBuffer : Bool)
    (results : List IoResult) : BlockingIo :=
  match file with
  | none => ⟨[], some (-1)⟩
  | some f =>
    if f.hostFd < 0 ∨ nullBuffer then ⟨[], some (-1)⟩
    else if f.sizeBytes < byteOffset + len then ⟨[], some (-1)⟩
    else
      let realOff := offT (f.dataOffset + byteOffset)
      -- A negative position is refused with `EINVAL`.
      if len ≠ 0 ∧ realOff < 0 then ⟨[(realOff, len.toNat)], some (-1)⟩
      else
        let t := transferLoop 0 len.toNat results
        ⟨t.requests.map (fun q => (realOff + q.1, q.2)), transferRet t⟩

def readBlocking (file : Option NvmeFile) (byteOffset : UInt64) (nullDst : Bool) (len : UInt64)
    (preads : List IoResult) : BlockingIo :=
  blockingIo file byteOffset len nullDst preads

def writeBlocking (file : Option NvmeFile) (byteOffset : UInt64) (nullSrc : Bool) (len : UInt64)
    (pwrites : List IoResult) : BlockingIo :=
  blockingIo file byteOffset len nullSrc pwrites

end HostStorage

/-- A byte of the file that one of the calls asked for. A call at a negative
    position asks for none. -/
def BlockingIo.Touches (io : BlockingIo) (x : Nat) : Prop :=
  ∃ q ∈ io.requests, 0 ≤ q.1 ∧ q.1 ≤ (x : Int) ∧ (x : Int) < q.1 + q.2

end Geminifs
