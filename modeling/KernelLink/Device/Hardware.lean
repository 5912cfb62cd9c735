import KernelLink.Device.Basic

/-!
# Hardware devices

A pipeline could also run on the graphics hardware of the machine. That takes macOS, and this
library runs kernels on the host alone, so opening the hardware device is always refused. The
refusal is a device's way of saying that it is unavailable, so callers need no case of their own.
-/

namespace KernelLink

/-- Why there is no hardware device. -/
inductive HardwareFault where
  | wrongPlatform
deriving DecidableEq, Repr

namespace HardwareFault

def message : HardwareFault → String
  | wrongPlatform => "Metal is only available on macOS"

/-- The same refusal, said by a device. -/
def asDeviceFault (f : HardwareFault) : DeviceFault := .unavailable f.message

end HardwareFault

/-- Opens the hardware device; there is none. -/
def openHardware : Except HardwareFault Empty := .error .wrongPlatform

end KernelLink
