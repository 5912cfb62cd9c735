import KernelLink.Exec.Kernel
import KernelLink.LanguageVersion
import KernelLink.Registry
import KernelLink.Source.Scan

/-!
# Host devices

A device has options and a registry of behaviours. It makes libraries out of kernel text by binding
each function that the text defines to the registered behaviour of its body. Two ways lead to a
library: compiling, where a policy decides about intrinsic bindings, and loading an artifact, which
has to define something.
-/

namespace KernelLink

/-- Whether compiling from source accepts intrinsic bindings. Artifacts always may have them. -/
inductive IntrinsicPolicy where
  | reject
  /-- Only when a version up to the ceiling is asked for. -/
  | acceptUpTo (ceiling : LanguageVersion)
  | accept
deriving DecidableEq, Repr

def IntrinsicPolicy.allows (p : IntrinsicPolicy) (requested : Option LanguageVersion) : Bool :=
  match p with
  | reject => false
  | accept => true
  | acceptUpTo ceiling => requested.any (·.le ceiling)

structure HostOptions where
  name : String
  maxThreads : Nat
  intrinsics : IntrinsicPolicy
deriving DecidableEq, Repr

def HostOptions.standard : HostOptions := ⟨"Host Emulator", 1024, .reject⟩

/-- What a device says of itself. -/
structure DeviceInfo where
  name : String
  backend : String
  maxThreads : Nat
deriving DecidableEq, Repr

/-- Why a device refuses. -/
inductive DeviceFault where
  | compile (diagnostic : String)
  | load (reason : String)
  | functionNotFound (name : String)
  | pipelineBuild (reason : String)
  | bufferAllocation (reason : String)
  | unavailable (reason : String)
deriving DecidableEq, Repr

def DeviceFault.message : DeviceFault → String
  | compile diagnostic => "compiler rejected source: " ++ diagnostic
  | load reason => "failed to load library: " ++ reason
  | functionNotFound name => "function '" ++ name ++ "' not found in library"
  | pipelineBuild reason => "failed to build pipeline: " ++ reason
  | bufferAllocation reason => "failed to allocate buffer: " ++ reason
  | unavailable reason => "device unavailable: " ++ reason

/-! ## Libraries -/

structure LibraryKernel where
  name : String
  kernel : Kernel
deriving DecidableEq, Repr

structure LibraryExport where
  signature : Signature
  callable : Callable
deriving DecidableEq, Repr

/-- What a text defines, bound to behaviours, and what it imports. -/
structure Library where
  kernels : List LibraryKernel
  exports : List LibraryExport
  imports : List Signature
deriving DecidableEq, Repr

namespace Library

def kernel? (l : Library) (name : String) : Option LibraryKernel := l.kernels.find? (·.name = name)

def export? (l : Library) (name : String) : Option LibraryExport :=
  l.exports.find? (·.signature.name = name)

/-- Kernels first, then exports. -/
def functionNames (l : Library) : List String :=
  l.kernels.map (·.name) ++ l.exports.map (·.signature.name)

end Library

/-! ## Lowering -/

/-- Why a scanned text has no library. -/
inductive LowerFault where
  | redefinition (name : String)
  | unknownKernel (name : String)
  | unknownVisible (signature : Signature)
deriving DecidableEq, Repr

def LowerFault.message : LowerFault → String
  | redefinition name => "error: redefinition of '" ++ name ++ "'"
  | unknownKernel name => "error: cannot lower kernel '" ++ name ++ "' for the host"
  | unknownVisible signature =>
    "error: cannot lower visible function '" ++ signature.display ++ "' for the host"

/-- Binds kernels in order; `seen` holds the names defined before. -/
def lowerKernels (r : Registry Emulation) (seen : List String) :
    List ScannedFunction → Except LowerFault (List LibraryKernel)
  | [] => .ok []
  | f :: fs =>
    let name := f.signature.name
    if seen.contains name then .error (.redefinition name)
    else match r.find? name f.body with
      | some (.kernel k) => (lowerKernels r (name :: seen) fs).map (⟨name, k⟩ :: ·)
      | _ => .error (.unknownKernel name)

/-- Binds visible functions in order; `seen` holds the names defined before. -/
def lowerExports (r : Registry Emulation) (seen : List String) :
    List ScannedFunction → Except LowerFault (List LibraryExport)
  | [] => .ok []
  | f :: fs =>
    let name := f.signature.name
    if seen.contains name then .error (.redefinition name)
    else match r.find? name f.body with
      | some (.callable c) => (lowerExports r (name :: seen) fs).map (⟨f.signature, c⟩ :: ·)
      | _ => .error (.unknownVisible f.signature)

/-- Binds everything that a text defines: kernels, then visible functions. -/
def lower (r : Registry Emulation) (s : ScannedSource) : Except LowerFault Library := do
  let kernels ← lowerKernels r [] s.kernels
  let exports ← lowerExports r (s.kernels.map (·.signature.name)) s.exports
  .ok ⟨kernels, exports, s.imports⟩

/-! ## Devices -/

structure HostDevice where
  options : HostOptions
  registry : Registry Emulation

namespace HostDevice

def info (d : HostDevice) : DeviceInfo := ⟨d.options.name, "host", d.options.maxThreads⟩

/-- The diagnostic for intrinsic bindings that the policy does not allow. -/
def intrinsicsDiagnostic (symbols : List String) : String :=
  "program_source: error: intrinsic bindings through __asm are not supported " ++
    "when compiling from source (" ++ ", ".intercalate symbols ++ ")"

/-- Makes a library out of source text. -/
def compile (d : HostDevice) (source : String) (version : Option LanguageVersion) :
    Except DeviceFault Library :=
  match scanSource source with
  | .error fault => .error (.compile ("program_source:" ++ fault.message))
  | .ok scanned =>
    if scanned.bindsIntrinsics && !d.options.intrinsics.allows version then
      .error (.compile (intrinsicsDiagnostic scanned.intrinsics))
    else (lower d.registry scanned).mapError fun fault => .compile fault.message

/-- Makes a library out of the text of an artifact. -/
def loadText (d : HostDevice) (text : String) : Except DeviceFault Library :=
  match scanSource text with
  | .error fault => .error (.load ("malformed artifact: " ++ fault.message))
  | .ok scanned =>
    if scanned.isEmpty then .error (.load "artifact contains no functions")
    else (lower d.registry scanned).mapError fun fault => .load fault.message

/-- Makes a library out of an artifact, which is UTF-8 text. -/
def load (d : HostDevice) (bytes : ByteArray) : Except DeviceFault Library :=
  match String.fromUTF8? bytes with
  | some text => d.loadText text
  | none => .error (.load "not a host library artifact")

end HostDevice

end KernelLink
