import KernelLink.Device.Basic

/-!
# Pipelines

A pipeline is a kernel with the visible functions that its calls resolve to. Building one checks the
kernel, then every function to be linked in the given order, then every import of the kernel's
library; the first thing that does not fit is the reason.
-/

namespace KernelLink

/-- A function of a library. -/
structure FunctionRef where
  library : Library
  name : String
deriving DecidableEq, Repr

structure Pipeline where
  name : String
  kernel : Kernel
  linked : Linked
  maxThreads : Nat
deriving DecidableEq, Repr

/-- The names of the linked functions in byte order. -/
def Pipeline.linkedNames (p : Pipeline) : List String :=
  (p.linked.map (·.1)).mergeSort fun a b => a ≤ b

/-- Why no pipeline can be built. -/
inductive PipelineFault where
  | notFound (name : String)
  | notAKernel (name : String)
  | kernelLinked (name : String)
  | linkedTwice (name : String)
  | unresolved (declared : Signature)
  | mismatch (linked declared : Signature)
deriving DecidableEq, Repr

/-- The device's answer for a fault. -/
def PipelineFault.toDeviceFault : PipelineFault → DeviceFault
  | notFound name => .functionNotFound name
  | notAKernel name => .pipelineBuild ("'" ++ name ++ "' is not a kernel function")
  | kernelLinked name => .pipelineBuild ("kernel '" ++ name ++ "' cannot be linked as a function")
  | linkedTwice name => .pipelineBuild ("function '" ++ name ++ "' is linked more than once")
  | unresolved declared =>
    .pipelineBuild ("unresolved external function '" ++ declared.display ++ "'")
  | mismatch linked declared =>
    .pipelineBuild ("linked function '" ++ linked.display ++ "' does not match declaration '" ++
      declared.display ++ "'")

/-- The kernel that a reference names. -/
def findKernel (f : FunctionRef) : Except PipelineFault LibraryKernel :=
  match f.library.kernel? f.name with
  | some k => .ok k
  | none =>
    if (f.library.export? f.name).isSome then .error (.notAKernel f.name)
    else .error (.notFound f.name)

/-- The visible function that a reference names. -/
def findExport (f : FunctionRef) : Except PipelineFault LibraryExport :=
  match f.library.export? f.name with
  | some e => .ok e
  | none =>
    if (f.library.kernel? f.name).isSome then .error (.kernelLinked f.name)
    else .error (.notFound f.name)

/-- Finds the functions to be linked, in order; a name may be linked once. -/
def findExports (seen : List String) : List FunctionRef → Except PipelineFault (List LibraryExport)
  | [] => .ok []
  | f :: fs => do
    let e ← findExport f
    if seen.contains f.name then .error (.linkedTwice f.name)
    else
      let rest ← findExports (f.name :: seen) fs
      .ok (e :: rest)

/-- Checks one import against the linked functions: the one of its name has to be equal. -/
def checkImport (exports : List LibraryExport) (declared : Signature) : Except PipelineFault Unit :=
  match exports.find? (·.signature.name = declared.name) with
  | none => .error (.unresolved declared)
  | some e => if e.signature = declared then .ok () else .error (.mismatch e.signature declared)

def checkImports (exports : List LibraryExport) : List Signature → Except PipelineFault Unit
  | [] => .ok ()
  | declared :: rest => do
    checkImport exports declared
    checkImports exports rest

/-- Links functions into a kernel. -/
def link (maxThreads : Nat) (kernel : FunctionRef) (functions : List FunctionRef) :
    Except PipelineFault Pipeline := do
  let k ← findKernel kernel
  let exports ← findExports [] functions
  checkImports exports kernel.library.imports
  .ok ⟨k.name, k.kernel, exports.map fun e => (e.signature.name, e.callable), maxThreads⟩

def HostDevice.buildPipeline (d : HostDevice) (kernel : FunctionRef)
    (functions : List FunctionRef) : Except DeviceFault Pipeline :=
  (link d.options.maxThreads kernel functions).mapError (·.toDeviceFault)

end KernelLink
