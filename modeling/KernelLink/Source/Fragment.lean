import KernelLink.Element
import KernelLink.Signature

/-!
# Source fragments

A kernel source is put together from fragments, each of a kind that fixes its place. Every fragment
here is a function of its arguments alone, so equal arguments give equal text.
-/

namespace KernelLink

/-- The place of a fragment, in the order of the composed text. -/
inductive FragmentKind where
  | preamble
  | intrinsics
  | imports
  | definitions
  | kernel
deriving DecidableEq, Repr

namespace FragmentKind

/-- All kinds, in the order of the composed text. -/
def all : List FragmentKind := [preamble, intrinsics, imports, definitions, kernel]

end FragmentKind

structure Fragment where
  kind : FragmentKind
  text : String
deriving DecidableEq, Repr

/-! ## Buffer arguments -/

inductive Access where
  | read
  | write
deriving DecidableEq, Repr

/-- One buffer argument of a kernel. -/
structure BufferParam where
  name : String
  element : Element
  access : Access
  index : Nat
deriving DecidableEq, Repr

namespace BufferParam

def qualifier (b : BufferParam) : String :=
  match b.access with
  | .read => "device const"
  | .write => "device"

/-- The argument's line, comma and newline included. -/
def line (b : BufferParam) : String :=
  "  " ++ b.qualifier ++ " " ++ b.element.spelling ++ " *" ++ b.name ++ " [[buffer(" ++
    toString b.index ++ ")]],\n"

end BufferParam

def bufferLines (buffers : List BufferParam) : String := String.join (buffers.map (·.line))

/-- The two thread positions that close every kernel's argument list. -/
def threadArguments : String :=
  "  uint tid [[thread_position_in_grid]],\n  uint simd_lane [[thread_index_in_simdgroup]]"

/-! ## Fixed fragments -/

/-- Lines joined by newlines, the last one ended too. -/
def ended (lines : List String) : String := "\n".intercalate lines ++ "\n"

def preambleFragment : Fragment where
  kind := .preamble
  text := ended ["#include <metal_stdlib>", "using namespace metal;"]

/-- The event type, the one-dimensional staging copy and the wait. -/
def events1d : String := ended
  ["struct _simdgroup_event_t;",
   "",
   "thread _simdgroup_event_t*",
   "__metal_simdgroup_async_copy_1d(",
   "  ulong, ulong,",
   "  threadgroup void *,",
   "  const device void *,",
   "  ulong)",
   "  __asm(\"air.simdgroup_async_copy_1d.p3i8.p1i8\");",
   "",
   "void __metal_wait_simdgroup_events(",
   "  int, thread _simdgroup_event_t**)",
   "  __asm(\"air.wait_simdgroup_events\");"]

/-- Both directions of the two-dimensional staging copy. -/
def events2d : String := ended
  ["thread _simdgroup_event_t*",
   "__metal_simdgroup_async_copy_2d(",
   "  ulong, ulong,",
   "  threadgroup void *, ulong, ulong, ulong2,",
   "  const device void *, ulong, ulong, ulong2,",
   "  long2, int)",
   "  __asm(\"air.simdgroup_async_copy_2d.p3i8.p1i8\");",
   "",
   "thread _simdgroup_event_t*",
   "__metal_simdgroup_async_copy_2d(",
   "  ulong, ulong,",
   "  device void *, ulong, ulong, ulong2,",
   "  const threadgroup void *, ulong, ulong, ulong2,",
   "  long2, int)",
   "  __asm(\"air.simdgroup_async_copy_2d.p1i8.p3i8\");"]

def eventsFragment1d : Fragment := ⟨.intrinsics, events1d⟩

def eventsFragment2d : Fragment := ⟨.intrinsics, events1d ++ "\n" ++ events2d⟩

/-! ## Visible functions and kernels -/

def trimText (s : String) : String := String.ofList (trimBlanks s.toList)

namespace Declaration

/-- A declaration without a body, to be resolved by linking. -/
def importFragment (d : Declaration) : Fragment where
  kind := .imports
  text := ended
    ["[[visible]]",
     d.returnType ++ " " ++ d.name ++ "(" ++
       ", ".intercalate (d.params.map fun p => trimText p.type) ++ ");"]

/-- A definition that other kernels may link. -/
def definitionFragment (d : Declaration) (body : String) : Fragment where
  kind := .definitions
  text := ended
    ["[[visible]]",
     d.returnType ++ " " ++ d.name ++ "(" ++
       ", ".intercalate (d.params.map fun p => trimText p.type ++ " " ++ p.name) ++ ") \x7b",
     body,
     "\x7d"]

end Declaration

def kernelFragment (name : String) (buffers : List BufferParam) (body : String) : Fragment where
  kind := .kernel
  text := ended
    ["kernel void " ++ name ++ "(",
     bufferLines buffers ++ threadArguments ++ ")",
     "\x7b",
     body,
     "\x7d"]

end KernelLink
