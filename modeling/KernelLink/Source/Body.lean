import KernelLink.Number.Size
import KernelLink.Source.Fragment

/-!
# Kernel bodies

The bodies of the four kernels: stage a tile in threadgroup memory, work on it, write the result
back. Sizes and callee names are written into the text, so the text determines the behaviour that
a host gives the kernel.
-/

namespace KernelLink

/-- Lines joined by newlines. -/
def linesOf (lines : List String) : String := "\n".intercalate lines

/-- Stages `elements` values and writes each back multiplied by a literal. -/
def asyncCopyBody (elements : Nat) (element : Element) (scale : Double) : String :=
  let n := toString elements
  let type := element.spelling
  linesOf
    ["  threadgroup " ++ type ++ " tg_buf[" ++ n ++ "];",
     "",
     "  // stage this group's slice of src in threadgroup memory",
     "  thread _simdgroup_event_t* ev = __metal_simdgroup_async_copy_1d(",
     "      sizeof(" ++ type ++ "), alignof(" ++ type ++ "),",
     "      (threadgroup void*)tg_buf,",
     "      (const device void*)(src + (tid / " ++ n ++ ") * " ++ n ++ "),",
     "      " ++ n ++ ");",
     "  __metal_wait_simdgroup_events(1, &ev);",
     "  threadgroup_barrier(mem_flags::mem_threadgroup);",
     "",
     "  dst[tid] = tg_buf[simd_lane % " ++ n ++ "] * " ++ element.literal scale ++ ";"]

/-- Stages `tile` values and writes back what `callee` makes of each. -/
def reverseBody (tile : Nat) (callee : String) : String :=
  let n := toString tile
  linesOf
    ["  threadgroup float tg_buf[" ++ n ++ "];",
     "",
     "  thread _simdgroup_event_t* ev = __metal_simdgroup_async_copy_1d(",
     "      sizeof(float), alignof(float),",
     "      (threadgroup void*)tg_buf,",
     "      (const device void*)(src + (tid / " ++ n ++ ") * " ++ n ++ "),",
     "      " ++ n ++ ");",
     "  __metal_wait_simdgroup_events(1, &ev);",
     "  threadgroup_barrier(mem_flags::mem_threadgroup);",
     "",
     "  dst[tid] = " ++ callee ++ "(tg_buf[simd_lane % " ++ n ++ "]);"]

/-- Stages the leading columns of a matrix, lets `callee` work on them in place and copies them
back. -/
def roundtripBody (rows cols tileCols : Nat) (callee : String) : String :=
  let tile := toString (Size.wrap (rows * tileCols))
  let extent := "ulong2(" ++ toString tileCols ++ ", " ++ toString rows ++ ")"
  let narrow := toString tileCols ++ ", 1, " ++ extent
  let wide := toString cols ++ ", 1, " ++ extent
  linesOf
    ["  threadgroup float tile[" ++ tile ++ "];",
     "",
     "  thread _simdgroup_event_t* ev_in = __metal_simdgroup_async_copy_2d(",
     "      sizeof(float), alignof(float),",
     "      (threadgroup void*)tile, " ++ narrow ++ ",",
     "      (const device void*)src, " ++ wide ++ ",",
     "      long2(0, 0), 0);",
     "  __metal_wait_simdgroup_events(1, &ev_in);",
     "  threadgroup_barrier(mem_flags::mem_threadgroup);",
     "",
     "  " ++ callee ++ "(tile, simd_lane);",
     "  threadgroup_barrier(mem_flags::mem_threadgroup);",
     "",
     "  thread _simdgroup_event_t* ev_out = __metal_simdgroup_async_copy_2d(",
     "      sizeof(float), alignof(float),",
     "      (device void*)dst, " ++ wide ++ ",",
     "      (const threadgroup void*)tile, " ++ narrow ++ ",",
     "      long2(0, 0), 0);",
     "  __metal_wait_simdgroup_events(1, &ev_out);"]

/-- Stages a tile of each input and lets `callee` write the output. -/
def gemmBody (tile : Nat) (callee : String) : String :=
  let n := toString tile
  linesOf
    ["  threadgroup float tg_a[" ++ n ++ "];",
     "  threadgroup float tg_b[" ++ n ++ "];",
     "",
     "  thread _simdgroup_event_t* events[2];",
     "  events[0] = __metal_simdgroup_async_copy_1d(",
     "      sizeof(float), alignof(float),",
     "      (threadgroup void*)tg_a,",
     "      (const device void*)(A + (tid / " ++ n ++ ") * " ++ n ++ "),",
     "      " ++ n ++ ");",
     "  events[1] = __metal_simdgroup_async_copy_1d(",
     "      sizeof(float), alignof(float),",
     "      (threadgroup void*)tg_b,",
     "      (const device void*)(B + (tid / " ++ n ++ ") * " ++ n ++ "),",
     "      " ++ n ++ ");",
     "  __metal_wait_simdgroup_events(2, events);",
     "  threadgroup_barrier(mem_flags::mem_threadgroup);",
     "",
     "  " ++ callee ++ "(tg_a, tg_b, C, tid, simd_lane);"]

end KernelLink
