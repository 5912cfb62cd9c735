import KernelLink.Text.Comment

/-!
# Emulations by name and body

A registry is a finite map whose key is a function's name together with the layout-free form of its
body. Registering a key again replaces what was there, so a look-up answers with the latest
registration, and merging registers every entry of another registry.
-/

namespace KernelLink

/-- A function name and a normalized body. -/
structure FunctionKey where
  name : String
  body : String
deriving DecidableEq, Repr

/-- The key of a function with the given body text. -/
def FunctionKey.of (name body : String) : FunctionKey := ⟨name, normalizeBody body⟩

/-- Entries have distinct keys, in the order of their first registration. -/
structure Registry (α : Type) where
  entries : List (FunctionKey × α)
deriving Repr

namespace Registry

variable {α : Type}

def empty : Registry α := ⟨[]⟩

def get? (r : Registry α) (key : FunctionKey) : Option α :=
  (r.entries.find? (·.1 = key)).map (·.2)

/-- Puts a value under a key, in place of any other. -/
def put (r : Registry α) (key : FunctionKey) (value : α) : Registry α :=
  if (r.get? key).isSome then
    ⟨r.entries.map fun (k, v) => if k = key then (k, value) else (k, v)⟩
  else ⟨r.entries ++ [(key, value)]⟩

def register (r : Registry α) (name body : String) (value : α) : Registry α :=
  r.put (.of name body) value

def find? (r : Registry α) (name body : String) : Option α := r.get? (.of name body)

def containsName (r : Registry α) (name : String) : Bool := r.entries.any (·.1.name = name)

def size (r : Registry α) : Nat := r.entries.length

def isEmpty (r : Registry α) : Bool := r.size = 0

/-- Registers every entry of another registry, bodies and all. -/
def merge (r other : Registry α) : Registry α :=
  other.entries.foldl (fun r (key, value) => r.register key.name key.body value) r

end Registry

end KernelLink
