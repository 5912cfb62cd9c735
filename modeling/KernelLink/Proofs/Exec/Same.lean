import KernelLink.Exec.Kernel
import Mathlib.Data.List.Forall2
import Mathlib.Data.Option.Defs

/-!
# The same behaviour

Emulations are data, but what counts of them is what they do: a kernel has its name, the memory that
it asks for and what it does to a group, and a visible function has what it does to its arguments.
Two that agree in that can stand for each other, in a group and among the functions that a kernel
calls.
-/

namespace KernelLink

/-! ## Visible functions -/

/-- Functions that do the same to all arguments. -/
inductive Callable.Same : Callable → Callable → Prop
  | unary {f g : Transform} (h : ∀ x, f.reference x = g.reference x) : Same (.unary f) (.unary g)
  | tile {f g : TileScaling} (h : ∀ memory lane, f.apply memory lane = g.apply memory lane) :
      Same (.tile f) (.tile g)
  | pairTile {f g : Variant}
      (h : ∀ a b c thread lane, f.apply a b c thread lane = g.apply a b c thread lane) :
      Same (.pairTile f) (.pairTile g)

theorem Callable.Same.refl (c : Callable) : c.Same c := by
  cases c with
  | unary f => exact .unary fun _ => rfl
  | tile f => exact .tile fun _ _ => rfl
  | pairTile f => exact .pairTile fun _ _ _ _ _ => rfl

/-- The same functions under the same names. -/
def Linked.Same : Linked → Linked → Prop :=
  List.Forall₂ fun a b => a.1 = b.1 ∧ a.2.Same b.2

theorem Linked.Same.find? {linked linked' : Linked} (h : linked.Same linked') (name : String) :
    Option.Rel Callable.Same (linked.find? name) (linked'.find? name) := by
  induction h with
  | nil => exact .none
  | @cons a b linked linked' hab hrest ih =>
    obtain ⟨hname, hsame⟩ := hab
    unfold Linked.find? at ih ⊢
    rw [List.find?_cons, List.find?_cons, hname]
    by_cases hb : b.1 = name
    · simpa [hb] using hsame
    · simpa [hb] using ih

namespace GroupM

variable {linked linked' : Linked}

theorem callUnary_congr (h : linked.Same linked') : callUnary linked = callUnary linked' := by
  funext name value
  have hfind := h.find? name
  unfold callUnary callable
  generalize linked.find? name = c at hfind
  generalize linked'.find? name = c' at hfind
  cases hfind with
  | none => rfl
  | some hsame =>
    cases hsame with
    | unary heq => exact congrArg (fun y : Single => (pure y : GroupM Single)) (heq value)
    | tile heq => rfl
    | pairTile heq => rfl

theorem callTile_congr (h : linked.Same linked') : callTile linked = callTile linked' := by
  funext name lane
  have hfind := h.find? name
  unfold callTile callable
  generalize linked.find? name = c at hfind
  generalize linked'.find? name = c' at hfind
  cases hfind with
  | none => rfl
  | some hsame =>
    cases hsame with
    | unary heq => rfl
    | @tile f g heq =>
      have happly : f.apply = g.apply := funext fun _ => funext fun _ => heq _ _
      rw [pure_bind, pure_bind]
      dsimp only
      rw [happly]
    | pairTile heq => rfl

theorem callPairTile_congr (h : linked.Same linked') :
    callPairTile linked = callPairTile linked' := by
  funext name split output thread lane
  have hfind := h.find? name
  unfold callPairTile callable
  generalize linked.find? name = c at hfind
  generalize linked'.find? name = c' at hfind
  cases hfind with
  | none => rfl
  | some hsame =>
    cases hsame with
    | unary heq => rfl
    | tile heq => rfl
    | @pairTile f g heq =>
      have happly : f.apply = g.apply := by
        funext a b c thread lane
        exact heq _ _ _ _ _
      rw [pure_bind, pure_bind]
      dsimp only
      rw [happly]

end GroupM

/-! ## Kernels -/

namespace Kernel

/-- Kernels of one name that ask for the same memory and do the same to every group, whatever is
linked. -/
structure Same (k k' : Kernel) : Prop where
  name : k.name = k'.name
  memory : k.threadgroupLength = k'.threadgroupLength
  run : ∀ g linked, k.run g linked = k'.run g linked

theorem Same.refl (k : Kernel) : k.Same k := ⟨rfl, rfl, fun _ _ => rfl⟩

/-- What is linked counts for what it does. -/
theorem run_congr {linked linked' : Linked} (h : linked.Same linked') (k : Kernel)
    (g : GroupShape) : k.run g linked = k.run g linked' := by
  cases k with
  | stagedUnary name tile op =>
    have hop : applyOp linked op = applyOp linked' op := by
      funext x
      cases op with
      | scale factor => rfl
      | call callee => exact congrFun (congrFun (GroupM.callUnary_congr h) callee) x
    unfold run
    dsimp only
    rw [hop]
  | tileRoundtrip name geometry callee =>
    unfold run
    dsimp only
    rw [GroupM.callTile_congr h]
  | pairedTiles name tile callee =>
    unfold run
    dsimp only
    rw [GroupM.callPairTile_congr h]

/-- Copying kernels that scale alike. -/
theorem same_of_scale {name : String} {tile : Nat} {factor factor' : Single}
    (h : ∀ x : Single, x * factor = x * factor') :
    (stagedUnary name tile (.scale factor)).Same (stagedUnary name tile (.scale factor')) := by
  refine ⟨rfl, rfl, fun g linked => ?_⟩
  have hop : applyOp linked (.scale factor) = applyOp linked (.scale factor') :=
    funext fun x => congrArg (fun y : Single => (pure y : GroupM Single)) (h x)
  unfold run
  dsimp only
  rw [hop]

end Kernel

/-- Emulations that behave the same. -/
inductive Emulation.Same : Emulation → Emulation → Prop
  | kernel {k k' : Kernel} (h : k.Same k') : Same (.kernel k) (.kernel k')
  | callable {c c' : Callable} (h : c.Same c') : Same (.callable c) (.callable c')

theorem Emulation.Same.refl (e : Emulation) : e.Same e := by
  cases e with
  | kernel k => exact .kernel (.refl k)
  | callable c => exact .callable (.refl c)

end KernelLink
