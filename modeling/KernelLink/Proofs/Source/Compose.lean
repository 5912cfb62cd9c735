import KernelLink.Proofs.Source.Steps
import KernelLink.Proofs.Text.Comment
import KernelLink.Source.Compose

/-!
# Scanning composed texts

A text that can stand anywhere among others says which declarations it contributes: comments are
closed at its end, and the scanner comes out of it as it went in. Such texts can be put one after
another, and composing does just that. So the declarations of a composed text are those of its
fragments, in the order in which kinds are written.
-/

namespace KernelLink

/-- The text contributes the declarations, wherever it stands between lines. -/
structure ScansTo (s : List Char) (items : List ScannedItem) : Prop where
  code : Comment.after .code s = .code
  scans : ∀ text t, scanItems text 0 false (stripComments s ++ t) =
    (scanItems text 0 false t).map (items ++ ·)

namespace ScansTo

variable {s t : List Char} {items items' : List ScannedItem}

theorem nil : ScansTo [] [] :=
  ⟨rfl, fun _ _ => (map_nil_append _).symm⟩

/-- Texts one after another contribute their declarations one after another. -/
theorem append (hs : ScansTo s items) (ht : ScansTo t items') :
    ScansTo (s ++ t) (items ++ items') := by
  refine ⟨by rw [Comment.after_append, hs.code, ht.code], fun text rest => ?_⟩
  rw [stripComments_append hs.code, List.append_assoc, hs.scans, ht.scans, map_map_append]

/-- Whole lines that scan on their own can stand anywhere. -/
theorem of_scanItems {text : List Char} (hcode : Comment.after .code s = .code)
    (hs : EndsLine (stripComments s))
    (h : scanItems text 0 false (stripComments s) = .ok items) : ScansTo s items :=
  ⟨hcode, fun text' _ => scanItems_append (.inl hs) h text'⟩

theorem newline : ScansTo ['\n'] [] :=
  @of_scanItems _ [] [] rfl ⟨[], rfl⟩ rfl

theorem scanSource_eq {source : String} (h : ScansTo source.toList items) :
    scanSource source = .ok (.ofItems items) := by
  have hscan := h.scans (stripComments source.toList) []
  rw [List.append_nil] at hscan
  unfold scanSource
  dsimp only
  rw [hscan]
  exact congrArg (fun all => Except.ok (ScannedSource.ofItems all)) (List.append_nil items)

/-- Lines between texts change nothing. -/
theorem intercalate {α : Type} {text : α → List Char} {read : α → List ScannedItem} {xs : List α}
    (h : ∀ x ∈ xs, ScansTo (text x) (read x)) :
    ScansTo (['\n'].intercalate (xs.map text)) (xs.flatMap read) := by
  induction xs with
  | nil => exact nil
  | cons x xs ih =>
    obtain ⟨hx, hxs⟩ := List.forall_mem_cons.mp h
    cases xs with
    | nil =>
      have hone : ['\n'].intercalate ([x].map text) = text x := List.append_nil _
      rw [hone, List.flatMap_singleton]
      exact hx
    | cons y xs =>
      have hcons : ['\n'].intercalate ((x :: y :: xs).map text) =
          text x ++ (['\n'] ++ ['\n'].intercalate ((y :: xs).map text)) := rfl
      rw [hcons, List.flatMap_cons]
      exact hx.append (newline.append (ih hxs))

end ScansTo

/-! ## Composed texts -/

theorem closeLine_of_endsLine {text : String} (h : EndsLine text.toList) :
    closeLine text = text := by
  obtain ⟨front, hfront⟩ := h
  unfold closeLine
  rw [hfront, List.getLast?_concat, if_pos rfl]

section

variable {α β : Type} {fragment : α → Fragment} {xs : List α}

/-- The order in which the fragments of things are written. -/
def inKindOrder (fragment : α → Fragment) (xs : List α) : List α :=
  FragmentKind.all.flatMap fun kind => xs.filter fun x => (fragment x).kind = kind

theorem ordered_map (fragment : α → Fragment) (xs : List α) :
    ordered (xs.map fragment) = (inKindOrder fragment xs).map fragment := by
  unfold ordered inKindOrder
  rw [List.map_flatMap]
  simp only [List.filter_map]
  rfl

theorem mem_inKindOrder_iff {x : α} : x ∈ inKindOrder fragment xs ↔ x ∈ xs := by
  unfold inKindOrder
  rw [List.mem_flatMap]
  constructor
  · rintro ⟨kind, -, h⟩
    exact List.mem_of_mem_filter h
  · -- its own kind is one of those that are written
    intro h
    refine ⟨(fragment x).kind, ?_, List.mem_filter.mpr ⟨h, decide_eq_true rfl⟩⟩
    cases (fragment x).kind <;> decide

/-- **A composed text scans to the declarations of its fragments**, kind by kind. -/
theorem scanSource_composedText {read : α → List ScannedItem}
    (hscans : ∀ x ∈ xs, ScansTo (closeLine (fragment x).text).toList (read x)) :
    scanSource (composedText (xs.map fragment)) =
      .ok (.ofItems ((inKindOrder fragment xs).flatMap read)) := by
  refine ScansTo.scanSource_eq ?_
  have htext : (composedText (xs.map fragment)).toList = ['\n'].intercalate
      ((inKindOrder fragment xs).map fun x => (closeLine (fragment x).text).toList) := by
    unfold composedText
    rw [ordered_map, String.toList_intercalate, List.map_map, List.map_map]
    rfl
  rw [htext]
  exact ScansTo.intercalate fun x hx => hscans x (mem_inKindOrder_iff.mp hx)

theorem flatMap_filter_kind {g : α → List β} (kind : FragmentKind)
    (h : ∀ x ∈ xs, (fragment x).kind ≠ kind → g x = []) (k : FragmentKind) :
    (xs.filter fun x => (fragment x).kind = k).flatMap g =
      if k = kind then xs.flatMap g else [] := by
  split
  · rename_i hk
    subst hk
    induction xs with
    | nil => rfl
    | cons x xs ih =>
      obtain ⟨hx, hxs⟩ := List.forall_mem_cons.mp h
      by_cases hkind : (fragment x).kind = k
      · rw [List.filter_cons, if_pos (decide_eq_true hkind), List.flatMap_cons,
          List.flatMap_cons, ih hxs]
      · rw [List.filter_cons, if_neg (by simpa using hkind), ih hxs, List.flatMap_cons,
          hx hkind, List.nil_append]
  · rename_i hk
    refine List.flatMap_eq_nil_iff.mpr fun x hx => ?_
    obtain ⟨hmem, hkind⟩ := List.mem_filter.mp hx
    exact h x hmem (of_decide_eq_true hkind ▸ hk)

/-- Where only one kind contributes, the order of kinds does not show. -/
theorem flatMap_inKindOrder {g : α → List β} (kind : FragmentKind)
    (h : ∀ x ∈ xs, (fragment x).kind ≠ kind → g x = []) :
    (inKindOrder fragment xs).flatMap g = xs.flatMap g := by
  unfold inKindOrder
  rw [List.flatMap_assoc]
  simp only [flatMap_filter_kind kind h]
  cases kind <;> simp [FragmentKind.all]

end

end KernelLink
