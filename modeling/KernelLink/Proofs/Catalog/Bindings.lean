import KernelLink.Proofs.Catalog.Bodies
import KernelLink.Proofs.Number.Literal
import KernelLink.Proofs.Registry
import Mathlib.Data.List.Nodup

/-!
# What a catalog registers

A catalog registers under seven names. Five of them once; `transform_value` for the catalog's own
transform and for the alternate one, and `compute_tile` for every variant in its list. Where a name
is shared the bodies tell the functions apart, since each constant and each expression stands in the
body; a key that is shared all the same is one function's. So what a catalog's registry finds under
a key is what any of its entries bound there.
-/

namespace KernelLink

/-! ## Bodies of visible functions -/

theorem not_isBlank_of_isNumberChar {c : Char} (h : isNumberChar c) : isBlank c = false := by
  unfold isNumberChar at h
  rw [Bool.or_eq_true] at h
  rcases h with h | h
  · refine (isWordChar_apart ?_).2
    unfold isWordChar Char.isAlphanum
    rw [h, Bool.or_true, Bool.true_or]
  · have hall : ['-', '.', 'e', 'i', 'n', 'f', 'N', 'a'].all (!isBlank ·) := by decide
    simpa using List.all_eq_true.mp hall c (List.contains_iff_mem.mp h)

/-- A number with something solid behind it is one word. -/
theorem isWord_literalText (x : Single) {suffix : List Char} (hne : suffix ≠ [])
    (hsuffix : suffix.all (!isBlank ·)) : IsWord (x.literalText.toList ++ suffix) := by
  refine ⟨fun hnil => hne (List.append_eq_nil_iff.mp hnil).2, fun c hc => ?_⟩
  rcases List.mem_append.mp hc with hc | hc
  · exact not_isBlank_of_isNumberChar (FloatStyle.isNumberChar_text _ _ _ c hc)
  · simpa using List.all_eq_true.mp hsuffix c hc

theorem Transform.words_body (t : Transform) :
    words (stripComments t.body.toList) =
      ["return".toList, "val".toList, ['*'], t.scale.literalText.toList ++ ['f'], ['+'],
        t.bias.literalText.toList ++ ['f', ';']] := by
  have htext : t.body.toList = "  return val *".toList ++ ' ' ::
      ((t.scale.literalText.toList ++ ['f']) ++ ' ' ::
        (['+'] ++ ' ' :: (t.bias.literalText.toList ++ ['f', ';']))) := by
    unfold Transform.body
    simp [String.toList_append]
  have hslash : ∀ x : Single, '/' ∉ x.literalText.toList := by
    intro x hmem
    have hnumber := FloatStyle.isNumberChar_text _ _ _ _ hmem
    revert hnumber
    decide
  have hfree : '/' ∉ t.body.toList := by
    rw [htext]
    simp [hslash]
  have hblank : isBlank ' ' := by decide
  rw [(CommentFree.of_no_slash hfree).stripComments_eq, htext,
    words_append_blank hblank, words_append_blank hblank, words_append_blank hblank,
    words_word (isWord_literalText t.scale (by decide) (by decide)),
    words_word (isWord_literalText t.bias (by decide) (by decide))]
  rfl

/-- The body says what the transform is. -/
theorem Transform.eq_of_normalizeBody_eq {t u : Transform} (hscale : u.scale.isNan = false)
    (hbias : u.bias.isNan = false) (h : normalizeBody t.body = normalizeBody u.body) : t = u := by
  rw [normalizeBody_eq_iff, t.words_body, u.words_body] at h
  simp only [List.cons.injEq, true_and, and_true, List.append_left_inj] at h
  obtain ⟨hs, hb⟩ := h
  have hs := Single.eq_of_literalText_eq hscale (String.toList_inj.mp hs)
  have hb := Single.eq_of_literalText_eq hbias (String.toList_inj.mp hb)
  cases t; cases u
  cases hs; cases hb
  rfl

theorem Variant.mem_all (v : Variant) : v ∈ Variant.all := by
  cases v <;> decide

theorem Variant.eq_of_normalizeBody_eq {v w : Variant}
    (h : normalizeBody v.body = normalizeBody w.body) : v = w := by
  have hdistinct : (Variant.all.map fun v => normalizeBody v.body).Nodup := by decide +kernel
  exact List.inj_on_of_nodup_map hdistinct v.mem_all w.mem_all h

/-! ## Bindings by name -/

namespace Catalog

/-- The bindings whose names are theirs alone. -/
def soleBindings (c : Catalog) : List EmulationBinding :=
  c.asyncCopyEntry.emulations ++ c.shells.flatMap (·.emulations) ++ c.processTile.entry.emulations

/-- The transforms that share a name. -/
def transforms (c : Catalog) : List Transform := [c.transform, .alternate]

def transformBinding (t : Transform) : EmulationBinding :=
  ⟨transformName, t.body, .callable (.unary t)⟩

def variantBinding (v : Variant) : EmulationBinding :=
  ⟨computeTileName, v.body, .callable (.pairTile v)⟩

variable {c : Catalog} {b b' : EmulationBinding}

/-- **What a catalog registers.** -/
theorem mem_bindings_iff : b ∈ c.bindings ↔
    b ∈ c.soleBindings ∨ (∃ t ∈ c.transforms, b = transformBinding t) ∨
      ∃ v ∈ c.variants, b = variantBinding v := by
  have hvariants : b ∈ (c.variants.map (·.entry)).flatMap (·.emulations) ↔
      ∃ v ∈ c.variants, b = variantBinding v := by
    rw [List.mem_flatMap]
    constructor
    · rintro ⟨e, he, hb⟩
      obtain ⟨v, hv, rfl⟩ := List.mem_map.mp he
      exact ⟨v, hv, List.mem_singleton.mp hb⟩
    · rintro ⟨v, hv, rfl⟩
      exact ⟨v.entry, List.mem_map.mpr ⟨v, hv, rfl⟩, List.mem_singleton_self _⟩
  have htransforms : b ∈ [transformBinding c.transform, transformBinding .alternate] ↔
      ∃ t ∈ c.transforms, b = transformBinding t := by
    simp [transforms]
  have hsplit : c.bindings = c.asyncCopyEntry.emulations ++ (c.shells.flatMap (·.emulations) ++
      ([transformBinding c.transform, transformBinding .alternate] ++
        (c.processTile.entry.emulations ++
          (c.variants.map (·.entry)).flatMap (·.emulations)))) := by
    unfold bindings entries callables
    rw [List.flatMap_cons, List.flatMap_append, List.flatMap_append]
    rfl
  rw [hsplit, soleBindings, List.mem_append, List.mem_append, List.mem_append, List.mem_append,
    List.mem_append, List.mem_append, htransforms, hvariants, or_assoc, or_assoc]
  exact or_congr_right (or_congr_right or_left_comm)

theorem name_soleBindings (c : Catalog) : c.soleBindings.map (·.name) =
    [asyncCopyName, reverseName, roundtripName, gemmName, processTileName] := rfl

/-- Sole bindings are told apart by their names, and bear none of the shared ones. -/
theorem eq_of_mem_soleBindings (hb : b ∈ c.soleBindings) (hb' : b' ∈ c.bindings)
    (h : b'.name = b.name) : b' = b := by
  have hnodup : (c.soleBindings.map (·.name)).Nodup := by
    rw [name_soleBindings]
    decide
  have hname : b.name ∈ c.soleBindings.map (·.name) := List.mem_map.mpr ⟨b, hb, rfl⟩
  rw [← h, name_soleBindings] at hname
  have hshared : ∀ name ∈ [transformName, computeTileName],
      name ∉ [asyncCopyName, reverseName, roundtripName, gemmName, processTileName] := by
    decide
  rcases mem_bindings_iff.mp hb' with hb' | ⟨t, -, rfl⟩ | ⟨v, -, rfl⟩
  · exact List.inj_on_of_nodup_map hnodup hb' hb h
  · exact absurd hname (hshared _ List.mem_cons_self)
  · exact absurd hname (hshared _ (List.mem_cons_of_mem _ List.mem_cons_self))

theorem eq_of_mem_transforms {t u : Transform} (ht : t ∈ c.transforms) (hu : u ∈ c.transforms)
    (h : normalizeBody u.body = normalizeBody t.body) : u = t := by
  -- The alternate constants are numbers, so a body with them is no other transform's.
  have halternate : ∀ t : Transform,
      normalizeBody t.body = normalizeBody Transform.alternate.body → t = .alternate :=
    fun t h => Transform.eq_of_normalizeBody_eq (by decide) (by decide) h
  unfold transforms at ht hu
  rw [List.mem_pair] at ht hu
  rcases ht with rfl | rfl <;> rcases hu with rfl | rfl
  · rfl
  · exact (halternate _ h.symm).symm
  · exact halternate _ h
  · rfl

/-- **A shared key is one function's.** -/
theorem emulation_eq_of_key_eq (hb : b ∈ c.bindings) (hb' : b' ∈ c.bindings)
    (h : b'.key = b.key) : b'.emulation = b.emulation := by
  have hname : b'.name = b.name := congrArg FunctionKey.name h
  have hbody : normalizeBody b'.body = normalizeBody b.body := congrArg FunctionKey.body h
  have hnames : computeTileName ≠ transformName := by decide
  rcases mem_bindings_iff.mp hb with hs | ⟨t, ht, rfl⟩ | ⟨v, hv, rfl⟩
  · rw [eq_of_mem_soleBindings hs hb' hname]
  · rcases mem_bindings_iff.mp hb' with hs | ⟨u, hu, rfl⟩ | ⟨w, hw, rfl⟩
    · rw [eq_of_mem_soleBindings hs hb hname.symm]
    · rw [eq_of_mem_transforms ht hu hbody]
    · exact absurd hname hnames
  · rcases mem_bindings_iff.mp hb' with hs | ⟨u, hu, rfl⟩ | ⟨w, hw, rfl⟩
    · rw [eq_of_mem_soleBindings hs hb hname.symm]
    · exact absurd hname.symm hnames
    · rw [Variant.eq_of_normalizeBody_eq hbody]

/-- What an entry binds is what the catalog's registry finds. -/
theorem find?_registry (hb : b ∈ c.bindings) : c.registry.get? b.key = some b.emulation := by
  rw [registry_eq]
  exact Registry.get?_registerAll_of_mem hb fun b' hb' => emulation_eq_of_key_eq hb hb'

end Catalog

end KernelLink
