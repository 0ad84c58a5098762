import Mathlib.Data.List.Nodup
import Att1.Converter.Layout

/-!
# Att1.Converter.Names — the tensor names of a plan

The names of `tensorNamePlan` are distinct (`nodup_planNames`) and hold no NUL (`ne_zero_of_mem_planNames`), so the
C loader tells them apart by `strncmp` on their padded fields (`strncmpEq_namePadded`).
-/

open Att1.Lib Att1.ModelFile

namespace Att1.Converter

/-- The nine names of a layer, behind its prefix. -/
def layerSuffixes : List (List UInt8) :=
  [ascii ".attention_norm.weight", ascii ".attention.wq.weight", ascii ".attention.wk.weight",
   ascii ".attention.wv.weight", ascii ".attention.wo.weight", ascii ".ffn_norm.weight", ascii ".ffn.w_gate.weight",
   ascii ".ffn.w_up.weight", ascii ".ffn.w_down.weight"]

/-- The names of a layer. -/
def layerNames (layer : ℕ) : List (List UInt8) := layerSuffixes.map (layerPrefix layer ++ ·)

/-- The names of a plan. -/
def planNames (nLayers : ℕ) : List (List UInt8) :=
  ascii "tok_embeddings.weight" ::
    ((List.range nLayers).flatMap layerNames ++ [ascii "output_norm.weight", ascii "output.weight"])

theorem map_fst_tensorNamePlan (att1 : Att1Dict) : (tensorNamePlan att1).map Prod.fst = planNames att1.nLayers := by
  unfold tensorNamePlan planNames
  rw [List.map_cons, List.map_append, List.map_flatMap]
  rfl

theorem length_tensorNamePlan (att1 : Att1Dict) : (tensorNamePlan att1).length = 3 + att1.nLayers * 9 := by
  unfold tensorNamePlan
  rw [List.length_cons, List.length_append, List.length_flatMap]
  simp only [layerPlan, List.length_cons, List.length_nil, List.map_const', List.sum_replicate_nat, List.length_range]
  omega

/-! ### The names hold no NUL -/

theorem zero_notMem_layerSuffixes : ∀ suffix ∈ layerSuffixes, (0 : UInt8) ∉ suffix := by decide

theorem zero_notMem_layerPrefix (layer : ℕ) : (0 : UInt8) ∉ layerPrefix layer := by
  intro h
  obtain h | h := List.mem_append.mp h
  · exact (by decide : (0 : UInt8) ∉ ascii "layers.") h
  · have hdigit := (mem_decimal h).1
    simp at hdigit

theorem zero_notMem_of_mem_planNames {nLayers : ℕ} {name : List UInt8} (h : name ∈ planNames nLayers) :
    (0 : UInt8) ∉ name := by
  have hends : ∀ name ∈ [ascii "tok_embeddings.weight", ascii "output_norm.weight", ascii "output.weight"],
      (0 : UInt8) ∉ name := by decide
  obtain rfl | h := List.mem_cons.mp h
  · exact hends _ (by simp)
  obtain h | h := List.mem_append.mp h
  · obtain ⟨layer, -, h⟩ := List.mem_flatMap.mp h
    obtain ⟨suffix, hsuffix, rfl⟩ := List.mem_map.mp h
    rw [List.mem_append, not_or]
    exact ⟨zero_notMem_layerPrefix layer, zero_notMem_layerSuffixes suffix hsuffix⟩
  · exact hends _ (List.mem_cons_of_mem _ h)

theorem ne_zero_of_mem_planNames {nLayers : ℕ} {name : List UInt8} (h : name ∈ planNames nLayers) :
    ∀ c ∈ name, c ≠ 0 :=
  fun _ hc => ne_of_mem_of_not_mem hc (zero_notMem_of_mem_planNames h)

/-! ### The names are distinct -/

/-- The layer can be read off a layer name: its digits stand in front of the first dot behind `layers.`. -/
theorem layer_eq_of_append {layer layer' : ℕ} {suffix suffix' : List UInt8} (hs : suffix ∈ layerSuffixes)
    (hs' : suffix' ∈ layerSuffixes) (h : layerPrefix layer ++ suffix = layerPrefix layer' ++ suffix') :
    layer = layer' := by
  have hdot : ∀ suffix ∈ layerSuffixes, suffix.takeWhile (fun c => c ≠ 0x2e) = [] := by decide
  have hdigits (n : ℕ) : ∀ c ∈ decimal n, decide (c ≠ 0x2e) = true := by
    intro c hc
    rw [decide_eq_true_iff]
    rintro rfl
    have hdigit := (mem_decimal hc).1
    simp at hdigit
  have htake (n : ℕ) {suffix : List UInt8} (hs : suffix ∈ layerSuffixes) :
      (decimal n ++ suffix).takeWhile (fun c => c ≠ 0x2e) = decimal n := by
    rw [List.takeWhile_append_of_pos (hdigits n), hdot suffix hs, List.append_nil]
  unfold layerPrefix at h
  rw [List.append_assoc, List.append_assoc, List.append_cancel_left_eq] at h
  apply decimal_injective
  rw [← htake layer hs, h, htake layer' hs']

theorem nodup_layerNames (layer : ℕ) : (layerNames layer).Nodup :=
  List.Nodup.map (List.append_right_injective _) (by decide)

theorem head?_of_mem_layerNames {layer : ℕ} {name : List UInt8} (h : name ∈ layerNames layer) :
    name.head? = some 0x6c := by
  obtain ⟨suffix, -, rfl⟩ := List.mem_map.mp h
  rfl

theorem nodup_planNames (nLayers : ℕ) : (planNames nLayers).Nodup := by
  have hlayers : ((List.range nLayers).flatMap layerNames).Nodup := by
    rw [List.nodup_flatMap]
    refine ⟨fun layer _ => nodup_layerNames layer, List.nodup_range.imp fun {layer layer'} hne => ?_⟩
    intro name hname hname'
    obtain ⟨suffix, hs, rfl⟩ := List.mem_map.mp hname
    obtain ⟨suffix', hs', heq⟩ := List.mem_map.mp hname'
    exact hne (layer_eq_of_append hs hs' heq.symm)
  -- no layer name starts like the other three names
  have hheads : ∀ name ∈ [ascii "tok_embeddings.weight", ascii "output_norm.weight", ascii "output.weight"],
      name.head? ≠ some 0x6c := by decide
  have hother : ∀ name ∈ [ascii "tok_embeddings.weight", ascii "output_norm.weight", ascii "output.weight"],
      name ∉ (List.range nLayers).flatMap layerNames := by
    intro name hends h
    obtain ⟨layer, -, h⟩ := List.mem_flatMap.mp h
    exact hheads name hends (head?_of_mem_layerNames h)
  unfold planNames
  rw [List.nodup_cons, List.mem_append, List.nodup_append]
  refine ⟨?_, hlayers, by decide, ?_⟩
  · rintro (h | h)
    · exact hother _ (by simp) h
    · revert h
      decide
  · rintro name hname other hother' rfl
    exact hother name (List.mem_cons_of_mem _ hother') hname

/-! ### Comparing padded names -/

theorem strncmpEq_namePadded {name other : List UInt8} (hname : ∀ c ∈ name, c ≠ 0) (hother : ∀ c ∈ other, c ≠ 0)
    (hlen : name.length < modelNameSize) (hlen' : other.length < modelNameSize) :
    strncmpEq modelNameSize (namePadded name) other = true ↔ name = other := by
  unfold namePadded
  rw [strncmpEq_iff, cString_append_replicate hname, cString_of_ne_zero hother, List.take_of_length_le hlen.le,
    List.take_of_length_le hlen'.le]

end Att1.Converter
