import Att1.Converter.RoundTrip
import Att1.Converter.Resolve
import Att1.Converter.Runnable
import Att1.Decoder.Infer
import Att1.Lib.Rotation
import Att1.Lib.Rounding

/-!
# Att1.Decoder.Rope — the position encoding of a converted model

* `rotary`: the position encoding that a config describes, with its `rope_dim` and its `rope_theta`.
* `RotatesAsConfigured`: every decode of a model encodes positions so.
* `rotatesAsConfigured_iff`: the models of which that holds.  A decode always turns whole heads, with the frequencies of
  `rope_theta = 10000`.
-/

open Att1.Lib Att1.ModelFile Att1.Converter

namespace Att1.Decoder

/-! ### What a config describes -/

/-- The first `ropeDim` components of a head turned by the angles of a position, and the others as they are. -/
noncomputable def rotary (ropeDim position : ℕ) (theta : ℝ) (v : ℕ → ℝ) : ℕ → ℝ := fun j =>
  if j < ropeDim then rotatePairs (ropeAngle .real ropeDim position theta) v j else v j

/-- All heads of a query or a key, each encoded by `encode`. -/
def mapHeads (config : AttentionConfig ℝ) (encode : (ℕ → ℝ) → ℕ → ℝ) (values : ℕ → ℝ) : ℕ → ℝ :=
  array (config.numHeads * config.headDim) fun i =>
    encode (fun d => values (i / config.headDim * config.headDim + d)) (i % config.headDim)

/-- Every decode of the model encodes the position in its queries and keys as described. -/
def RotatesAsConfigured (host : Host) (m : Model) (ropeDim : ℕ) (theta : ℝ) : Prop :=
  ∀ infer : Infer ℝ, infer.model = m → infer.position < m.config.maxSeqLen → ∀ query key,
    attentionApplyRope (infer.weights.ops host .real) query key (blockConfig m.config).attention infer.position =
      some (mapHeads (blockConfig m.config).attention (rotary ropeDim infer.position theta) query,
        mapHeads (blockConfig m.config).attention (rotary ropeDim infer.position theta) key)

/-! ### What the code does -/

theorem ropeF32_real {v : ℕ → ℝ} {count position : ℕ} {theta : ℝ} (hcount : count ≠ 0) (heven : count % 2 = 0)
    (htheta : 0 < theta) : ropeF32 .real v count position theta =
      some (array count (rotatePairs (ropeAngle .real count position theta) v)) := by
  unfold ropeF32
  rw [if_neg (by rintro (h | h | h) <;> [omega; omega; exact absurd htheta (not_lt.mpr h)])]
  rfl

theorem ropeHeads_real {ops : BackendOps ℝ} {config : AttentionConfig ℝ} {position : ℕ} (values : ℕ → ℝ)
    (hops : ops.ropeF32 = ropeF32 .real) (hdim : config.headDim ≠ 0) (heven : config.headDim % 2 = 0)
    (htheta : 0 < config.ropeTheta) : ropeHeads ops values config position =
      some (mapHeads config (rotatePairs (ropeAngle .real config.headDim position config.ropeTheta)) values) := by
  unfold ropeHeads mapHeads
  rw [hops, blocksM_eq_some fun head _ => ropeF32_real hdim heven htheta]
  refine congrArg some (array_congr fun i hi => ?_)
  exact array_of_lt (mod_lt_of_lt_mul hi)

theorem ops_ropeF32 (host : Host) (weights : InferWeights ℝ) : (weights.ops host .real).ropeF32 = ropeF32 .real := by
  cases weights <;> rfl

theorem attentionApplyRope_real (host : Host) {config : AttentionConfig ℝ} (hdim : config.headDim ≠ 0)
    (heven : config.headDim % 2 = 0) (htheta : 0 < config.ropeTheta) (weights : InferWeights ℝ) (query key : ℕ → ℝ)
    (position : ℕ) : attentionApplyRope (weights.ops host .real) query key config position =
      let encode := rotatePairs (ropeAngle .real config.headDim position config.ropeTheta)
      some (mapHeads config encode query, mapHeads config encode key) := by
  have hops := ops_ropeF32 host weights
  unfold attentionApplyRope
  rw [ropeHeads_real query hops hdim heven htheta, ropeHeads_real key hops hdim heven htheta, guard, if_pos heven]
  rfl

/-! ### When the two agree -/

/-- The angle by which `rotary` turns the pair at `i`. -/
noncomputable def rotaryAngle (ropeDim position : ℕ) (theta : ℝ) (i : ℕ) : ℝ :=
  if i < ropeDim then ropeAngle .real ropeDim position theta i else 0

theorem rotary_eq {ropeDim : ℕ} (heven : ropeDim % 2 = 0) (position : ℕ) (theta : ℝ) (v : ℕ → ℝ) :
    rotary ropeDim position theta v = rotatePairs (rotaryAngle ropeDim position theta) v := by
  ext j
  unfold rotary
  by_cases hj : j < ropeDim
  · have hi : 2 * (j / 2) < ropeDim := by omega
    simp only [if_pos hj, rotatePairs, rotaryAngle, if_pos hi]
  · rw [if_neg hj, rotatePairs_of_zero]
    exact if_neg (by omega)

/-- Two encodings of the heads are the same map exactly where they agree on every component of a head. -/
theorem mapHeads_eq_iff {config : AttentionConfig ℝ} (hheads : config.numHeads ≠ 0)
    (encode encode' : (ℕ → ℝ) → ℕ → ℝ) : (∀ values, mapHeads config encode values = mapHeads config encode' values) ↔
      ∀ v, ∀ j < config.headDim, encode v j = encode' v j := by
  constructor
  · intro h v j hj
    have hlt : j < config.numHeads * config.headDim := lt_of_lt_of_le hj (Nat.le_mul_of_pos_left _ (by omega))
    have hhead : (fun d => v (0 * config.headDim + d)) = v := by
      ext d
      rw [Nat.zero_mul, Nat.zero_add]
    have happly := congrFun (h v) j
    rwa [mapHeads, mapHeads, array_of_lt hlt, array_of_lt hlt, Nat.div_eq_of_lt hj, Nat.mod_eq_of_lt hj, hhead]
      at happly
  · intro h values
    exact array_congr fun i hi => h _ _ (mod_lt_of_lt_mul hi)

/-- The frequencies of two values of theta agree, in a head of the given size, up to whole turns. -/
def FrequenciesAgree (headDim : ℕ) (theta theta' : ℝ) : Prop :=
  ∀ i < headDim, i % 2 = 0 →
    ∃ k : ℤ, 1 / theta ^ ((i : ℝ) / headDim) - 1 / theta' ^ ((i : ℝ) / headDim) = 2 * Real.pi * k

theorem frequency_pos {theta : ℝ} (htheta : 0 < theta) (exponent : ℝ) : 0 < 1 / theta ^ exponent :=
  one_div_pos.mpr (Real.rpow_pos_of_pos htheta _)

theorem frequency_le_one {theta exponent : ℝ} (htheta : 1 ≤ theta) (hexp : 0 ≤ exponent) : 1 / theta ^ exponent ≤ 1 :=
  div_le_one_of_le₀ (Real.one_le_rpow htheta hexp) (by positivity)

/-- Less than a whole turn is a whole turn only if it is none. -/
theorem turns_eq_zero {x : ℝ} {k : ℤ} (hx : |x| ≤ 1) (h : x = 2 * Real.pi * k) : k = 0 := by
  by_contra hk
  have hk1 : (1 : ℝ) ≤ |(k : ℝ)| := by exact_mod_cast Int.one_le_abs hk
  have hpi := Real.pi_gt_three
  rw [h, abs_mul, abs_of_pos (by positivity)] at hx
  nlinarith

/-- For frequencies of at most 1, agreement is the same theta, or a head of a single pair. -/
theorem frequenciesAgree_iff {headDim : ℕ} {theta theta' : ℝ} (hdim : headDim ≠ 0) (heven : headDim % 2 = 0)
    (htheta : 1 ≤ theta) (htheta' : 1 ≤ theta') :
    FrequenciesAgree headDim theta theta' ↔ headDim = 2 ∨ theta = theta' := by
  constructor
  · intro h
    by_cases htwo : headDim = 2
    · exact .inl htwo
    · obtain ⟨k, hk⟩ := h 2 (by omega) rfl
      have hexp : (0 : ℝ) < ((2 : ℕ) : ℝ) / headDim := by positivity
      have hlt : |1 / theta ^ (((2 : ℕ) : ℝ) / headDim) - 1 / theta' ^ (((2 : ℕ) : ℝ) / headDim)| ≤ 1 := by
        have h₁ := frequency_pos (zero_lt_one.trans_le htheta) (((2 : ℕ) : ℝ) / headDim)
        have h₂ := frequency_pos (zero_lt_one.trans_le htheta') (((2 : ℕ) : ℝ) / headDim)
        have h₃ := frequency_le_one htheta hexp.le
        have h₄ := frequency_le_one htheta' hexp.le
        exact abs_le.mpr ⟨by linarith, by linarith⟩
      rw [turns_eq_zero hlt hk, Int.cast_zero, mul_zero, sub_eq_zero, one_div, one_div, inv_inj] at hk
      exact .inr ((Real.rpow_left_inj (by positivity) (by positivity) hexp.ne').mp hk)
  · rintro (rfl | rfl) i hi hi2
    · have h0 : i = 0 := by omega
      exact ⟨0, by simp [h0]⟩
    · exact ⟨0, by simp⟩

section

variable {host : Host} {m : Model} {ropeDim : ℕ} {theta : ℝ}

/-- The law, in terms of the angles by which a decode turns a pair and by which it should. -/
theorem rotatesAsConfigured_iff_angles (hheads : m.config.nHeads ≠ 0) (hdim : m.config.dModel / m.config.nHeads ≠ 0)
    (heven : m.config.dModel / m.config.nHeads % 2 = 0) (hrope : ropeDim % 2 = 0) :
    RotatesAsConfigured host m ropeDim theta ↔ ∀ position < m.config.maxSeqLen,
      ∀ i < m.config.dModel / m.config.nHeads, i % 2 = 0 → ∃ k : ℤ,
        ropeAngle .real (m.config.dModel / m.config.nHeads) position 10000 i - rotaryAngle ropeDim position theta i =
          2 * Real.pi * k := by
  have htheta : (0 : ℝ) < 10000 := by norm_num
  have hangles (position : ℕ) : (∀ values,
      mapHeads (blockConfig m.config).attention
          (rotatePairs (ropeAngle .real (m.config.dModel / m.config.nHeads) position 10000)) values =
        mapHeads (blockConfig m.config).attention (rotary ropeDim position theta) values) ↔
      ∀ i < m.config.dModel / m.config.nHeads, i % 2 = 0 → ∃ k : ℤ,
        ropeAngle .real (m.config.dModel / m.config.nHeads) position 10000 i - rotaryAngle ropeDim position theta i =
          2 * Real.pi * k := by
    rw [mapHeads_eq_iff hheads, ← rotatePairs_eq_iff heven]
    simp only [rotary_eq hrope]
    exact Iff.rfl
  constructor
  · intro h position hposition
    refine (hangles position).mp fun values => ?_
    have happly := h ⟨m, fun _ => ⟨0, 0, 0, 0, fun _ => 0, fun _ => 0⟩, fun _ => 0, fun _ => 0, fun _ => 0, fun _ => 0,
      .f32, position⟩ rfl hposition values values
    rw [attentionApplyRope_real host hdim heven htheta, Option.some.injEq, Prod.mk.injEq] at happly
    exact happly.1
  · rintro h infer - hposition query key
    have hmap := (hangles infer.position).mpr (h infer.position hposition)
    rw [attentionApplyRope_real host hdim heven htheta, Option.some.injEq, Prod.mk.injEq]
    exact ⟨hmap query, hmap key⟩

/-- **Which models encode positions as configured**: those with a single position, and those whose heads are turned as
a whole with frequencies that agree with those of 10000. -/
theorem rotatesAsConfigured_iff (hheads : m.config.nHeads ≠ 0) (hdim : m.config.dModel / m.config.nHeads ≠ 0)
    (heven : m.config.dModel / m.config.nHeads % 2 = 0) (hseq : m.config.maxSeqLen ≠ 0) (hrope : ropeDim % 2 = 0)
    (hle : ropeDim ≤ m.config.dModel / m.config.nHeads) :
    RotatesAsConfigured host m ropeDim theta ↔ m.config.maxSeqLen = 1 ∨
      ropeDim = m.config.dModel / m.config.nHeads ∧ FrequenciesAgree ropeDim 10000 theta := by
  rw [rotatesAsConfigured_iff_angles hheads hdim heven hrope]
  generalize m.config.dModel / m.config.nHeads = headDim at *
  have hangle (count position : ℕ) (t : ℝ) (i : ℕ) :
      ropeAngle .real count position t i = position * (1 / t ^ ((i : ℝ) / count)) := rfl
  constructor
  · intro h
    by_cases hone : m.config.maxSeqLen = 1
    · exact .inl hone
    · have hfirst := h 1 (by omega)
      have hdims : ropeDim = headDim := by
        by_contra hne
        -- position 1 turns the first pair that is to stay, by less than a whole turn
        obtain ⟨k, hk⟩ := hfirst ropeDim (by omega) hrope
        rw [rotaryAngle, if_neg (lt_irrefl _), sub_zero, hangle, Nat.cast_one, one_mul] at hk
        have hpos := frequency_pos (show (0 : ℝ) < 10000 by norm_num) ((ropeDim : ℝ) / headDim)
        have hle1 := frequency_le_one (show (1 : ℝ) ≤ 10000 by norm_num) (show 0 ≤ (ropeDim : ℝ) / headDim by positivity)
        rw [turns_eq_zero (abs_le.mpr ⟨by linarith, hle1⟩) hk, Int.cast_zero, mul_zero] at hk
        exact hpos.ne' hk
      subst hdims
      refine .inr ⟨rfl, fun i hi hi2 => ?_⟩
      obtain ⟨k, hk⟩ := hfirst i hi hi2
      rw [rotaryAngle, if_pos hi, hangle, hangle, Nat.cast_one, one_mul, one_mul] at hk
      exact ⟨k, hk⟩
  · rintro (hone | ⟨rfl, h⟩) position hposition i hi hi2
    · have h0 : position = 0 := by omega
      refine ⟨0, ?_⟩
      simp [h0, hangle, rotaryAngle]
    · obtain ⟨k, hk⟩ := h i hi hi2
      refine ⟨position * k, ?_⟩
      rw [rotaryAngle, if_pos hi, hangle, hangle, ← mul_sub, hk]
      push_cast
      ring

end

/-! ### Converted models -/

theorem ropeDim_of_validate {att1 : Att1Dict} (h : validateAtt1Config att1 = some []) :
    att1.ropeDim ≤ headDim att1 ∧ att1.ropeDim % 2 = 0 := by
  have hheads := (validConfig_of_validate h).nHeads
  unfold validateAtt1Config at h
  rw [if_neg hheads, Option.some.injEq] at h
  simp only [List.append_eq_nil_iff, ite_eq_right_iff, List.cons_ne_nil, imp_false, not_lt, not_not] at h
  exact ⟨h.1.1.2, h.1.2⟩

theorem configGood_of_viewValidate {format : WeightFormat} {m : Model} (h : viewValidate format m = .ok ()) :
    ¬ decoderConfigBad m.config := by
  cases format with
  | q4 => exact (rejectIf_bind_eq_ok.mp h).1
  | f32 => exact (rejectIf_bind_eq_ok.mp (rejectIf_bind_eq_ok.mp h).2).1
  | q8 => exact (rejectIf_bind_eq_ok.mp (rejectIf_bind_eq_ok.mp h).2).1

/-- The config of an emitted file that is loaded. -/
theorem loaded_config {host : Host} {att1 : Att1Dict} {tensors : List PyTensor} {emitShardMeta : Bool}
    {bytes : List UInt8} (hbuild : buildAtt1BytesFromTensors att1 tensors emitShardMeta = .ok bytes)
    (hload : (load host (some bytes)).status = .ok) : (load host (some bytes)).model.config = att1.config := by
  obtain ⟨descs, shardBlob, hb⟩ := built_of_build hbuild
  rw [(loaded_of_ok hload).config, hb.headerFields_eq]
  exact hb.parseConfig_eq

theorem ropeDim_nonneg {att1 : Att1Dict} {tensors : List PyTensor} {emitShardMeta : Bool} {bytes : List UInt8}
    (hbuild : buildAtt1BytesFromTensors att1 tensors emitShardMeta = .ok bytes) : 0 ≤ att1.ropeDim := by
  obtain ⟨descs, shardBlob, hb⟩ := built_of_build hbuild
  exact hb.ropeDim

/-- **Which converted models encode positions as their source config says.**  The file of an accepted config, in any
weight format, encodes them so exactly where it has a single position, or encodes whole heads with frequencies that
agree with those of 10000; from 1 on, that is `rope_theta = 10000` or a head of a single pair. -/
theorem converted_rope_iff {host : Host} {cfg : PyConfig} {ropeThetaOverride : Option ℚ} {resolved : ResolvedConfig}
    {att1 : Att1Dict} {nTiles shardCount : ℕ} {tensors : List PyTensor} {emitShardMeta : Bool} {bytes : List UInt8}
    {format : WeightFormat} (hresolve : resolveAtt1Config cfg ropeThetaOverride = some resolved)
    (hatt1 : att1 = { resolved.att1 with nTiles := nTiles, shardCount := shardCount })
    (hvalid : validateAtt1Config att1 = some [])
    (hbuild : buildAtt1BytesFromTensors att1 tensors emitShardMeta = .ok bytes)
    (hload : (load host (some bytes)).status = .ok)
    (hview : viewValidate format (load host (some bytes)).model = .ok ()) :
    (RotatesAsConfigured host (load host (some bytes)).model att1.ropeDim.toNat resolved.ropeTheta ↔
      att1.maxSeqLen = 1 ∨
        att1.ropeDim = headDim att1 ∧ FrequenciesAgree (headDim att1) 10000 resolved.ropeTheta) ∧
    (1 ≤ resolved.ropeTheta →
      (RotatesAsConfigured host (load host (some bytes)).model att1.ropeDim.toNat resolved.ropeTheta ↔
        att1.maxSeqLen = 1 ∨ att1.ropeDim = headDim att1 ∧ (headDim att1 = 2 ∨ resolved.ropeTheta = 10000))) := by
  have hconfig := loaded_config hbuild hload
  have hgood := configGood_of_viewValidate hview
  obtain ⟨hle, hrope⟩ := ropeDim_of_validate hvalid
  obtain ⟨n, hn⟩ := Int.eq_ofNat_of_zero_le (ropeDim_nonneg hbuild)
  have hheads := (validConfig_of_validate hvalid).nHeads
  have heven : headDim att1 % 2 = 0 := by
    by_contra hodd
    refine hgood ?_
    rw [hconfig]
    refine .inr <| .inr <| .inr <| .inr <| .inr <| .inr <| .inr ?_
    show (if att1.nHeads ≠ 0 then att1.dModel / att1.nHeads else 0) % 2 ≠ 0
    rwa [if_pos hheads]
  have hdim : headDim att1 ≠ 0 := by
    have hmod := (validConfig_of_validate hvalid).heads
    have hmodel := (validConfig_of_validate hvalid).dModel
    intro h0
    rcases (Nat.div_eq_zero_iff.mp h0) with h | h
    · exact hheads h
    · exact hmodel (by rwa [Nat.mod_eq_of_lt h] at hmod)
  have hlaw : RotatesAsConfigured host (load host (some bytes)).model att1.ropeDim.toNat resolved.ropeTheta ↔
      att1.maxSeqLen = 1 ∨
        att1.ropeDim = headDim att1 ∧ FrequenciesAgree (headDim att1) 10000 resolved.ropeTheta := by
    have h := @rotatesAsConfigured_iff host (load host (some bytes)).model n resolved.ropeTheta
    rw [hconfig, show att1.config.dModel / att1.config.nHeads = headDim att1 from rfl] at h
    rw [hn] at hle hrope ⊢
    rw [Int.toNat_natCast, h hheads hdim heven (validConfig_of_validate hvalid).maxSeqLen (by omega) (by exact_mod_cast hle)]
    refine or_congr Iff.rfl ?_
    rw [Nat.cast_inj]
    exact ⟨fun ⟨he, hf⟩ => ⟨he, he ▸ hf⟩, fun ⟨he, hf⟩ => ⟨he, he ▸ hf⟩⟩
  refine ⟨hlaw, fun htheta => hlaw.trans ?_⟩
  have hcast : (1 : ℝ) ≤ resolved.ropeTheta := by exact_mod_cast htheta
  rw [frequenciesAgree_iff hdim heven (by norm_num) hcast, eq_comm (a := (10000 : ℝ))]
  norm_cast

/-! ### A config with one head of four components and two positions -/

/-- `config.json` with the given `rope_theta`. -/
def ropeConfigJson (theta : ℚ) : PyConfig := fun key =>
  [("vocab_size", PyValue.int 1), ("n_layers", .int 1), ("n_heads", .int 1), ("d_model", .int 4), ("d_ff", .int 1),
    ("max_seq_len", .int 2), ("rope_theta", .float theta)].lookup key

/-- The `att1` dict of it. -/
def ropeAtt1 : Att1Dict := { sampleConfig 1 4 1 with maxSeqLen := 2, ropeDim := 4 }

theorem resolve_ropeConfigJson :
    resolveAtt1Config (ropeConfigJson 10000) none = some ⟨ropeAtt1, 10000⟩ ∧
      resolveAtt1Config (ropeConfigJson 1000000) none = some ⟨ropeAtt1, 1000000⟩ := by
  decide +kernel

/-- The file of it is emitted and runs. -/
theorem ropeFile_runs : ∃ tensors bytes, sampleFile ropeAtt1 .f32 false = some (tensors, bytes) ∧
    (load .generous (some bytes)).status = .ok ∧ viewValidate .f32 (load .generous (some bytes)).model = .ok () := by
  have hfile : (sampleFile ropeAtt1 .f32 false).isSome = true := by decide +kernel
  obtain ⟨⟨tensors, bytes⟩, hsome⟩ := Option.isSome_iff_exists.mp hfile
  obtain ⟨htensors, hbuild⟩ := sampleFile_eq_some hsome
  obtain ⟨descs, shardBlob, hb⟩ := built_of_build hbuild
  have hcount : tensors.length = 12 := hb.count
  have hmalloc : Host.generous.malloc bytes.length = true := Host.generous_malloc (hb.size.trans (by decide))
  refine ⟨tensors, bytes, hsome, hb.runs htensors (validConfig_of_validate (by decide)) hmalloc ?_ ?_
    ⟨by decide, fun h => by cases h⟩⟩
  · rw [hcount]
    decide
  · rw [hcount]
    decide

/-- With `rope_theta` 10000 it encodes positions as configured. -/
theorem converted_rope_default : ∃ tensors bytes, sampleFile ropeAtt1 .f32 false = some (tensors, bytes) ∧
    RotatesAsConfigured .generous (load .generous (some bytes)).model 4 (10000 : ℚ) := by
  obtain ⟨tensors, bytes, hfile, hload, hview⟩ := ropeFile_runs
  obtain ⟨-, hbuild⟩ := sampleFile_eq_some hfile
  refine ⟨tensors, bytes, hfile, ?_⟩
  exact ((converted_rope_iff resolve_ropeConfigJson.1 rfl (by decide) hbuild hload hview).2 (by norm_num)).mpr
    (.inr ⟨rfl, .inr rfl⟩)

/-- With `rope_theta` 1000000 the config is accepted and its file runs, and the second position is not encoded as
configured. -/
theorem rope_theta_lost : resolveAtt1Config (ropeConfigJson 1000000) none = some ⟨ropeAtt1, 1000000⟩ ∧
    validateAtt1Config ropeAtt1 = some [] ∧ ∃ tensors bytes, sampleFile ropeAtt1 .f32 false = some (tensors, bytes) ∧
      (load .generous (some bytes)).status = .ok ∧ viewValidate .f32 (load .generous (some bytes)).model = .ok () ∧
      ¬ RotatesAsConfigured .generous (load .generous (some bytes)).model 4 (1000000 : ℚ) := by
  obtain ⟨tensors, bytes, hfile, hload, hview⟩ := ropeFile_runs
  obtain ⟨-, hbuild⟩ := sampleFile_eq_some hfile
  refine ⟨resolve_ropeConfigJson.2, by decide, tensors, bytes, hfile, hload, hview, ?_⟩
  have h := @rotatesAsConfigured_iff .generous (load .generous (some bytes)).model 4 (1000000 : ℚ)
  rw [loaded_config hbuild hload] at h
  rw [h (by decide) (by decide) (by decide) (by decide) rfl (by decide)]
  rintro (hseq | ⟨-, hfreq⟩)
  · exact absurd hseq (by decide)
  · rw [frequenciesAgree_iff (by decide) rfl (by norm_num) (by norm_num)] at hfreq
    norm_num at hfreq

end Att1.Decoder
