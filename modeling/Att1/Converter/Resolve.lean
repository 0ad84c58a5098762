import Mathlib
import Att1.Converter.Model

/-!
# Att1.Converter.Resolve — the config of a source model (`resolve_att1_config`)

`PyValue` is a value of the parsed `config.json`; a float is the rational number it stands for.  An infinite or
undefined float is left out: `_resolve` raises on it.
-/

open Att1.Lib

namespace Att1.Converter

/-- A value of `config.json`.  Of a value that is no number, what `int()` and `float()` make of it, if they do. -/
inductive PyValue
  | null
  | int (value : ℤ)
  | float (value : ℚ)
  | other (toInt : Option ℤ) (toFloat : Option ℚ)

/-- `int(val)`. -/
def PyValue.toInt : PyValue → Option ℤ
  | .null => none
  | .int value => some value
  | .float value => some (Int.tdiv value.num value.den)
  | .other toInt _ => toInt

/-- `float(val)`. -/
def PyValue.toFloat : PyValue → Option ℚ
  | .null => none
  | .int value => some value
  | .float value => some value
  | .other _ toFloat => toFloat

/-- The `config.json` dict. -/
abbrev PyConfig := String → Option PyValue

/-- `_resolve`: the value of the first alias that is there, with a whole float as an int; nothing for `null`. -/
def resolve (cfg : PyConfig) (aliases : List String) : Option PyValue :=
  match aliases.findSome? cfg with
  | none => none
  | some .null => none
  | some (.float value) => if value = ⌊value⌋ then some (.int ⌊value⌋) else some (.float value)
  | some val => some val

/-- A field of `FIELD_ALIASES`, in one of the ways in which `resolve_att1_config` goes on: a negative count is left
out, as `validate_att1_config` has an error for it. -/
def resolveField (cfg : PyConfig) (aliases : List String) : Option ℕ := do
  let val ← resolve cfg aliases
  let n ← val.toInt
  guard (0 ≤ n)
  some n.toNat

/-- `DEFAULT_ROPE_THETA`. -/
def defaultRopeTheta : ℚ := 10000

/-- The `rope_theta` of `resolve_att1_config`. -/
def resolveRopeTheta (cfg : PyConfig) (ropeThetaOverride : Option ℚ) : Option ℚ :=
  match ropeThetaOverride with
  | some theta => some theta
  | none =>
    match resolve cfg ["rope_theta"] with
    | some ropeTheta => ropeTheta.toFloat
    | none => some defaultRopeTheta

/-- The `rope_dim` of `resolve_att1_config`: a fraction of the head dimension, or a number of components. -/
def resolveRopeDim (cfg : PyConfig) (headDim : ℕ) : Option ℤ :=
  match resolve cfg ["rope_dim", "partial_rotary_factor"] with
  | none => some headDim
  | some (.float factor) =>
    if factor ≤ 1 then some (max 1 ⌈headDim * factor⌉) else (PyValue.float factor).toInt
  | some ropeDimRaw => ropeDimRaw.toInt

/-- The resolved config with its `rope_theta`, which `Att1Dict` has no field for: nothing behind it reads it. -/
structure ResolvedConfig where
  att1 : Att1Dict
  ropeTheta : ℚ
  deriving DecidableEq

/-- `resolve_att1_config`; `none` where the converter exits or raises. -/
def resolveAtt1Config (cfg : PyConfig) (ropeThetaOverride : Option ℚ) : Option ResolvedConfig := do
  let vocabSize ← resolveField cfg ["vocab_size"]
  let nLayers ← resolveField cfg ["n_layers", "num_hidden_layers"]
  let nHeads ← resolveField cfg ["n_heads", "num_attention_heads"]
  let dModel ← resolveField cfg ["d_model", "hidden_size"]
  let dFf ← resolveField cfg ["d_ff", "intermediate_size"]
  let maxSeqLen ← resolveField cfg ["max_seq_len", "max_position_embeddings"]
  let nKvHeads ←
    match resolve cfg ["n_kv_heads", "num_key_value_heads"] with
    | none => some nHeads
    | some _ => resolveField cfg ["n_kv_heads", "num_key_value_heads"]
  let ropeTheta ← resolveRopeTheta cfg ropeThetaOverride
  guard (nHeads ≠ 0)
  let ropeDim ← resolveRopeDim cfg (dModel / nHeads)
  some
    { att1 :=
        { vocabSize := vocabSize
          nLayers := nLayers
          nHeads := nHeads
          nKvHeads := nKvHeads
          dModel := dModel
          dFf := dFf
          maxSeqLen := maxSeqLen
          ropeDim := ropeDim
          nTiles := 1
          shardCount := 0 }
      ropeTheta := ropeTheta }

end Att1.Converter
