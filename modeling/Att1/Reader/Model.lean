import Mathlib.Data.List.DropRight
import Att1.Lib.Table
import Att1.ModelFile.Loader
import Att1.ModelFile.Quant

/-!
# Att1.Reader.Model — the Python reader of model files (`compiler/read_att1.py`)

* `readAtt1Model data`: `read_att1_model` on the bytes of a file.
* `Att1Model.findTensor`: the lookup by name, through a dict that is filled in file order.
* `Att1Tensor.dequantize`: the matrix of a q8 or q4 tensor, or `none` where Python raises.

A Python string is the list of its code points.  The constants have the values of the C header.
-/

open Att1.Lib Att1.ModelFile

namespace Att1.Reader

/-! ### Data -/

/-- `Att1ReadError`, one constructor for each place that raises it while the file is read. -/
inductive Att1ReadError
  | fileTooSmallForHeader
  | badMagic
  | v1HeaderSize (got : ℕ)
  | v2HeaderSize (got : ℕ)
  | fileTooSmallForV2Header
  | unsupportedVersion (version : ℕ)
  | configSize (got : ℕ)
  | configOutOfRange
  | descriptorsOutOfRange
  | dataOutOfRange
  | invalidNdims (tensor ndims : ℕ)
  | tensorOutOfRange (name : List ℕ) (offset nbytes dataSize : ℕ)
  deriving DecidableEq, Repr

/-- `Att1Tensor`. -/
structure Att1Tensor where
  name : List ℕ
  dtype : ℕ
  ndims : ℕ
  shape : List ℕ
  raw : List UInt8
  flags : ℕ
  deriving DecidableEq, Repr

/-- `Att1Model`; the config has the fields of the C struct. -/
structure Att1Model where
  version : ℕ
  config : ModelConfig
  tensors : List Att1Tensor
  deriving DecidableEq, Repr

/-! ### The reader -/

/-- `bytes.decode("ascii", errors="replace")`. -/
def decodeAscii (bytes : List UInt8) : List ℕ := bytes.map fun b => if b.toNat < 128 then b.toNat else 0xFFFD

/-- `bytes.rstrip(b"\x00")`. -/
def rstripNul (bytes : List UInt8) : List UInt8 := bytes.rdropWhile fun b => b = 0

/-- The version test. -/
def checkVersion (data : List UInt8) : Except Att1ReadError Unit :=
  let version := readU32 data 8
  let headerSize := readU32 data 12
  if version = 1 then
    rejectIf (headerSize ≠ modelHeaderSize) (.v1HeaderSize headerSize)
  else if version = 2 then do
    rejectIf (headerSize ≠ modelHeaderSizeV2) (.v2HeaderSize headerSize)
    rejectIf (data.length < modelHeaderSizeV2) .fileTooSmallForV2Header
  else .error (.unsupportedVersion version)

/-- The config block at `p`. -/
def configAt (data : List UInt8) (p : ℕ) : ModelConfig where
  vocabSize := readU32 data p
  nLayers := readU32 data (p + 4)
  nHeads := readU32 data (p + 8)
  dModel := readU32 data (p + 12)
  dFf := readU32 data (p + 16)
  maxSeqLen := readU32 data (p + 20)
  ropeDim := readU32 data (p + 24)
  nTiles := readU32 data (p + 28)
  shardCount := readU32 data (p + 32)

/-- The tensor of the descriptor at `dp`; the flags are taken from byte 120 of the descriptor. -/
def tensorAt (data : List UInt8) (dataOffset dp : ℕ) : Att1Tensor where
  name := decodeAscii (rstripNul (slice data dp modelNameSize))
  dtype := readU32 data (dp + 64)
  ndims := readU32 data (dp + 68)
  shape := (List.range (readU32 data (dp + 68))).map fun j => readU64 data (dp + 72 + j * 8)
  raw := slice data (dataOffset + readU64 data (dp + 104)) (readU64 data (dp + 112))
  flags := readU32 data (dp + 120)

/-- One turn of the descriptor loop. -/
def readTensor (data : List UInt8) (descOffset dataOffset dataSize i : ℕ) : Except Att1ReadError Att1Tensor := do
  let dp := descOffset + i * modelTensorDescSize
  let tensor := tensorAt data dataOffset dp
  let tOffset := readU64 data (dp + 104)
  let tNbytes := readU64 data (dp + 112)
  rejectIf (tensor.ndims = 0 ∨ modelMaxDims < tensor.ndims) (.invalidNdims i tensor.ndims)
  rejectIf (dataSize < tOffset + tNbytes) (.tensorOutOfRange tensor.name tOffset tNbytes dataSize)
  .ok tensor

/-- `read_att1_model`. -/
def readAtt1Model (data : List UInt8) : Except Att1ReadError Att1Model := do
  let fileSize := data.length
  rejectIf (fileSize < modelHeaderSize) .fileTooSmallForHeader
  rejectIf (slice data 0 8 ≠ modelMagic) .badMagic
  checkVersion data
  let configOffset := readU64 data 16
  let configSize := readU64 data 24
  let descOffset := readU64 data 32
  let tensorCount := readU64 data 40
  let dataOffset := readU64 data 48
  let dataSize := readU64 data 56
  rejectIf (configSize ≠ modelConfigSize) (.configSize configSize)
  rejectIf (fileSize < configOffset + configSize) .configOutOfRange
  let cfg := configAt data configOffset
  rejectIf (fileSize < descOffset + tensorCount * modelTensorDescSize) .descriptorsOutOfRange
  rejectIf (fileSize < dataOffset + dataSize) .dataOutOfRange
  let tensors ← (List.range tensorCount).mapM (readTensor data descOffset dataOffset dataSize)
  .ok ⟨readU32 data 8, cfg, tensors⟩

/-- `Att1Model.find_tensor`: the dict holds the last tensor with each name. -/
def Att1Model.findTensor (m : Att1Model) (name : List ℕ) : Option Att1Tensor :=
  lastMatch (fun t => t.name = name) m.tensors

/-! ### Dequantization -/

namespace Att1Tensor

variable {F : Type} (t : Att1Tensor)

/-- `q4_group_size`. -/
def q4GroupSize : ℕ := if 0 < t.flags &&& 0xFF then t.flags &&& 0xFF else q4GroupSizeDefault

/-- `_dequantize_q8`; `struct.unpack` needs exactly as many bytes as its format. -/
def dequantizeQ8 (scaled : ℤ → List UInt8 → F) : Option (List F) := do
  let rows ← t.shape[0]?
  let cols ← t.shape[1]?
  guard ((t.raw.take (rows * cols)).length = rows * cols)
  guard ((slice t.raw (rows * cols) (rows * 4)).length = rows * 4)
  some (matrixOf rows cols fun row col =>
    scaled (int8Value (t.raw.getD (row * cols + col) 0)) (slice t.raw (rows * cols + row * 4) 4))

/-- The sign extension of a nibble. -/
def signExtend (nibble : ℕ) : ℤ := if 8 ≤ nibble then (nibble : ℤ) - 16 else nibble

/-- `_dequantize_q4`; `struct.unpack_from` needs at least as many bytes as its format. -/
def dequantizeQ4 (scaled : ℤ → List UInt8 → F) : Option (List F) := do
  let rows ← t.shape[0]?
  let cols ← t.shape[1]?
  let groupSize := t.q4GroupSize
  guard (cols % groupSize = 0)
  let nGroupsPerRow := cols / groupSize
  let packedBytes := rows * cols / 2
  let nScales := rows * nGroupsPerRow
  guard (packedBytes ≤ t.raw.length)
  guard (packedBytes + nScales * 4 ≤ t.raw.length)
  some (matrixOf rows cols fun row col =>
    let byteVal := (t.raw.getD ((row * cols + col) / 2) 0).toNat
    let nibble := if (row * cols + col) % 2 = 0 then byteVal &&& 0x0F else (byteVal >>> 4) &&& 0x0F
    let groupIdx := row * nGroupsPerRow + col / groupSize
    scaled (signExtend nibble) (slice t.raw (packedBytes + groupIdx * 4) 4))

/-- `dequantize`. -/
def dequantize (scaled : ℤ → List UInt8 → F) : Option (List F) :=
  if t.dtype = dtypeQ8 then t.dequantizeQ8 scaled
  else if t.dtype = dtypeQ4 then t.dequantizeQ4 scaled
  else none

end Att1Tensor

end Att1.Reader
