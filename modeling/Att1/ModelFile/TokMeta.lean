import Att1.ModelFile.Types

/-!
# Att1.ModelFile.TokMeta — the tokenizer metadata section (`src/tok_meta.c`)

A fixed 96-byte section.  `tokMetaParse` reads its fields and checks them one after the other.
-/

open Att1.Lib

namespace Att1.ModelFile

/-- `ATT1_TOK_META_SIZE`. -/
def tokMetaSize : ℕ := 96

/-- `ATT1_TOK_META_SCHEMA_VERSION`. -/
def tokMetaSchemaVersion : ℕ := 1

/-- `ATT1_TOK_ID_ABSENT`. -/
def tokIdAbsent : ℤ := -1

/-- `tok_type_valid`: up to `ATT1_TOK_TYPE_SENTPIECE`. -/
def tokTypeValid (v : ℕ) : Bool := v ≤ 3

/-- `tok_norm_valid`: up to `ATT1_TOK_NORM_CUSTOM`. -/
def tokNormValid (v : ℕ) : Bool := v ≤ 4

/-- `tok_pretok_valid`: up to `ATT1_TOK_PRETOK_CUSTOM`. -/
def tokPretokValid (v : ℕ) : Bool := v ≤ 5

/-- `tok_hash_valid`: up to `ATT1_TOK_HASH_SHA256`. -/
def tokHashValid (v : ℕ) : Bool := v ≤ 1

/-- A `uint32_t` copied into an `int32_t`. -/
def int32OfBits (n : ℕ) : ℤ := if n < 2 ^ 31 then n else n - 2 ^ 32

/-- The test of one special token id: absent, or a token of the vocabulary. -/
def tokIdValid (vocabSize : ℕ) (id : ℤ) : Bool := id == tokIdAbsent || (0 ≤ id && id < vocabSize)

/-- The fields of the section, before any of them is checked. -/
def tokMetaFields (sectionData : List UInt8) : TokMeta where
  present := true
  schemaVersion := readU32 sectionData 0
  tokenizerType := readU32 sectionData 4
  vocabSize := readU32 sectionData 8
  bosTokenId := int32OfBits (readU32 sectionData 12)
  eosTokenId := int32OfBits (readU32 sectionData 16)
  padTokenId := int32OfBits (readU32 sectionData 20)
  unkTokenId := int32OfBits (readU32 sectionData 24)
  byteFallback := readU32 sectionData 28
  normalizationPolicy := readU32 sectionData 32
  pretokenizerPolicy := readU32 sectionData 36
  assetHashKind := readU32 sectionData 40
  flags := readU32 sectionData 44
  assetHash := slice sectionData 48 32
  assetOffset := readU64 sectionData 80
  assetSize := readU64 sectionData 88

/-- `att1_tok_meta_parse`. -/
def tokMetaParse (sectionData : List UInt8) (sectionSize modelVocab : ℕ) : Except Status TokMeta := do
  rejectIf (sectionSize ≠ tokMetaSize) .badFormat
  let tokMeta := tokMetaFields sectionData
  rejectIf (tokMeta.schemaVersion ≠ tokMetaSchemaVersion) .badFormat
  rejectIf (¬ tokTypeValid tokMeta.tokenizerType) .badFormat
  rejectIf (tokMeta.vocabSize = 0) .badFormat
  rejectIf (tokMeta.vocabSize ≠ modelVocab) .badFormat
  rejectIf (¬ [tokMeta.bosTokenId, tokMeta.eosTokenId, tokMeta.padTokenId, tokMeta.unkTokenId].all
    (tokIdValid tokMeta.vocabSize)) .badFormat
  rejectIf (1 < tokMeta.byteFallback) .badFormat
  rejectIf (¬ tokNormValid tokMeta.normalizationPolicy) .badFormat
  rejectIf (¬ tokPretokValid tokMeta.pretokenizerPolicy) .badFormat
  rejectIf (¬ tokHashValid tokMeta.assetHashKind) .badFormat
  rejectIf (tokMeta.flags ≠ 0) .badFormat
  rejectIf ((tokMeta.assetOffset == 0) ≠ (tokMeta.assetSize == 0)) .badFormat
  .ok tokMeta

end Att1.ModelFile
