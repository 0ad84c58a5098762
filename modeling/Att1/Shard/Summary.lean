import Mathlib.Data.Finset.Card
import Mathlib.Data.Set.Card
import Mathlib.Data.List.Induction
import Att1.Lib.Digits
import Att1.Lib.Table
import Att1.Shard.Plan

/-!
# Att1.Shard.Summary — what the metadata plan says of the records

* `LayerNumber`: a name has the form `layers.N.suffix`, with `N` as it stands; `parseLayerId_eq_some`: the parser reads
  `N` in 32 bits.
* `Scanned`: pass 1 holds of every layer the tiles that its records name, in order.
* `Summarizes`: one entry for each layer with an assigned record, with the tile of the first; and the counts.
* `metaPlanBuild_summarizes_iff`: the plan summarizes the records unless a layer number wraps to one of the model.
-/

open Att1.Lib Att1.ModelFile

namespace Att1

/-! ### The layer in a name -/

/-- The name has the form `layers.N.suffix`, where `N` stands for `n`. -/
def LayerNumber (name : List UInt8) (n : ℕ) : Prop :=
  ∃ digits suffix, IsNumeral digits ∧ name = ascii "layers." ++ (digits ++ 0x2e :: suffix) ∧ digitsValue digits = n

theorem drop_layers (rest : List UInt8) : (ascii "layers." ++ rest).drop 7 = rest :=
  @List.drop_left _ (ascii "layers.") rest

section Name

variable {name : List UInt8} {n : ℕ}

/-- The number can be read off the name. -/
theorem layerNumber_iff : LayerNumber name n ↔ ascii "layers." <+: name ∧
    (name.drop 7).takeWhile isDigit ≠ [] ∧ ((name.drop 7).dropWhile isDigit).head? = some 0x2e ∧
      digitsValue ((name.drop 7).takeWhile isDigit) = n := by
  constructor
  · rintro ⟨digits, suffix, hdigits, rfl, hvalue⟩
    obtain ⟨htake, hrest⟩ := @takeWhile_isDigit_append digits (0x2e :: suffix) hdigits.digits (by
      rintro c hc
      cases hc
      rfl)
    rw [drop_layers, htake, hrest]
    exact ⟨List.prefix_append _ _, hdigits.ne_nil, rfl, hvalue⟩
  · rintro ⟨⟨rest, rfl⟩, hne, hhead, hvalue⟩
    rw [drop_layers] at hne hhead hvalue
    obtain ⟨suffix, hsuffix⟩ := List.head?_eq_some_iff.mp hhead
    refine ⟨_, suffix, ⟨hne, fun c hc => List.mem_takeWhile_imp hc⟩, ?_, hvalue⟩
    rw [← hsuffix, List.takeWhile_append_dropWhile]

theorem LayerNumber.unique {m : ℕ} (h : LayerNumber name n) (h' : LayerNumber name m) : n = m := by
  obtain ⟨-, -, -, hn⟩ := layerNumber_iff.mp h
  obtain ⟨-, -, -, hm⟩ := layerNumber_iff.mp h'
  rw [← hn, ← hm]

/-- The digits loop reads the leading digits, in 32 bits. -/
theorem parseDigits_eq (cs : List UInt8) (value : ℕ) :
    parseDigits cs (uint32 value) = (uint32 (digitsFrom value (cs.takeWhile isDigit)), cs.dropWhile isDigit) := by
  induction cs generalizing value with
  | nil => rfl
  | cons c cs ih =>
    by_cases hc : 48 ≤ c.toNat ∧ c.toNat ≤ 57
    · have hdigit : isDigit c = true := isDigit_iff.mpr hc
      have hnext : uint32 (uint32 (uint32 value * 10) + (c.toNat - 48)) = uint32 (value * 10 + (c.toNat - 48)) := by
        unfold uint32
        omega
      rw [parseDigits, if_pos hc, hnext, ih, List.takeWhile_cons_of_pos hdigit, List.dropWhile_cons_of_pos hdigit]
      rfl
    · have hdigit : ¬ isDigit c = true := mt isDigit_iff.mp hc
      rw [parseDigits, if_neg hc, List.takeWhile_cons_of_neg hdigit, List.dropWhile_cons_of_neg hdigit]
      rfl

/-- **What `parse_layer_id` accepts**: names of the form `layers.N.suffix`, with `N` in 32 bits. -/
theorem parseLayerId_eq_some {layer : ℕ} :
    parseLayerId name = some layer ↔ ∃ n, LayerNumber name n ∧ layer = uint32 n := by
  have hread := parseDigits_eq (name.drop 7) 0
  have hzero : uint32 0 = 0 := rfl
  rw [hzero] at hread
  simp only [layerNumber_iff]
  unfold parseLayerId
  by_cases hstart : (ascii "layers.").isPrefixOf name = true
  · rw [if_neg (not_not.mpr hstart)]
    rw [List.isPrefixOf_iff_prefix] at hstart
    dsimp only
    cases hrest : name.drop 7 with
    | nil => simp
    | cons c cs =>
      rw [hrest] at hread
      by_cases hc : 48 ≤ c.toNat ∧ c.toNat ≤ 57
      · have hne : (c :: cs).takeWhile isDigit ≠ [] := by
          rw [List.takeWhile_cons_of_pos (isDigit_iff.mpr hc)]
          exact List.cons_ne_nil _ _
        dsimp only
        rw [if_neg (not_not.mpr hc), hread]
        by_cases hdot : ((c :: cs).dropWhile isDigit).head? = some 0x2e
        · rw [if_pos hdot, Option.some.injEq]
          exact ⟨fun h => ⟨_, ⟨hstart, hne, hdot, rfl⟩, h.symm⟩, fun ⟨_, ⟨_, _, _, hn⟩, h⟩ => by rw [h, ← hn]; rfl⟩
        · rw [if_neg hdot]
          exact iff_of_false (by simp) fun ⟨_, ⟨_, _, h, _⟩, _⟩ => hdot h
      · have hnil : (c :: cs).takeWhile isDigit = [] := List.takeWhile_cons_of_neg (mt isDigit_iff.mp hc)
        dsimp only
        rw [if_pos hc]
        exact iff_of_false (by simp) fun ⟨_, ⟨_, h, _⟩, _⟩ => h hnil
  · rw [if_pos hstart]
    rw [List.isPrefixOf_iff_prefix] at hstart
    exact iff_of_false (by simp) fun ⟨_, ⟨h, _⟩, _⟩ => hstart h

end Name

/-! ### Pass 1 -/

section Scan

variable {model : Model} {record : ShardMetaRecord} {records : List ShardMetaRecord} {scan : MetaScan} {layer n : ℕ}

/-- The record is about a tensor whose name has the layer number `n`. -/
def NamesLayer (model : Model) (record : ShardMetaRecord) (n : ℕ) : Prop :=
  ∃ tensor, model.tensors[record.tensorId]? = some tensor ∧ LayerNumber (cString tensor.name) n

theorem NamesLayer.unique {m : ℕ} (h : NamesLayer model record n) (h' : NamesLayer model record m) : n = m := by
  obtain ⟨tensor, htensor, hn⟩ := h
  obtain ⟨tensor', htensor', hm⟩ := h'
  rw [htensor, Option.some.injEq] at htensor'
  exact hn.unique (htensor' ▸ hm)

/-- A record is about the layer that its name wraps to. -/
theorem recordLayer_eq_some (htensors : model.tensors.length ≤ uint32Max) : recordLayer model record = some layer ↔
    layer < model.config.nLayers ∧ ∃ n, NamesLayer model record n ∧ layer = uint32 n := by
  unfold recordLayer NamesLayer
  rw [uint32_eq htensors]
  by_cases hid : model.tensors.length ≤ record.tensorId
  · rw [if_pos hid, List.getElem?_eq_none hid]
    simp
  · rw [if_neg hid]
    cases htensor : model.tensors[record.tensorId]? with
    | none => simp
    | some tensor =>
      have hnames (n : ℕ) : (∃ t, some tensor = some t ∧ LayerNumber (cString t.name) n) ↔
          LayerNumber (cString tensor.name) n :=
        ⟨fun ⟨t, ht, hn⟩ => Option.some.inj ht ▸ hn, fun hn => ⟨tensor, rfl, hn⟩⟩
      simp only [hnames, ← parseLayerId_eq_some]
      cases hparse : parseLayerId (cString tensor.name) with
      | none => simp
      | some parsed =>
        by_cases hlt : model.config.nLayers ≤ parsed
        · simp only [if_pos hlt, Option.some.injEq]
          exact iff_of_false (by simp) fun h => by omega
        · simp only [if_neg hlt, Option.some.injEq]
          exact ⟨fun h => ⟨by omega, h⟩, fun h => h.2⟩

/-- The tile that a record assigns to a layer. -/
def assignedTile (model : Model) (layer : ℕ) (record : ShardMetaRecord) : Option ℕ :=
  if recordLayer model record = some layer ∧ record.tileId ≠ shardTileUnassigned then some record.tileId else none

/-- The tiles that records assign to a layer, in order. -/
def assignedTiles (model : Model) (records : List ShardMetaRecord) (layer : ℕ) : List ℕ :=
  records.filterMap (assignedTile model layer)

theorem assignedTiles_append :
    assignedTiles model (records ++ [record]) layer =
      assignedTiles model records layer ++ (assignedTile model layer record).toList := by
  unfold assignedTiles
  rw [List.filterMap_append]
  congr 1

/-- The slot of a layer with the given tiles. -/
def slotOf : List ℕ → LayerSlot
  | [] => {}
  | tile :: tiles => ⟨true, tile, tiles.any fun other => other ≠ tile⟩

/-- What one more tile does to a slot. -/
theorem slotOf_append (tiles : List ℕ) (tile : ℕ) : slotOf (tiles ++ [tile]) =
    if (slotOf tiles).seen = false then { slotOf tiles with seen := true, tileId := tile }
    else if (slotOf tiles).tileId ≠ tile ∧ (slotOf tiles).conflict = false then { slotOf tiles with conflict := true }
    else slotOf tiles := by
  cases tiles with
  | nil => rfl
  | cons first tiles =>
    have hany : (tiles ++ [tile]).any (fun other => other ≠ first) =
        (tiles.any (fun other => other ≠ first) || decide (tile ≠ first)) := by simp
    show LayerSlot.mk true first ((tiles ++ [tile]).any fun other => other ≠ first) = _
    rw [hany, if_neg (show ¬ (slotOf (first :: tiles)).seen = false from Bool.noConfusion)]
    show _ = if first ≠ tile ∧ (tiles.any fun other => other ≠ first) = false then _ else _
    rcases eq_or_ne tile first with rfl | hne
    · rw [if_neg (by simp)]
      simp [slotOf]
    · cases hconflict : tiles.any fun other => other ≠ first with
      | true => simpa [slotOf] using hconflict
      | false => simp [slotOf, hne, hne.symm]

/-- The layers of the model with a conflict. -/
def conflicted (model : Model) (records : List ShardMetaRecord) : Finset ℕ :=
  (Finset.range model.config.nLayers).filter fun layer => (slotOf (assignedTiles model records layer)).conflict = true

/-- What pass 1 holds when it has seen the given records. -/
structure Scanned (model : Model) (records : List ShardMetaRecord) (scan : MetaScan) : Prop where
  slots : ∀ layer, scan.slots layer = slotOf (assignedTiles model records layer)
  extra : scan.extra = uint32 (records.countP fun record => (recordLayer model record).isNone)
  conflict : scan.conflict = uint32 (conflicted model records).card

/-- A record is about a layer of the model. -/
theorem recordLayer_lt (h : recordLayer model record = some layer) : layer < model.config.nLayers := by
  unfold recordLayer at h
  split_ifs at h
  split at h
  · cases h
  · split at h
    · cases h
    · split_ifs at h with hlt
      cases h
      omega

/-- A record that assigns no tile leaves the slots as they are. -/
theorem Scanned.skip (h : Scanned model records scan) (hnone : ∀ layer, assignedTile model layer record = none)
    {extra : ℕ} (hextra : extra = uint32 ((records ++ [record]).countP fun record => (recordLayer model record).isNone)) :
    Scanned model (records ++ [record]) { scan with extra := extra } := by
  have htiles (layer : ℕ) : assignedTiles model (records ++ [record]) layer = assignedTiles model records layer := by
    rw [assignedTiles_append, hnone layer]
    exact List.append_nil _
  refine ⟨fun layer => ?_, hextra, ?_⟩
  · rw [htiles]
    exact h.slots layer
  · unfold conflicted
    simp only [htiles]
    exact h.conflict

theorem Scanned.step (h : Scanned model records scan) :
    Scanned model (records ++ [record]) (scan.step model record) := by
  unfold MetaScan.step
  cases hlayer : recordLayer model record with
  | none =>
    refine h.skip (fun layer => by simp [assignedTile, hlayer]) ?_
    rw [List.countP_append, h.extra]
    simp only [List.countP_singleton, hlayer, Option.isNone_none, if_true]
    unfold uint32
    omega
  | some layer =>
    have hextra : scan.extra =
        uint32 ((records ++ [record]).countP fun record => (recordLayer model record).isNone) := by
      rw [List.countP_append, List.countP_singleton, hlayer]
      exact h.extra
    dsimp only
    by_cases hassigned : record.tileId = shardTileUnassigned
    · rw [if_pos hassigned]
      exact h.skip (fun layer => by simp [assignedTile, hassigned]) hextra
    · rw [if_neg hassigned]
      have hself : assignedTiles model (records ++ [record]) layer =
          assignedTiles model records layer ++ [record.tileId] := by
        rw [assignedTiles_append, assignedTile, if_pos ⟨hlayer, hassigned⟩]
        rfl
      have hother (l : ℕ) (hne : l ≠ layer) :
          assignedTiles model (records ++ [record]) l = assignedTiles model records l := by
        have hnone : assignedTile model l record = none :=
          if_neg fun hl => hne (Option.some.inj (hl.1.symm.trans hlayer))
        rw [assignedTiles_append, hnone]
        exact List.append_nil _
      -- the slot of the layer is the one with the new tile, and the others stay
      have hslots (slot : LayerSlot) (hslot : slot = slotOf (assignedTiles model (records ++ [record]) layer)) (l : ℕ) :
          Function.update scan.slots layer slot l = slotOf (assignedTiles model (records ++ [record]) l) := by
        rcases eq_or_ne l layer with rfl | hne
        · rw [Function.update_self, hslot]
        · rw [Function.update_of_ne hne, hother l hne]
          exact h.slots l
      have hkeep (hslot : slotOf (assignedTiles model (records ++ [record]) layer) =
          slotOf (assignedTiles model records layer)) (l : ℕ) :
          scan.slots l = slotOf (assignedTiles model (records ++ [record]) l) := by
        rcases eq_or_ne l layer with rfl | hne
        · rw [hslot]
          exact h.slots l
        · rw [hother l hne]
          exact h.slots l
      have hcount (hsame : (slotOf (assignedTiles model (records ++ [record]) layer)).conflict =
          (slotOf (assignedTiles model records layer)).conflict) :
          conflicted model (records ++ [record]) = conflicted model records := by
        refine Finset.filter_congr fun l _ => ?_
        rcases eq_or_ne l layer with rfl | hne
        · rw [hsame]
        · rw [hother l hne]
      have happend := slotOf_append (assignedTiles model records layer) record.tileId
      rw [← hself] at happend
      rw [h.slots layer]
      split_ifs at happend ⊢ with hseen hconflict
      · refine ⟨hslots _ happend.symm, hextra, ?_⟩
        rw [hcount (by rw [happend])]
        exact h.conflict
      · refine ⟨hslots _ happend.symm, hextra, ?_⟩
        have hinsert : conflicted model (records ++ [record]) = insert layer (conflicted model records) := by
          ext l
          unfold conflicted
          rw [Finset.mem_insert, Finset.mem_filter, Finset.mem_filter, Finset.mem_range]
          rcases eq_or_ne l layer with rfl | hne
          · rw [happend]
            exact iff_of_true ⟨recordLayer_lt hlayer, rfl⟩ (.inl rfl)
          · rw [hother l hne]
            simp [hne]
        have hnew : layer ∉ conflicted model records := by
          unfold conflicted
          simp [hconflict.2]
        show uint32 (scan.conflict + 1) = _
        rw [hinsert, Finset.card_insert_of_notMem hnew, h.conflict]
        unfold uint32
        omega
      · refine ⟨hkeep happend, hextra, ?_⟩
        rw [hcount (by rw [happend])]
        exact h.conflict

/-- **Pass 1.** -/
theorem scanned_foldl (model : Model) (records : List ShardMetaRecord) :
    Scanned model records (records.foldl (MetaScan.step model) {}) := by
  induction records using List.reverseRecOn with
  | nil => exact ⟨fun _ => rfl, rfl, by simp [conflicted, assignedTiles, slotOf, uint32]⟩
  | append_singleton records record ih =>
    rw [List.foldl_append, List.foldl_cons, List.foldl_nil]
    exact ih.step

end Scan

/-! ### The plan -/

/-- The entries of the layers with a tile. -/
def planEntries (model : Model) : List MetaPlanEntry :=
  ((List.range model.config.nLayers).filter fun layer => (slotOf (assignedTiles model model.shardMeta layer)).seen).map
    fun layer => ⟨layer, (slotOf (assignedTiles model model.shardMeta layer)).tileId⟩

theorem metaPlanBuild_eq_ok {host : Host} {model : Model} (hlayers : model.config.nLayers ≠ 0)
    (hrecords : model.shardMeta ≠ []) (hlen : model.shardMeta.length ≤ uint32Max)
    (hcalloc : host.calloc model.config.nLayers 12 = true)
    (hcalloc' : (planEntries model).length ≠ 0 → host.calloc (planEntries model).length metaPlanEntrySize = true) :
    metaPlanBuild host model = .ok ⟨planEntries model,
      uint32 (model.shardMeta.countP fun record => (recordLayer model record).isNone),
      uint32 (conflicted model model.shardMeta).card⟩ := by
  have hscan := scanned_foldl model model.shardMeta
  have hentries : (((List.range model.config.nLayers).filter fun layer =>
      ((model.shardMeta.foldl (MetaScan.step model) {}).slots layer).seen).map fun layer =>
        (⟨layer, ((model.shardMeta.foldl (MetaScan.step model) {}).slots layer).tileId⟩ : MetaPlanEntry)) =
      planEntries model := by
    simp only [hscan.slots]
    rfl
  have hne : ¬ (model.shardMeta.length = 0 ∨ model.config.nLayers = 0) :=
    not_or.mpr ⟨fun h => hrecords (List.length_eq_zero_iff.mp h), hlayers⟩
  unfold metaPlanBuild
  dsimp only
  rw [if_neg hne, if_neg (by simp [hcalloc]), uint32_eq hlen, List.take_length, hentries,
    if_neg fun h => h.2 (hcalloc' h.1), hscan.extra, hscan.conflict]

/-- Records that agree on the owner of every layer make a proposal that names these owners. -/
theorem metaPlanBuild_eq {host : Host} {model : Model} {owner : ℕ → ℕ} (hlayers : 0 < model.config.nLayers)
    (hlen : model.shardMeta.length ≤ uint32Max)
    (hr : ∀ record ∈ model.shardMeta, ∀ layer, recordLayer model record = some layer →
      record.tileId = owner layer ∧ owner layer ≠ shardTileUnassigned)
    (hall : ∀ layer < model.config.nLayers, ∃ record ∈ model.shardMeta, recordLayer model record = some layer)
    (hcalloc : host.calloc model.config.nLayers 12 = true)
    (hcalloc' : host.calloc model.config.nLayers metaPlanEntrySize = true) :
    ∃ proposed, metaPlanBuild host model = .ok proposed ∧
      proposed.entries = (List.range model.config.nLayers).map (ownerEntry owner) ∧ proposed.conflict = 0 := by
  have hslot (layer : ℕ) (hlayer : layer < model.config.nLayers) :
      slotOf (assignedTiles model model.shardMeta layer) = ⟨true, owner layer, false⟩ := by
    have hsame : ∀ tile ∈ assignedTiles model model.shardMeta layer, tile = owner layer := by
      intro tile htile
      obtain ⟨record, hrecord, heq⟩ := List.mem_filterMap.mp htile
      unfold assignedTile at heq
      split_ifs at heq with h
      cases heq
      exact (hr record hrecord layer h.1).1
    obtain ⟨record, hrecord, heq⟩ := hall layer hlayer
    obtain ⟨htile, hassigned⟩ := hr record hrecord layer heq
    have hmem : record.tileId ∈ assignedTiles model model.shardMeta layer :=
      List.mem_filterMap.mpr ⟨record, hrecord, if_pos ⟨heq, htile ▸ hassigned⟩⟩
    cases htiles : assignedTiles model model.shardMeta layer with
    | nil => simp [htiles] at hmem
    | cons tile tiles =>
      rw [htiles] at hsame
      obtain ⟨rfl, hrest⟩ := List.forall_mem_cons.mp hsame
      have hnone : (tiles.any fun other => other ≠ owner layer) = false := by simpa using hrest
      show LayerSlot.mk true (owner layer) _ = _
      rw [hnone]
  have hentries : planEntries model = (List.range model.config.nLayers).map (ownerEntry owner) := by
    unfold planEntries
    rw [List.filter_eq_self.mpr fun layer hlayer => by rw [hslot layer (List.mem_range.mp hlayer)]]
    exact List.map_congr_left fun layer hlayer => by rw [hslot layer (List.mem_range.mp hlayer)]; rfl
  have hconflict : conflicted model model.shardMeta = ∅ :=
    Finset.filter_eq_empty_iff.mpr fun layer hlayer => by simp [hslot layer (Finset.mem_range.mp hlayer)]
  have hrecords : model.shardMeta ≠ [] := by
    obtain ⟨record, hrecord, -⟩ := hall 0 hlayers
    exact List.ne_nil_of_mem hrecord
  refine ⟨_, metaPlanBuild_eq_ok hlayers.ne' hrecords hlen hcalloc (by simp [hentries, hcalloc']), hentries, ?_⟩
  show uint32 (conflicted model model.shardMeta).card = 0
  rw [hconflict]
  rfl

/-! ### The summary -/

/-- The record assigns a tile to layer `n`. -/
def Places (model : Model) (record : ShardMetaRecord) (n : ℕ) : Prop :=
  NamesLayer model record n ∧ record.tileId ≠ shardTileUnassigned

/-- The first record that assigns a tile to layer `n` assigns this one. -/
def FirstTile (model : Model) (n tile : ℕ) : Prop :=
  ∃ before record after, model.shardMeta = before ++ record :: after ∧ (∀ other ∈ before, ¬ Places model other n) ∧
    Places model record n ∧ record.tileId = tile

/-- The record names a layer of the model. -/
def NamesOwnLayer (model : Model) (record : ShardMetaRecord) : Prop :=
  ∃ n < model.config.nLayers, NamesLayer model record n

open Classical in
/-- The plan says of the records what it should. -/
structure Summarizes (plan : MetaPlan) (model : Model) : Prop where
  sorted : plan.entries.Pairwise fun entry entry' => entry.layerId < entry'.layerId
  mem_iff : ∀ layer tile, ⟨layer, tile⟩ ∈ plan.entries ↔ layer < model.config.nLayers ∧ FirstTile model layer tile
  conflict_eq : plan.conflict = {layer | layer < model.config.nLayers ∧ ∃ record ∈ model.shardMeta,
    ∃ record' ∈ model.shardMeta, Places model record layer ∧ Places model record' layer ∧
      record.tileId ≠ record'.tileId}.ncard
  extra_eq : plan.extra = model.shardMeta.countP fun record => ¬ NamesOwnLayer model record

/-- No record names a layer behind those of the model whose number wraps to one of them. -/
def NoWrap (model : Model) : Prop :=
  ∀ record ∈ model.shardMeta, ∀ n, NamesLayer model record n → uint32 n < model.config.nLayers → n < model.config.nLayers

section Summary

variable {model : Model} {record : ShardMetaRecord} {layer tile : ℕ}

theorem recordLayer_iff (htensors : model.tensors.length ≤ uint32Max) (hlayers : model.config.nLayers ≤ uint32Max)
    (hwrap : NoWrap model) (hrecord : record ∈ model.shardMeta) :
    recordLayer model record = some layer ↔ layer < model.config.nLayers ∧ NamesLayer model record layer := by
  rw [recordLayer_eq_some htensors]
  refine and_congr_right fun hlt => ⟨?_, fun h => ⟨layer, h, (uint32_eq (by omega)).symm⟩⟩
  rintro ⟨n, hn, rfl⟩
  have hown := hwrap record hrecord n hn hlt
  rwa [uint32_eq (by omega)]

theorem assignedTile_eq_some (htensors : model.tensors.length ≤ uint32Max) (hlayers : model.config.nLayers ≤ uint32Max)
    (hwrap : NoWrap model) (hrecord : record ∈ model.shardMeta) (hlayer : layer < model.config.nLayers) :
    assignedTile model layer record = some tile ↔ Places model record layer ∧ record.tileId = tile := by
  unfold assignedTile Places
  rw [Option.ite_none_right_eq_some, recordLayer_iff htensors hlayers hwrap hrecord, and_iff_right hlayer,
    Option.some.injEq]

/-- The first tile of a layer is that of the first record that assigns one. -/
theorem firstTile_iff (htensors : model.tensors.length ≤ uint32Max) (hlayers : model.config.nLayers ≤ uint32Max)
    (hwrap : NoWrap model) (hlayer : layer < model.config.nLayers) :
    FirstTile model layer tile ↔ ∃ tiles, assignedTiles model model.shardMeta layer = tile :: tiles := by
  have hiff {r : ShardMetaRecord} {t : ℕ} (hr : r ∈ model.shardMeta) :=
    @assignedTile_eq_some model r layer t htensors hlayers hwrap hr hlayer
  unfold FirstTile assignedTiles
  simp only [List.filterMap_eq_cons_iff]
  constructor
  · rintro ⟨before, record, after, hsplit, hbefore, hplaces, htile⟩
    refine ⟨_, before, record, after, hsplit, fun other hother => ?_, (hiff (by simp [hsplit])).mpr ⟨hplaces, htile⟩, rfl⟩
    rw [Option.eq_none_iff_forall_ne_some]
    intro t ht
    exact hbefore other hother ((hiff (by simp [hsplit, hother])).mp ht).1
  · rintro ⟨_, before, record, after, hsplit, hbefore, hassigned, -⟩
    refine ⟨before, record, after, hsplit, fun other hother hplaces => ?_, (hiff (by simp [hsplit])).mp hassigned⟩
    have hsome := (hiff (r := other) (by simp [hsplit, hother])).mpr ⟨hplaces, rfl⟩
    rw [hbefore other hother] at hsome
    cases hsome

theorem slotOf_seen {tiles : List ℕ} : (slotOf tiles).seen = true ∧ (slotOf tiles).tileId = tile ↔
    ∃ rest, tiles = tile :: rest := by
  cases tiles with
  | nil => simp [slotOf]
  | cons first rest =>
    show true = true ∧ first = tile ↔ _
    simp

theorem slotOf_conflict {tiles : List ℕ} :
    (slotOf tiles).conflict = true ↔ ∃ tile ∈ tiles, ∃ tile' ∈ tiles, tile ≠ tile' := by
  cases tiles with
  | nil => simp [slotOf]
  | cons first rest =>
    show (rest.any fun other => other ≠ first) = true ↔ _
    simp only [List.any_eq_true, decide_eq_true_eq]
    constructor
    · rintro ⟨other, hother, hne⟩
      exact ⟨other, List.mem_cons_of_mem _ hother, first, List.mem_cons_self, hne⟩
    · rintro ⟨tile, htile, tile', htile', hne⟩
      by_contra hnone
      push Not at hnone
      have hfirst : ∀ t ∈ first :: rest, t = first := List.forall_mem_cons.mpr ⟨rfl, hnone⟩
      exact hne ((hfirst tile htile).trans (hfirst tile' htile').symm)

/-- The plan that is built summarizes the records where no number wraps. -/
theorem summarizes_planEntries (hlen : model.shardMeta.length ≤ uint32Max) (htensors : model.tensors.length ≤ uint32Max)
    (hlayers : model.config.nLayers ≤ uint32Max) (hwrap : NoWrap model) :
    Summarizes ⟨planEntries model, uint32 (model.shardMeta.countP fun record => (recordLayer model record).isNone),
      uint32 (conflicted model model.shardMeta).card⟩ model := by
  classical
  refine ⟨?_, fun layer tile => ?_, ?_, ?_⟩
  · exact List.pairwise_map.mpr (List.pairwise_lt_range.filter _)
  · show ⟨layer, tile⟩ ∈ planEntries model ↔ _
    unfold planEntries
    simp only [List.mem_map, List.mem_filter, List.mem_range, MetaPlanEntry.mk.injEq]
    constructor
    · rintro ⟨l, ⟨hlayer, hseen⟩, rfl, htile⟩
      exact ⟨hlayer, (firstTile_iff htensors hlayers hwrap hlayer).mpr (slotOf_seen.mp ⟨hseen, htile⟩)⟩
    · rintro ⟨hlayer, hfirst⟩
      obtain ⟨hseen, htile⟩ := slotOf_seen.mpr ((firstTile_iff htensors hlayers hwrap hlayer).mp hfirst)
      exact ⟨layer, ⟨hlayer, hseen⟩, rfl, htile⟩
  · have hcard : (conflicted model model.shardMeta).card ≤ model.config.nLayers := by
      have h := Finset.card_filter_le (Finset.range model.config.nLayers)
        fun layer => (slotOf (assignedTiles model model.shardMeta layer)).conflict = true
      rwa [Finset.card_range] at h
    show uint32 (conflicted model model.shardMeta).card = _
    rw [uint32_eq (by omega), ← Set.ncard_coe_finset]
    congr 1
    ext layer
    simp only [conflicted, Finset.coe_filter, Finset.mem_range, Set.mem_ofPred_eq]
    refine and_congr_right fun hlayer => ?_
    have hassigned {record : ShardMetaRecord} {tile : ℕ} (hrecord : record ∈ model.shardMeta) :=
      @assignedTile_eq_some model record layer tile htensors hlayers hwrap hrecord hlayer
    rw [slotOf_conflict]
    constructor
    · rintro ⟨tile, htile, tile', htile', hne⟩
      obtain ⟨record, hrecord, heq⟩ := List.mem_filterMap.mp htile
      obtain ⟨record', hrecord', heq'⟩ := List.mem_filterMap.mp htile'
      obtain ⟨hplaces, rfl⟩ := (hassigned hrecord).mp heq
      obtain ⟨hplaces', rfl⟩ := (hassigned hrecord').mp heq'
      exact ⟨record, hrecord, record', hrecord', hplaces, hplaces', hne⟩
    · rintro ⟨record, hrecord, record', hrecord', hplaces, hplaces', hne⟩
      exact ⟨_, List.mem_filterMap.mpr ⟨record, hrecord, (hassigned hrecord).mpr ⟨hplaces, rfl⟩⟩,
        _, List.mem_filterMap.mpr ⟨record', hrecord', (hassigned hrecord').mpr ⟨hplaces', rfl⟩⟩, hne⟩
  · show uint32 _ = _
    rw [uint32_eq (List.countP_le_length.trans hlen)]
    refine List.countP_congr fun record hrecord => ?_
    rw [Option.isNone_iff_eq_none, decide_eq_true_iff, Option.eq_none_iff_forall_ne_some]
    unfold NamesOwnLayer
    simp only [ne_eq, recordLayer_iff htensors hlayers hwrap hrecord, not_exists]

/-- A wrapped number is not counted as extra. -/
theorem noWrap_of_summarizes (hlen : model.shardMeta.length ≤ uint32Max) (htensors : model.tensors.length ≤ uint32Max)
    (hlayers : model.config.nLayers ≤ uint32Max) {plan : MetaPlan} (h : Summarizes plan model)
    (hextra : plan.extra = uint32 (model.shardMeta.countP fun record => (recordLayer model record).isNone)) :
    NoWrap model := by
  classical
  have hcount := hextra.symm.trans h.extra_eq
  rw [uint32_eq (List.countP_le_length.trans hlen)] at hcount
  have hall := forall_of_countP_eq (fun record _ hnone => ?_) hcount
  · intro record hrecord n hn hlt
    by_contra hle
    have hnone := hall record hrecord (decide_eq_true fun ⟨m, hm, hm'⟩ => hle (hn.unique hm' ▸ hm))
    have hsome : recordLayer model record = some (uint32 n) := (recordLayer_eq_some htensors).mpr ⟨hlt, n, hn, rfl⟩
    rw [hsome] at hnone
    cases hnone
  · rw [Option.isNone_iff_eq_none] at hnone
    refine decide_eq_true ?_
    rintro ⟨n, hn, hnames⟩
    have hsome : recordLayer model record = some n :=
      (recordLayer_eq_some htensors).mpr ⟨hn, n, hnames, (uint32_eq (by omega)).symm⟩
    rw [hnone] at hsome
    cases hsome

/-- **When the plan summarizes the records**: exactly where the model has a layer, or no record, and no record names a
layer whose number wraps to one of the model.  The counts of records, tensors and layers are 32-bit numbers in the
file. -/
theorem metaPlanBuild_summarizes_iff {host : Host} (hlen : model.shardMeta.length ≤ uint32Max)
    (htensors : model.tensors.length ≤ uint32Max) (hlayers : model.config.nLayers ≤ uint32Max)
    (hcalloc : host.calloc model.config.nLayers 12 = true)
    (hcalloc' : ∀ count ≤ model.config.nLayers, host.calloc count metaPlanEntrySize = true) :
    (∃ plan, metaPlanBuild host model = .ok plan ∧ Summarizes plan model) ↔
      (model.config.nLayers = 0 → model.shardMeta = []) ∧ NoWrap model := by
  classical
  by_cases hempty : model.shardMeta = []
  · have hbuild : metaPlanBuild host model = .ok {} := if_pos (.inl (by rw [hempty]; rfl))
    have hnone (layer tile : ℕ) : ¬ FirstTile model layer tile := by
      rintro ⟨before, record, after, hsplit, -⟩
      simp [hempty] at hsplit
    refine iff_of_true ⟨{}, hbuild, List.Pairwise.nil, fun layer tile => ?_, ?_, ?_⟩ ⟨fun _ => hempty, ?_⟩
    · exact iff_of_false List.not_mem_nil fun h => hnone layer tile h.2
    · simp [hempty]
    · rw [hempty]
      rfl
    · intro record hrecord
      simp [hempty] at hrecord
  by_cases hzero : model.config.nLayers = 0
  · refine iff_of_false ?_ fun h => hempty (h.1 hzero)
    rintro ⟨plan, hplan, hsum⟩
    have hbuild : metaPlanBuild host model = .ok {} := if_pos (.inr hzero)
    obtain rfl := Except.ok.inj (hplan.symm.trans hbuild)
    have hall : ∀ record ∈ model.shardMeta, decide (¬ NamesOwnLayer model record) = true := fun record _ =>
      decide_eq_true fun ⟨n, hn, _⟩ => by omega
    have hcount := hsum.extra_eq.symm
    rw [List.countP_eq_length.mpr hall] at hcount
    exact hempty (List.length_eq_zero_iff.mp hcount)
  · have hentries : (planEntries model).length ≤ model.config.nLayers := by
      unfold planEntries
      rw [List.length_map]
      exact (List.length_filter_le _ _).trans List.length_range.le
    have hbuild := metaPlanBuild_eq_ok hzero hempty hlen hcalloc fun _ => hcalloc' _ hentries
    rw [and_iff_right fun h => absurd h hzero]
    constructor
    · rintro ⟨plan, hplan, hsum⟩
      obtain rfl := Except.ok.inj (hplan.symm.trans hbuild)
      exact noWrap_of_summarizes hlen htensors hlayers hsum rfl
    · exact fun hwrap => ⟨_, hbuild, summarizes_planEntries hlen htensors hlayers hwrap⟩

end Summary

/-- A model of one layer with one record, which puts the tensor of the given name on tile 0. -/
def recordModel (name : String) : Model where
  config := { nLayers := 1 }
  tensors := [⟨ascii name, dtypeF32, 1, fun _ => 1, 0, 4, 0, 0, none⟩]
  shardMeta := [⟨0, 0, 0, fun _ => 1, 1, 0, 0, 0, fun _ => 0, 0, 0, 0, 0⟩]

theorem names_recordModel {name : String} {n m : ℕ} (hname : LayerNumber (cString (ascii name)) n)
    {record : ShardMetaRecord} (hrecord : record ∈ (recordModel name).shardMeta) :
    NamesLayer (recordModel name) record m ↔ m = n := by
  obtain rfl := List.mem_singleton.mp hrecord
  constructor
  · rintro ⟨tensor, htensor, hm⟩
    obtain rfl := Option.some.inj htensor
    exact hm.unique hname
  · rintro rfl
    exact ⟨_, rfl, hname⟩

/-- The record of a tensor of layer 0 makes the entry of layer 0. -/
theorem metaPlanBuild_summarizes_own : ∃ plan, metaPlanBuild .generous (recordModel "layers.0.wq") = .ok plan ∧
    Summarizes plan (recordModel "layers.0.wq") := by
  have hname : LayerNumber (cString (ascii "layers.0.wq")) 0 := ⟨ascii "0", ascii "wq", by decide +kernel, rfl, rfl⟩
  refine (metaPlanBuild_summarizes_iff (by decide) (by decide) (by decide) rfl fun count hcount => ?_).mpr
    ⟨fun h => absurd h Nat.one_ne_zero, fun record hrecord n hn _ => ?_⟩
  · exact decide_eq_true (by show count * 8 ≤ 2 ^ 64 - 1; have : count ≤ 1 := hcount; omega)
  · obtain rfl := (names_recordModel hname hrecord).mp hn
    exact Nat.one_pos

/-- The record of a tensor of layer `2^32` makes one as well, and is not counted as extra. -/
theorem metaPlanBuild_wraps : metaPlanBuild .generous (recordModel "layers.4294967296.wq") = .ok ⟨[⟨0, 0⟩], 0, 0⟩ ∧
    ¬ Summarizes ⟨[⟨0, 0⟩], 0, 0⟩ (recordModel "layers.4294967296.wq") := by
  have hname : LayerNumber (cString (ascii "layers.4294967296.wq")) 4294967296 :=
    ⟨ascii "4294967296", ascii "wq", by decide +kernel, rfl, by decide +kernel⟩
  refine ⟨rfl, fun h => ?_⟩
  obtain ⟨-, before, record, after, hsplit, -, ⟨hnames, -⟩, -⟩ := (h.mem_iff 0 0).mp List.mem_cons_self
  have hrecord : record ∈ (recordModel "layers.4294967296.wq").shardMeta := by
    rw [hsplit]
    exact List.mem_append_right _ List.mem_cons_self
  have hzero := (names_recordModel hname hrecord).mp hnames
  omega

end Att1
