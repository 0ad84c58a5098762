import Att1.Fabric.Barrier

/-!
# Att1.Fabric.Rejected — what a rejected barrier arrival leaves behind

* `arrivals f calls`: what the arrivals `calls`, made one after the other, return.
* `Alike f g`: no arrival tells the barriers of `f` and `g` apart.  Between generations the arrays are scratch space,
  so only the active flag counts then.
* `OpensForOthers`: the call begins a generation that does not have its tile as a member.
* `rejected_arrival_iff`: a rejected call goes unnoticed unless it did that.
-/

namespace Att1.Fabric

variable {f g : Fabric} {tile : ℕ} {participants : Option TileGroup}

/-- The arguments of an arrival, with the allocator it meets. -/
structure Arrival where
  host : Host
  tile : ℕ
  participants : Option TileGroup

/-- The results of arrivals made in order. -/
def arrivals (f : Fabric) : List Arrival → List (Status × Bool)
  | [] => []
  | a :: rest =>
    let r := f.barrierArrive a.host a.tile a.participants
    r.2 :: r.1.arrivals rest

/-- The barriers agree: while a generation is under way in everything, and else in there being none. -/
structure Alike (f g : Fabric) : Prop where
  config : g.config = f.config
  active : g.barrierActive = f.barrierActive
  expected : f.barrierActive = true → g.barrierExpected = f.barrierExpected
  arrived : f.barrierActive = true → g.barrierArrived = f.barrierArrived
  count : f.barrierActive = true → g.barrierExpectedCount = f.barrierExpectedCount

theorem alike_countInvalid (f : Fabric) : Alike f f.countInvalid :=
  ⟨rfl, rfl, fun _ => rfl, fun _ => rfl, fun _ => rfl⟩

theorem Alike.countInvalid (h : Alike f g) : Alike f.countInvalid g.countInvalid :=
  ⟨h.config, h.active, h.expected, h.arrived, h.count⟩

theorem markExpected_congr (h : g.config = f.config) (tiles : List ℕ) (expected : ℕ → Bool) :
    g.markExpected tiles expected = f.markExpected tiles expected := by
  induction tiles generalizing expected with
  | nil => rfl
  | cons tile rest ih =>
    have hvalid : g.validTile tile = f.validTile tile := by
      unfold validTile
      rw [h]
    unfold markExpected
    rw [hvalid, ih]

/-- Reading a participant list depends on the configuration only. -/
theorem participantSetValid_congr (h : g.config = f.config) (participants : Option TileGroup) :
    (g.participantSetValid participants).2 = (f.participantSetValid participants).2 ∧
      ((f.participantSetValid participants).2 = true →
        (g.participantSetValid participants).1.barrierExpected =
          (f.participantSetValid participants).1.barrierExpected) := by
  cases participants with
  | none => exact ⟨rfl, fun hv => absurd hv (by simp [participantSetValid])⟩
  | some group =>
    unfold participantSetValid
    simp only
    rw [h, markExpected_congr h]
    split_ifs
    · exact ⟨rfl, fun hv => absurd hv (by simp)⟩
    · exact ⟨rfl, fun hv => absurd hv (by simp)⟩
    · exact ⟨rfl, fun _ => rfl⟩

theorem participantSetMatches_congr (h : g.config = f.config) (hexp : g.barrierExpected = f.barrierExpected)
    (host : Host) (participants : Option TileGroup) :
    g.participantSetMatches host participants = f.participantSetMatches host participants := by
  obtain ⟨hvalid, hset⟩ := participantSetValid_congr h participants
  unfold participantSetMatches
  rw [h, hexp]
  congr 1
  simp only
  rw [hvalid]
  by_cases hv : (f.participantSetValid participants).2 = true
  · rw [hset hv]
  · rw [Bool.not_eq_true] at hv
    rw [hv, Bool.false_and, Bool.false_and]

/-- The end of an arrival does the same to the same barrier. -/
theorem barrierRecord_alike (hact : f.barrierActive = true) (h : Alike f g) (tile : ℕ) :
    (g.barrierRecord tile).2 = (f.barrierRecord tile).2 ∧ Alike (f.barrierRecord tile).1 (g.barrierRecord tile).1 := by
  unfold barrierRecord
  simp only
  rw [h.expected hact, h.arrived hact, h.count hact, h.config]
  split_ifs
  · exact ⟨rfl, h.countInvalid⟩
  · exact ⟨rfl, h.countInvalid⟩
  · exact ⟨rfl, rfl, rfl, fun _ => rfl, fun _ => rfl, fun _ => rfl⟩
  · exact ⟨rfl, rfl, h.active, fun _ => rfl, fun _ => rfl, fun _ => rfl⟩

/-- **One arrival** cannot tell alike barriers apart, and leaves them alike. -/
theorem barrierArrive_alike (h : Alike f g) (host : Host) (tile : ℕ) (participants : Option TileGroup) :
    (g.barrierArrive host tile participants).2 = (f.barrierArrive host tile participants).2 ∧
      Alike (f.barrierArrive host tile participants).1 (g.barrierArrive host tile participants).1 := by
  have hvalid : g.validTile tile = f.validTile tile := by
    unfold validTile
    rw [h.config]
  unfold barrierArrive
  rw [hvalid, h.active]
  by_cases ht : f.validTile tile = true
  swap
  · rw [if_pos ht, if_pos ht]
    exact ⟨rfl, h.countInvalid⟩
  rw [if_neg (not_not.mpr ht), if_neg (not_not.mpr ht)]
  by_cases hact : f.barrierActive = false
  · rw [if_pos hact, if_pos hact]
    obtain ⟨hres, hset⟩ := participantSetValid_congr h.config participants
    have hinactive (p : Fabric) (hp : p.barrierActive = false) :
        (p.participantSetValid participants).1.barrierActive = false ∧
          (p.participantSetValid participants).1.config = p.config := by
      unfold participantSetValid
      split
      · exact ⟨hp, rfl⟩
      · split_ifs <;> exact ⟨hp, rfl⟩
    obtain ⟨hfa, hfc⟩ := hinactive f hact
    obtain ⟨hga, hgc⟩ := hinactive g (h.active.trans hact)
    simp only
    rw [hres]
    by_cases hv : (f.participantSetValid participants).2 = false
    · rw [if_pos hv, if_pos hv]
      exact ⟨rfl, (hgc.trans h.config).trans hfc.symm, hga.trans hfa.symm, fun hno => absurd hno (by simp [countInvalid, hfa]),
        fun hno => absurd hno (by simp [countInvalid, hfa]), fun hno => absurd hno (by simp [countInvalid, hfa])⟩
    · rw [if_neg hv, if_neg hv]
      refine barrierRecord_alike ?_ ⟨?_, ?_, fun _ => ?_, fun _ => ?_, fun _ => ?_⟩ tile
      · rfl
      · exact (hgc.trans h.config).trans hfc.symm
      · rfl
      · exact hset (by simpa using hv)
      · rfl
      · rfl
  · rw [if_neg hact, if_neg hact]
    rw [Bool.not_eq_false] at hact
    rw [participantSetMatches_congr h.config (h.expected hact)]
    split_ifs
    · exact ⟨rfl, h.countInvalid⟩
    · exact barrierRecord_alike hact h tile

/-- No sequence of arrivals tells alike barriers apart. -/
theorem Alike.arrivals_eq (h : Alike f g) (calls : List Arrival) : g.arrivals calls = f.arrivals calls := by
  induction calls generalizing f g with
  | nil => rfl
  | cons a rest ih =>
    obtain ⟨hres, halike⟩ := barrierArrive_alike h a.host a.tile a.participants
    unfold arrivals
    simp only
    rw [hres, ih halike]

/-- No generation is under way, and the call begins one without its own tile. -/
def OpensForOthers (f : Fabric) (tile : ℕ) (participants : Option TileGroup) : Prop :=
  f.barrierActive = false ∧ tile < f.config.tileCount ∧
    ∃ s, participantSet f.config.tileCount participants = some s ∧ tile ∉ s

theorem barrierRecord_refused (h : (f.barrierRecord tile).2.1 ≠ .ok) : (f.barrierRecord tile).1 = f.countInvalid := by
  unfold barrierRecord at h ⊢
  simp only at h ⊢
  split_ifs at h ⊢
  · rfl
  · rfl
  · exact absurd rfl h
  · exact absurd rfl h

/-- A rejected call that opens no generation leaves the barrier as it was. -/
theorem rejected_alike {host : Host} (hrej : (f.barrierArrive host tile participants).2.1 ≠ .ok)
    (hopen : ¬ OpensForOthers f tile participants) : Alike f (f.barrierArrive host tile participants).1 := by
  by_cases hact : f.barrierActive = false
  · by_cases hbegin : tile < f.config.tileCount ∧ ∃ s, participantSet f.config.tileCount participants = some s
    · obtain ⟨ht, s, hs⟩ := hbegin
      have hans := barrierArrive_begins hact host ht hs
      have hmem : tile ∈ s := by
        by_contra hno
        exact hopen ⟨hact, ht, s, hs, hno⟩
      exact absurd (hans.ok_iff.mpr ⟨trivial, hmem, List.not_mem_nil⟩) hrej
    · obtain ⟨-, hact', hconfig⟩ := barrierArrive_begins_none hact host hbegin
      have hno : f.barrierActive ≠ true := by simp [hact]
      exact ⟨hconfig, hact'.trans hact.symm, fun h => absurd h hno, fun h => absurd h hno, fun h => absurd h hno⟩
  · unfold barrierArrive at hrej ⊢
    by_cases ht : f.validTile tile = true
    swap
    · rw [if_pos ht]
      exact alike_countInvalid f
    rw [if_neg (not_not.mpr ht), if_neg hact] at hrej ⊢
    by_cases hmatch : f.participantSetMatches host participants = false
    · rw [if_pos hmatch]
      exact alike_countInvalid f
    · rw [if_neg hmatch] at hrej ⊢
      rw [barrierRecord_refused hrej]
      exact alike_countInvalid f

/-- **Rejected arrivals.**  After a rejected call every sequence of arrivals gets the results it would have got
without the call, unless the call was the first of a generation and named a participant set without its own tile. -/
theorem rejected_arrival_iff (f : Fabric) {host : Host} (hrej : (f.barrierArrive host tile participants).2.1 ≠ .ok) :
    (∀ calls, (f.barrierArrive host tile participants).1.arrivals calls = f.arrivals calls) ↔
      ¬ OpensForOthers f tile participants := by
  constructor
  · rintro h ⟨hact, ht, s, hs, hmem⟩
    -- the tile now tries a barrier of its own
    have hself : participantSet f.config.tileCount (some ⟨[tile], by show 1 * 4 ≤ sizeMax; decide⟩) = some {tile} := by
      refine participantSet_eq_some.mpr ⟨_, rfl, List.cons_ne_nil _ _, ?_, List.nodup_singleton _, ?_⟩
      · intro t hmem
        rwa [List.mem_singleton.mp hmem]
      · exact List.toFinset_cons
    have hopened := barrierArrive_begins hact host ht hs
    have hbefore := barrierArrive_begins hact .generous ht hself
    have hafter := barrierArrive_joins (hopened.refused hrej) .generous tile
      (some ⟨[tile], by show 1 * 4 ≤ sizeMax; decide⟩)
    have hresults := h [⟨.generous, tile, some ⟨[tile], by show 1 * 4 ≤ sizeMax; decide⟩⟩]
    have hsame := List.head_eq_of_cons_eq hresults
    have hok := hbefore.ok_iff.mpr ⟨trivial, Finset.mem_singleton_self tile, List.not_mem_nil⟩
    rw [← congrArg Prod.fst hsame, hafter.ok_iff] at hok
    exact hmem hok.2.1
  · intro hopen calls
    exact (rejected_alike hrej hopen).arrivals_eq calls

theorem rejected_unknown_tile : ∃ f, create .generous ⟨2, 1, 4⟩ = .ok f ∧
    ∀ calls, (f.barrierArrive .generous 5 none).1.arrivals calls = f.arrivals calls := by
  obtain ⟨f, hc, hrej, hcount⟩ : ∃ f, create .generous ⟨2, 1, 4⟩ = .ok f ∧
      (f.barrierArrive .generous 5 none).2.1 ≠ .ok ∧ f.config.tileCount = 2 := ⟨_, rfl, by decide, rfl⟩
  refine ⟨f, hc, (rejected_arrival_iff f hrej).mpr ?_⟩
  rintro ⟨-, hlt, -⟩
  omega

/-- Tile 1 is refused with the list of tile 0 alone, and then with its own. -/
theorem rejected_arrival_noticed : ∃ f, create .generous ⟨2, 1, 4⟩ = .ok f ∧
    (f.barrierArrive .generous 1 (some ⟨[0], by decide⟩)).2.1 = .invalidArg ∧
      f.arrivals [⟨.generous, 1, some ⟨[1], by decide⟩⟩] = [(.ok, true)] ∧
        (f.barrierArrive .generous 1 (some ⟨[0], by decide⟩)).1.arrivals [⟨.generous, 1, some ⟨[1], by decide⟩⟩] =
          [(.invalidArg, false)] :=
  ⟨_, rfl, rfl, rfl, rfl⟩

end Att1.Fabric
