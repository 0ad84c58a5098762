import Mathlib

/-!
# Att1.Lib.Cycle — an iterative depth-first search for cycles

A node is white before the search meets it, gray while it is on the stack and black afterwards.  An edge to a gray
node closes a cycle and is reported, unless an edge between the same two nodes already is.

* `run_finishes`: the search ends within `work` steps.
* `findCycles_eq_nil`: of a graph whose edges lead to smaller nodes nothing is reported.
-/

namespace Att1.Lib

/-- The colour of a node. -/
inductive Color
  | white
  | gray
  | black
  deriving DecidableEq

/-- A search under way: the stack, topmost node first, of nodes with the children still to visit. -/
structure Search where
  stack : List (ℕ × List ℕ)
  color : ℕ → Color
  reported : List (ℕ × ℕ)

namespace Search

/-- An edge between the two nodes is reported. -/
def isReported (s : Search) (node child : ℕ) : Bool :=
  s.reported.any fun edge => min edge.1 edge.2 = min node child && max edge.1 edge.2 = max node child

variable (children : ℕ → List ℕ)

/-- One round of the loop. -/
def step (s : Search) : Search :=
  match s.stack with
  | [] => s
  | (node, []) :: stack => { s with stack := stack, color := Function.update s.color node .black }
  | (node, child :: more) :: stack =>
    match s.color child with
    | .gray =>
      { s with
        stack := (node, more) :: stack
        reported := if s.isReported node child then s.reported else s.reported ++ [(node, child)] }
    | .white =>
      { s with
        stack := (child, children child) :: (node, more) :: stack
        color := Function.update s.color child .gray }
    | .black => { s with stack := (node, more) :: stack }

/-- The loop, for at most `fuel` rounds. -/
def run : ℕ → Search → Search
  | 0, s => s
  | fuel + 1, s => if s.stack.isEmpty then s else run fuel (s.step children)

/-- The rounds that a search of `n` nodes takes at most: one for every node and one for every edge. -/
def work (n : ℕ) : ℕ := ((List.range n).map fun node => 1 + (children node).length).sum

/-- The search from a white node. -/
def visit (n : ℕ) (s : Search) (node : ℕ) : Search :=
  if s.color node = .white then
    run children (work children n)
      { s with stack := [(node, children node)], color := Function.update s.color node .gray }
  else s

/-- The edges that are reported when every node is searched. -/
def findCycles (n : ℕ) : List (ℕ × ℕ) :=
  ((List.range n).foldl (visit children n) ⟨[], fun _ => .white, []⟩).reported

/-! ### The search ends -/

/-- The rounds still to go, for white nodes that are met and for the stack. -/
def remaining (n : ℕ) (s : Search) : ℕ :=
  ((List.range n).map fun node => if s.color node = .white then 1 + (children node).length else 0).sum +
    (s.stack.map fun entry => 1 + entry.2.length).sum

variable {children} {n : ℕ} {s : Search}

/-- A white node that turns gray or black takes its share off the sum. -/
theorem sum_white_update {f : ℕ → ℕ} {color : ℕ → Color} {node : ℕ} (hwhite : color node = .white) (hlt : node < n)
    {c : Color} (hc : c ≠ .white) :
    ((List.range n).map fun v => if Function.update color node c v = .white then f v else 0).sum + f node =
      ((List.range n).map fun v => if color v = .white then f v else 0).sum := by
  induction n with
  | zero => omega
  | succ n ih =>
    rw [List.range_succ, List.map_append, List.map_append, List.sum_append, List.sum_append]
    by_cases hn : node = n
    · subst hn
      have hcongr : ((List.range node).map fun v => if Function.update color node c v = .white then f v else 0) =
          (List.range node).map fun v => if color v = .white then f v else 0 := by
        refine List.map_congr_left fun v hv => ?_
        rw [Function.update_of_ne (List.mem_range.mp hv).ne]
      simp [hcongr, hc, hwhite]
    · have hih := ih (by omega)
      have hlast : (if Function.update color node c n = .white then f n else 0) =
          if color n = .white then f n else 0 := by
        rw [Function.update_of_ne (Ne.symm hn)]
      simp only [List.map_cons, List.map_nil, List.sum_cons, List.sum_nil, hlast]
      omega

/-- A node on the stack takes no share of the sum when it turns black. -/
theorem sum_black_le {f : ℕ → ℕ} {color : ℕ → Color} {node : ℕ} :
    ((List.range n).map fun v => if Function.update color node .black v = .white then f v else 0).sum ≤
      ((List.range n).map fun v => if color v = .white then f v else 0).sum := by
  refine List.sum_le_sum fun v _ => ?_
  by_cases hv : v = node
  · subst hv
    simp
  · rw [Function.update_of_ne hv]

theorem remaining_step (hchildren : ∀ entry ∈ s.stack, ∀ child ∈ entry.2, child < n) (hne : s.stack ≠ []) :
    (s.step children).remaining children n < s.remaining children n := by
  match hs : s.stack with
  | [] => exact absurd hs hne
  | (node, []) :: stack =>
    have hle := @sum_black_le n (fun v => 1 + (children v).length) s.color node
    simp only [step, hs, remaining, List.map_cons, List.sum_cons, List.length_nil]
    omega
  | (node, child :: more) :: stack =>
    have hlt : child < n := hchildren (node, child :: more) (by simp [hs]) child (by simp)
    cases hcolor : s.color child with
    | gray =>
      simp only [step, hs, hcolor, remaining, List.map_cons, List.sum_cons, List.length_cons]
      omega
    | black =>
      simp only [step, hs, hcolor, remaining, List.map_cons, List.sum_cons, List.length_cons]
      omega
    | white =>
      have hsum := @sum_white_update n (fun v => 1 + (children v).length) s.color child hcolor hlt .gray (by simp)
      simp only [step, hs, hcolor, remaining, List.map_cons, List.sum_cons, List.length_cons]
      omega

/-- What waits on the stack stays below `n`. -/
theorem stack_step (hgraph : ∀ node < n, ∀ child ∈ children node, child < n)
    (hstack : ∀ entry ∈ s.stack, ∀ child ∈ entry.2, child < n) :
    ∀ entry ∈ (s.step children).stack, ∀ child ∈ entry.2, child < n := by
  match hs : s.stack with
  | [] => simpa [step, hs] using hstack
  | (node, []) :: stack =>
    simp only [step, hs]
    exact fun entry hentry => hstack entry (by simp [hs, hentry])
  | (node, child :: more) :: stack =>
    have hmore : ∀ entry ∈ (node, more) :: stack, ∀ c ∈ entry.2, c < n := by
      intro entry hentry c hc
      rcases List.mem_cons.mp hentry with rfl | hentry
      · exact hstack (node, child :: more) (by simp [hs]) c (List.mem_cons_of_mem _ hc)
      · exact hstack entry (by simp [hs, hentry]) c hc
    cases hcolor : s.color child with
    | gray => simpa only [step, hs, hcolor] using hmore
    | black => simpa only [step, hs, hcolor] using hmore
    | white =>
      simp only [step, hs, hcolor]
      intro entry hentry c hc
      rcases List.mem_cons.mp hentry with rfl | hentry
      · exact hgraph child (hstack (node, child :: more) (by simp [hs]) child (by simp)) c hc
      · exact hmore entry hentry c hc

theorem run_finishes {fuel : ℕ} (hgraph : ∀ node < n, ∀ child ∈ children node, child < n)
    (hstack : ∀ entry ∈ s.stack, ∀ child ∈ entry.2, child < n) (hfuel : s.remaining children n ≤ fuel) :
    (run children fuel s).stack = [] := by
  induction fuel generalizing s with
  | zero =>
    by_contra hne
    have hlt := @remaining_step children n s hstack hne
    omega
  | succ fuel ih =>
    rw [run]
    by_cases hne : s.stack = []
    · simp [hne]
    · rw [if_neg (by simpa using hne)]
      refine ih (stack_step hgraph hstack) ?_
      have hlt := @remaining_step children n s hstack hne
      omega

/-- The search from a node ends: nothing is left on its stack. -/
theorem visit_finishes {node : ℕ} (hgraph : ∀ node < n, ∀ child ∈ children node, child < n) (hlt : node < n)
    (hstack : s.stack = []) : (visit children n s node).stack = [] := by
  unfold visit
  by_cases hwhite : s.color node = .white
  · rw [if_pos hwhite]
    refine run_finishes hgraph (by simpa using hgraph node hlt) ?_
    have hsum := @sum_white_update n (fun v => 1 + (children v).length) s.color node hwhite hlt .gray (by simp)
    have hle : ((List.range n).map fun v => if s.color v = .white then 1 + (children v).length else 0).sum ≤
        work children n := List.sum_le_sum fun v _ => by split <;> omega
    simp only [remaining, List.map_cons, List.map_nil, List.sum_cons, List.sum_nil]
    omega
  · rwa [if_neg hwhite]

/-! ### Graphs whose edges lead to smaller nodes -/

/-- Every gray node is on the stack, where nodes grow from the top downwards, and what waits under a node is
smaller.  Nothing is reported. -/
structure Descending (s : Search) : Prop where
  gray : ∀ v, s.color v = .gray → v ∈ s.stack.map Prod.fst
  sorted : (s.stack.map Prod.fst).Pairwise (· < ·)
  smaller : ∀ entry ∈ s.stack, ∀ child ∈ entry.2, child < entry.1
  silent : s.reported = []

theorem Descending.step (h : Descending s) (hgraph : ∀ node, ∀ child ∈ children node, child < node) :
    Descending (s.step children) := by
  match hs : s.stack with
  | [] => simpa [Search.step, hs] using h
  | (node, []) :: stack =>
    have hsorted := h.sorted
    simp only [hs, List.map_cons, List.pairwise_cons] at hsorted
    simp only [Search.step, hs]
    refine ⟨fun v hv => ?_, hsorted.2, fun entry hentry => h.smaller entry (by simp [hs, hentry]), h.silent⟩
    by_cases hvn : v = node
    · simp [hvn] at hv
    · have hold := h.gray v (by simpa [hvn] using hv)
      simpa [hs, hvn] using hold
  | (node, child :: more) :: stack =>
    have hsorted := h.sorted
    simp only [hs, List.map_cons, List.pairwise_cons] at hsorted
    have hlt : child < node := h.smaller (node, child :: more) (by simp [hs]) child (by simp)
    have hsmaller : ∀ entry ∈ (node, more) :: stack, ∀ c ∈ entry.2, c < entry.1 := by
      intro entry hentry c hc
      rcases List.mem_cons.mp hentry with rfl | hentry
      · exact h.smaller (node, child :: more) (by simp [hs]) c (List.mem_cons_of_mem _ hc)
      · exact h.smaller entry (by simp [hs, hentry]) c hc
    have hnodes : ∀ v ∈ s.stack.map Prod.fst, node ≤ v := by
      intro v hv
      simp only [hs, List.map_cons, List.mem_cons] at hv
      rcases hv with rfl | hv
      · exact le_rfl
      · exact (hsorted.1 v hv).le
    cases hcolor : s.color child with
    | gray => exact absurd (hnodes child (h.gray child hcolor)) (by omega)
    | black =>
      simp only [Search.step, hs, hcolor]
      exact ⟨fun v hv => by simpa [hs] using h.gray v hv, by simpa using hsorted, hsmaller, h.silent⟩
    | white =>
      simp only [Search.step, hs, hcolor]
      refine ⟨fun v hv => ?_, ?_, fun entry hentry => ?_, h.silent⟩
      · by_cases hvc : v = child
        · simp [hvc]
        · have hold := h.gray v (by simpa [hvc] using hv)
          simp only [hs, List.map_cons, List.mem_cons] at hold
          simp only [List.map_cons, List.mem_cons]
          exact .inr hold
      · simp only [List.map_cons, List.pairwise_cons, List.mem_cons, forall_eq_or_imp]
        exact ⟨⟨hlt, fun v hv => lt_trans hlt (hsorted.1 v hv)⟩, hsorted⟩
      · rcases List.mem_cons.mp hentry with rfl | hentry
        · exact hgraph child
        · exact hsmaller entry hentry

theorem Descending.run {fuel : ℕ} (h : Descending s) (hgraph : ∀ node, ∀ child ∈ children node, child < node) :
    Descending (run children fuel s) := by
  induction fuel generalizing s with
  | zero => exact h
  | succ fuel ih =>
    rw [Search.run]
    split
    · exact h
    · exact ih (h.step hgraph)

/-- Between two searches no node is gray. -/
theorem Descending.visit {node : ℕ} (h : Descending s) (hgraph : ∀ node, ∀ child ∈ children node, child < node)
    (hlt : node < n) (hstack : s.stack = []) :
    Descending (visit children n s node) ∧ (visit children n s node).stack = [] := by
  have hbelow : ∀ node < n, ∀ child ∈ children node, child < n :=
    fun v hv child hchild => lt_trans (hgraph v child hchild) hv
  refine ⟨?_, visit_finishes hbelow hlt hstack⟩
  unfold Search.visit
  by_cases hwhite : s.color node = .white
  · rw [if_pos hwhite]
    refine Descending.run ⟨fun v hv => ?_, by simp, by simpa using hgraph node, h.silent⟩ hgraph
    by_cases hvn : v = node
    · simp [hvn]
    · have hold := h.gray v (by simpa [hvn] using hv)
      simp [hstack] at hold
  · rwa [if_neg hwhite]

theorem findCycles_eq_nil (hgraph : ∀ node, ∀ child ∈ children node, child < node) : findCycles children n = [] := by
  have hfold : ∀ (nodes : List ℕ) (s : Search), (∀ node ∈ nodes, node < n) → Descending s → s.stack = [] →
      (nodes.foldl (visit children n) s).reported = [] := by
    intro nodes
    induction nodes with
    | nil => exact fun s _ h _ => h.silent
    | cons node nodes ih =>
      intro s hlt h hstack
      obtain ⟨hvisit, hempty⟩ := h.visit hgraph (hlt node List.mem_cons_self) hstack
      exact ih _ (fun v hv => hlt v (List.mem_cons_of_mem _ hv)) hvisit hempty
  exact hfold _ _ (fun v hv => List.mem_range.mp hv) ⟨by simp, by simp, by simp, rfl⟩ rfl

end Search

end Att1.Lib
