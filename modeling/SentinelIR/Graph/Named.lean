/-
# Statements act on named nodes

A property graph represents a keyed graph when its nodes stand, position by
position, for the names. Every statement that implements a step takes a graph
representing a keyed graph to one representing the keyed graph after the step,
as long as every node the step matches is there.
-/

import SentinelIR.Graph.Keyed

namespace SentinelIR.Graph

open SentinelIR.Py

set_option linter.unusedSectionVars false

variable {Λ ρ κ ν χ : Type} [DecidableEq Λ] [DecidableEq ρ] [DecidableEq κ] [DecidableEq ν]
  [DecidableEq χ]

/-! ## Representation -/

/-- A node stands for a name: it carries the label, the key and the properties. -/
structure Stands (keyOf : Λ → κ) (props : Ref Λ ν → κ → Option ν) (node : Node Λ κ ν)
    (n : Ref Λ ν) : Prop where
  label : node.label = n.label
  props : ∀ key, node.props.get? key = if key = keyOf n.label then some n.value else props n key

/-- The edge between the positions of two names. -/
def position (nodes : List (Ref Λ ν)) (l : Link Λ ρ ν) : Edge ρ :=
  ⟨nodes.idxOf l.source, l.relation, nodes.idxOf l.target⟩

/-- The property graph represents the keyed graph. -/
structure Represents (keyOf : Λ → κ) (g : PropertyGraph Λ ρ κ ν)
    (k : KeyedGraph Λ ρ κ ν) : Prop where
  nodup : k.nodes.Nodup
  length : g.nodes.length = k.nodes.length
  stands : ∀ (i : Nat) node n, g.nodes[i]? = some node → k.nodes[i]? = some n →
    Stands keyOf k.props node n
  edges : g.edges = k.links.map (position k.nodes)
  ends : ∀ l ∈ k.links, l.source ∈ k.nodes ∧ l.target ∈ k.nodes
  fresh : ∀ n, n ∉ k.nodes → ∀ key, k.props n key = none

theorem represents_empty (keyOf : Λ → κ) :
    Represents keyOf (PropertyGraph.empty : PropertyGraph Λ ρ κ ν) KeyedGraph.empty where
  nodup := List.nodup_nil
  length := rfl
  stands := by rintro i node n ⟨⟩
  edges := rfl
  ends := by rintro l ⟨⟩
  fresh := fun _ _ _ => rfl

/-- The name answers a lookup. -/
def Answers (keyOf : Λ → κ) (k : KeyedGraph Λ ρ κ ν) (label : Λ) (key : κ) (value : ν)
    (n : Ref Λ ν) : Prop :=
  n.label = label ∧ (if key = keyOf n.label then some n.value else k.props n key) = some value

instance (keyOf : Λ → κ) (k : KeyedGraph Λ ρ κ ν) (label : Λ) (key : κ) (value : ν)
    (n : Ref Λ ν) : Decidable (Answers keyOf k label key value n) :=
  inferInstanceAs (Decidable (_ ∧ _))

theorem mem_appendNew_self {α : Type} [DecidableEq α] (held : List α) (x : α) :
    x ∈ appendNew held x := by
  rw [appendNew]
  split
  case isTrue here => exact here
  case isFalse => exact List.mem_append_right _ (List.mem_singleton_self x)

theorem map_idxOf {α : Type} [DecidableEq α] {xs : List α} (nodup : xs.Nodup) :
    xs.map xs.idxOf = List.range xs.length := by
  apply List.ext_getElem
  · simp
  · intro i hi _
    simp [nodup.idxOf_getElem]

section Represented

variable {keyOf : Λ → κ} {g : PropertyGraph Λ ρ κ ν} {k : KeyedGraph Λ ρ κ ν}

/-- A lookup finds the positions of the names that answer it. -/
theorem Represents.find_eq (h : Represents keyOf g k) (label : Λ) (key : κ) (value : ν) :
    g.find label key value =
      (k.nodes.filter fun n => Answers keyOf k label key value n).map k.nodes.idxOf := by
  have same : ∀ n ∈ k.nodes, (g.nodes[k.nodes.idxOf n]?.any fun node =>
      node.label = label && node.props.get? key = some value) =
        decide (Answers keyOf k label key value n) := by
    intro n hn
    have hi : k.nodes.idxOf n < k.nodes.length := List.idxOf_lt_length_iff.mpr hn
    have held : k.nodes[k.nodes.idxOf n]? = some n := by
      rw [List.getElem?_eq_getElem hi, List.getElem_idxOf hi]
    have there : k.nodes.idxOf n < g.nodes.length := h.length ▸ hi
    have stands := h.stands _ _ n (List.getElem?_eq_getElem there) held
    rw [List.getElem?_eq_getElem there, Option.any_some, stands.label, stands.props]
    exact (Bool.decide_and _ _).symm
  rw [PropertyGraph.find, h.length, ← map_idxOf h.nodup, List.filter_map]
  congr 1
  exact List.filter_congr same

/-- A name is found by its key, alone. -/
theorem Represents.find_key (h : Represents keyOf g k) (n : Ref Λ ν) :
    g.find n.label (keyOf n.label) n.value = if n ∈ k.nodes then [k.nodes.idxOf n] else [] := by
  have alone : (k.nodes.filter fun m => Answers keyOf k n.label (keyOf n.label) n.value m) =
      k.nodes.filter fun m => m = n := by
    apply List.filter_congr
    intro m _
    rw [decide_eq_decide, Answers]
    constructor
    · rintro ⟨labelled, valued⟩
      rw [labelled, if_pos rfl, Option.some.injEq] at valued
      obtain ⟨label, value⟩ := m
      obtain rfl := labelled
      obtain rfl := valued
      rfl
    · rintro rfl
      exact ⟨rfl, if_pos rfl⟩
  have once : k.nodes.filter (fun m => m = n) = if n ∈ k.nodes then [n] else [] := by
    rw [List.filter_eq]
    split
    case isTrue held => rw [List.count_eq_one_of_mem h.nodup held]; rfl
    case isFalse absent => rw [List.count_eq_zero.mpr absent]; rfl
  rw [h.find_eq, alone, once]
  split <;> rfl

/-! ## One clause -/

/-- Merging a node on its key names it. -/
theorem Represents.mergeNode (h : Represents keyOf g k) (x : χ) (n : Ref Λ ν) (row : Row χ) :
    ∃ g', runRow (.mergeNode x n.label (keyOf n.label) n.value : Clause Λ ρ κ ν χ) g row =
        (g', [(x, (appendNew k.nodes n).idxOf n) :: row]) ∧
      Represents keyOf g' { k with nodes := appendNew k.nodes n } := by
  have found := h.find_key n
  by_cases held : n ∈ k.nodes
  · rw [if_pos held] at found
    refine ⟨g, ?_, ?_⟩
    · simp only [runRow, found, appendNew, if_pos held]
      rfl
    · rw [appendNew, if_pos held]
      exact h
  · rw [if_neg held] at found
    have last : (k.nodes ++ [n]).idxOf n = g.nodes.length := by
      rw [List.idxOf_append_of_notMem held, List.idxOf_cons_self, h.length, Nat.add_zero]
    refine ⟨g.addNode n.label (keyOf n.label) n.value, ?_, ?_⟩
    · simp only [runRow, found, appendNew, if_neg held, last]
    · rw [appendNew, if_neg held]
      exact {
        nodup := by
          have distinct : ([n].foldl appendNew k.nodes).Nodup := nodup_foldl_appendNew h.nodup
          rwa [List.foldl_cons, List.foldl_nil, appendNew, if_neg held] at distinct
        length := by
          rw [PropertyGraph.addNode, List.length_append, List.length_append, h.length]
          rfl
        stands := by
          intro i node m hnode hm
          rw [PropertyGraph.addNode] at hnode
          by_cases old : i < g.nodes.length
          · rw [List.getElem?_append_left old] at hnode
            rw [List.getElem?_append_left (h.length ▸ old)] at hm
            exact h.stands i node m hnode hm
          · rw [List.getElem?_append_right (by omega)] at hnode
            rw [List.getElem?_append_right (by rw [← h.length]; omega), ← h.length] at hm
            rw [List.getElem?_singleton] at hnode hm
            split at hnode
            case isFalse => cases hnode
            case isTrue last =>
                rw [if_pos last] at hm
                obtain rfl := Option.some.inj hnode
                obtain rfl := Option.some.inj hm
                refine ⟨rfl, fun key => ?_⟩
                rw [Dict.get?_set]
                split
                case isTrue => rfl
                case isFalse => exact (h.fresh n held key).symm
        edges := by
          rw [PropertyGraph.addNode, h.edges]
          apply List.map_congr_left
          intro l hl
          have ends := h.ends l hl
          rw [position, position, List.idxOf_append_of_mem ends.1, List.idxOf_append_of_mem ends.2]
        ends := fun l hl => ⟨List.mem_append_left _ (h.ends l hl).1,
          List.mem_append_left _ (h.ends l hl).2⟩
        fresh := fun m hm => h.fresh m fun old => hm (List.mem_append_left _ old) }

/-- Assigning to a node assigns to its name. -/
theorem Represents.assign (h : Represents keyOf g k) {n : Ref Λ ν} (held : n ∈ k.nodes) {key : κ}
    (free : key ≠ keyOf n.label) (value : Option ν) :
    Represents keyOf (g.assign (k.nodes.idxOf n) key value)
      { k with props :=
          fun m other => if m = n ∧ other = key then value else k.props m other } where
  nodup := h.nodup
  length := by rw [PropertyGraph.assign, List.length_modify, h.length]
  stands := by
    intro i node m hnode hm
    rw [PropertyGraph.assign, List.getElem?_modify] at hnode
    obtain ⟨old, hold, rfl⟩ := Option.map_eq_some_iff.mp hnode
    have stands := h.stands i old m hold hm
    have hi : i < k.nodes.length := (List.getElem?_eq_some_iff.mp hm).1
    have same : k.nodes.idxOf n = i ↔ m = n := by
      have named : k.nodes[i] = m := (List.getElem?_eq_some_iff.mp hm).2
      constructor
      · rintro rfl
        rw [← named, List.getElem_idxOf]
      · rintro rfl
        rw [← named, h.nodup.idxOf_getElem]
    by_cases here : m = n
    · subst here
      rw [if_pos (same.mpr rfl)]
      refine ⟨stands.label, fun other => ?_⟩
      show _ = if other = keyOf m.label then some m.value
        else if m = m ∧ other = key then value else k.props m other
      by_cases changed : other = key
      · subst changed
        rw [if_neg free, if_pos ⟨rfl, rfl⟩]
        cases value with
        | none => rw [Dict.get?_erase, if_pos rfl]
        | some held => rw [Dict.get?_set, if_pos rfl]
      · have kept : (if m = m ∧ other = key then value else k.props m other) = k.props m other :=
          if_neg fun both => changed both.2
        rw [kept, ← stands.props other]
        cases value with
        | none => rw [Dict.get?_erase, if_neg changed]
        | some held => rw [Dict.get?_set, if_neg changed]
    · rw [if_neg fun at_i => here (same.mp at_i)]
      refine ⟨stands.label, fun other => ?_⟩
      have kept : (if m = n ∧ other = key then value else k.props m other) = k.props m other :=
        if_neg fun both => here both.1
      exact (stands.props other).trans (by rw [← kept])
  edges := h.edges
  ends := h.ends
  fresh := by
    intro m hm other
    have kept : (if m = n ∧ other = key then value else k.props m other) = k.props m other :=
      if_neg fun both => hm (by rw [both.1]; exact held)
    exact kept.trans (h.fresh m hm other)

/-- `SET` on a named node does what the step assigns. -/
theorem Represents.setProps (h : Represents keyOf g k) {n : Ref Λ ν} (held : n ∈ k.nodes) {x : χ}
    {row : Row χ} (hx : row.lookup x = some (k.nodes.idxOf n)) {assignments : List (κ × Option ν)}
    (free : keyOf n.label ∉ assignments.map Prod.fst) :
    ∃ g', runRow (.setProps x assignments : Clause Λ ρ κ ν χ) g row = (g', [row]) ∧
      Represents keyOf g'
        { k with
          props := fun m key =>
            ((Step.node n assignments : Step Λ ρ κ ν).assigned m key).getD (k.props m key) } := by
  refine ⟨assignments.foldl (fun g a => g.assign (k.nodes.idxOf n) a.1 a.2) g, ?_, ?_⟩
  · simp only [runRow, hx]
  · clear hx
    induction assignments using List.reverseRecOn with
    | nil =>
        have same : (fun m key =>
            ((Step.node n [] : Step Λ ρ κ ν).assigned m key).getD (k.props m key)) =
            k.props := by
          funext m key
          rw [Step.assigned]
          split <;> rfl
        rw [same]
        exact h
    | append_singleton front last ih =>
        rw [List.map_append, List.mem_append, not_or] at free
        have step := (ih free.1).assign (n := n) held
          (fun same => free.2 (by rw [← same]; exact List.mem_singleton_self _)) last.2
        rw [List.foldl_append]
        have same : (fun m key => if m = n ∧ key = last.1 then last.2 else
            ((Step.node n front : Step Λ ρ κ ν).assigned m key).getD (k.props m key)) =
            fun m key => ((Step.node n (front ++ [last]) : Step Λ ρ κ ν).assigned m key).getD
              (k.props m key) := by
          funext m key
          rw [Step.assigned, Step.assigned, List.reverse_append, List.reverse_singleton,
            List.singleton_append, List.find?_cons]
          by_cases here : m = n
          · subst here
            by_cases changed : key = last.1
            · subst changed
              simp
            · simp [changed, Ne.symm changed]
          · simp [here, Ne.symm here]
        rw [← same]
        exact step

/-- Matching a node on its key finds it, once. -/
theorem Represents.matchNode (h : Represents keyOf g k) (x : χ) {n : Ref Λ ν} (held : n ∈ k.nodes)
    (row : Row χ) :
    runRow (.matchNode x n.label (keyOf n.label) n.value : Clause Λ ρ κ ν χ) g row =
      (g, [(x, k.nodes.idxOf n) :: row]) := by
  simp only [runRow, h.find_key, if_pos held]
  rfl

/-- Merging a relationship between named nodes links the names. -/
theorem Represents.mergeEdge (h : Represents keyOf g k) {x y : χ} {row : Row χ} (l : Link Λ ρ ν)
    (source : l.source ∈ k.nodes) (target : l.target ∈ k.nodes)
    (hx : row.lookup x = some (k.nodes.idxOf l.source))
    (hy : row.lookup y = some (k.nodes.idxOf l.target)) :
    ∃ g', runRow (.mergeEdge x l.relation y : Clause Λ ρ κ ν χ) g row = (g', [row]) ∧
      Represents keyOf g' { k with links := appendNew k.links l } := by
  refine ⟨g.mergeEdge (position k.nodes l), ?_, ?_⟩
  · simp only [runRow, hx, hy]
    rfl
  · have same : position k.nodes l ∈ g.edges ↔ l ∈ k.links := by
      rw [h.edges, List.mem_map]
      constructor
      · rintro ⟨other, hother, heq⟩
        have ends := h.ends other hother
        simp only [position, Edge.mk.injEq] at heq
        obtain ⟨sources, relations, targets⟩ := heq
        obtain rfl : other = l := by
          have first := (List.idxOf_inj ends.1).mp sources
          have second := (List.idxOf_inj ends.2).mp targets
          cases other
          cases l
          simp only [Link.mk.injEq]
          exact ⟨first, relations, second⟩
        exact hother
      · intro hl
        exact ⟨l, hl, rfl⟩
    rw [PropertyGraph.mergeEdge, appendNew]
    by_cases held : l ∈ k.links
    · rw [if_pos held, if_pos (same.mpr held)]
      exact h
    · rw [if_neg held, if_neg fun there => held (same.mp there)]
      exact {
        nodup := h.nodup
        length := h.length
        stands := h.stands
        edges := by rw [h.edges, List.map_append]; rfl
        ends := by
          intro other hother
          rcases List.mem_append.mp hother with old | new
          · exact h.ends other old
          · rw [List.mem_singleton.mp new]
            exact ⟨source, target⟩
        fresh := h.fresh }

/-- Joining every row's node to one target links their names, one by one. -/
theorem Represents.mergeEdges {x y : χ} (h : Represents keyOf g k) (apart : x ≠ y) (relation : ρ)
    {target : Ref Λ ν} {sources : List (Ref Λ ν)} (hsources : sources ⊆ k.nodes)
    (htarget : target ∈ k.nodes) :
    ∃ g', (runClause (.mergeEdge x relation y : Clause Λ ρ κ ν χ) g
        (sources.map fun n => [(y, k.nodes.idxOf target), (x, k.nodes.idxOf n)])).1 = g' ∧
      Represents keyOf g'
        { k with links :=
            (sources.map fun n => ⟨n, relation, target⟩).foldl appendNew k.links } := by
  induction sources generalizing g k with
  | nil => exact ⟨g, rfl, h⟩
  | cons n rest ih =>
      have first : n ∈ k.nodes := hsources List.mem_cons_self
      let row : Row χ := [(y, k.nodes.idxOf target), (x, k.nodes.idxOf n)]
      have source : row.lookup x = some (k.nodes.idxOf n) := by
        simp [row, List.lookup_cons, beq_eq_false_iff_ne.mpr apart]
      have goal : row.lookup y = some (k.nodes.idxOf target) := by simp [row]
      obtain ⟨g', run, represents⟩ := h.mergeEdge ⟨n, relation, target⟩ first htarget source goal
      obtain ⟨g'', later, done⟩ := ih represents (fun m hm => hsources (List.mem_cons_of_mem n hm))
        htarget
      refine ⟨g'', ?_, done⟩
      rw [List.map_cons, runClause, run]
      exact later

end Represented

/-! ## Statements -/

/-- `MERGE` or `MATCH` of a named node. -/
def pick (keyOf : Λ → κ) (x : χ) (node : Bool × Ref Λ ν) : Clause Λ ρ κ ν χ :=
  if node.1 then .mergeNode x node.2.label (keyOf node.2.label) node.2.value
  else .matchNode x node.2.label (keyOf node.2.label) node.2.value

/-- The statement does this step. -/
inductive Implements (keyOf : Λ → κ) : Statement Λ ρ κ ν χ → Step Λ ρ κ ν → Prop
  | bare (x : χ) (n : Ref Λ ν) :
      Implements keyOf [.mergeNode x n.label (keyOf n.label) n.value] (.node n [])
  | node (x : χ) (n : Ref Λ ν) (assignments : List (κ × Option ν))
      (free : keyOf n.label ∉ assignments.map Prod.fst) :
      Implements keyOf [.mergeNode x n.label (keyOf n.label) n.value, .setProps x assignments]
        (.node n assignments)
  | forth (x y : χ) (apart : x ≠ y) (first second : Bool × Ref Λ ν) (relation : ρ) :
      Implements keyOf [pick keyOf x first, pick keyOf y second, .mergeEdge x relation y]
        (.link first second ⟨first.2, relation, second.2⟩)
  | back (x y : χ) (apart : x ≠ y) (first second : Bool × Ref Λ ν) (relation : ρ) :
      Implements keyOf [pick keyOf x first, pick keyOf y second, .mergeEdge y relation x]
        (.link first second ⟨second.2, relation, first.2⟩)
  | every (x y : χ) (apart : x ≠ y) (label : Λ) (key : κ) (value : ν) (relation : ρ)
      (target : Ref Λ ν) (other : key ≠ keyOf label) :
      Implements keyOf
        [.matchNode x label key value,
          .matchNode y target.label (keyOf target.label) target.value, .mergeEdge x relation y]
        (.linkWhere label key value relation target)

section Statements

variable {keyOf : Λ → κ} {g : PropertyGraph Λ ρ κ ν} {k : KeyedGraph Λ ρ κ ν}

theorem runClause_single {clause : Clause Λ ρ κ ν χ} {row : Row χ} {g' : PropertyGraph Λ ρ κ ν}
    {rows : List (Row χ)} (here : runRow clause g row = (g', rows)) :
    runClause clause g [row] = (g', rows) := by
  simp [runClause, here]

/-- A picked node is bound to its position. -/
theorem Represents.pick (h : Represents keyOf g k) (x : χ) {node : Bool × Ref Λ ν}
    (there : node.1 = false → node.2 ∈ k.nodes) (row : Row χ) :
    ∃ g' nodes, runClause (Graph.pick keyOf x node : Clause Λ ρ κ ν χ) g [row] =
        (g', [(x, nodes.idxOf node.2) :: row]) ∧ Represents keyOf g' { k with nodes } ∧
      nodes = (if node.1 then [node.2] else []).foldl appendNew k.nodes ∧ node.2 ∈ nodes := by
  obtain ⟨merged, n⟩ := node
  cases merged with
  | true =>
      obtain ⟨g', run, represents⟩ := h.mergeNode x n row
      exact ⟨g', _, runClause_single run, represents, rfl,
        mem_appendNew_self k.nodes n⟩
  | false =>
      have held : n ∈ k.nodes := there rfl
      exact ⟨g, k.nodes, runClause_single (h.matchNode x held row), h, rfl, held⟩

/-- A single row goes through the clauses of a statement. -/
theorem runClauses_cons {clause : Clause Λ ρ κ ν χ} {rest : Statement Λ ρ κ ν χ}
    {rows later : List (Row χ)} {g' : PropertyGraph Λ ρ κ ν}
    (here : runClause clause g rows = (g', later)) :
    runClauses g rows (clause :: rest) = runClauses g' later rest := by
  rw [runClauses, here]

/-- Two picked nodes, joined one way or the other. -/
theorem Represents.joinPicked (h : Represents keyOf g k) {x y : χ} (apart : x ≠ y)
    {first second : Bool × Ref Λ ν} (hfirst : first.1 = false → first.2 ∈ k.nodes)
    (hsecond : second.1 = false → second.2 ∈ k.nodes) (relation : ρ) (forth : Bool) :
    Represents keyOf
      (execute g [Graph.pick keyOf x first, Graph.pick keyOf y second,
        if forth then .mergeEdge x relation y else .mergeEdge y relation x])
      (Step.run k (.link first second
        (if forth then ⟨first.2, relation, second.2⟩ else ⟨second.2, relation, first.2⟩))) := by
  obtain ⟨g₁, nodes₁, run₁, h₁, same₁, held₁⟩ := h.pick x hfirst []
  have kept : k.nodes ⊆ nodes₁ := fun n hn => same₁ ▸ mem_foldl_appendNew.mpr (.inl hn)
  obtain ⟨g₂, nodes₂, run₂, h₂, same₂, held₂⟩ :=
    h₁.pick y (fun matched => kept (hsecond matched)) [(x, nodes₁.idxOf first.2)]
  have still : first.2 ∈ nodes₂ := same₂ ▸ mem_foldl_appendNew.mpr (.inl held₁)
  have stable : nodes₂.idxOf first.2 = nodes₁.idxOf first.2 := by
    rw [same₂]
    split
    case isTrue =>
        rw [List.foldl_cons, List.foldl_nil, appendNew]
        split
        case isTrue => rfl
        case isFalse => exact List.idxOf_append_of_mem held₁
    case isFalse => rfl
  have nodes : nodes₂ = (Step.link (κ := κ) first second ⟨first.2, relation, second.2⟩).merged.foldl
      appendNew k.nodes := by
    rw [Step.merged, List.foldl_append, ← same₁]
    exact same₂
  rw [execute, runClauses_cons run₁, runClauses_cons run₂]
  have hx : List.lookup x [(y, nodes₂.idxOf second.2), (x, nodes₁.idxOf first.2)] =
      some (nodes₂.idxOf first.2) := by
    simp [List.lookup_cons, beq_eq_false_iff_ne.mpr apart, stable]
  have hy : List.lookup y [(y, nodes₂.idxOf second.2), (x, nodes₁.idxOf first.2)] =
      some (nodes₂.idxOf second.2) := by simp
  cases forth with
  | true =>
      obtain ⟨g₃, run₃, h₃⟩ := h₂.mergeEdge ⟨first.2, relation, second.2⟩ still held₂ hx hy
      rw [if_pos rfl, runClauses_cons (runClause_single run₃)]
      subst nodes
      exact h₃
  | false =>
      obtain ⟨g₃, run₃, h₃⟩ := h₂.mergeEdge ⟨second.2, relation, first.2⟩ held₂ still hy hx
      rw [if_neg Bool.false_ne_true, runClauses_cons (runClause_single run₃)]
      subst nodes
      exact h₃

/-- **Simulation.** A statement does what its step does. -/
theorem Represents.execute (h : Represents keyOf g k) {statement : Statement Λ ρ κ ν χ}
    {step : Step Λ ρ κ ν} (implements : Implements keyOf statement step)
    (there : step.matched ⊆ k.nodes) :
    Represents keyOf (Graph.execute g statement) (step.run k) := by
  cases implements with
  | bare x n =>
      obtain ⟨g₁, run₁, h₁⟩ := h.mergeNode x n []
      have same : (Step.node n []).run k = { k with nodes := appendNew k.nodes n } := by
        refine KeyedGraph.ext rfl rfl ?_
        funext m key
        show ((Step.node n [] : Step Λ ρ κ ν).assigned m key).getD (k.props m key) = k.props m key
        rw [Step.assigned]
        split <;> rfl
      rw [Graph.execute, runClauses_cons (runClause_single run₁), same]
      exact h₁
  | node x n assignments free =>
      obtain ⟨g₁, run₁, h₁⟩ := h.mergeNode x n []
      have held : n ∈ appendNew k.nodes n :=
        mem_appendNew_self k.nodes n
      have bound : List.lookup x [(x, (appendNew k.nodes n).idxOf n)] =
          some ((appendNew k.nodes n).idxOf n) := by simp
      obtain ⟨g₂, run₂, h₂⟩ := h₁.setProps held bound free
      rw [Graph.execute, runClauses_cons (runClause_single run₁),
        runClauses_cons (runClause_single run₂)]
      exact h₂
  | forth x y apart first second relation =>
      refine h.joinPicked apart (fun matched => there ?_) (fun matched => there ?_) relation true
      · simp [Step.matched, matched]
      · simp [Step.matched, matched]
  | back x y apart first second relation =>
      refine h.joinPicked apart (fun matched => there ?_) (fun matched => there ?_) relation false
      · simp [Step.matched, matched]
      · simp [Step.matched, matched]
  | every x y apart label key value relation target other =>
      have held : target ∈ k.nodes := there (List.mem_singleton_self target)
      -- the rows are the nodes that answer, in order
      have answers : (k.nodes.filter fun n => Answers keyOf k label key value n) =
          k.nodes.filter fun n => n.label = label ∧ k.props n key = some value := by
        apply List.filter_congr
        intro n _
        rw [decide_eq_decide, Answers]
        constructor
        · rintro ⟨labelled, valued⟩
          rw [if_neg fun same => other (by rw [same, labelled])] at valued
          exact ⟨labelled, valued⟩
        · rintro ⟨labelled, valued⟩
          refine ⟨labelled, ?_⟩
          rw [if_neg fun same => other (by rw [same, labelled])]
          exact valued
      have run₁ : runClause (.matchNode x label key value : Clause Λ ρ κ ν χ) g [[]] =
          (g, (k.nodes.filter fun n => n.label = label ∧ k.props n key = some value).map fun n =>
            [(x, k.nodes.idxOf n)]) := by
        rw [← answers]
        apply runClause_single
        simp only [runRow, h.find_eq, List.map_map]
        rfl
      have run₂ (sources : List (Ref Λ ν)) :
          runClause (.matchNode y target.label (keyOf target.label) target.value :
              Clause Λ ρ κ ν χ) g (sources.map fun n => [(x, k.nodes.idxOf n)]) =
            (g, sources.map fun n => [(y, k.nodes.idxOf target), (x, k.nodes.idxOf n)]) := by
        induction sources with
        | nil => rfl
        | cons n rest ih =>
            rw [List.map_cons, runClause, h.matchNode y held]
            dsimp only
            rw [ih]
            rfl
      have subset : (k.nodes.filter fun n => n.label = label ∧ k.props n key = some value) ⊆
          k.nodes := List.filter_subset_self _
      obtain ⟨g₃, run₃, h₃⟩ := h.mergeEdges apart relation subset held
      rw [Graph.execute, runClauses_cons run₁, runClauses_cons (run₂ _), runClauses]
      show Represents keyOf (runClause _ _ _).1 _
      rw [run₃]
      exact h₃

/-- Every `MATCH` of the statement, when it is reached, finds a node, but for the
clauses that are exempt. -/
def Resolves (exempt : Clause Λ ρ κ ν χ → Prop) (g : PropertyGraph Λ ρ κ ν) (rows : List (Row χ)) :
    Statement Λ ρ κ ν χ → Prop
  | [] => True
  | clause :: rest =>
      (∀ x label key value, clause = .matchNode x label key value → ¬ exempt clause →
        g.find label key value ≠ []) ∧
      Resolves exempt (runClause clause g rows).1 (runClause clause g rows).2 rest

/-- The clause asks for nodes by a property that is no key. -/
def ByProperty (keyOf : Λ → κ) : Clause Λ ρ κ ν χ → Prop
  | .matchNode _ label key _ => key ≠ keyOf label
  | _ => False

theorem Represents.found (h : Represents keyOf g k) {n : Ref Λ ν} (held : n ∈ k.nodes) :
    g.find n.label (keyOf n.label) n.value ≠ [] := by
  rw [h.find_key, if_pos held]
  exact List.cons_ne_nil _ _

theorem Represents.pick_found (h : Represents keyOf g k) {y : χ} {node : Bool × Ref Λ ν}
    (there : node.1 = false → node.2 ∈ k.nodes) {x : χ} {label : Λ} {key : κ} {value : ν}
    (matched : (Graph.pick keyOf y node : Clause Λ ρ κ ν χ) = .matchNode x label key value) :
    g.find label key value ≠ [] := by
  obtain ⟨merged, n⟩ := node
  cases merged with
  | true => cases matched
  | false =>
      cases matched
      exact h.found (there rfl)

theorem Represents.resolvesPicked (h : Represents keyOf g k) {exempt : Clause Λ ρ κ ν χ → Prop}
    (x y : χ) {first second : Bool × Ref Λ ν} (hfirst : first.1 = false → first.2 ∈ k.nodes)
    (hsecond : second.1 = false → second.2 ∈ k.nodes) (a b : χ) (relation : ρ) :
    Resolves exempt g [[]]
      [Graph.pick keyOf x first, Graph.pick keyOf y second, .mergeEdge a relation b] := by
  obtain ⟨g₁, nodes₁, run₁, h₁, same₁, -⟩ := h.pick x hfirst []
  refine ⟨fun _ _ _ _ matched _ => h.pick_found hfirst matched, ?_, by rintro _ _ _ _ ⟨⟩, trivial⟩
  intro _ _ _ _ matched _
  rw [run₁]
  refine h₁.pick_found (fun picked => ?_) matched
  rw [same₁]
  exact mem_foldl_appendNew.mpr (.inl (hsecond picked))

/-- When the nodes a step matches are there, every `MATCH` by a key finds one. -/
theorem Represents.resolves (h : Represents keyOf g k) {statement : Statement Λ ρ κ ν χ}
    {step : Step Λ ρ κ ν} (implements : Implements keyOf statement step)
    (there : step.matched ⊆ k.nodes) : Resolves (ByProperty keyOf) g [[]] statement := by
  cases implements with
  | bare x n => exact ⟨by rintro _ _ _ _ ⟨⟩, trivial⟩
  | node x n assignments free =>
      exact ⟨by rintro _ _ _ _ ⟨⟩, by rintro _ _ _ _ ⟨⟩, trivial⟩
  | forth x y apart first second relation =>
      refine h.resolvesPicked x y (fun matched => there ?_) (fun matched => there ?_) _ _ _
      · simp [Step.matched, matched]
      · simp [Step.matched, matched]
  | back x y apart first second relation =>
      refine h.resolvesPicked x y (fun matched => there ?_) (fun matched => there ?_) _ _ _
      · simp [Step.matched, matched]
      · simp [Step.matched, matched]
  | every x y apart label key value relation target other =>
      have held : target ∈ k.nodes := there (List.mem_singleton_self target)
      refine ⟨?_, ?_, by rintro _ _ _ _ ⟨⟩, trivial⟩
      · rintro _ _ _ _ ⟨⟩ keyed
        exact absurd other keyed
      · rintro _ _ _ _ ⟨⟩ -
        have same : (runClause (.matchNode x label key value : Clause Λ ρ κ ν χ) g [[]]).1 = g :=
          rfl
        rw [same]
        exact h.found held

/-! ## Runs -/

/-- Every node a step matches is known, or merged by a step before it. -/
def Grounded (known : List (Ref Λ ν)) : List (Step Λ ρ κ ν) → Prop
  | [] => True
  | step :: rest => step.matched ⊆ known ∧ Grounded (known ++ step.merged) rest

theorem Grounded.mono {known more : List (Ref Λ ν)} {steps : List (Step Λ ρ κ ν)}
    (grounded : Grounded known steps) (subset : known ⊆ more) : Grounded more steps := by
  induction steps generalizing known more with
  | nil => trivial
  | cons step rest ih =>
      exact ⟨List.Subset.trans grounded.1 subset,
        ih grounded.2 (List.append_subset.mpr ⟨fun n hn => List.mem_append_left _ (subset hn),
          List.subset_append_right _ _⟩)⟩

/-- Grounded steps one after the other, each knowing what the earlier ones merged. -/
theorem grounded_append {known : List (Ref Λ ν)} {front back : List (Step Λ ρ κ ν)} :
    Grounded known (front ++ back) ↔
      Grounded known front ∧ Grounded (known ++ front.flatMap Step.merged) back := by
  induction front generalizing known with
  | nil => simp [Grounded]
  | cons step rest ih =>
      rw [List.cons_append, Grounded, Grounded, ih, List.flatMap_cons, List.append_assoc, and_assoc]

/-- A run of statements does what the run of their steps does, and every `MATCH`
by a key finds its node. -/
theorem Represents.run {statements : List (Statement Λ ρ κ ν χ)} {steps : List (Step Λ ρ κ ν)}
    (implements : List.Forall₂ (Implements keyOf) statements steps) {known : List (Ref Λ ν)}
    (grounded : Grounded known steps) (h : Represents keyOf g k) (hknown : known ⊆ k.nodes) :
    Represents keyOf (Graph.run g statements) (Step.runAll k steps) ∧
      ∀ before statement after, statements = before ++ statement :: after →
        Resolves (ByProperty keyOf) (Graph.run g before) [[]] statement := by
  induction implements generalizing g k known with
  | nil =>
      refine ⟨h, ?_⟩
      intro before statement after split
      simp at split
  | cons first rest ih =>
      rename_i statement step statements steps
      have here := List.Subset.trans grounded.1 hknown
      have next := h.execute first here
      have nodes : known ++ step.merged ⊆ (step.run k).nodes := by
        intro n hn
        rcases List.mem_append.mp hn with old | new
        · exact mem_foldl_appendNew.mpr (.inl (hknown old))
        · exact mem_foldl_appendNew.mpr (.inr new)
      obtain ⟨represents, resolves⟩ := ih grounded.2 next nodes
      refine ⟨represents, ?_⟩
      intro before other after split
      cases before with
      | nil =>
          obtain ⟨rfl, -⟩ := List.cons.inj split
          exact h.resolves first here
      | cons head before =>
          obtain ⟨rfl, later⟩ := List.cons.inj split
          exact resolves before other after later

/-- The same graph: nodes with the same labels and properties at the same
positions, and the same edges. -/
structure Same (g other : PropertyGraph Λ ρ κ ν) : Prop where
  length : g.nodes.length = other.nodes.length
  nodes : ∀ (i : Nat) node twin, g.nodes[i]? = some node → other.nodes[i]? = some twin →
    node.label = twin.label ∧ ∀ key, node.props.get? key = twin.props.get? key
  edges : g.edges = other.edges

/-- Two graphs that represent one keyed graph are the same. -/
theorem Represents.same {other : PropertyGraph Λ ρ κ ν} (h : Represents keyOf g k)
    (hother : Represents keyOf other k) : Same g other where
  length := h.length.trans hother.length.symm
  nodes := by
    intro i node twin hnode htwin
    have hi : i < k.nodes.length := h.length ▸ (List.getElem?_eq_some_iff.mp hnode).1
    have held := List.getElem?_eq_getElem hi
    have first := h.stands i node _ hnode held
    have second := hother.stands i twin _ htwin held
    exact ⟨first.label.trans second.label.symm, fun key => by rw [first.props, second.props]⟩
  edges := h.edges.trans hother.edges.symm

/-- An edge joins two named nodes. -/
def Joined (keyOf : Λ → κ) (g : PropertyGraph Λ ρ κ ν) (l : Link Λ ρ ν) : Prop :=
  ∃ i ∈ g.find l.source.label (keyOf l.source.label) l.source.value,
    ∃ j ∈ g.find l.target.label (keyOf l.target.label) l.target.value,
      ⟨i, l.relation, j⟩ ∈ g.edges

/-- The edges of a represented graph are its links. -/
theorem Represents.joined_iff (h : Represents keyOf g k) {l : Link Λ ρ ν} :
    Joined keyOf g l ↔ l ∈ k.links := by
  rw [Joined, h.find_key, h.find_key, h.edges]
  constructor
  · rintro ⟨i, hi, j, hj, joined⟩
    split at hi
    case isFalse => cases hi
    case isTrue source =>
        split at hj
        case isFalse => cases hj
        case isTrue target =>
            obtain rfl := List.mem_singleton.mp hi
            obtain rfl := List.mem_singleton.mp hj
            obtain ⟨other, hother, same⟩ := List.mem_map.mp joined
            simp only [position, Edge.mk.injEq] at same
            have ends := h.ends other hother
            have first := (List.idxOf_inj ends.1).mp same.1
            have second := (List.idxOf_inj ends.2).mp same.2.2
            cases other
            cases l
            simp_all
  · intro hl
    have ends := h.ends l hl
    rw [if_pos ends.1, if_pos ends.2]
    exact ⟨_, List.mem_singleton_self _, _, List.mem_singleton_self _, List.mem_map_of_mem hl⟩

end Statements

end SentinelIR.Graph
