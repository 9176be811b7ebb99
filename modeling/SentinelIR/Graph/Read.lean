/-
# The read language of a property graph

The part of Cypher that asks: a `MATCH` of the nodes with a label, of the neighbours of
a bound node along relationships, optional or not, and a condition on a property. What
a pattern asks of a graph is collected in a view, so that the same pattern can be asked
of a property graph and of the keyed graph it represents; `matchAll_map` says that both
give the same rows. A `RETURN` with aggregates groups the rows by its other columns.

Rows come in the order of the nodes and relationships. The language leaves that order
open, so nothing should be said of it but after an `ORDER BY`.
-/

import SentinelIR.Graph.Named

namespace SentinelIR.Graph

open SentinelIR.Py

set_option linter.unusedSectionVars false

variable {Λ ρ κ ν χ N M : Type} [DecidableEq Λ] [DecidableEq ρ] [DecidableEq κ] [DecidableEq ν]
  [DecidableEq χ]

/-! ## Views -/

/-- Along a relationship or against it. -/
inductive Direction
  | forth
  | back
  deriving DecidableEq

/-- What a pattern can ask of a graph with nodes in `N`: the nodes with a label, the
label of a node, its neighbours, once for each relationship, and its properties, null
where it has none. -/
structure View (N Λ ρ κ ν : Type) where
  labelled : Λ → List N
  hasLabel : Λ → N → Bool
  neighbours : Direction → N → ρ → List N
  property : N → κ → Option ν

/-- The node at a position has the label. -/
def PropertyGraph.hasLabel (g : PropertyGraph Λ ρ κ ν) (label : Λ) (i : Nat) : Bool :=
  g.nodes[i]?.any fun node => node.label = label

/-- A property graph, by the positions of its nodes. -/
def PropertyGraph.view (g : PropertyGraph Λ ρ κ ν) : View Nat Λ ρ κ ν where
  labelled label := (List.range g.nodes.length).filter (g.hasLabel label)
  hasLabel := g.hasLabel
  neighbours
    | .forth, i, relation =>
        (g.edges.filter fun e => e.source = i ∧ e.relation = relation).map (·.target)
    | .back, i, relation =>
        (g.edges.filter fun e => e.target = i ∧ e.relation = relation).map (·.source)
  property i key := g.nodes[i]?.bind fun node => node.props.get? key

/-- A keyed graph, by the names of its nodes. -/
def KeyedGraph.view (keyOf : Λ → κ) (k : KeyedGraph Λ ρ κ ν) : View (Ref Λ ν) Λ ρ κ ν where
  labelled label := k.nodes.filter fun n => n.label = label
  hasLabel label n := n ∈ k.nodes ∧ n.label = label
  neighbours
    | .forth, n, relation =>
        (k.links.filter fun l => l.source = n ∧ l.relation = relation).map (·.target)
    | .back, n, relation =>
        (k.links.filter fun l => l.target = n ∧ l.relation = relation).map (·.source)
  property n key :=
    if n ∈ k.nodes then if key = keyOf n.label then some n.value else k.props n key else none

/-- One view reads like another, whose nodes go by other names, different ones for
different nodes among those it holds. -/
structure Embeds (held : M → Prop) (f : M → N) (v : View M Λ ρ κ ν) (w : View N Λ ρ κ ν) :
    Prop where
  labelled : ∀ label, w.labelled label = (v.labelled label).map f
  hasLabel : ∀ label n, w.hasLabel label (f n) = v.hasLabel label n
  neighbours : ∀ direction n relation,
    w.neighbours direction (f n) relation = (v.neighbours direction n relation).map f
  property : ∀ n key, w.property (f n) key = v.property n key
  holds : ∀ label, ∀ n ∈ v.labelled label, held n
  reaches : ∀ direction n relation, ∀ m ∈ v.neighbours direction n relation, held m
  apart : ∀ n m, held n → held m → f n = f m → n = m

/-! ## Patterns -/

/-- A clause of a pattern. -/
inductive ReadClause (Λ ρ κ ν χ : Type)
  /-- `MATCH (x:Label)`. -/
  | nodes (x : χ) (label : Λ)
  /-- `MATCH (x)-[:TYPE]->(y:Label)`, or against the arrow, with `x` bound. -/
  | follow (x : χ) (direction : Direction) (relation : ρ) (y : χ) (label : Λ)
  /-- `OPTIONAL MATCH` of the same. -/
  | optional (x : χ) (direction : Direction) (relation : ρ) (y : χ) (label : Λ)
  /-- `WHERE` on a property of `x`. -/
  | keep (x : χ) (key : κ) (holds : Option ν → Bool)

/-- What the variables of a row are bound to; an optional one can be null. -/
abbrev Bindings (χ N : Type) := List (χ × Option N)

namespace Bindings

/-- The node of a variable. -/
def node (row : Bindings χ N) (x : χ) : Option N := (row.lookup x).join

/-- `x.key`, null where `x` is. -/
def value (v : View N Λ ρ κ ν) (row : Bindings χ N) (x : χ) (key : κ) : Option ν :=
  (row.node x).bind fun n => v.property n key

/-- The row, with its nodes named otherwise. -/
def rename (f : M → N) (row : Bindings χ M) : Bindings χ N :=
  row.map fun bound => (bound.1, bound.2.map f)

theorem node_rename (f : M → N) (row : Bindings χ M) (x : χ) :
    (rename f row).node x = (row.node x).map f := by
  have found : (rename f row).lookup x = (row.lookup x).map (Option.map f) := by
    induction row with
    | nil => rfl
    | cons bound rest ih =>
        rw [rename, List.map_cons, List.lookup_cons, List.lookup_cons, ← rename, ih]
        cases x == bound.1 <;> rfl
  rw [node, found, node]
  cases row.lookup x <;> rfl

theorem value_rename {held : M → Prop} {f : M → N} {v : View M Λ ρ κ ν} {w : View N Λ ρ κ ν}
    (h : Embeds held f v w)
    (row : Bindings χ M) (x : χ) (key : κ) : (rename f row).value w x key = row.value v x key := by
  rw [value, node_rename, value]
  cases row.node x with
  | none => rfl
  | some n => exact h.property n key

end Bindings

/-- The neighbours with a label of what a variable is bound to. -/
def reached (v : View N Λ ρ κ ν) (row : Bindings χ N) (x : χ) (direction : Direction) (relation : ρ)
    (label : Λ) : List N :=
  match row.node x with
  | some n => (v.neighbours direction n relation).filter (v.hasLabel label)
  | none => []

/-- One clause on one row. -/
def readRow (v : View N Λ ρ κ ν) (clause : ReadClause Λ ρ κ ν χ) (row : Bindings χ N) :
    List (Bindings χ N) :=
  match clause with
  | .nodes x label => (v.labelled label).map fun n => (x, some n) :: row
  | .follow x direction relation y label =>
      (reached v row x direction relation label).map fun n => (y, some n) :: row
  | .optional x direction relation y label =>
      match reached v row x direction relation label with
      | [] => [(y, none) :: row]
      | found => found.map fun n => (y, some n) :: row
  | .keep x key holds => if holds (row.value v x key) then [row] else []

/-- The rows of a pattern, from one row without bindings. -/
def matchAll (v : View N Λ ρ κ ν) (pattern : List (ReadClause Λ ρ κ ν χ)) : List (Bindings χ N) :=
  pattern.foldl (fun rows clause => rows.flatMap (readRow v clause)) [[]]

section Renamed

variable {held : M → Prop} {f : M → N} {v : View M Λ ρ κ ν} {w : View N Λ ρ κ ν}

theorem reached_rename (h : Embeds held f v w) (row : Bindings χ M) (x : χ)
    (direction : Direction) (relation : ρ) (label : Λ) :
    reached w (row.rename f) x direction relation label =
      (reached v row x direction relation label).map f := by
  rw [reached, Bindings.node_rename, reached]
  cases row.node x with
  | none => rfl
  | some n =>
      simp only [Option.map_some, h.neighbours, List.filter_map]
      congr 1
      exact List.filter_congr fun m _ => h.hasLabel label m

end Renamed

/-- What an optional variable is bound to: one of some nodes, or null where there is none. -/
def Optionally (nodes : List N) : Option N → Prop
  | some n => n ∈ nodes
  | none => nodes = []

theorem Optionally.exists_of_mem {nodes : List N} {found : Option N} {n : N}
    (chosen : Optionally nodes found) (hn : n ∈ nodes) : ∃ m ∈ nodes, found = some m := by
  cases found with
  | none => exact absurd (chosen : nodes = []) (List.ne_nil_of_mem hn)
  | some m => exact ⟨m, chosen, rfl⟩

section Members

variable {v : View N Λ ρ κ ν} {row later : Bindings χ N} {x y : χ} {direction : Direction}
  {relation : ρ} {label : Λ}

theorem mem_readRow_nodes : later ∈ readRow v (.nodes x label : ReadClause Λ ρ κ ν χ) row ↔
    ∃ n ∈ v.labelled label, later = (x, some n) :: row := by
  simp [readRow, eq_comm]

theorem mem_readRow_follow :
    later ∈ readRow v (.follow x direction relation y label : ReadClause Λ ρ κ ν χ) row ↔
      ∃ n ∈ reached v row x direction relation label, later = (y, some n) :: row := by
  simp [readRow, eq_comm]

theorem mem_readRow_optional :
    later ∈ readRow v (.optional x direction relation y label : ReadClause Λ ρ κ ν χ) row ↔
      ∃ found, later = (y, found) :: row ∧
        Optionally (reached v row x direction relation label) found := by
  rw [readRow]
  split
  case h_1 nothing =>
      rw [List.mem_singleton]
      constructor
      · rintro rfl
        exact ⟨none, rfl, nothing⟩
      · rintro ⟨found, rfl, reaches⟩
        cases found with
        | none => rfl
        | some n =>
            rw [Optionally, nothing] at reaches
            cases reaches
  case h_2 some =>
      rw [List.mem_map]
      constructor
      · rintro ⟨n, hn, rfl⟩
        exact ⟨_, rfl, hn⟩
      · rintro ⟨found, rfl, reaches⟩
        cases found with
        | none => exact absurd reaches some
        | some n => exact ⟨n, reaches, rfl⟩

theorem mem_readRow_keep {key : κ} {holds : Option ν → Bool} :
    later ∈ readRow v (.keep x key holds : ReadClause Λ ρ κ ν χ) row ↔
      holds (row.value v x key) = true ∧ later = row := by
  rw [readRow]
  split
  case isTrue kept => simp [kept]
  case isFalse dropped => simp [dropped]

end Members

section Embedded

variable {held : M → Prop} {f : M → N} {v : View M Λ ρ κ ν} {w : View N Λ ρ κ ν}

theorem readRow_rename (h : Embeds held f v w) (clause : ReadClause Λ ρ κ ν χ)
    (row : Bindings χ M) :
    readRow w clause (row.rename f) = (readRow v clause row).map (Bindings.rename f) := by
  cases clause with
  | nodes x label =>
      simp only [readRow, h.labelled, List.map_map]
      rfl
  | follow x direction relation y label =>
      simp only [readRow, reached_rename h, List.map_map]
      rfl
  | optional x direction relation y label =>
      simp only [readRow, reached_rename h]
      cases reached v row x direction relation label with
      | nil => rfl
      | cons n rest =>
          simp only [List.map_cons, List.map_map]
          rfl
  | keep x key holds =>
      simp only [readRow, Bindings.value_rename h]
      split <;> rfl

/-- **Patterns see views only up to names.** -/
theorem matchAll_map (h : Embeds held f v w) (pattern : List (ReadClause Λ ρ κ ν χ)) :
    matchAll w pattern = (matchAll v pattern).map (Bindings.rename f) := by
  induction pattern using List.reverseRecOn with
  | nil => rfl
  | append_singleton front last ih =>
      have snoc {K : Type} (u : View K Λ ρ κ ν) :
          matchAll u (front ++ [last]) = (matchAll u front).flatMap (readRow u last) :=
        List.foldl_append
      rw [snoc, snoc, ih, List.flatMap_map, List.map_flatMap]
      simp only [readRow_rename h]

/-- What a row binds is among the nodes the view holds. -/
theorem held_of_readRow (h : Embeds held f v w) {clause : ReadClause Λ ρ κ ν χ}
    {row later : Bindings χ M} (kept : ∀ bound ∈ row, ∀ n ∈ bound.2, held n)
    (hlater : later ∈ readRow v clause row) : ∀ bound ∈ later, ∀ n ∈ bound.2, held n := by
  have next (x : χ) (found : Option M) (fits : ∀ n ∈ found, held n) :
      ∀ bound ∈ (x, found) :: row, ∀ n ∈ bound.2, held n :=
    List.forall_mem_cons.mpr ⟨fits, kept⟩
  have reachable (x : χ) (direction : Direction) (relation : ρ) (label : Λ) :
      ∀ n ∈ reached v row x direction relation label, held n := by
    intro n hn
    rw [reached] at hn
    split at hn
    case h_1 m _ => exact h.reaches direction m relation n (List.mem_of_mem_filter hn)
    case h_2 => cases hn
  cases clause with
  | nodes x label =>
      obtain ⟨n, hn, rfl⟩ := List.mem_map.mp hlater
      exact next x (some n) fun m hm => Option.some.inj hm ▸ h.holds label n hn
  | follow x direction relation y label =>
      obtain ⟨n, hn, rfl⟩ := List.mem_map.mp hlater
      exact next y (some n) fun m hm =>
        Option.some.inj hm ▸ reachable x direction relation label n hn
  | optional x direction relation y label =>
      rw [readRow] at hlater
      split at hlater
      case h_1 =>
          rw [List.mem_singleton.mp hlater]
          exact next y none fun m hm => absurd hm (Option.not_mem_none m)
      case h_2 =>
          obtain ⟨n, hn, rfl⟩ := List.mem_map.mp hlater
          exact next y (some n) fun m hm =>
            Option.some.inj hm ▸ reachable x direction relation label n hn
  | keep x key holds =>
      rw [readRow] at hlater
      split at hlater
      case isTrue =>
          rw [List.mem_singleton.mp hlater]
          exact kept
      case isFalse => cases hlater

theorem held_of_matchAll (h : Embeds held f v w) {pattern : List (ReadClause Λ ρ κ ν χ)}
    {row : Bindings χ M} (hrow : row ∈ matchAll v pattern) :
    ∀ bound ∈ row, ∀ n ∈ bound.2, held n := by
  induction pattern using List.reverseRecOn generalizing row with
  | nil =>
      rw [List.mem_singleton.mp hrow]
      exact fun bound hbound => absurd hbound List.not_mem_nil
  | append_singleton front last ih =>
      rw [matchAll, List.foldl_append] at hrow
      obtain ⟨before, hbefore, hrow⟩ := List.mem_flatMap.mp hrow
      exact held_of_readRow h (ih hbefore) hrow

end Embedded

/-! ## Trails -/

/-- The starts of the trails of at most so many relationships of a type into a node,
each with its length. A trail takes no relationship twice; among those of one type a
relationship is given by its ends, since `MERGE` draws it once. -/
def trailsInto [DecidableEq N] (v : View N Λ ρ κ ν) (relation : ρ) :
    Nat → List (N × N) → N → List (N × Nat)
  | 0, _, _ => []
  | hops + 1, taken, n =>
      ((v.neighbours .back n relation).filter fun m => (m, n) ∉ taken).flatMap fun m =>
        (m, 1) :: (trailsInto v relation hops ((m, n) :: taken) m).map fun trail =>
          (trail.1, trail.2 + 1)

theorem trailsInto_rename [DecidableEq M] [DecidableEq N] {held : M → Prop} {f : M → N}
    {v : View M Λ ρ κ ν} {w : View N Λ ρ κ ν} (h : Embeds held f v w) (relation : ρ) (hops : Nat)
    {taken : List (M × M)} {n : M} (hn : held n)
    (known : ∀ pair ∈ taken, held pair.1 ∧ held pair.2) :
    trailsInto w relation hops (taken.map (Prod.map f f)) (f n) =
        (trailsInto v relation hops taken n).map (Prod.map f id) ∧
      ∀ trail ∈ trailsInto v relation hops taken n, held trail.1 := by
  induction hops generalizing taken n with
  | zero => exact ⟨rfl, by rintro trail ⟨⟩⟩
  | succ hops ih =>
      have fresh : ∀ m ∈ v.neighbours .back n relation,
          decide ((f m, f n) ∉ taken.map (Prod.map f f)) = decide ((m, n) ∉ taken) := by
        intro m hm
        rw [decide_eq_decide, not_iff_not]
        refine ⟨fun found => ?_, List.mem_map_of_mem⟩
        obtain ⟨⟨a, b⟩, hab, same⟩ := List.mem_map.mp found
        obtain ⟨first, second⟩ := Prod.mk.inj same
        have ends := known _ hab
        rwa [← h.apart a m ends.1 (h.reaches _ _ _ m hm) first, ← h.apart b n ends.2 hn second]
      have next : ∀ m ∈ (v.neighbours .back n relation).filter fun m => (m, n) ∉ taken,
          trailsInto w relation hops ((f m, f n) :: taken.map (Prod.map f f)) (f m) =
              (trailsInto v relation hops ((m, n) :: taken) m).map (Prod.map f id) ∧
            ∀ trail ∈ trailsInto v relation hops ((m, n) :: taken) m, held trail.1 := by
        intro m hm
        have hm := h.reaches _ _ _ m (List.mem_of_mem_filter hm)
        have longer : ∀ pair ∈ (m, n) :: taken, held pair.1 ∧ held pair.2 :=
          List.forall_mem_cons.mpr ⟨⟨hm, hn⟩, known⟩
        exact ih hm longer
      constructor
      · have kept : ((v.neighbours .back n relation).map f).filter
            (fun m => (m, f n) ∉ taken.map (Prod.map f f)) =
              ((v.neighbours .back n relation).filter fun m => (m, n) ∉ taken).map f := by
          rw [List.filter_map]
          congr 1
          exact List.filter_congr fresh
        rw [trailsInto, h.neighbours, kept, List.flatMap_map, trailsInto, List.map_flatMap]
        apply List.flatMap_congr
        intro m hm
        rw [(next m hm).1]
        simp [Function.comp_def]
      · intro trail htrail
        obtain ⟨m, hm, htrail⟩ := List.mem_flatMap.mp htrail
        rcases List.mem_cons.mp htrail with rfl | later
        · exact h.reaches _ _ _ m (List.mem_of_mem_filter hm)
        · obtain ⟨rest, hrest, rfl⟩ := List.mem_map.mp later
          exact (next m hm).2 rest hrest

/-! ## The view of a represented graph -/

/-- A position holds the node its name names, if there is one. -/
theorem Represents.stands_at {keyOf : Λ → κ} {g : PropertyGraph Λ ρ κ ν}
    {k : KeyedGraph Λ ρ κ ν} (h : Represents keyOf g k) (n : Ref Λ ν) :
    if n ∈ k.nodes then
      ∃ node, g.nodes[k.nodes.idxOf n]? = some node ∧ Stands keyOf k.props node n
    else g.nodes[k.nodes.idxOf n]? = none := by
  split
  case isTrue held =>
      have hi : k.nodes.idxOf n < k.nodes.length := List.idxOf_lt_length_iff.mpr held
      have there : k.nodes.idxOf n < g.nodes.length := h.length ▸ hi
      refine ⟨_, List.getElem?_eq_getElem there,
        h.stands _ _ n (List.getElem?_eq_getElem there) ?_⟩
      rw [List.getElem?_eq_getElem hi, List.getElem_idxOf hi]
  case isFalse absent =>
      apply List.getElem?_eq_none
      rw [h.length, List.idxOf_eq_length absent]

theorem Represents.hasLabel {keyOf : Λ → κ} {g : PropertyGraph Λ ρ κ ν}
    {k : KeyedGraph Λ ρ κ ν} (h : Represents keyOf g k) (label : Λ) (n : Ref Λ ν) :
    g.hasLabel label (k.nodes.idxOf n) = decide (n ∈ k.nodes ∧ n.label = label) := by
  have at_ := h.stands_at n
  rw [PropertyGraph.hasLabel]
  split at at_
  case isTrue held =>
      obtain ⟨node, found, stands⟩ := at_
      rw [found, Option.any_some, stands.label, decide_eq_decide]
      exact (and_iff_right held).symm
  case isFalse absent =>
      rw [at_, Option.any_none]
      exact (decide_eq_false fun named => absent named.1).symm

/-- Choosing and renaming, pointwise. -/
theorem filter_map_rename {α β γ δ : Type} {xs : List α} {p : α → β} {q : β → Bool}
    {q' : α → Bool} {t : β → γ} {t' : α → δ} {f : δ → γ}
    (chosen : ∀ x ∈ xs, q (p x) = q' x) (renamed : ∀ x ∈ xs, t (p x) = f (t' x)) :
    ((xs.map p).filter q).map t = ((xs.filter q').map t').map f := by
  rw [List.filter_map, List.map_map, List.map_map]
  have same : xs.filter (q ∘ p) = xs.filter q' := List.filter_congr chosen
  rw [same]
  exact List.map_congr_left fun x hx => renamed x (List.mem_of_mem_filter hx)

/-- A property graph reads like the keyed graph it represents. -/
theorem Represents.embeds {keyOf : Λ → κ} {g : PropertyGraph Λ ρ κ ν} {k : KeyedGraph Λ ρ κ ν}
    (h : Represents keyOf g k) : Embeds (· ∈ k.nodes) k.nodes.idxOf (k.view keyOf) g.view where
  labelled label := by
    have labels : ∀ n ∈ k.nodes,
        g.hasLabel label (k.nodes.idxOf n) = decide (n.label = label) := by
      intro n hn
      rw [h.hasLabel, decide_eq_decide]
      exact and_iff_right hn
    rw [PropertyGraph.view, KeyedGraph.view]
    dsimp only
    rw [h.length, ← map_idxOf h.nodup, List.filter_map]
    congr 1
    exact List.filter_congr labels
  hasLabel := h.hasLabel
  neighbours direction n relation := by
    have named {m : Ref Λ ν} (hm : m ∈ k.nodes) :
        k.nodes.idxOf m = k.nodes.idxOf n ↔ m = n := List.idxOf_inj hm
    cases direction with
    | forth =>
        simp only [PropertyGraph.view, KeyedGraph.view, h.edges]
        apply filter_map_rename
        · intro l hl
          rw [decide_eq_decide, position, named (h.ends l hl).1]
        · exact fun l _ => rfl
    | back =>
        simp only [PropertyGraph.view, KeyedGraph.view, h.edges]
        apply filter_map_rename
        · intro l hl
          rw [decide_eq_decide, position, named (h.ends l hl).2]
        · exact fun l _ => rfl
  property n key := by
    have at_ := h.stands_at n
    simp only [PropertyGraph.view, KeyedGraph.view]
    split at at_
    case isTrue held =>
        obtain ⟨node, found, stands⟩ := at_
        rw [found, if_pos held]
        exact stands.props key
    case isFalse absent =>
        rw [at_, if_neg absent]
        rfl
  holds label n hn := (List.mem_filter.mp hn).1
  reaches direction n relation m hm := by
    cases direction with
    | forth =>
        obtain ⟨l, hl, rfl⟩ := List.mem_map.mp hm
        exact (h.ends l (List.mem_of_mem_filter hl)).2
    | back =>
        obtain ⟨l, hl, rfl⟩ := List.mem_map.mp hm
        exact (h.ends l (List.mem_of_mem_filter hl)).1
  apart n m hn _ same := (List.idxOf_inj hn).mp same

/-! ## What a view of names holds -/

section Names

variable {keyOf : Λ → κ} {k : KeyedGraph Λ ρ κ ν} {n m : Ref Λ ν} {relation : ρ} {label : Λ}

theorem mem_labelled : n ∈ (k.view keyOf).labelled label ↔ n ∈ k.nodes ∧ n.label = label := by
  simp [KeyedGraph.view]

theorem mem_neighbours_forth :
    m ∈ (k.view keyOf).neighbours .forth n relation ↔ ⟨n, relation, m⟩ ∈ k.links := by
  simp only [KeyedGraph.view, List.mem_map, List.mem_filter, decide_eq_true_eq]
  constructor
  · rintro ⟨l, ⟨hl, rfl, rfl⟩, rfl⟩
    exact hl
  · exact fun hl => ⟨_, ⟨hl, rfl, rfl⟩, rfl⟩

theorem mem_neighbours_back :
    m ∈ (k.view keyOf).neighbours .back n relation ↔ ⟨m, relation, n⟩ ∈ k.links := by
  simp only [KeyedGraph.view, List.mem_map, List.mem_filter, decide_eq_true_eq]
  constructor
  · rintro ⟨l, ⟨hl, rfl, rfl⟩, rfl⟩
    exact hl
  · exact fun hl => ⟨_, ⟨hl, rfl, rfl⟩, rfl⟩

theorem hasLabel_iff : (k.view keyOf).hasLabel label n = true ↔ n ∈ k.nodes ∧ n.label = label := by
  simp [KeyedGraph.view]

theorem property_key (held : n ∈ k.nodes) :
    (k.view keyOf).property n (keyOf n.label) = some n.value := by
  simp [KeyedGraph.view, held]

theorem property_of_ne {key : κ} (held : n ∈ k.nodes) (other : key ≠ keyOf n.label) :
    (k.view keyOf).property n key = k.props n key := by
  simp [KeyedGraph.view, held, other]

end Names

/-! ## Results -/

/-- Every value once. -/
def distinct {β : Type} [DecidableEq β] (values : List β) : List β := values.foldl appendNew []

@[simp]
theorem mem_distinct {β : Type} [DecidableEq β] {values : List β} {value : β} :
    value ∈ distinct values ↔ value ∈ values := by
  rw [distinct, mem_foldl_appendNew]
  exact or_iff_right List.not_mem_nil

theorem nodup_distinct {β : Type} [DecidableEq β] (values : List β) : (distinct values).Nodup :=
  nodup_foldl_appendNew List.nodup_nil

/-- The groups of an aggregating `RETURN`, under the values of its other columns. -/
def grouped {α β : Type} [DecidableEq β] (key : α → β) (rows : List α) : List (β × List α) :=
  (distinct (rows.map key)).map fun value => (value, rows.filter fun row => key row = value)

theorem mem_grouped {α β : Type} [DecidableEq β] {key : α → β} {rows : List α} {value : β}
    {group : List α} :
    (value, group) ∈ grouped key rows ↔
      (∃ row ∈ rows, key row = value) ∧ group = rows.filter fun row => key row = value := by
  simp only [grouped, List.mem_map, mem_distinct, Prod.mk.injEq]
  constructor
  · rintro ⟨_, made, rfl, rfl⟩
    exact ⟨made, rfl⟩
  · rintro ⟨made, rfl⟩
    exact ⟨value, made, rfl, rfl⟩

/-- `collect(DISTINCT …)`, which passes over nulls. -/
def collectDistinct {α β : Type} [DecidableEq β] (column : α → Option β) (rows : List α) :
    List β :=
  distinct (rows.filterMap column)

/-- Renaming keeps apart what it finds. -/
theorem distinct_map {α β : Type} [DecidableEq α] [DecidableEq β] {f : α → β} {values : List α}
    (apart : ∀ x ∈ values, ∀ y ∈ values, f x = f y → x = y) :
    distinct (values.map f) = (distinct values).map f := by
  induction values using List.reverseRecOn with
  | nil => rfl
  | append_singleton front last ih =>
      have snoc {γ : Type} [DecidableEq γ] (xs : List γ) (x : γ) :
          distinct (xs ++ [x]) = appendNew (distinct xs) x := List.foldl_append
      have before := ih fun x hx y hy =>
        apart x (List.mem_append_left _ hx) y (List.mem_append_left _ hy)
      have seen : f last ∈ (distinct front).map f ↔ last ∈ distinct front := by
        refine ⟨fun found => ?_, List.mem_map_of_mem⟩
        obtain ⟨x, hx, same⟩ := List.mem_map.mp found
        have member := List.mem_append_left [last] (mem_distinct.mp hx)
        rwa [← apart x member last (List.mem_append_right _ (List.mem_singleton_self _)) same]
      rw [List.map_append, List.map_singleton, snoc, snoc, before, appendNew, appendNew]
      by_cases here : last ∈ distinct front
      · rw [if_pos here, if_pos (seen.mpr here)]
      · rw [if_neg here, if_neg fun found => here (seen.mp found), List.map_append,
          List.map_singleton]

/-- Grouping sees rows only through its key. -/
theorem grouped_map {α β γ : Type} [DecidableEq β] {key : α → β} {other : γ → β} {f : γ → α}
    (same : ∀ row, key (f row) = other row) (rows : List γ) :
    grouped key (rows.map f) = (grouped other rows).map fun group => (group.1, group.2.map f) := by
  have keys : (rows.map f).map key = rows.map other := by
    rw [List.map_map]
    exact List.map_congr_left fun row _ => same row
  rw [grouped, keys, grouped, List.map_map]
  apply List.map_congr_left
  intro value _
  simp only [Function.comp_def, List.filter_map, same]

/-- Neither does it mind that keys are renamed, as long as they stay apart. -/
theorem grouped_rename {α β γ : Type} [DecidableEq α] [DecidableEq β] {f : α → β}
    {rows : List (α × γ)} (apart : ∀ x ∈ rows.map Prod.fst, ∀ y ∈ rows.map Prod.fst,
      f x = f y → x = y) :
    grouped Prod.fst (rows.map (Prod.map f id)) =
      (grouped Prod.fst rows).map fun group => (f group.1, group.2.map (Prod.map f id)) := by
  have keys : (rows.map (Prod.map f id)).map Prod.fst = (rows.map Prod.fst).map f := by
    rw [List.map_map, List.map_map]
    rfl
  rw [grouped, keys, distinct_map apart, grouped, List.map_map, List.map_map]
  apply List.map_congr_left
  intro value hvalue
  have chosen : rows.filter (fun row => f row.1 = f value) =
      rows.filter fun row => row.1 = value := by
    apply List.filter_congr
    intro row hrow
    rw [decide_eq_decide]
    exact ⟨apart _ (List.mem_map_of_mem hrow) _ (mem_distinct.mp hvalue), congrArg f⟩
  simp only [Function.comp_def, List.filter_map, Prod.map_fst, chosen]

/-- Rows that agree are one group. -/
theorem grouped_of_agree {α β : Type} [DecidableEq β] {key : α → β} {rows : List α} {value : β}
    (some : rows ≠ []) (agree : ∀ row ∈ rows, key row = value) :
    grouped key rows = [(value, rows)] := by
  have keys : distinct (rows.map key) = [value] := by
    have one : ∀ found ∈ distinct (rows.map key), found = value := by
      intro found hfound
      obtain ⟨row, hrow, rfl⟩ := List.mem_map.mp (mem_distinct.mp hfound)
      exact agree row hrow
    obtain ⟨row, hrow⟩ := List.exists_mem_of_ne_nil rows some
    have held : value ∈ distinct (rows.map key) :=
      mem_distinct.mpr (agree row hrow ▸ List.mem_map_of_mem hrow)
    have replicate := List.eq_replicate_of_mem one
    have nodup := nodup_distinct (rows.map key)
    rw [replicate, List.nodup_replicate] at nodup
    rw [replicate] at held ⊢
    have length : (distinct (rows.map key)).length = 1 :=
      le_antisymm nodup (Nat.pos_of_ne_zero (List.mem_replicate.mp held).1)
    rw [length]
    rfl
  rw [grouped, keys, List.map_singleton, List.filter_eq_self.mpr]
  exact fun row hrow => decide_eq_true (agree row hrow)

theorem group_subset {α β : Type} [DecidableEq β] {key : α → β} {rows : List α}
    {group : β × List α} (hgroup : group ∈ grouped key rows) : group.2 ⊆ rows := by
  obtain ⟨value, -, rfl⟩ := List.mem_map.mp hgroup
  exact List.filter_subset_self _

/-- A null comes after every value. -/
def nullsLast {β : Type} (column : Option β) : WithTop β := column

end SentinelIR.Graph
