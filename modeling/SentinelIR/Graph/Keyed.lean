/-
# Graphs whose nodes are named by a key

When every label has one key property, every node is merged on its key and no key
is ever assigned, a node is as good as its name: label and key value. A property
graph then stands for a keyed graph, in which nodes are names, edges join names
and a name has properties. Statements act on keyed graphs in three ways only: they
merge a node and assign to it, they join two named nodes, or they join every node
with a property value to a named one.
-/

import SentinelIR.Graph.Cypher

namespace SentinelIR.Graph

open SentinelIR.Py

set_option linter.unusedSectionVars false

variable {Λ ρ κ ν χ : Type} [DecidableEq Λ] [DecidableEq ρ] [DecidableEq κ] [DecidableEq ν]
  [DecidableEq χ]

/-- The name of a node: its label and the value of its key. -/
structure Ref (Λ ν : Type) where
  label : Λ
  value : ν
  deriving DecidableEq

/-- A relationship between two named nodes. -/
structure Link (Λ ρ ν : Type) where
  source : Ref Λ ν
  relation : ρ
  target : Ref Λ ν
  deriving DecidableEq

/-- A graph of named nodes; the key itself is not among the properties. -/
@[ext]
structure KeyedGraph (Λ ρ κ ν : Type) where
  nodes : List (Ref Λ ν)
  links : List (Link Λ ρ ν)
  props : Ref Λ ν → κ → Option ν

/-- The keyed graph of an empty database. -/
def KeyedGraph.empty : KeyedGraph Λ ρ κ ν := ⟨[], [], fun _ _ => none⟩

/-! ## Steps on names -/

/-- What a statement does to a keyed graph. -/
inductive Step (Λ ρ κ ν : Type)
  /-- Merge a node and assign to it. -/
  | node (n : Ref Λ ν) (assignments : List (κ × Option ν))
  /-- Join two nodes, each merged or matched. -/
  | link (first second : Bool × Ref Λ ν) (joined : Link Λ ρ ν)
  /-- Join every node with this property value to a matched one. -/
  | linkWhere (label : Λ) (key : κ) (value : ν) (relation : ρ) (target : Ref Λ ν)

namespace Step

/-- The nodes the step merges, in order. -/
def merged : Step Λ ρ κ ν → List (Ref Λ ν)
  | node n _ => [n]
  | link first second _ =>
      (if first.1 then [first.2] else []) ++ (if second.1 then [second.2] else [])
  | linkWhere _ _ _ _ _ => []

/-- The nodes the step matches. -/
def matched : Step Λ ρ κ ν → List (Ref Λ ν)
  | node _ _ => []
  | link first second _ =>
      (if first.1 then [] else [first.2]) ++ (if second.1 then [] else [second.2])
  | linkWhere _ _ _ _ target => [target]

/-- The value the step leaves in a property, if it assigns it. -/
def assigned (n : Ref Λ ν) (key : κ) : Step Λ ρ κ ν → Option (Option ν)
  | node m assignments =>
      if m = n then (assignments.reverse.find? fun a => a.1 = key).map Prod.snd else none
  | _ => none

/-- The links the step asks for. -/
def links (g : KeyedGraph Λ ρ κ ν) : Step Λ ρ κ ν → List (Link Λ ρ ν)
  | node _ _ => []
  | link _ _ joined => [joined]
  | linkWhere label key value relation target =>
      (g.nodes.filter fun n => n.label = label ∧ g.props n key = some value).map fun n =>
        ⟨n, relation, target⟩

/-- One step. -/
def run (g : KeyedGraph Λ ρ κ ν) (step : Step Λ ρ κ ν) : KeyedGraph Λ ρ κ ν where
  nodes := step.merged.foldl appendNew g.nodes
  links := (step.links g).foldl appendNew g.links
  props := fun n key => (step.assigned n key).getD (g.props n key)

/-- Steps in order. -/
def runAll (g : KeyedGraph Λ ρ κ ν) (steps : List (Step Λ ρ κ ν)) : KeyedGraph Λ ρ κ ν :=
  steps.foldl run g

/-- The step asks for no node by a property. -/
def Direct : Step Λ ρ κ ν → Prop
  | linkWhere _ _ _ _ _ => False
  | _ => True

/-- The step leaves the nodes of a label alone, and asks for no other nodes by a
property. -/
def Apart (label : Λ) : Step Λ ρ κ ν → Prop
  | linkWhere other _ _ _ _ => other = label
  | step => ∀ n ∈ step.merged, n.label ≠ label

/-! ## What a run leaves -/

theorem runAll_cons (g : KeyedGraph Λ ρ κ ν) (step : Step Λ ρ κ ν) (rest : List (Step Λ ρ κ ν)) :
    runAll g (step :: rest) = runAll (run g step) rest := rfl

theorem runAll_append (g : KeyedGraph Λ ρ κ ν) (front back : List (Step Λ ρ κ ν)) :
    runAll g (front ++ back) = runAll (runAll g front) back := List.foldl_append

theorem nodes_runAll (g : KeyedGraph Λ ρ κ ν) (steps : List (Step Λ ρ κ ν)) :
    (runAll g steps).nodes = (steps.flatMap merged).foldl appendNew g.nodes := by
  induction steps generalizing g with
  | nil => rfl
  | cons step rest ih => rw [runAll_cons, ih, List.flatMap_cons, List.foldl_append]; rfl

theorem mem_nodes_runAll {g : KeyedGraph Λ ρ κ ν} {steps : List (Step Λ ρ κ ν)} {n : Ref Λ ν} :
    n ∈ (runAll g steps).nodes ↔ n ∈ g.nodes ∨ ∃ step ∈ steps, n ∈ step.merged := by
  rw [nodes_runAll, mem_foldl_appendNew, List.mem_flatMap]

/-- The last assignment to a property. -/
def lastAssigned (steps : List (Step Λ ρ κ ν)) (n : Ref Λ ν) (key : κ) : Option (Option ν) :=
  steps.reverse.findSome? (assigned n key)

/-- A property holds what was assigned to it last. -/
theorem props_runAll (g : KeyedGraph Λ ρ κ ν) (steps : List (Step Λ ρ κ ν)) (n : Ref Λ ν)
    (key : κ) :
    (runAll g steps).props n key = (lastAssigned steps n key).getD (g.props n key) := by
  induction steps using List.reverseRecOn with
  | nil => rfl
  | append_singleton front last ih =>
      rw [runAll_append]
      show (assigned n key last).getD ((runAll g front).props n key) = _
      rw [ih, lastAssigned, lastAssigned, List.reverse_append, List.reverse_singleton,
        List.singleton_append, List.findSome?_cons]
      cases assigned n key last <;> rfl

theorem mem_merged_of_assigned {n : Ref Λ ν} {key : κ} {step : Step Λ ρ κ ν} {value : Option ν}
    (hvalue : step.assigned n key = some value) : n ∈ step.merged := by
  cases step with
  | node m assignments =>
      rw [assigned] at hvalue
      split at hvalue
      case isTrue same => exact List.mem_singleton.mpr same.symm
      case isFalse => cases hvalue
  | link => cases hvalue
  | linkWhere => cases hvalue

theorem links_subset_run (g : KeyedGraph Λ ρ κ ν) (step : Step Λ ρ κ ν) :
    g.links ⊆ (run g step).links := fun _ hl => mem_foldl_appendNew.mpr (.inl hl)

theorem links_subset_runAll (g : KeyedGraph Λ ρ κ ν) (steps : List (Step Λ ρ κ ν)) :
    g.links ⊆ (runAll g steps).links := by
  induction steps generalizing g with
  | nil => exact fun _ hl => hl
  | cons step rest ih => exact fun _ hl => ih (run g step) (links_subset_run g step hl)

/-- When every step that merges a node assigns one value, that value stays. -/
theorem lastAssigned_eq {steps : List (Step Λ ρ κ ν)} {n : Ref Λ ν} {key : κ} {value : Option ν}
    (agree : ∀ step ∈ steps, n ∈ step.merged → step.assigned n key = some value)
    (made : ∃ step ∈ steps, n ∈ step.merged) : lastAssigned steps n key = some value := by
  cases found : lastAssigned steps n key with
  | none =>
      obtain ⟨step, hstep, hn⟩ := made
      rw [lastAssigned, List.findSome?_eq_none_iff] at found
      have nothing := found step (List.mem_reverse.mpr hstep)
      rw [agree step hstep hn] at nothing
      cases nothing
  | some other =>
      obtain ⟨step, hstep, held⟩ := List.exists_of_findSome?_eq_some found
      have same := agree step (List.mem_reverse.mp hstep) (mem_merged_of_assigned held)
      exact held.symm.trans same

/-- Every link was there, or a step asked for it when its turn came. -/
theorem exists_of_mem_links {g : KeyedGraph Λ ρ κ ν} {steps : List (Step Λ ρ κ ν)}
    {l : Link Λ ρ ν} (hl : l ∈ (runAll g steps).links) :
    l ∈ g.links ∨ ∃ before step after, steps = before ++ step :: after ∧
      l ∈ step.links (runAll g before) := by
  induction steps using List.reverseRecOn with
  | nil => exact .inl hl
  | append_singleton front last ih =>
      rw [runAll_append] at hl
      rcases mem_foldl_appendNew.mp hl with held | asked
      · rcases ih held with old | ⟨before, step, after, rfl, asked⟩
        · exact .inl old
        · exact .inr ⟨before, step, after ++ [last], by simp, asked⟩
      · exact .inr ⟨front, last, [], rfl, asked⟩

/-- A link a direct step asks for is there in the end. -/
theorem mem_links_of_link {g : KeyedGraph Λ ρ κ ν} {steps : List (Step Λ ρ κ ν)}
    {first second : Bool × Ref Λ ν} {joined : Link Λ ρ ν}
    (asked : .link first second joined ∈ steps) :
    joined ∈ (runAll g steps).links := by
  obtain ⟨front, back, rfl⟩ := List.append_of_mem asked
  rw [runAll_append, runAll_cons]
  exact links_subset_runAll _ _ (mem_foldl_appendNew.mpr (.inr (List.mem_singleton_self _)))

theorem foldl_appendNew_of_subset {α : Type} [DecidableEq α] {held asked : List α}
    (subset : asked ⊆ held) : asked.foldl appendNew held = held := by
  induction asked with
  | nil => rfl
  | cons x rest ih =>
      rw [List.foldl_cons, appendNew, if_pos (subset List.mem_cons_self)]
      exact ih fun y hy => subset (List.mem_cons_of_mem x hy)

/-- A run that asks only for links that are there adds none. -/
theorem links_runAll_of_subset {g : KeyedGraph Λ ρ κ ν} {steps : List (Step Λ ρ κ ν)}
    (asked : ∀ front step back, steps = front ++ step :: back →
      step.links (runAll g front) ⊆ g.links) :
    (runAll g steps).links = g.links := by
  induction steps using List.reverseRecOn with
  | nil => rfl
  | append_singleton front last ih =>
      have before : (runAll g front).links = g.links := by
        apply ih
        rintro first step back rfl
        exact asked first step (back ++ [last]) (by simp)
      rw [runAll_append]
      show (last.links (runAll g front)).foldl appendNew (runAll g front).links = g.links
      rw [before]
      exact foldl_appendNew_of_subset (asked front last [] rfl)

/-- A label that the later steps leave alone has its nodes and properties from the
earlier ones. -/
theorem apart_run {label : Λ} {back : List (Step Λ ρ κ ν)} (apart : ∀ step ∈ back, step.Apart label)
    (g : KeyedGraph Λ ρ κ ν) {n : Ref Λ ν} (labelled : n.label = label) :
    (n ∈ (runAll g back).nodes ↔ n ∈ g.nodes) ∧
      ∀ key, (runAll g back).props n key = g.props n key := by
  have unmerged : ∀ step ∈ back, n ∉ step.merged := by
    intro step hstep hn
    have kept := apart step hstep
    cases step with
    | node m assignments => exact kept n hn labelled
    | link first second joined => exact kept n hn labelled
    | linkWhere => cases hn
  constructor
  · rw [mem_nodes_runAll]
    exact or_iff_left fun ⟨step, hstep, hn⟩ => unmerged step hstep hn
  · intro key
    have none : lastAssigned back n key = none := by
      rw [lastAssigned, List.findSome?_eq_none_iff]
      intro step hstep
      cases held : step.assigned n key with
      | none => rfl
      | some value =>
          exact absurd (mem_merged_of_assigned held) (unmerged step (List.mem_reverse.mp hstep))
    rw [props_runAll, none]
    rfl

/-- Steps after a front of direct ones that ask for nodes by a property. -/
theorem split_at_linkWhere {front back before after : List (Step Λ ρ κ ν)} {step : Step Λ ρ κ ν}
    (direct : ∀ other ∈ front, other.Direct) (asks : ¬ step.Direct)
    (split : front ++ back = before ++ step :: after) :
    ∃ mid, before = front ++ mid ∧ back = mid ++ step :: after := by
  rcases List.append_eq_append_iff.mp split with ⟨mid, hbefore, hback⟩ | ⟨mid, hfront, hback⟩
  · exact ⟨mid, hbefore, hback⟩
  · cases mid with
    | nil => exact ⟨[], by rw [hfront, List.append_nil, List.append_nil], hback.symm⟩
    | cons other mid =>
        obtain ⟨rfl, -⟩ := List.cons.inj hback
        exact absurd (direct step (by rw [hfront]; simp)) asks

/-- **Idempotence.** When every step that asks for nodes by a property comes after
the steps that make these nodes and assign to them, running the steps again
changes nothing. -/
theorem runAll_runAll {front back : List (Step Λ ρ κ ν)} {label : Λ}
    (direct : ∀ step ∈ front, step.Direct) (apart : ∀ step ∈ back, step.Apart label) :
    runAll (runAll KeyedGraph.empty (front ++ back)) (front ++ back) =
      runAll (KeyedGraph.empty : KeyedGraph Λ ρ κ ν) (front ++ back) := by
  have again (g : KeyedGraph Λ ρ κ ν) (steps : List (Step Λ ρ κ ν)) (n : Ref Λ ν) (key : κ)
      (held : g.props n key = (lastAssigned steps n key).getD none) :
      (runAll g steps).props n key = g.props n key := by
    rw [props_runAll, held]
    cases lastAssigned steps n key <;> rfl
  apply KeyedGraph.ext
  · rw [nodes_runAll]
    apply foldl_appendNew_of_subset
    intro n hn
    exact mem_nodes_runAll.mpr (.inr (List.mem_flatMap.mp hn))
  · apply links_runAll_of_subset
    intro before step after split
    cases step with
    | node n assignments => exact List.nil_subset _
    | link first second joined =>
        intro l hl
        rw [List.mem_singleton.mp hl]
        have asked : Step.link first second joined ∈ front ++ back := by
          rw [split]
          simp
        exact mem_links_of_link asked
    | linkWhere other key value relation target =>
        have asks : ¬ (linkWhere other key value relation target : Step Λ ρ κ ν).Direct :=
          fun h => h
        obtain ⟨mid, rfl, rfl⟩ := split_at_linkWhere direct asks split
        have same : other = label := apart (.linkWhere other key value relation target) (by simp)
        subst same
        intro l hl
        obtain ⟨n, hn, rfl⟩ := List.mem_map.mp hl
        obtain ⟨hmem, hprop⟩ := List.mem_filter.mp hn
        obtain ⟨labelled, valued⟩ := of_decide_eq_true hprop
        have between : ∀ step ∈ mid, step.Apart other :=
          fun step hstep => apart step (List.mem_append_left _ hstep)
        have kept := apart_run between
        -- in both runs the node and its property come from the front
        have whole := apart_run apart (runAll (KeyedGraph.empty : KeyedGraph Λ ρ κ ν) front)
          labelled
        rw [← runAll_append] at whole
        rw [runAll_append _ front mid] at hmem valued
        have source : n ∈ (runAll (KeyedGraph.empty : KeyedGraph Λ ρ κ ν) front).nodes := by
          rcases mem_nodes_runAll.mp ((kept _ labelled).1.mp hmem) with held | made
          · exact whole.1.mp held
          · exact mem_nodes_runAll.mpr (.inr made)
        have property : (runAll (KeyedGraph.empty : KeyedGraph Λ ρ κ ν) front).props n key =
            some value := by
          have first := (whole.2 key).trans (props_runAll _ front n key)
          rw [(kept _ labelled).2, again _ front n key first, whole.2] at valued
          exact valued
        rw [runAll_append, runAll_append, runAll_cons]
        apply links_subset_runAll
        refine mem_foldl_appendNew.mpr (.inr (List.mem_map_of_mem (List.mem_filter.mpr ⟨?_, ?_⟩)))
        · exact ((kept _ labelled).1).mpr source
        · rw [(kept _ labelled).2]
          exact decide_eq_true ⟨labelled, property⟩
  · funext n key
    exact again _ _ n key (props_runAll _ _ n key)

end Step

end SentinelIR.Graph
