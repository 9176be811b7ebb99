/-
# A small property graph and its write language

A labelled property graph and the part of Cypher that builds one: `MERGE` and
`MATCH` of a node by one property, `SET` of properties, and `MERGE` of a
relationship between bound nodes. A statement is a sequence of clauses over a
table of rows, each row binding variables to nodes; a clause runs once per row.

Labels, relationship types, property names, values and variables are
parameters. The main fact is `keyColumn_run`: when a label is merged only at the
head of statements, always on one key, the nodes with that label are exactly the
distinct key values merged, in order of first appearance.
-/

import SentinelIR.Py.Dict

namespace SentinelIR.Graph

open SentinelIR.Py

set_option linter.unusedSectionVars false

variable {Λ ρ κ ν χ : Type} [DecidableEq Λ] [DecidableEq ρ] [DecidableEq κ] [DecidableEq ν]
  [DecidableEq χ]

/-- A node: its label and its properties. -/
structure Node (Λ κ ν : Type) where
  label : Λ
  props : Dict κ ν

/-- A relationship between two nodes, given by their positions. -/
structure Edge (ρ : Type) where
  source : Nat
  relation : ρ
  target : Nat
  deriving DecidableEq

/-- A property graph; a node is named by its position, which never changes. -/
structure PropertyGraph (Λ ρ κ ν : Type) where
  nodes : List (Node Λ κ ν)
  edges : List (Edge ρ)

namespace PropertyGraph

/-- The graph of an empty database. -/
def empty : PropertyGraph Λ ρ κ ν := ⟨[], []⟩

/-- The positions of the nodes with a label and a property value. -/
def find (g : PropertyGraph Λ ρ κ ν) (label : Λ) (key : κ) (value : ν) : List Nat :=
  (List.range g.nodes.length).filter fun i =>
    g.nodes[i]?.any fun node => node.label = label && node.props.get? key = some value

/-- The graph with one more node, carrying one property. -/
def addNode (g : PropertyGraph Λ ρ κ ν) (label : Λ) (key : κ) (value : ν) :
    PropertyGraph Λ ρ κ ν :=
  { g with nodes := g.nodes ++ [⟨label, Dict.empty.set key value⟩] }

/-- The graph with the relationship, once. -/
def mergeEdge (g : PropertyGraph Λ ρ κ ν) (edge : Edge ρ) : PropertyGraph Λ ρ κ ν :=
  if edge ∈ g.edges then g else { g with edges := g.edges ++ [edge] }

/-- Set or, with no value, remove one property of one node. -/
def assign (g : PropertyGraph Λ ρ κ ν) (i : Nat) (key : κ) (value : Option ν) :
    PropertyGraph Λ ρ κ ν :=
  { g with
    nodes := g.nodes.modify i fun node =>
      { node with
        props := match value with
          | some held => node.props.set key held
          | none => node.props.erase key } }

end PropertyGraph

/-! ## Clauses and statements -/

/-- The clauses of a write statement, with their parameters filled in. -/
inductive Clause (Λ ρ κ ν χ : Type)
  /-- `MERGE (x:Label {key: value})`. -/
  | mergeNode (x : χ) (label : Λ) (key : κ) (value : ν)
  /-- `MATCH (x:Label {key: value})`. -/
  | matchNode (x : χ) (label : Λ) (key : κ) (value : ν)
  /-- `SET x.key = value, …`; assigning null removes the property. -/
  | setProps (x : χ) (assignments : List (κ × Option ν))
  /-- `MERGE (x)-[:TYPE]->(y)`. -/
  | mergeEdge (x : χ) (relation : ρ) (y : χ)

/-- A row binds variables to nodes. -/
abbrev Row (χ : Type) := List (χ × Nat)

/-- A statement. -/
abbrev Statement (Λ ρ κ ν χ : Type) := List (Clause Λ ρ κ ν χ)

/-- One clause on one row: the graph it leaves and the rows it hands on. -/
def runRow (clause : Clause Λ ρ κ ν χ) (g : PropertyGraph Λ ρ κ ν) (row : Row χ) :
    PropertyGraph Λ ρ κ ν × List (Row χ) :=
  match clause with
  | .mergeNode x label key value =>
      match g.find label key value with
      | [] => (g.addNode label key value, [(x, g.nodes.length) :: row])
      | found => (g, found.map fun i => (x, i) :: row)
  | .matchNode x label key value =>
      (g, (g.find label key value).map fun i => (x, i) :: row)
  | .setProps x assignments =>
      match row.lookup x with
      | some i => (assignments.foldl (fun g a => g.assign i a.1 a.2) g, [row])
      | none => (g, [row])
  | .mergeEdge x relation y =>
      match row.lookup x, row.lookup y with
      | some i, some j => (g.mergeEdge ⟨i, relation, j⟩, [row])
      | _, _ => (g, [row])

/-- One clause over all rows, in order. -/
def runClause (clause : Clause Λ ρ κ ν χ) (g : PropertyGraph Λ ρ κ ν) :
    List (Row χ) → PropertyGraph Λ ρ κ ν × List (Row χ)
  | [] => (g, [])
  | row :: rows =>
      let (g, here) := runRow clause g row
      let (g, later) := runClause clause g rows
      (g, here ++ later)

/-- The clauses of a statement, each on the rows of the one before. -/
def runClauses (g : PropertyGraph Λ ρ κ ν) (rows : List (Row χ)) :
    Statement Λ ρ κ ν χ → PropertyGraph Λ ρ κ ν
  | [] => g
  | clause :: rest =>
      let (g, rows) := runClause clause g rows
      runClauses g rows rest

/-- A statement starts from one row without bindings. -/
def execute (g : PropertyGraph Λ ρ κ ν) (statement : Statement Λ ρ κ ν χ) :
    PropertyGraph Λ ρ κ ν :=
  runClauses g [[]] statement

/-- A list of statements, in order. -/
def run (g : PropertyGraph Λ ρ κ ν) (statements : List (Statement Λ ρ κ ν χ)) :
    PropertyGraph Λ ρ κ ν :=
  statements.foldl execute g

theorem run_append (g : PropertyGraph Λ ρ κ ν) (first second : List (Statement Λ ρ κ ν χ)) :
    run g (first ++ second) = run (run g first) second := List.foldl_append

/-! ## The nodes of one label -/

/-- The key property of every node with the label, in creation order. -/
def keyColumn (label : Λ) (key : κ) (g : PropertyGraph Λ ρ κ ν) : List (Option ν) :=
  (g.nodes.filter fun node => node.label = label).map (·.props.get? key)

@[simp]
theorem keyColumn_empty (label : Λ) (key : κ) :
    keyColumn label key (PropertyGraph.empty : PropertyGraph Λ ρ κ ν) = [] := rfl

theorem find_eq_nil_iff {g : PropertyGraph Λ ρ κ ν} {label : Λ} {key : κ} {value : ν} :
    g.find label key value = [] ↔ some value ∉ keyColumn label key g := by
  simp only [PropertyGraph.find, List.filter_eq_nil_iff, List.mem_range, keyColumn, List.mem_map,
    List.mem_filter, not_exists, not_and]
  constructor
  · rintro absent node ⟨hnode, hlabel⟩ hvalue
    obtain ⟨i, hi, hget⟩ := List.mem_iff_getElem.mp hnode
    apply absent i hi
    simp only [List.getElem?_eq_getElem hi, Option.any_some, hget, Bool.and_eq_true,
      decide_eq_true_eq]
    exact ⟨of_decide_eq_true hlabel, hvalue⟩
  · intro absent i hi hfound
    simp only [List.getElem?_eq_getElem hi, Option.any_some, Bool.and_eq_true,
      decide_eq_true_eq] at hfound
    exact absent g.nodes[i] ⟨List.getElem_mem hi, by simpa using hfound.1⟩ hfound.2

theorem keyColumn_addNode {g : PropertyGraph Λ ρ κ ν} {label other : Λ} {key property : κ}
    {value : ν} (hkey : other = label → property = key) :
    keyColumn label key (g.addNode other property value) =
      if other = label then keyColumn label key g ++ [some value] else keyColumn label key g := by
  by_cases same : other = label
  · obtain rfl := hkey same
    simp [keyColumn, PropertyGraph.addNode, same, Dict.get?_set]
  · simp [keyColumn, PropertyGraph.addNode, same]

@[simp]
theorem keyColumn_mergeEdge (g : PropertyGraph Λ ρ κ ν) (edge : Edge ρ) (label : Λ) (key : κ) :
    keyColumn label key (g.mergeEdge edge) = keyColumn label key g := by
  rw [PropertyGraph.mergeEdge]
  split <;> rfl

/-- Assigning another property leaves the key column alone. -/
theorem keyColumn_assign {g : PropertyGraph Λ ρ κ ν} {i : Nat} {property key : κ}
    {value : Option ν} (label : Λ) (other : property ≠ key) :
    keyColumn label key (g.assign i property value) = keyColumn label key g := by
  simp only [keyColumn, PropertyGraph.assign]
  induction g.nodes generalizing i with
  | nil => simp
  | cons node rest ih =>
      cases i with
      | zero =>
          have kept : ∀ held, (node.props.set property held).get? key = node.props.get? key :=
            fun held => by rw [Dict.get?_set, if_neg (Ne.symm other)]
          have erased : (node.props.erase property).get? key = node.props.get? key := by
            rw [Dict.get?_erase, if_neg (Ne.symm other)]
          by_cases labelled : node.label = label <;> cases value <;>
            simp [labelled, kept, erased]
      | succ i =>
          by_cases labelled : node.label = label <;> simp [labelled, ih]

theorem keyColumn_assignAll {g : PropertyGraph Λ ρ κ ν} {i : Nat} {key : κ}
    {assignments : List (κ × Option ν)} (label : Λ)
    (other : key ∉ assignments.map Prod.fst) :
    keyColumn label key (assignments.foldl (fun g a => g.assign i a.1 a.2) g) =
      keyColumn label key g := by
  induction assignments generalizing g with
  | nil => rfl
  | cons assignment rest ih =>
      rw [List.map_cons, List.mem_cons, not_or] at other
      rw [List.foldl_cons, ih other.2]
      exact keyColumn_assign label (Ne.symm other.1)

/-! ## Statements that respect a key -/

/-- The clause neither merges the label nor assigns its key. -/
def Clause.Quiet (label : Λ) (key : κ) : Clause Λ ρ κ ν χ → Prop
  | .mergeNode _ other _ _ => other ≠ label
  | .setProps _ assignments => key ∉ assignments.map Prod.fst
  | _ => True

/-- The label is merged at most at the statement's head, on its key, and its key
is never assigned. -/
def Keyed (label : Λ) (key : κ) : Statement Λ ρ κ ν χ → Prop
  | .mergeNode _ other property _ :: rest =>
      (other = label → property = key) ∧ ∀ clause ∈ rest, clause.Quiet label key
  | statement => ∀ clause ∈ statement, clause.Quiet label key

instance (label : Λ) (key : κ) (clause : Clause Λ ρ κ ν χ) : Decidable (clause.Quiet label key) :=
  match clause with
  | .mergeNode _ _ _ _ => inferInstanceAs (Decidable (_ ≠ _))
  | .matchNode _ _ _ _ => inferInstanceAs (Decidable True)
  | .setProps _ _ => inferInstanceAs (Decidable (_ ∉ _))
  | .mergeEdge _ _ _ => inferInstanceAs (Decidable True)

instance (label : Λ) (key : κ) (statement : Statement Λ ρ κ ν χ) :
    Decidable (Keyed label key statement) :=
  match statement with
  | [] => inferInstanceAs (Decidable (∀ clause ∈ _, _))
  | .mergeNode _ _ _ _ :: _ => inferInstanceAs (Decidable (_ ∧ _))
  | .matchNode _ _ _ _ :: _ => inferInstanceAs (Decidable (∀ clause ∈ _, _))
  | .setProps _ _ :: _ => inferInstanceAs (Decidable (∀ clause ∈ _, _))
  | .mergeEdge _ _ _ :: _ => inferInstanceAs (Decidable (∀ clause ∈ _, _))

/-- The key value the statement merges for the label, if it merges one. -/
def mergedKey (label : Λ) : Statement Λ ρ κ ν χ → Option ν
  | .mergeNode _ other _ value :: _ => if other = label then some value else none
  | _ => none

theorem keyColumn_runRow {clause : Clause Λ ρ κ ν χ} {label : Λ} {key : κ}
    (quiet : clause.Quiet label key) (g : PropertyGraph Λ ρ κ ν) (row : Row χ) :
    keyColumn label key (runRow clause g row).1 = keyColumn label key g := by
  cases clause with
  | mergeNode x other property value =>
      simp only [runRow]
      split
      · rw [keyColumn_addNode fun same => absurd same quiet, if_neg quiet]
      · rfl
  | matchNode x other property value => rfl
  | setProps x assignments =>
      simp only [runRow]
      split
      · exact keyColumn_assignAll label quiet
      · rfl
  | mergeEdge x relation y =>
      simp only [runRow]
      split
      · exact keyColumn_mergeEdge g _ label key
      · rfl

theorem keyColumn_runClause {clause : Clause Λ ρ κ ν χ} {label : Λ} {key : κ}
    (quiet : clause.Quiet label key) (g : PropertyGraph Λ ρ κ ν) (rows : List (Row χ)) :
    keyColumn label key (runClause clause g rows).1 = keyColumn label key g := by
  induction rows generalizing g with
  | nil => rfl
  | cons row rows ih =>
      simp only [runClause]
      rw [ih, keyColumn_runRow quiet]

theorem keyColumn_runClauses {statement : Statement Λ ρ κ ν χ} {label : Λ} {key : κ}
    (quiet : ∀ clause ∈ statement, clause.Quiet label key) (g : PropertyGraph Λ ρ κ ν)
    (rows : List (Row χ)) :
    keyColumn label key (runClauses g rows statement) = keyColumn label key g := by
  induction statement generalizing g rows with
  | nil => rfl
  | cons clause rest ih =>
      simp only [runClauses]
      rw [ih fun other hother => quiet other (List.mem_cons_of_mem clause hother),
        keyColumn_runClause (quiet clause List.mem_cons_self)]

/-- A head `MERGE` adds its key value unless it is there already. -/
theorem keyColumn_mergeNode {x : χ} {label : Λ} {key : κ} {value : ν}
    (g : PropertyGraph Λ ρ κ ν) :
    keyColumn label key
        (runClause (.mergeNode x label key value : Clause Λ ρ κ ν χ) g [[]]).1 =
      appendNew (keyColumn label key g) (some value) := by
  simp only [runClause, runRow]
  split
  case h_1 absent =>
      rw [keyColumn_addNode fun _ => rfl, if_pos rfl, appendNew,
        if_neg (find_eq_nil_iff.mp absent)]
  case h_2 present =>
      have held : some value ∈ keyColumn label key g := by
        by_contra missing
        exact present (find_eq_nil_iff.mpr missing)
      rw [appendNew, if_pos held]

/-- One statement adds the key value it merges, if any. -/
theorem keyColumn_execute {statement : Statement Λ ρ κ ν χ} {label : Λ} {key : κ}
    (keyed : Keyed label key statement) (g : PropertyGraph Λ ρ κ ν) :
    keyColumn label key (execute g statement) =
      ((mergedKey label statement).map some).toList.foldl appendNew (keyColumn label key g) := by
  cases statement with
  | nil => rfl
  | cons clause rest =>
      cases clause with
      | mergeNode x other property value =>
          obtain ⟨hkey, quiet⟩ := keyed
          rw [execute, runClauses]
          rw [keyColumn_runClauses quiet]
          by_cases same : other = label
          · obtain rfl := hkey same
            subst same
            rw [keyColumn_mergeNode, mergedKey, if_pos rfl]
            rfl
          · have headQuiet : (Clause.mergeNode x other property value :
                Clause Λ ρ κ ν χ).Quiet label key := same
            rw [keyColumn_runClause headQuiet, mergedKey, if_neg same]
            rfl
      | matchNode x other property value => exact keyColumn_runClauses keyed g [[]]
      | setProps x assignments => exact keyColumn_runClauses keyed g [[]]
      | mergeEdge x relation y => exact keyColumn_runClauses keyed g [[]]

/-- Running statements that respect a key collects the distinct key values they
merge. -/
theorem keyColumn_run {statements : List (Statement Λ ρ κ ν χ)} {label : Λ} {key : κ}
    (keyed : ∀ statement ∈ statements, Keyed label key statement) (g : PropertyGraph Λ ρ κ ν) :
    keyColumn label key (run g statements) =
      ((statements.filterMap (mergedKey label)).map some).foldl appendNew
        (keyColumn label key g) := by
  induction statements generalizing g with
  | nil => rfl
  | cons statement rest ih =>
      have step := keyColumn_execute (keyed statement List.mem_cons_self) g
      have later := ih (fun other hother => keyed other (List.mem_cons_of_mem statement hother))
        (execute g statement)
      rw [run, List.foldl_cons, ← run, later, step]
      cases hmerged : mergedKey label statement with
      | none => rw [List.filterMap_cons_none hmerged]; rfl
      | some value => rw [List.filterMap_cons_some hmerged]; rfl

end SentinelIR.Graph
