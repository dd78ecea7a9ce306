import Keyspan.Scan
import Keyspan.Setting.Value

/-!
# What planning does besides computing

Planning reports what it does and calls on others: it asks a catalog about a table, a sampler for
rows and a provider for the status of the cluster. All of that is part of the value that a planning
function returns: a `Traced α` is an outcome together with the `Event`s that led to it, in order.
Nothing that happened before a failure is lost with it.

* `Notice`: a report (`logger`), as what it says; `Notice.level` and `Notice.text` give its rank and
  wording.
* `Event`: a report, or a call on a collaborator.
* `Traced`: events and outcome, chained by `Monad`; `Traced.call` asks a collaborator.

Results: `Traced.bind_ok`, `Traced.bind_error`: what follows is added behind what happened, and
nothing follows a failure; `Traced.events_bind` says both at once. `Traced.filter_bind_of_ok`,
`Traced.filter_bind_of_error` say what a chain does of one kind, `Traced.calls_bind_of_ok`,
`Traced.calls_bind_of_error` what it calls.
-/

namespace Keyspan

/-- The ranks of reports. -/
inductive Level where
  | debug
  | info
  | warning
  deriving DecidableEq

def Level.word : Level → String
  | .debug => "DEBUG"
  | .info => "INFO"
  | .warning => "WARNING"

/-- Reports, by what they say. -/
inductive Notice where
  /-- A partition went from one slot to another. -/
  | moved (id : String) (donor receiver : Nat)
  /-- An assignment is found; the endpoints as shown, and the ids in every slot. -/
  | built (endpoints : String) (slots : List (List String))
  /-- Some of the partitions of a table meet the range of a scan. -/
  | pruned (table : String) (kept total : Nat)
  /-- The partitions of a table are looked up. -/
  | locating (table : String)
  /-- No rows are to be sampled. -/
  | samplingOff (table : String)
  /-- The sample turned out empty. -/
  | sampleEmpty (table : String)
  /-- The rows of a sample are averaged. -/
  | sampled (rows : Nat) (table : String) (rowBytes columns : Int)
  /-- Partition sizes are not asked for. -/
  | sizesOff
  /-- Partition sizes are asked for. -/
  | sizesWanted (table : String)
  /-- The cluster did not answer in time. -/
  | statusLate (wait : Duration)
  /-- The cluster failed to answer. -/
  | statusFailed (report : String)
  /-- The size of a partition, in mebibytes, as its server reported it. -/
  | sized (id : String) (server : Server) (mebibytes : Int)
  /-- Partition sizes are known for a number of partitions. -/
  | sizesKnown (count : Nat) (table : String)
  /-- The size of this partition was not reported. -/
  | sizeUnknown (id : String)
  deriving DecidableEq

namespace Notice

/-- The rank of a report. -/
def level : Notice → Level
  | sizesOff | sizesWanted _ => .info
  | statusLate _ | statusFailed _ => .warning
  | _ => .debug

/-- The time that something took. There is no clock, so a mark stands in its place. -/
def elapsed : String := "?"

/-- **The wording of a report.** -/
def text : Notice → String
  | moved id donor receiver =>
    "Moved partition " ++ id ++ " from slot " ++ toString donor ++ " to slot " ++
      toString receiver
  | built endpoints slots =>
    "Built assignment map in " ++ elapsed ++ " µs.\nEndpoints: " ++ endpoints ++
      ".\nAssignment Map: " ++
      Text.numbered (slots.map fun ids => Text.bracketed (ids.map Text.quoted))
  | pruned table kept total =>
    "Table " ++ table ++ ": " ++ toString kept ++ " of " ++ toString total ++
      " partitions intersect the scan range"
  | locating table => "Getting partition locations for table " ++ table
  | samplingOff table => "Row sampling disabled for table " ++ table
  | sampleEmpty table => "No rows sampled from table " ++ table
  | sampled rows table rowBytes columns =>
    "Sampled " ++ toString rows ++ " rows of table " ++ table ++ " in " ++ elapsed ++
      " s: avg row size " ++ toString rowBytes ++ " bytes, " ++ toString columns ++
      " columns per row"
  | sizesOff => "Partition size calculation disabled."
  | sizesWanted table => "Calculating partition sizes for table \"" ++ table ++ "\"."
  | statusLate wait =>
    "Cluster status not available within " ++ wait.clock ++ ", using default partition sizes"
  | statusFailed report =>
    "Failed to get cluster status, using default partition sizes: " ++ report
  | sized id server mebibytes =>
    "Partition " ++ id ++ " on " ++ server.text ++ " has size " ++ toString mebibytes ++ "MB"
  | sizesKnown count table =>
    "Partition sizes calculated for " ++ toString count ++ " partitions of table " ++ table
  | sizeUnknown id => "Unknown partition: " ++ id

/-- A report as a line: rank and wording. -/
def line (n : Notice) : String := n.level.word ++ " " ++ n.text

end Notice

/-- What a catalog is asked about a table. -/
inductive CatalogQuestion where
  /-- The schema. -/
  | schema
  /-- The partitions that a scan has to visit. -/
  | partitions
  /-- The ids of all partitions. -/
  | ids
  deriving DecidableEq

/-- What planning does besides computing. -/
inductive Event where
  /-- A report. -/
  | notice (n : Notice)
  /-- The catalog is asked about a table. -/
  | catalogAsked (question : CatalogQuestion) (table : String)
  /-- The sampler is asked for rows of a scan, at most as many as the value says. -/
  | rowsAsked (scan : Scan) (limit : Setting.Value)
  /-- A number of rows is taken from the sampler's answer. -/
  | rowsTaken (count : Nat)
  /-- The sampler's answer is closed. -/
  | rowsClosed
  /-- The provider is asked for the status of the cluster, with this many seconds to answer. -/
  | statusAsked (seconds : Double)

namespace Event

/-- The report that an event is, if it is one. -/
def notice? : Event → Option Notice
  | notice n => some n
  | _ => none

/-- How many rows the sampler is asked for, if it is. -/
def limit? : Event → Option Setting.Value
  | rowsAsked _ limit => some limit
  | _ => none

/-- How many rows are taken. -/
def taken : Event → Nat
  | rowsTaken count => count
  | _ => 0

/-- Whether the sampler's answer is closed. -/
def isClosing : Event → Bool
  | rowsClosed => true
  | _ => false

/-- Whether a collaborator is called: the catalog, the sampler or the provider. -/
def isCall : Event → Bool
  | catalogAsked .. | rowsAsked .. | statusAsked _ => true
  | _ => false

/-- The seconds that the provider has to answer, if it is asked. -/
def seconds? : Event → Option Double
  | statusAsked seconds => some seconds
  | _ => none

end Event

/-- An outcome, and the events that led to it, in order. -/
structure Traced (α : Type) where
  events : List Event
  outcome : Except Failure α

namespace Traced

def ok {α : Type} (a : α) : Traced α := ⟨[], .ok a⟩

def ofExcept {α : Type} (outcome : Except Failure α) : Traced α := ⟨[], outcome⟩

def fail {α : Type} (f : Failure) : Traced α := ⟨[], .error f⟩

/-- A report. -/
def log (n : Notice) : Traced Unit := ⟨[.notice n], .ok ()⟩

/-- **Call a collaborator** with a request: the call is the event, and the answer the outcome. -/
def call {α β : Type} (event : α → Event) (collaborator : α → Except Failure β) (request : α) :
    Traced β := ⟨[event request], collaborator request⟩

/-- What `next` does with the value, if there is one. -/
def andThen {α β : Type} (x : Traced α) (next : α → Traced β) : Traced β :=
  match x.outcome with
  | .ok a => ⟨x.events ++ (next a).events, (next a).outcome⟩
  | .error f => ⟨x.events, .error f⟩

instance : Monad Traced where
  pure := ok
  bind := andThen

/-- The reports among the events, in order. -/
def notices {α : Type} (x : Traced α) : List Notice := x.events.filterMap Event.notice?

/-- The calls on collaborators among the events, in order. -/
def calls {α : Type} (x : Traced α) : List Event := x.events.filter Event.isCall

theorem bind_ok {α β : Type} (events : List Event) (a : α) (next : α → Traced β) :
    (Traced.mk events (.ok a) >>= next) = ⟨events ++ (next a).events, (next a).outcome⟩ := rfl

theorem bind_error {α β : Type} (events : List Event) (f : Failure) (next : α → Traced β) :
    (Traced.mk events (.error f) >>= next) = ⟨events, .error f⟩ := rfl

theorem ofExcept_ok_bind {α β : Type} (a : α) (next : α → Traced β) :
    (ofExcept (.ok a) >>= next) = next a := rfl

theorem ofExcept_error_bind {α β : Type} (f : Failure) (next : α → Traced β) :
    (ofExcept (.error f) >>= next) = fail f := rfl

theorem outcome_bind_of_ok {α β : Type} {x : Traced α} {a : α} (h : x.outcome = .ok a)
    (next : α → Traced β) : (x >>= next).outcome = (next a).outcome := by
  obtain ⟨events, outcome⟩ := x
  dsimp only at h
  subst h
  rfl

theorem outcome_bind_of_error {α β : Type} {x : Traced α} {f : Failure} (h : x.outcome = .error f)
    (next : α → Traced β) : (x >>= next).outcome = .error f := by
  obtain ⟨events, outcome⟩ := x
  dsimp only at h
  subst h
  rfl

/-- **What happened stays in front**: the events of a chain start with those of its first part. -/
theorem events_bind {α β : Type} (x : Traced α) (next : α → Traced β) :
    x.events <+: (x >>= next).events := by
  obtain ⟨events, outcome⟩ := x
  cases outcome with
  | ok a =>
    rw [bind_ok]
    exact List.prefix_append _ _
  | error f => exact List.prefix_refl events

/-! What a chain does of one kind is what its parts do of that kind. -/

section Kinds

variable {α β : Type} (kind : Event → Bool) {x : Traced α} {next : α → Traced β}

theorem filter_bind_of_ok {a : α} (h : x.outcome = .ok a) (next : α → Traced β) :
    (x >>= next).events.filter kind = x.events.filter kind ++ (next a).events.filter kind := by
  obtain ⟨events, outcome⟩ := x
  dsimp only at h
  subst h
  exact List.filter_append _ _

theorem filter_bind_of_error {f : Failure} (h : x.outcome = .error f) (next : α → Traced β) :
    (x >>= next).events.filter kind = x.events.filter kind := by
  obtain ⟨events, outcome⟩ := x
  dsimp only at h
  subst h
  rfl

theorem filter_bind_of_forall (x : Traced α) (h : ∀ a, (next a).events.filter kind = []) :
    (x >>= next).events.filter kind = x.events.filter kind := by
  cases hx : x.outcome with
  | ok a => rw [filter_bind_of_ok kind hx, h, List.append_nil]
  | error f => exact filter_bind_of_error kind hx next

theorem filter_bind_eq_nil (hx : x.events.filter kind = [])
    (hnext : ∀ a, (next a).events.filter kind = []) : (x >>= next).events.filter kind = [] :=
  (filter_bind_of_forall kind x hnext).trans hx

end Kinds

theorem calls_bind_of_error {α β : Type} {x : Traced α} {f : Failure} (h : x.outcome = .error f)
    (next : α → Traced β) : (x >>= next).calls = x.calls :=
  filter_bind_of_error Event.isCall h next

/-- A chain calls what its first part calls, if nothing behind it calls. -/
theorem calls_bind_of_forall {α β : Type} (x : Traced α) {next : α → Traced β}
    (h : ∀ a, (next a).calls = []) : (x >>= next).calls = x.calls :=
  filter_bind_of_forall Event.isCall x h

/-- **A chain of parts that call nobody calls nobody.** -/
theorem calls_bind_eq_nil {α β : Type} {x : Traced α} {next : α → Traced β} (hx : x.calls = [])
    (hnext : ∀ a, (next a).calls = []) : (x >>= next).calls = [] :=
  filter_bind_eq_nil Event.isCall hx hnext

end Traced

end Keyspan
