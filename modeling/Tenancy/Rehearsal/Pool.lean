import Tenancy.Pool.Yard
import Tenancy.Rehearsal.Script

namespace Tenancy.Rehearsal

inductive Making where
  | ok
  | none
  | panic

/-- Something to do with one of the pools; operations inside name their own. -/
inductive PoolAct where
  | reserve (name : String)
  | checkout (ops : List (Nat × PoolAct))
  | release (lease : String)
  | drop (lease : String)
  | owns (lease : String)
  /-- Without a count it makes no sense. -/
  | trim (count : Option Nat)
  | shrink
  | drain
  | stats
  | counts
  | inspect
  | info
  | scriptMaking (cues : List (Cue Making (Nat × PoolAct)))
  | scriptEnding (cues : List (Cue Unit (Nat × PoolAct)))
  | metrics
  | unknown
  deriving Inhabited

abbrev PoolOp := Nat × PoolAct

inductive PoolResult where
  | leased (lease : Lease)
  | worked (lease : Lease)
  | refused (error : PoolError)
  | counted (count : Nat)
  | nothing
  | owns (value : Bool)
  | stats (pool : Pool)
  | counts (pool : Pool)
  | text (text : String)
  | info (pool : Pool)
  | metrics (metrics : Metrics)
  | crashed
  | noSuchLease
  | badCount
  | unknownOp

inductive PoolEvent where
  | allocate (settings : Settings)
  | destroy (resource : Nat)

inductive PoolStep where
  | noSuchPool
  /-- The operations run on a resource that was checked out are `inner`; `pool` is the pool of the
  operation as it is afterwards. -/
  | mk (result : PoolResult) (inner : List PoolStep) (events : List (PoolEvent ⊕ List PoolStep))
    (notices : List Notice) (pool : Pool)

/-- What has been seen of an operation so far. -/
structure PoolTrace where
  lease : Option Lease := none
  inner : List PoolStep := []
  events : List (PoolEvent ⊕ List PoolStep) := []
  notices : List Notice := []

/-- Resources are made and given up by scripts, and one script serves all pools. -/
structure YardStage where
  yard : Yard := {}
  /-- The numbers of the pools in the yard, none for those that could not be made. -/
  numbers : List (Option Nat) := []
  making : List (Cue Making PoolOp) := []
  ending : List (Cue Unit PoolOp) := []
  leases : List (String × Lease) := []

namespace YardStage

def addPool (s : YardStage) : Except PoolError Pool → YardStage
  | .ok p => { s with
      yard := s.yard.addPool p, numbers := s.numbers ++ [some s.yard.pools.length] }
  | .error _ => { s with numbers := s.numbers ++ [none] }

def number? (s : YardStage) (index : Nat) : Option Nat := s.numbers[index]?.join

/-- Forgets what a name stands for. -/
def unbind (s : YardStage) (name : String) : YardStage :=
  { s with leases := s.leases.filter (·.1 != name) }

def bind (s : YardStage) (name : String) (lease : Lease) : YardStage :=
  { s with leases := (name, lease) :: (s.unbind name).leases }

def PoolTrace.see (t : PoolTrace) (event : PoolEvent) : PoolTrace :=
  { t with events := t.events ++ [.inl event] }

/-- Other people's operations leave a trace only where there were any. -/
def PoolTrace.during (t : PoolTrace) (steps : List PoolStep) : PoolTrace :=
  if steps.isEmpty then t else { t with events := t.events ++ [.inr steps] }

/-- Moves the notices of the yard into the trace. -/
def collect (s : YardStage) (t : PoolTrace) (y : Yard) : YardStage × PoolTrace :=
  let (notices, yard) := y.takeNotices
  ({ s with yard }, { t with notices := t.notices ++ notices })

/-- The end of an operation as a result. -/
def resultOf (t : PoolTrace) : Yard.Outcome → PoolResult
  | .leased lease => .leased lease
  | .refused error => .refused error
  | .counted count => .counted count
  | .returned => (t.lease.map .worked).getD .nothing
  | .unwound => .crashed

def Making.reply : Making → Yard.Reply
  | .ok => .made
  | .none => .nothing
  | .panic => .unwind

mutual

def runAll : Nat → List PoolOp → YardStage → YardStage × List PoolStep
  | fuel + 1, op :: ops, s =>
    let (s, step) := run fuel op s
    let (s, steps) := runAll fuel ops s
    (s, step :: steps)
  | _, _, s => (s, [])

def run : Nat → PoolOp → YardStage → YardStage × PoolStep
  | 0, _, s => (s, .noSuchPool)
  | fuel + 1, (index, act), s =>
    match s.number? index with
    | none => (s, .noSuchPool)
    | some n =>
      let (s, t, result) := perform fuel n act s
      match s.yard.pools[n]? with
      | some p => (s, .mk result t.inner t.events t.notices p)
      | none => (s, .noSuchPool)

def perform : Nat → Nat → PoolAct → YardStage → YardStage × PoolTrace × PoolResult
  | 0, _, _, s => (s, {}, .unknownOp)
  | fuel + 1, n, act, s =>
    let plain (result : PoolResult) : YardStage × PoolTrace × PoolResult := (s, {}, result)
    let shown (result : Pool → PoolResult) :=
      plain ((s.yard.pools[n]?.map result).getD .unknownOp)
    match act with
    | .reserve name =>
      let (s, t, result) := operate fuel (.reserve n) [] s
      match result with
      | .leased lease => (s.bind name lease, t, .leased lease)
      | result => (s, t, result)
    | .checkout ops => operate fuel (.checkout n) ops s
    | .release name =>
      match s.leases.lookup name with
      | some lease => operate fuel (.release n lease) [] (s.unbind name)
      | none => plain .noSuchLease
    | .drop name =>
      if (s.leases.lookup name).isSome then (s.unbind name, {}, .nothing) else plain .noSuchLease
    | .owns name =>
      match s.leases.lookup name with
      | some lease => plain (.owns (lease.pool == n))
      | none => plain .noSuchLease
    | .trim (some count) => operate fuel (.trim n count) [] s
    | .trim none => plain .badCount
    | .shrink => operate fuel (.shrink n) [] s
    | .drain => operate fuel (.drain n) [] s
    | .stats => shown .stats
    | .counts => shown .counts
    | .inspect => shown fun p => .text (p.inspect "N")
    | .info => shown .info
    | .scriptMaking cues => ({ s with making := s.making ++ cues }, {}, .nothing)
    | .scriptEnding cues => ({ s with ending := s.ending ++ cues }, {}, .nothing)
    | .metrics => plain (.metrics s.yard.metrics)
    | .unknown => plain .unknownOp

/-- Runs one operation of the yard; `ops` is the work to do on a resource checked out. -/
def operate : Nat → Yard.Call → List PoolOp → YardStage → YardStage × PoolTrace × PoolResult
  | 0, _, _, s => (s, {}, .unknownOp)
  | fuel + 1, call, ops, s =>
    match s.yard.call call with
    | none => (s, {}, .unknownOp)
    | some (yard, reaction) =>
      let (s, t) := s.collect {} yard
      attend fuel ops s t reaction

/-- Does what the yard asks for until the operation has ended. -/
def attend : Nat → List PoolOp → YardStage → PoolTrace → Yard.Reaction →
    YardStage × PoolTrace × PoolResult
  | 0, _, s, t, _ => (s, t, .unknownOp)
  | fuel + 1, ops, s, t, reaction =>
    let goOn (s : YardStage) (t : PoolTrace) (reply : Yard.Reply) :=
      match s.yard.reply reply with
      | none => (s, t, .unknownOp)
      | some (yard, reaction) =>
        let (s, t) := s.collect t yard
        attend fuel ops s t reaction
    match reaction with
    | .done outcome => (s, t, resultOf t outcome)
    | .allocate n =>
      let t := PoolTrace.see t (.allocate ((s.yard.pools[n]?.map Pool.settings).getD {}))
      let (cue, making) := Cue.take .ok s.making
      let (s, steps) := runAll fuel cue.during { s with making }
      goOn s (PoolTrace.during t steps) (Making.reply cue.answer)
    | .destroy _ resource =>
      let t := PoolTrace.see t (.destroy resource)
      let (cue, ending) := Cue.take () s.ending
      let (s, steps) := runAll fuel cue.during { s with ending }
      goOn s (PoolTrace.during t steps) .destroyed
    | .work lease =>
      let (s, inner) := runAll fuel ops s
      goOn s { t with lease := some lease, inner } .finished

end

end YardStage

def rehearsePools (pools : List (Except PoolError Pool)) (ops : List PoolOp) : List PoolStep :=
  (YardStage.runAll stamina ops (pools.foldl YardStage.addPool {})).2

end Tenancy.Rehearsal
