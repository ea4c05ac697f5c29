import ActorCritic.Batch.Source
import ActorCritic.Proofs.Batch.Acceptance
import ActorCritic.Proofs.ValueTarget

/-!
Many streams of batches open at once, over one value target that is refreshed in between. What a
pull gives is told by how often its own stream was pulled and by the last refresh that fitted,
whichever of stream and refresh is the older; pulls of other streams and refreshes that did not fit
leave no trace in it.
-/

namespace ActorCritic

namespace Stream

variable {β : Type}

/-- The stream behind its next items. -/
def skip : Nat → Stream β → Stream β
  | 0, s => s
  | n + 1, s => skip n s.next.2

/-- What the stream gives after `n` items. -/
def item? (s : Stream β) (n : Nat) : Option β := (s.skip n).next.1

end Stream

namespace ValueTarget

variable {α : Type} {t u : ValueTarget α} {weights state : Snapshot α}

/-- The network that a refresh puts in the place of the target's, if it fits. -/
def replacement (t : ValueTarget α) (weights state : Snapshot α) : Option (ValueNetwork α) :=
  (t.refresh weights state).toOption.map ValueTarget.network

theorem replacement_eq_some (h : t.refresh weights state = .ok u) :
    t.replacement weights state = some u.network := by
  rw [replacement, h]
  rfl

theorem replacement_eq_none_iff :
    t.replacement weights state = none ↔ ∃ e, t.refresh weights state = .error e := by
  unfold replacement
  cases h : t.refresh weights state with
  | error e => exact iff_of_true rfl ⟨e, rfl⟩
  | ok target => exact iff_of_false (fun h => nomatch h) (fun ⟨_, h⟩ => nomatch h)

/-- Earlier refreshes have no say in which later ones fit and in what these put in place. -/
theorem replacement_of_refresh (h : t.refresh weights state = .ok u) (w s : Snapshot α) :
    u.replacement w s = t.replacement w s := by
  have hload := Network.load_load (refresh_eq_ok.1 h).1 w
  simp only [replacement, refresh, hload]
  cases hload' : t.network.load w with
  | error e => rfl
  | ok network =>
      simp only [Attempt.ok_bind]
      cases hstate : network.withState s with
      | error e => rfl
      | ok network => rfl

end ValueTarget

/-- A builder of either kind. -/
inductive BatchBuilder (α : Type) where
  | value (builder : ValueBatchBuilder α)
  | policy (builder : PolicyBatchBuilder α)

/-- A batch of either kind. -/
inductive BuiltBatch (α : Type) where
  | value (batch : ValueBatch α)
  | policy (batch : PolicyBatch α)
deriving DecidableEq

namespace BatchBuilder

variable {α : Type}

def request : BatchBuilder α → SliceRequest
  | value b => b.plan.request
  | policy b => b.plan.request

variable [Add α] [Mul α] [Div α]

def build (b : BatchBuilder α) (target : ValueTarget α) (trajectory : Trajectory α) :
    Attempt ShapeError (BuiltBatch α) :=
  match b with
  | value b => (b.build target trajectory).map .value
  | policy b => (b.build target trajectory).map .policy

/-- The builder's stream over a task, as trainers get it. -/
def source (b : BatchBuilder α) (task : Task α) :
    BatchSource α (Supply α) (Stream (Trajectory α)) (BuiltBatch α) :=
  match b with
  | value b => {
      start := (b.source task).start
      pull supply stream :=
        let (item, stream) := (b.source task).pull supply stream
        (item.map (·.map .value), stream) }
  | policy b => {
      start := (b.source task).start
      pull supply stream :=
        let (item, stream) := (b.source task).pull supply stream
        (item.map (·.map .policy), stream) }

/-- Both kinds of streams ask once, and build each trajectory with the target of the moment. -/
theorem start_source (b : BatchBuilder α) (task : Task α) (supply : Supply α) :
    (b.source task).start supply =
      match task.stream b.request with
      | .error a => (.error a, supply)
      | .ok stream => (.ok stream, { supply with requests := supply.requests ++ [b.request] }) := by
  cases b <;> rfl

theorem pull_source (b : BatchBuilder α) (task : Task α) (supply : Supply α)
    (stream : Stream (Trajectory α)) :
    (b.source task).pull supply stream =
      (stream.next.1.map fun t => (b.build supply.target t).widen .shape, stream.next.2) := by
  cases b with
  | value b =>
      refine Prod.ext ?_ rfl
      simp only [source, ValueBatchBuilder.source, BatchSource.ofTask, Option.map_map]
      refine congrArg (Option.map · _) (funext fun t => ?_)
      simp only [Function.comp, build]
      cases b.build supply.target t <;> rfl
  | policy b =>
      refine Prod.ext ?_ rfl
      simp only [source, PolicyBatchBuilder.source, BatchSource.ofTask, Option.map_map]
      refine congrArg (Option.map · _) (funext fun t => ?_)
      simp only [Function.comp, build]
      cases b.build supply.target t <;> rfl

end BatchBuilder

/-- A stream that was opened, with what it was opened with. -/
structure OpenStream (α : Type) where
  task : Task α
  builder : BatchBuilder α
  cursor : Stream (Trajectory α)

/-- All streams that are open, in the order of their opening, and what they share. -/
structure OpenStreams (α : Type) where
  supply : Supply α
  streams : List (OpenStream α)

/-- What is done to open streams and to the target that they share. A handle on the target is the
target: whichever is used for a refresh, all see it. -/
inductive StreamCall (α : Type) where
  | start (task : Task α) (builder : BatchBuilder α)
  | pull (index : Nat)
  | refresh (weights state : Snapshot α)

inductive StreamReply (α : Type) where
  | started
  | notStarted (cause : Abort)
  | pulled (item : Option (Run α (BuiltBatch α)))
  | notOpen
  | refreshed (version : Nat)
  | notRefreshed (cause : Failure ParamsError)

namespace OpenStreams

variable {α : Type} [Add α] [Mul α] [Div α]

def step (s : OpenStreams α) : StreamCall α → StreamReply α × OpenStreams α
  | .start task builder =>
      match (builder.source task).start s.supply with
      | (.error a, supply) => (.notStarted a, { s with supply := supply })
      | (.ok cursor, supply) => (.started, ⟨supply, s.streams ++ [⟨task, builder, cursor⟩]⟩)
  | .pull index =>
      match s.streams[index]? with
      | none => (.notOpen, s)
      | some o =>
          let (item, cursor) := (o.builder.source o.task).pull s.supply o.cursor
          (.pulled item, { s with streams := s.streams.set index { o with cursor := cursor } })
  | .refresh weights state =>
      match s.supply.target.refresh weights state with
      | .error e => (.notRefreshed e, s)
      | .ok target =>
          (.refreshed target.version, { s with supply := { s.supply with target := target } })

def after (s : OpenStreams α) (calls : List (StreamCall α)) : OpenStreams α :=
  calls.foldl (fun s call => (s.step call).2) s

end OpenStreams

namespace StreamCall

variable {α : Type}

def isPull (index : Nat) : StreamCall α → Bool
  | pull i => i == index
  | _ => false

/-- The request that the task gets, if the call opens a stream. -/
def request? : StreamCall α → Option SliceRequest
  | start task builder => (task.stream builder.request).toOption.map fun _ => builder.request
  | _ => none

/-- The network that the call puts into a target. -/
def replacement (target : ValueTarget α) : StreamCall α → Option (ValueNetwork α)
  | refresh weights state => target.replacement weights state
  | _ => none

end StreamCall

namespace OpenStreams

variable {α : Type} [Add α] [Mul α] [Div α]

/-- A call moves a stream that is open on by one item if it pulls from it, and not at all
otherwise. -/
theorem streams_step {s : OpenStreams α} {i : Nat} {o : OpenStream α}
    (h : s.streams[i]? = some o) (call : StreamCall α) :
    (s.step call).2.streams[i]? =
      some { o with cursor := o.cursor.skip (if call.isPull i then 1 else 0) } := by
  cases call with
  | start task builder =>
      simp only [step, BatchBuilder.start_source, StreamCall.isPull]
      cases task.stream builder.request with
      | error a => exact h
      | ok cursor =>
          obtain ⟨hlt, -⟩ := List.getElem?_eq_some_iff.1 h
          exact (List.getElem?_append_left hlt).trans h
  | pull j =>
      by_cases hij : j = i
      · subst hij
        obtain ⟨hlt, -⟩ := List.getElem?_eq_some_iff.1 h
        simp [step, StreamCall.isPull, h, BatchBuilder.pull_source, List.getElem?_set_self hlt,
          Stream.skip]
      · have hother : (StreamCall.pull j : StreamCall α).isPull i = false := by
          simpa [StreamCall.isPull] using hij
        rw [hother]
        simp only [step]
        cases hj : s.streams[j]? with
        | none => exact h
        | some other => exact (List.getElem?_set_ne hij).trans h
  | refresh weights state =>
      simp only [step, StreamCall.isPull]
      cases s.supply.target.refresh weights state <;> exact h

/-- The target moves exactly by a refresh that fits. -/
theorem target_step (s : OpenStreams α) (call : StreamCall α) :
    (s.step call).2.supply.target =
      match call.replacement s.supply.target with
      | none => s.supply.target
      | some network => ⟨network, s.supply.target.version + 1⟩ := by
  cases call with
  | start task builder =>
      simp only [step, BatchBuilder.start_source, StreamCall.replacement]
      cases task.stream builder.request <;> rfl
  | pull j =>
      simp only [step, StreamCall.replacement]
      cases s.streams[j]? <;> rfl
  | refresh weights state =>
      simp only [step, StreamCall.replacement]
      cases h : s.supply.target.refresh weights state with
      | error e => rw [ValueTarget.replacement_eq_none_iff.2 ⟨e, h⟩]
      | ok target =>
          rw [ValueTarget.replacement_eq_some h, ← ValueTarget.version_of_refresh h]

/-- Which refreshes fit, and what they put in place, is the same after a call as before it. -/
theorem replacement_step (s : OpenStreams α) (call : StreamCall α) :
    StreamCall.replacement (s.step call).2.supply.target =
      StreamCall.replacement s.supply.target := by
  cases call with
  | start task builder =>
      simp only [step, BatchBuilder.start_source]
      cases task.stream builder.request <;> rfl
  | pull j =>
      simp only [step]
      cases s.streams[j]? <;> rfl
  | refresh weights state =>
      simp only [step]
      cases h : s.supply.target.refresh weights state with
      | error e => rfl
      | ok target =>
          funext later
          cases later with
          | refresh w s => exact ValueTarget.replacement_of_refresh h w s
          | start task builder => rfl
          | pull j => rfl

theorem requests_step (s : OpenStreams α) (call : StreamCall α) :
    (s.step call).2.supply.requests = s.supply.requests ++ call.request?.toList ∧
      (s.step call).2.streams.length = s.streams.length + call.request?.toList.length := by
  cases call with
  | start task builder =>
      simp only [step, BatchBuilder.start_source, StreamCall.request?]
      cases task.stream builder.request <;> simp [Except.toOption]
  | pull j =>
      simp only [step, StreamCall.request?]
      cases s.streams[j]? <;> simp [BatchBuilder.pull_source]
  | refresh weights state =>
      simp only [step, StreamCall.request?]
      cases s.supply.target.refresh weights state <;> simp

theorem after_append (s : OpenStreams α) (calls more : List (StreamCall α)) :
    s.after (calls ++ more) = (s.after calls).after more :=
  List.foldl_append

theorem streams_after {s : OpenStreams α} {i : Nat} {o : OpenStream α}
    (h : s.streams[i]? = some o) (calls : List (StreamCall α)) :
    (s.after calls).streams[i]? =
      some { o with cursor := o.cursor.skip (calls.countP (·.isPull i)) } := by
  induction calls generalizing s o with
  | nil => exact h
  | cons call calls ih =>
      rw [after, List.foldl_cons, ← after, ih (streams_step h call), List.countP_cons]
      split
      · rw [Nat.add_comm, Nat.add_comm 1, Stream.skip]
        rfl
      · rfl

theorem replacement_after (s : OpenStreams α) (calls : List (StreamCall α)) :
    StreamCall.replacement (s.after calls).supply.target =
      StreamCall.replacement s.supply.target := by
  induction calls generalizing s with
  | nil => rfl
  | cons call calls ih =>
      rw [after, List.foldl_cons, ← after, ih, replacement_step]

theorem target_after (s : OpenStreams α) (calls : List (StreamCall α)) :
    (s.after calls).supply.target =
      ⟨(calls.filterMap (·.replacement s.supply.target)).getLast?.getD s.supply.target.network,
        s.supply.target.version +
          (calls.filterMap (·.replacement s.supply.target)).length⟩ := by
  induction calls generalizing s with
  | nil => rfl
  | cons call calls ih =>
      have htarget := target_step s call
      rw [after, List.foldl_cons, ← after, ih, replacement_step, htarget, List.filterMap_cons]
      cases call.replacement s.supply.target with
      | none => rfl
      | some network =>
          simp only [List.getLast?_cons, Option.getD_some, List.length_cons]
          congr 1
          omega

theorem requests_after (s : OpenStreams α) (calls : List (StreamCall α)) :
    (s.after calls).supply.requests =
        s.supply.requests ++ calls.filterMap StreamCall.request? ∧
      (s.after calls).streams.length =
        s.streams.length + (calls.filterMap StreamCall.request?).length := by
  induction calls generalizing s with
  | nil => simp [after]
  | cons call calls ih =>
      obtain ⟨hrequests, hcount⟩ := requests_step s call
      obtain ⟨hrest, hrestCount⟩ := ih (s.step call).2
      rw [after, List.foldl_cons, ← after, hrest, hrestCount, hrequests, hcount,
        List.filterMap_cons]
      cases call.request? with
      | none => simp
      | some request => simp [Nat.add_assoc, Nat.add_comm 1]

theorem reply_of_open {s : OpenStreams α} {i : Nat} {o : OpenStream α}
    (h : s.streams[i]? = some o) :
    (s.step (.pull i)).1 = .pulled (o.cursor.next.1.map fun trajectory =>
      (o.builder.build s.supply.target trajectory).widen .shape) := by
  simp only [step, h, BatchBuilder.pull_source]

/-- A stream that was opened after some calls, at the index that it has from then on, is pulled
after others: the reply is told by the pulls of this stream and by the target of the moment. -/
theorem reply_pull (s : OpenStreams α) (before between : List (StreamCall α)) {task : Task α}
    {builder : BatchBuilder α} {stream : Stream (Trajectory α)}
    (hopen : task.stream builder.request = .ok stream) :
    ((s.after (before ++ .start task builder :: between)).step
        (.pull (s.after before).streams.length)).1 =
      .pulled ((stream.item? (between.countP (·.isPull (s.after before).streams.length))).map
        fun trajectory =>
          (builder.build (s.after (before ++ .start task builder :: between)).supply.target
            trajectory).widen .shape) := by
  have hstart : ((s.after before).step (.start task builder)).2.streams =
      (s.after before).streams ++ [⟨task, builder, stream⟩] := by
    simp only [step, BatchBuilder.start_source, hopen]
  have hopened : ((s.after before).step (.start task builder)).2.streams[
      (s.after before).streams.length]? = some ⟨task, builder, stream⟩ := by
    rw [hstart, List.getElem?_concat_length]
  have hstream := streams_after hopened between
  have hcalls : s.after (before ++ .start task builder :: between) =
      ((s.after before).step (.start task builder)).2.after between := after_append s before _
  rw [hcalls, reply_of_open hstream]
  rfl

/-- A refresh that does not fit might as well not have been tried. -/
theorem after_unfitting (s : OpenStreams α) (before rest : List (StreamCall α))
    {weights state : Snapshot α} {e : Failure ParamsError}
    (h : s.supply.target.refresh weights state = .error e) :
    s.after (before ++ .refresh weights state :: rest) = s.after (before ++ rest) := by
  have hnone : (s.after before).supply.target.replacement weights state = none := by
    have hsame := congrFun (replacement_after s before) (.refresh weights state)
    exact hsame.trans (ValueTarget.replacement_eq_none_iff.2 ⟨e, h⟩)
  obtain ⟨cause, hcause⟩ := ValueTarget.replacement_eq_none_iff.1 hnone
  have hstep : ((s.after before).step (.refresh weights state)).2 = s.after before := by
    simp only [step, hcause]
  calc s.after (before ++ .refresh weights state :: rest)
      = ((s.after before).step (.refresh weights state)).2.after rest := after_append s before _
    _ = (s.after before).after rest := by rw [hstep]
    _ = s.after (before ++ rest) := (after_append s before rest).symm

/-- A stream that is open gives the same at its next pull, whether or not another one was pulled
at some time since. -/
theorem reply_pull_other (s : OpenStreams α) (before rest : List (StreamCall α)) {i j : Nat}
    (hij : i ≠ j) (hopen : i < (s.after before).streams.length) :
    ((s.after (before ++ .pull j :: rest)).step (.pull i)).1 =
      ((s.after (before ++ rest)).step (.pull i)).1 := by
  have hstream : (s.after before).streams[i]? = some (s.after before).streams[i] :=
    List.getElem?_eq_getElem hopen
  have hother : (StreamCall.pull j : StreamCall α).isPull i = false := by
    simpa [StreamCall.isPull] using hij.symm
  have hwith := streams_after hstream (.pull j :: rest)
  have hwithout := streams_after hstream rest
  rw [← after_append] at hwith hwithout
  have htarget : (s.after (before ++ .pull j :: rest)).supply.target =
      (s.after (before ++ rest)).supply.target := by
    rw [target_after, target_after, List.filterMap_append, List.filterMap_append,
      List.filterMap_cons]
    rfl
  rw [reply_of_open hwith, reply_of_open hwithout, htarget]
  simp [hother]

/-- After the last refresh that fitted, the target has what that refresh brought. -/
theorem target_after_refresh (s : OpenStreams α) (before rest : List (StreamCall α))
    {weights state : Snapshot α} {target : ValueTarget α}
    (h : s.supply.target.refresh weights state = .ok target)
    (hrest : ∀ call ∈ rest, call.replacement s.supply.target = none) :
    (s.after (before ++ .refresh weights state :: rest)).supply.target.Holds weights state := by
  have hnone : rest.filterMap (·.replacement s.supply.target) = [] :=
    List.filterMap_eq_nil_iff.2 hrest
  have hsome : (StreamCall.refresh weights state).replacement s.supply.target =
      some target.network := ValueTarget.replacement_eq_some h
  refine (ValueTarget.holds_of_refresh h).of_network_eq ?_
  rw [target_after, List.filterMap_append, List.filterMap_cons, hsome, hnone]
  simp

/-- Calls at streams that share a value target, in whatever order. What a stream gives at its next
pull is the trajectory that is next in it, built with the target of that moment; the target is the
one that was there at first, as the last refresh that fitted has left it, and its version counts
these refreshes; a refresh that does not fit changes nothing, nor does a pull of another stream;
and every stream that was opened is one request to its task. -/
theorem open_streams_follow_target (s : OpenStreams α) :
    (∀ (before between : List (StreamCall α)) (task : Task α) (builder : BatchBuilder α)
        (stream : Stream (Trajectory α)), task.stream builder.request = .ok stream →
      let index := (s.after before).streams.length
      let now := s.after (before ++ .start task builder :: between)
      (now.step (.pull index)).1 =
        .pulled ((stream.item? (between.countP (·.isPull index))).map fun trajectory =>
          (builder.build now.supply.target trajectory).widen .shape)) ∧
    (∀ calls, (s.after calls).supply.target =
      ⟨(calls.filterMap (·.replacement s.supply.target)).getLast?.getD s.supply.target.network,
        s.supply.target.version +
          (calls.filterMap (·.replacement s.supply.target)).length⟩) ∧
    (∀ (before rest : List (StreamCall α)) (weights state : Snapshot α) (target : ValueTarget α),
      s.supply.target.refresh weights state = .ok target →
      (∀ call ∈ rest, call.replacement s.supply.target = none) →
      (s.after (before ++ .refresh weights state :: rest)).supply.target.Holds weights state) ∧
    (∀ (before rest : List (StreamCall α)) (weights state : Snapshot α)
        (e : Failure ParamsError), s.supply.target.refresh weights state = .error e →
      s.after (before ++ .refresh weights state :: rest) = s.after (before ++ rest)) ∧
    (∀ (before rest : List (StreamCall α)) (i j : Nat), i ≠ j →
      i < (s.after before).streams.length →
      ((s.after (before ++ .pull j :: rest)).step (.pull i)).1 =
        ((s.after (before ++ rest)).step (.pull i)).1) ∧
    ∀ calls, (s.after calls).supply.requests =
        s.supply.requests ++ calls.filterMap StreamCall.request? ∧
      (s.after calls).streams.length =
        s.streams.length + (calls.filterMap StreamCall.request?).length := by
  refine ⟨?_, target_after s, ?_, ?_, ?_, requests_after s⟩
  · intro before between task builder stream hopen
    exact reply_pull s before between hopen
  · intro before rest weights state target h hrest
    exact target_after_refresh s before rest h hrest
  · intro before rest weights state e h
    exact after_unfitting s before rest h
  · intro before rest i j hij hopen
    exact reply_pull_other s before rest hij hopen

section Sample

/-- A network whose value of a step is what is observed there, shifted by its only parameter. -/
def shiftedValues : ValueNetwork Int where
  params := [⟨0, .fill [1] 0⟩]
  layerCounts := [1]
  run values observations := .ok {
    output := { observations with
      entries := observations.entries.map (· + (values.flatMap Tensor.entries).headD 0)
      size_eq := by rw [List.length_map, observations.size_eq] }
    pullback := fun _ => .ok [] }

def noStreams : OpenStreams Int := ⟨⟨.make shiftedValues, []⟩, []⟩

def numberedTask : Task Int := .ofBatches 1 [1] [numberedSteps]

def rewardedValues : BatchBuilder Int := .value ⟨⟨1, 2, 3, 1, ⟨1⟩, 1, 1⟩, earlierRewards⟩

/-- The stream is older than both refreshes, of which the second does not fit. -/
def openedThenRefreshed : List (StreamCall Int) :=
  [.start numberedTask rewardedValues, .refresh ⟨[[.fill [1] 5]]⟩ (.empty 1),
    .refresh ⟨[]⟩ (.empty 1)]

/-- What is built of the first two steps where values are shifted by so much. -/
def shiftedBatch (shift : Int) : BuiltBatch Int := .value {
  observations := ⟨2, 2, 1, [10, 11, 20, 21], rfl⟩
  targets := ⟨2, 2, 1, [11, 13, 24, 26].map (· + shift), rfl⟩
  mask := ⟨2, 2, 1, [1, 1, 1, 1], rfl⟩ }

theorem open_streams_follow_target_refreshed :
    ((noStreams.after (openedThenRefreshed.take 1)).step (.pull 0)).1 =
      .pulled (some (.ok (shiftedBatch 0))) ∧
    ((noStreams.after openedThenRefreshed).step (.pull 0)).1 =
      .pulled (some (.ok (shiftedBatch 5))) ∧
    (noStreams.after openedThenRefreshed).supply.target.Holds ⟨[[.fill [1] 5]]⟩ (.empty 1) ∧
    (noStreams.after openedThenRefreshed).supply.target.version = 1 ∧
    noStreams.after openedThenRefreshed = noStreams.after (openedThenRefreshed.take 2) ∧
    (noStreams.after openedThenRefreshed).supply.requests = [rewardedValues.request] := by
  obtain ⟨hpull, htarget, hholds, hunfitting, -, hrequests⟩ := open_streams_follow_target noStreams
  have hfits : noStreams.supply.target.refresh ⟨[[.fill [1] 5]]⟩ (.empty 1) =
      .ok ⟨{ shiftedValues with params := [⟨0, .fill [1] 5⟩] }, 1⟩ := rfl
  have hmisfit : noStreams.supply.target.refresh ⟨[]⟩ (.empty 1) =
      .error (.error (.layout 1 0)) := rfl
  refine ⟨?_, ?_, ?_, ?_, ?_, ?_⟩
  · exact hpull [] [] numberedTask rewardedValues _ rfl
  · exact hpull [] (openedThenRefreshed.drop 1) numberedTask rewardedValues _ rfl
  · refine hholds [.start numberedTask rewardedValues] [.refresh ⟨[]⟩ (.empty 1)] _ _ _ hfits ?_
    intro call hcall
    obtain rfl := List.mem_singleton.1 hcall
    exact ValueTarget.replacement_eq_none_iff.2 ⟨_, hmisfit⟩
  · rw [htarget]
    rfl
  · exact hunfitting (openedThenRefreshed.take 2) [] _ _ _ hmisfit
  · exact (hrequests _).1

end Sample

end OpenStreams
end ActorCritic
