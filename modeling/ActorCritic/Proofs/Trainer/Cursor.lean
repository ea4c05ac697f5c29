import ActorCritic.Proofs.Trainer.Evaluation

/-!
How the two cursors of a trainer share one input. A cursor asks for a stream only when it has none
that still gives an item, and it reads a stream to its end before it asks for the next; so its
draws give the streams that were opened for it one after another, with one failure in the place of
every empty stream, whatever the other cursor draws in between.
-/

namespace ActorCritic

namespace Stream

variable {β : Type} {s : Stream β} {x : β}

/-- The items up to the end of the stream, or the first `n` if there are more. -/
def take : Nat → Stream β → List β
  | 0, _ => []
  | n + 1, s =>
      match s.next with
      | (some x, rest) => x :: take n rest
      | (none, _) => []

theorem next_of_ended (h : s.next.1 = none) : s.next.2 = s := by
  unfold next at h ⊢
  split at h
  · cases h
  · rfl

theorem items_of_next {rest : Stream β} (h : s.next = (some x, rest)) :
    s.items s.position = some x := by
  unfold next at h
  split at h
  · next hitem =>
      cases h
      exact hitem
  · cases h

theorem take_of_ended (h : s.next.1 = none) (n : Nat) : s.take n = [] := by
  cases n with
  | zero => rfl
  | succ n => rw [take, show s.next = (none, s.next.2) from Prod.ext h rfl]

/-- The stream gives `n` more items, and no others. -/
def EndsAfter (s : Stream β) (n : Nat) : Prop :=
  (∀ i, i < n → s.items (s.position + i) ≠ none) ∧ s.items (s.position + n) = none

theorem EndsAfter.length_take {n : Nat} (h : s.EndsAfter n) (m : Nat) :
    (s.take m).length = min m n := by
  induction m generalizing s n with
  | zero => simp [take]
  | succ m ih =>
      obtain ⟨hitems, hend⟩ := h
      cases n with
      | zero =>
          have hended : s.next.1 = none := by
            simp only [Nat.add_zero] at hend
            simp only [next, hend]
          simp [take_of_ended hended]
      | succ n =>
          obtain ⟨x, hx⟩ := Option.ne_none_iff_exists'.1 (hitems 0 (Nat.succ_pos n))
          have hnext : s.next = (some x, ⟨s.items, s.position + 1⟩) := by
            simp only [Nat.add_zero] at hx
            simp only [next, hx]
          have hrest : (⟨s.items, s.position + 1⟩ : Stream β).EndsAfter n := by
            refine ⟨fun i hi => ?_, ?_⟩
            · simpa only [Nat.add_assoc, Nat.add_comm 1] using hitems (i + 1) (Nat.succ_lt_succ hi)
            · simpa only [Nat.add_assoc, Nat.add_comm 1] using hend
          rw [take, hnext, List.length_cons, ih hrest, Nat.succ_min_succ]

end Stream

/-- The source's streams are those given, each in its turn. `started` is how many there were so
far, and `view` is what is left of one that is open. The streams have batches and errors as their
items. -/
structure BatchSource.Provides {α σ κ β : Type} (source : BatchSource α σ κ β)
    (streams : Nat → Stream (Run α β)) (started : σ → Nat) (view : κ → Stream (Run α β)) :
    Prop where
  start : ∀ supply, ∃ c rest, source.start supply = (.ok c, rest) ∧
    started rest = started supply + 1 ∧ view c = streams (started supply)
  item : ∀ supply c, (source.pull supply c).1 = (view c).next.1
  rest : ∀ supply c, view (source.pull supply c).2 = (view c).next.2
  delivers : ∀ i n a, (streams i).items n ≠ some (.error (.abort a))

/-- Lists provide their items, and nothing else where none of them is an abort. -/
theorem BatchSource.provides_ofLists {α β : Type} {lists : List (List (Run α β))}
    (h : ∀ items ∈ lists, ∀ a, .error (.abort a) ∉ items) :
    (ofLists lists).Provides (fun i => .ofList (lists.getD (i % lists.length) [])) id id where
  start supply := ⟨_, _, rfl, rfl, rfl⟩
  item _ _ := rfl
  rest _ _ := rfl
  delivers i n a hitem := by
    have hmem := List.mem_of_getElem? hitem
    rw [List.getD_eq_getElem?_getD] at hmem
    cases hlist : lists[i % lists.length]? with
    | none => simp [hlist] at hmem
    | some items =>
        rw [hlist] at hmem
        exact h items (List.mem_of_getElem? hlist) a hmem

namespace GradientTrainer

variable {σ κ β ι ο μ : Type}

/-- What batches are drawn for. -/
inductive Cursor where
  | train
  | eval
deriving DecidableEq, Repr

namespace Cursor

def stream : Cursor → GradientTrainer σ κ β ι ο μ → Option κ
  | train, t => t.trainStream
  | eval, t => t.evalStream

def draw : Cursor → TrainerAction σ κ β ι ο μ β
  | train => nextTrainBatch
  | eval => nextEvalBatch

end Cursor

/-- A draw: who made it, what it gave, and the streams that were started meanwhile. -/
structure Draw (β : Type) where
  cursor : Cursor
  result : Run Float32 β
  opened : List Nat

namespace Draw

/-- What the draws of one cursor gave. -/
def results (c : Cursor) (draws : List (Draw β)) : List (Run Float32 β) :=
  (draws.filter (·.cursor = c)).map result

/-- The streams that were opened for one cursor. -/
def openedBy (c : Cursor) (draws : List (Draw β)) : List Nat :=
  (draws.filter (·.cursor = c)).flatMap opened

end Draw

section Draws

variable (started : σ → Nat)

def drawn (c : Cursor) (x : GradientTrainer σ κ β ι ο μ × World Float32 σ) : Draw β where
  cursor := c
  result := (c.draw x).1
  opened :=
    let before := started x.2.supply
    List.range' before (started (c.draw x).2.2.supply - before)

/-- Draws made one after another; one that fails does not keep the next from being made. -/
def draws : List Cursor → GradientTrainer σ κ β ι ο μ × World Float32 σ → List (Draw β)
  | [], _ => []
  | c :: cs, x => drawn started c x :: draws cs (c.draw x).2

/-- What the draws leave. -/
def afterDraws : List Cursor → GradientTrainer σ κ β ι ο μ × World Float32 σ →
    GradientTrainer σ κ β ι ο μ × World Float32 σ
  | [], x => x
  | c :: cs, x => afterDraws cs (c.draw x).2

end Draws

/-- What a trainer is told of a stream that was opened for it, in as many as `n` draws: its items,
or that there are none. -/
def told (name : String) (n : Nat) (s : Stream (Run Float32 β)) : List (Run Float32 β) :=
  if s.next.1.isNone then [Run.fail (.emptyStream name)] else s.take n

theorem length_told (name : String) {s : Stream (Run Float32 β)} {l n : Nat} (h : s.EndsAfter l)
    (hl : 0 < l) (hn : l ≤ n) : (told name n s).length = l := by
  have hitem : s.next.1 ≠ none := by
    intro hended
    have hnothing := h.length_take l
    rw [Stream.take_of_ended hended, Nat.min_self] at hnothing
    exact Nat.ne_of_lt hl hnothing
  simp [told, hitem, h.length_take, Nat.min_eq_right hn]

variable {source : BatchSource Float32 σ κ β} {streams : Nat → Stream (Run Float32 β)}
  {started : σ → Nat} {view : κ → Stream (Run Float32 β)}

/-- The open stream, if there is one, gives no more items. -/
def Spent (view : κ → Stream (Run Float32 β)) (stream : Option κ) : Prop :=
  ∀ k, stream = some k → (view k).next.1 = none

/-- What a cursor has left of its stream, up to `n` items. -/
def remaining (view : κ → Stream (Run Float32 β)) (stream : Option κ) (n : Nat) :
    List (Run Float32 β) :=
  stream.elim [] fun k => (view k).take n

theorem remaining_of_spent {stream : Option κ} (h : Spent view stream) (n : Nat) :
    remaining view stream n = [] := by
  cases stream with
  | none => rfl
  | some k => exact Stream.take_of_ended (h k rfl) n

/-- A stream that is empty is not kept; the one before it stays, and stays spent. -/
theorem nextBatch_of_empty {name : String} {stream : Option κ} {supply rest : σ} {k k' : κ}
    (hspent : ∀ k, stream = some k → (source.pull supply k).1 = none)
    (hstart : source.start supply = (.ok k, rest)) (hpull : source.pull rest k = (none, k')) :
    nextBatch source name stream supply =
      (Run.fail (.emptyStream name), stream.map fun k => (source.pull supply k).2, rest) := by
  cases stream with
  | none => simp only [nextBatch, hstart, hpull, Option.map_none]
  | some current => simp only [nextBatch, hspent current rfl, hstart, hpull, Option.map_some]

/-- A batch comes from the open stream if that gives one, or else from the next stream, the `i`-th.
What is left to the cursor is said behind it, and how many streams were started. -/
inductive NextBatch (streams : Nat → Stream (Run Float32 β)) (view : κ → Stream (Run Float32 β))
    (name : String) (stream : Option κ) (i : Nat) : Run Float32 β → Option κ → Nat → Prop
  | item {k k' : κ} {x : Run Float32 β} : stream = some k → (view k).next = (some x, view k') →
      NextBatch streams view name stream i x (some k') i
  | fresh {k' : κ} {x : Run Float32 β} : Spent view stream →
      (streams i).next = (some x, view k') →
      NextBatch streams view name stream i x (some k') (i + 1)
  | empty {stream' : Option κ} : Spent view stream → (streams i).next.1 = none →
      Spent view stream' →
      NextBatch streams view name stream i (Run.fail (.emptyStream name)) stream' (i + 1)

theorem nextBatch_cases (h : source.Provides streams started view) (name : String)
    (stream : Option κ) (supply : σ) :
    ∃ x stream' rest, nextBatch source name stream supply = (x, stream', rest) ∧
      NextBatch streams view name stream (started supply) x stream' (started rest) := by
  have hpull (supply : σ) (k : κ) :
      (view k).next = ((source.pull supply k).1, view (source.pull supply k).2) :=
    Prod.ext (h.item supply k).symm (h.rest supply k).symm
  by_cases hspent : Spent view stream
  · have hended (k : κ) (hk : stream = some k) : (source.pull supply k).1 = none :=
      (h.item supply k).trans (hspent k hk)
    obtain ⟨c, rest, hstart, hstarted, hview⟩ := h.start supply
    have hnext : (streams (started supply)).next =
        ((source.pull rest c).1, view (source.pull rest c).2) := hview ▸ hpull rest c
    cases hfirst : (source.pull rest c).1 with
    | none =>
        refine ⟨_, _, rest, nextBatch_of_empty hended hstart (Prod.ext hfirst rfl), ?_⟩
        rw [hstarted]
        refine .empty hspent (by rw [hnext, hfirst]) ?_
        intro k hk
        obtain ⟨current, rfl, rfl⟩ := Option.map_eq_some_iff.1 hk
        rw [h.rest, Stream.next_of_ended (hspent current rfl)]
        exact hspent current rfl
    | some x =>
        have hitem (a : Abort) : x ≠ .error (.abort a) := by
          rintro rfl
          exact h.delivers _ _ a (Stream.items_of_next (hnext.trans (congrArg (·, _) hfirst)))
        refine ⟨_, _, rest, nextBatch_of_fresh hended hstart (Prod.ext hfirst rfl) hitem, ?_⟩
        rw [hstarted]
        exact .fresh hspent (by rw [hnext, hfirst])
  · obtain ⟨k, hk⟩ := Classical.not_forall.1 hspent
    obtain ⟨rfl, hitem⟩ := Classical.not_imp.1 hk
    obtain ⟨x, hx⟩ := Option.ne_none_iff_exists'.1 hitem
    have hgiven : (source.pull supply k).1 = some x := (h.item supply k).trans hx
    refine ⟨x, _, supply, nextBatch_of_item hgiven, .item rfl ?_⟩
    rw [hpull supply k, hgiven]

/-- What a draw by `c` changes: its own stream, and the number of streams that were started. -/
structure DrawStep (streams : Nat → Stream (Run Float32 β)) (started : σ → Nat)
    (view : κ → Stream (Run Float32 β)) (c : Cursor)
    (x : GradientTrainer σ κ β ι ο μ × World Float32 σ) (r : Run Float32 β)
    (y : GradientTrainer σ κ β ι ο μ × World Float32 σ) : Prop where
  source : y.1.source = x.1.source
  name : y.1.name = x.1.name
  others : ∀ d, d ≠ c → d.stream y.1 = d.stream x.1
  next : NextBatch streams view x.1.name (c.stream x.1) (started x.2.supply) r (c.stream y.1)
    (started y.2.supply)

theorem draw_cases {x : GradientTrainer σ κ β ι ο μ × World Float32 σ}
    (h : x.1.source.Provides streams started view) (c : Cursor) :
    DrawStep streams started view c x (c.draw x).1 (c.draw x).2 := by
  obtain ⟨t, w⟩ := x
  obtain ⟨r, stream, rest, hbatch, hnext⟩ := nextBatch_cases h t.name (c.stream t) w.supply
  cases c with
  | train =>
      have hdraw : Cursor.train.draw (t, w) =
          (r, ({ t with trainStream := stream }, { w with supply := rest })) := by
        simp only [Cursor.draw, nextTrainBatch]
        rw [show t.trainStream = Cursor.train.stream t from rfl, hbatch]
      rw [hdraw]
      refine ⟨rfl, rfl, fun d hd => ?_, hnext⟩
      cases d with
      | train => exact absurd rfl hd
      | eval => rfl
  | eval =>
      have hdraw : Cursor.eval.draw (t, w) =
          (r, ({ t with evalStream := stream }, { w with supply := rest })) := by
        simp only [Cursor.draw, nextEvalBatch]
        rw [show t.evalStream = Cursor.eval.stream t from rfl, hbatch]
      rw [hdraw]
      refine ⟨rfl, rfl, fun d hd => ?_, hnext⟩
      cases d with
      | train => rfl
      | eval => exact absurd rfl hd

/-- The draw either takes an item of the open stream, or it opens the next stream and takes the
first of what there is to be told of it. -/
theorem NextBatch.effect {name : String} {stream stream' : Option κ} {i j : Nat}
    {r : Run Float32 β} (h : NextBatch streams view name stream i r stream' j) :
    (j = i ∧ ¬Spent view stream ∧
      ∀ m, remaining view stream (m + 1) = r :: remaining view stream' m) ∨
    (j = i + 1 ∧ Spent view stream ∧
      ∀ m, told name (m + 1) (streams i) = r :: remaining view stream' m) := by
  cases h with
  | item hstream hnext =>
      subst hstream
      refine .inl ⟨rfl, fun hspent => ?_, fun m => ?_⟩
      · cases hnext ▸ hspent _ rfl
      · simp only [remaining, Option.elim_some, Stream.take, hnext]
  | fresh hspent hnext =>
      refine .inr ⟨rfl, hspent, fun m => ?_⟩
      simp [told, remaining, Stream.take, hnext]
  | empty hspent hempty hspent' =>
      refine .inr ⟨rfl, hspent, fun m => ?_⟩
      simp [told, hempty, remaining_of_spent hspent']

end GradientTrainer

/-- What is read from `first` and then from the parts in their order, of which the last one is
begun. -/
structure ReadFrom {α : Type} (xs first : List α) (parts : List (List α)) : Prop where
  isPrefix : xs <+: first ++ parts.flatten
  begun : parts ≠ [] → (first ++ parts.dropLast.flatten).length < xs.length

namespace ReadFrom

variable {α : Type} {x : α} {xs first : List α} {parts : List (List α)}

theorem nil : ReadFrom [] first [] := ⟨List.prefix_append [] _, fun h => absurd rfl h⟩

theorem cons (h : ReadFrom xs first parts) : ReadFrom (x :: xs) (x :: first) parts :=
  ⟨List.cons_prefix_cons.2 ⟨rfl, h.isPrefix⟩, fun hparts => Nat.succ_lt_succ (h.begun hparts)⟩

/-- The next part is begun when there is nothing left of the one before. -/
theorem next (h : ReadFrom xs first parts) : ReadFrom (x :: xs) [] ((x :: first) :: parts) := by
  refine ⟨List.cons_prefix_cons.2 ⟨rfl, h.isPrefix⟩, fun _ => ?_⟩
  cases parts with
  | nil => exact Nat.succ_pos _
  | cons part parts => exact Nat.succ_lt_succ (h.begun (List.cons_ne_nil _ _))

/-- Reading parts of one length takes as many of them as are needed. -/
theorem length_parts {l : Nat} (h : ReadFrom xs [] parts) (hl : 0 < l)
    (hparts : ∀ part ∈ parts, part.length = l) : parts.length = (xs.length + l - 1) / l := by
  have hflatten (ps : List (List α)) (hps : ∀ part ∈ ps, part.length = l) :
      ps.flatten.length = ps.length * l := by
    rw [List.length_flatten, List.map_congr_left hps, List.map_const', List.sum_replicate_nat]
  have hle : xs.length ≤ parts.length * l := by
    rw [← hflatten parts hparts]
    exact h.isPrefix.length_le
  have hlt : parts ≠ [] → (parts.length - 1) * l < xs.length := by
    intro hne
    have hbegun := h.begun hne
    rwa [List.nil_append, hflatten _ fun p hp => hparts p (List.dropLast_subset _ hp),
      List.length_dropLast] at hbegun
  refine (Nat.div_eq_of_lt_le ?_ ?_).symm
  · cases parts with
    | nil => simp
    | cons part parts =>
        have hbegun := hlt (List.cons_ne_nil _ _)
        simp only [List.length_cons, Nat.add_sub_cancel] at hbegun ⊢
        rw [Nat.succ_mul]
        omega
  · rw [Nat.succ_mul]
    omega

end ReadFrom

namespace GradientTrainer

variable {σ κ β ι ο μ : Type} {streams : Nat → Stream (Run Float32 β)} {started : σ → Nat}
  {view : κ → Stream (Run Float32 β)}

namespace Draw

variable {c d : Cursor} {r : Run Float32 β} {is : List Nat} {ds : List (Draw β)}

theorem results_cons_self : results c (⟨c, r, is⟩ :: ds) = r :: results c ds := by
  simp [results]

theorem results_cons_of_ne (h : d ≠ c) : results c (⟨d, r, is⟩ :: ds) = results c ds := by
  simp [results, h]

theorem openedBy_cons_self : openedBy c (⟨c, r, is⟩ :: ds) = is ++ openedBy c ds := by
  simp [openedBy]

theorem openedBy_cons_of_ne (h : d ≠ c) : openedBy c (⟨d, r, is⟩ :: ds) = openedBy c ds := by
  simp [openedBy, h]

/-- What was opened was opened for one of the two. -/
theorem openedBy_append_perm (ds : List (Draw β)) :
    (openedBy .train ds ++ openedBy .eval ds).Perm (ds.flatMap opened) := by
  have hfilter : ds.filter (·.cursor = .eval) = ds.filter fun d => !d.cursor = .train := by
    refine List.filter_congr fun d _ => ?_
    cases d.cursor <;> rfl
  rw [openedBy, openedBy, hfilter, ← List.flatMap_append]
  exact (List.filter_append_perm _ ds).flatMap_right _

end Draw

variable {x : GradientTrainer σ κ β ι ο μ × World Float32 σ}

/-- A draw opens the next stream if its cursor is spent, and otherwise it opens none. -/
theorem drawn_cases (h : x.1.source.Provides streams started view) (c : Cursor) :
    let y := (c.draw x).2
    (started y.2.supply = started x.2.supply ∧ ¬Spent view (c.stream x.1) ∧
      drawn started c x = ⟨c, (c.draw x).1, []⟩ ∧
      ∀ m, remaining view (c.stream x.1) (m + 1) =
        (c.draw x).1 :: remaining view (c.stream y.1) m) ∨
    (started y.2.supply = started x.2.supply + 1 ∧ Spent view (c.stream x.1) ∧
      drawn started c x = ⟨c, (c.draw x).1, [started x.2.supply]⟩ ∧
      ∀ m, told x.1.name (m + 1) (streams (started x.2.supply)) =
        (c.draw x).1 :: remaining view (c.stream y.1) m) := by
  obtain ⟨hsame, hspent, hleft⟩ | ⟨hnext, hspent, htold⟩ := (draw_cases h c).next.effect
  · refine .inl ⟨hsame, hspent, ?_, hleft⟩
    simp [drawn, hsame]
  · refine .inr ⟨hnext, hspent, ?_, htold⟩
    simp [drawn, hnext]

/-- Whatever is drawn in between, a cursor reads on in its own stream and then in those that are
opened for it. -/
theorem readFrom_draws (cs : List Cursor) (h : x.1.source.Provides streams started view)
    (c : Cursor) {m n : Nat} (hm : cs.count c ≤ m) (hn : cs.count c ≤ n) :
    ReadFrom (Draw.results c (draws started cs x)) (remaining view (c.stream x.1) m)
      ((Draw.openedBy c (draws started cs x)).map fun i => told x.1.name n (streams i)) := by
  induction cs generalizing x m with
  | nil => exact .nil
  | cons d cs ih =>
      have hdraw := draw_cases h d
      have hrest : (d.draw x).2.1.source.Provides streams started view := hdraw.source ▸ h
      by_cases hd : d = c
      · subst hd
        rw [List.count_cons_self] at hm hn
        obtain ⟨m, rfl⟩ := Nat.exists_eq_add_of_le' (Nat.le_of_add_left_le hm)
        obtain ⟨n, rfl⟩ := Nat.exists_eq_add_of_le' (Nat.le_of_add_left_le hn)
        obtain ⟨-, -, hdrawn, hleft⟩ | ⟨-, hspent, hdrawn, htold⟩ := drawn_cases h d
        · have hread := ih hrest (m := m) (by omega) (by omega)
          rw [draws, hdrawn, Draw.results_cons_self, Draw.openedBy_cons_self, hleft]
          rw [hdraw.name] at hread
          exact hread.cons
        · have hread := ih hrest (m := n) (by omega) (by omega)
          rw [draws, hdrawn, Draw.results_cons_self, Draw.openedBy_cons_self,
            remaining_of_spent hspent, List.singleton_append, List.map_cons, htold]
          rw [hdraw.name] at hread
          exact hread.next
      · rw [List.count_cons_of_ne hd] at hm hn
        have hread := ih hrest hm hn
        rw [hdraw.name, hdraw.others c (Ne.symm hd)] at hread
        simp only [draws, drawn, Draw.results_cons_of_ne hd, Draw.openedBy_cons_of_ne hd]
        exact hread

theorem length_results_draws (started : σ → Nat) (cs : List Cursor) (c : Cursor)
    (x : GradientTrainer σ κ β ι ο μ × World Float32 σ) :
    (Draw.results c (draws started cs x)).length = cs.count c := by
  induction cs generalizing x with
  | nil => rfl
  | cons d cs ih =>
      by_cases hd : d = c
      · subst hd
        simp only [draws, drawn, Draw.results_cons_self, List.length_cons, ih,
          List.count_cons_self]
      · simp only [draws, drawn, Draw.results_cons_of_ne hd, ih, List.count_cons_of_ne hd]

theorem source_afterDraws (cs : List Cursor) (h : x.1.source.Provides streams started view) :
    (afterDraws cs x).1.source.Provides streams started view := by
  induction cs generalizing x with
  | nil => exact h
  | cons c cs ih => exact ih ((draw_cases h c).source ▸ h)

/-- Streams are opened in their order, each of them once. -/
theorem opened_draws (cs : List Cursor) (h : x.1.source.Provides streams started view) :
    ∃ count, started (afterDraws cs x).2.supply = started x.2.supply + count ∧
      (draws started cs x).flatMap Draw.opened = List.range' (started x.2.supply) count := by
  induction cs generalizing x with
  | nil => exact ⟨0, rfl, rfl⟩
  | cons c cs ih =>
      obtain ⟨count, hafter, hopened⟩ := ih ((draw_cases h c).source ▸ h)
      obtain ⟨hsame, -, hdrawn, -⟩ | ⟨hnext, -, hdrawn, -⟩ := drawn_cases h c
      · refine ⟨count, hsame ▸ hafter, ?_⟩
        rw [draws, List.flatMap_cons, hdrawn, hopened, hsame]
        rfl
      · refine ⟨count + 1, ?_, ?_⟩
        · rw [afterDraws, hafter, hnext]
          omega
        · rw [draws, List.flatMap_cons, hdrawn, hopened, hnext]
          rfl

/-- For a trainer without open streams, whose cursors draw in any order: every stream is opened for
one of them, and only when that one has none with an item left. What a cursor is given is what
there is to be told of its streams in their order, of which the last one is begun. So it opens as
many streams of one length as its draws need. -/
theorem draws_read_streams_in_turn {t : GradientTrainer σ κ β ι ο μ}
    (h : t.source.Provides streams started view) (htrain : t.trainStream = none)
    (heval : t.evalStream = none) (w : World Float32 σ) (cs : List Cursor) :
    let ds := draws started cs (t, w)
    let after := afterDraws cs (t, w)
    (∃ count, started after.2.supply = started w.supply + count ∧
      (Draw.openedBy .train ds ++ Draw.openedBy .eval ds).Perm
        (List.range' (started w.supply) count)) ∧
    (∀ c, (drawn started c after).opened = [started after.2.supply] ∧
        Spent view (c.stream after.1) ∨
      (drawn started c after).opened = [] ∧ ¬Spent view (c.stream after.1)) ∧
    ∀ c,
      let results := Draw.results c ds
      let read := fun is : List Nat => is.flatMap fun i => told t.name (cs.count c) (streams i)
      results.length = cs.count c ∧
      results <+: read (Draw.openedBy c ds) ∧
      (Draw.openedBy c ds ≠ [] →
        (read (Draw.openedBy c ds).dropLast).length < results.length) ∧
      ∀ l, 0 < l → (∀ i ∈ Draw.openedBy c ds, (streams i).EndsAfter l) →
        (Draw.openedBy c ds).length = (cs.count c + l - 1) / l := by
  intro ds after
  refine ⟨?_, ?_, ?_⟩
  · obtain ⟨count, hafter, hopened⟩ := opened_draws cs (x := (t, w)) h
    refine ⟨count, hafter, ?_⟩
    rw [← hopened]
    exact Draw.openedBy_append_perm ds
  · intro c
    obtain ⟨-, hspent, hdrawn, -⟩ | ⟨-, hspent, hdrawn, -⟩ :=
      drawn_cases (source_afterDraws cs (x := (t, w)) h) c
    · exact .inr ⟨congrArg Draw.opened hdrawn, hspent⟩
    · exact .inl ⟨congrArg Draw.opened hdrawn, hspent⟩
  · intro c results read
    have hnone : c.stream t = none := by
      cases c with
      | train => exact htrain
      | eval => exact heval
    have hread {n : Nat} (hn : cs.count c ≤ n) :
        ReadFrom results [] ((Draw.openedBy c ds).map fun i => told t.name n (streams i)) := by
      have hdraws := readFrom_draws cs (x := (t, w)) h c (Nat.le_refl _) hn
      rwa [hnone] at hdraws
    have hlength : results.length = cs.count c := length_results_draws started cs c (t, w)
    refine ⟨hlength, ?_, ?_, ?_⟩
    · have hprefix := (hread (Nat.le_refl _)).isPrefix
      rwa [List.nil_append, ← List.flatMap_def] at hprefix
    · intro hne
      have hbegun := (hread (Nat.le_refl _)).begun (mt List.map_eq_nil_iff.1 hne)
      rwa [List.nil_append, ← List.map_dropLast, ← List.flatMap_def] at hbegun
    · intro l hl hends
      have hparts := (hread (Nat.le_max_left (cs.count c) l)).length_parts hl ?_
      · rwa [List.length_map, hlength] at hparts
      · intro part hpart
        obtain ⟨i, hi, rfl⟩ := List.mem_map.1 hpart
        exact length_told t.name (hends i hi) hl (Nat.le_max_right _ _)

section Sample

/-- A trainer with the given streams, whose batches are numbers. -/
def countingTrainer (lists : List (List (Run Float32 Nat))) :
    GradientTrainer Nat (Stream (Run Float32 Nat)) Nat (StepTensor Float32)
      (StepTensor Float32) (Moments Float32) where
  name := "value"
  network := Network.hiddenValue 0 1 1
  optimizer := .adam
  memory := []
  schedule _ := 1
  score _ _ := .error (.abort .refused)
  source := .ofLists lists
  trainStream := none
  evalStream := none
  step := 0
  checkpointer := none
  loggers := []
  history := []

/-- Of the three streams the first has a flawed batch and the second is empty. -/
def flawedLists : List (List (Run Float32 Nat)) :=
  [[.ok 1, Run.fail (.tensor "flawed"), .ok 2], [], [.ok 3]]

def mixedOrder : List Cursor := [.train, .eval, .train, .train, .train, .eval]

/-- Nothing was started so far. -/
def untouched : World Float32 Nat := ⟨0, .empty, [], 0⟩

/-- The second and the last draw are for evaluation, and they get the empty stream and, once all
lists have been read, the first one again. With streams of two batches each, five draws take three
streams. -/
theorem draws_read_streams_in_turn_flawed_lists :
    let ds := draws id mixedOrder (countingTrainer flawedLists, untouched)
    let pairs := draws id (List.replicate 5 .train) (countingTrainer [[.ok 7, .ok 8]], untouched)
    Draw.openedBy .train ds = [0, 2] ∧ Draw.openedBy .eval ds = [1, 3] ∧
    Draw.results .train ds = [.ok 1, Run.fail (.tensor "flawed"), .ok 2, .ok 3] ∧
    Draw.results .train ds <+: [0, 2].flatMap (fun i =>
      told "value" 4 (.ofList (flawedLists.getD (i % 3) []))) ∧
    Draw.results .eval ds = [Run.fail (.emptyStream "value"), .ok 1] ∧
    Draw.results .eval ds <+: [1, 3].flatMap (fun i =>
      told "value" 2 (.ofList (flawedLists.getD (i % 3) []))) ∧
    (Draw.openedBy .train pairs).length = 3 := by
  have hflawed : (countingTrainer flawedLists).source.Provides _ id id :=
    BatchSource.provides_ofLists (by simp [flawedLists, Run.fail])
  have hpairs : (countingTrainer [[.ok 7, .ok 8]]).source.Provides _ id id :=
    BatchSource.provides_ofLists (by simp)
  obtain ⟨-, -, hread⟩ := draws_read_streams_in_turn hflawed rfl rfl untouched mixedOrder
  obtain ⟨-, -, hcount⟩ :=
    draws_read_streams_in_turn hpairs rfl rfl untouched (List.replicate 5 .train)
  have hpair (i : Nat) :
      (Stream.ofList ([[.ok 7, .ok 8]].getD (i % 1) []) : Stream (Run Float32 Nat)).EndsAfter
        2 := by
    rw [Nat.mod_one]
    refine ⟨?_, rfl⟩
    decide
  refine ⟨rfl, rfl, rfl, (hread .train).2.1, rfl, (hread .eval).2.1, ?_⟩
  exact (hcount .train).2.2.2 2 (Nat.succ_pos 1) fun i _ => hpair i

end Sample

end GradientTrainer
end ActorCritic
