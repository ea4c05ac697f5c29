import ActorCritic.Proofs.Action
import ActorCritic.Proofs.Snapshot

/-!
Copies of layers into a snapshot that is held. A copy is refused for one reason, the first that
applies, and then the held snapshot is as it was. A copy that is made can be told by its layers
alone, so it may as well be made in parts, and making it again changes nothing. Whether two
snapshots agree is asked of shapes and bits, and an entry agrees with itself whatever it is.
-/

namespace ActorCritic
namespace Snapshot

variable {α : Type} {source target middle r : Snapshot α} {first mid last : Nat}

/-- Replaces the layers `first`, …, `last - 1` of the snapshot that is held by the source's. -/
def takeLayers (source : Snapshot α) (first last : Nat) : Action α (Snapshot α) Unit := do
  let target ← Action.read
  let copied ← Action.ofRun (Run.ofParams (source.copyLayers target first last))
  Action.update fun _ => copied

/-- Why a copy is refused: the range is looked at first, in the source and then in the target,
and the shapes after it, layer by layer. -/
inductive Refuses (first last : Nat) (source target : Snapshot α) : ParamsError → Prop where
  | source (range : ¬(first ≤ last ∧ last ≤ source.layerCount)) :
      Refuses first last source target (.layerRange first last source.layerCount)
  | target (ordered : first ≤ last) (last_le : last ≤ source.layerCount)
      (range : target.layerCount < last) :
      Refuses first last source target (.layerRange first last target.layerCount)
  | shapes (i : Nat) (ordered : first ≤ last) (last_le_source : last ≤ source.layerCount)
      (last_le_target : last ≤ target.layerCount) (first_le : first ≤ i) (lt_last : i < last)
      (before : ∀ j, first ≤ j → j < i → source.shapes j = target.shapes j)
      (differ : source.shapes i ≠ target.shapes i) :
      Refuses first last source target
        (.layerMismatch i (source.shapes i) (target.shapes i))

theorem checkRange_eq_error {layerCount : Nat} {e : ParamsError} :
    checkRange first last layerCount = .error e ↔
      ¬(first ≤ last ∧ last ≤ layerCount) ∧ .layerRange first last layerCount = e := by
  unfold checkRange
  split
  · next h =>
      have hrange : ¬(first ≤ last ∧ last ≤ layerCount) := by omega
      simp [hrange]
  · next h =>
      have hrange : first ≤ last ∧ last ≤ layerCount := by omega
      simp [hrange]

theorem firstMismatch?_eq_some {i : Nat} :
    firstMismatch? source target first last = some i ↔
      first ≤ i ∧ i < last ∧ source.shapes i ≠ target.shapes i ∧
        ∀ j, first ≤ j → j < i → source.shapes j = target.shapes j := by
  simp only [firstMismatch?, range, List.find?_range'_eq_some, decide_eq_true_eq,
    List.mem_range'_1, Bool.not_eq_true', decide_eq_false_iff_not, ne_eq, Classical.not_not]
  constructor
  · rintro ⟨hdiffer, ⟨hfirst, hlast⟩, hbefore⟩
    exact ⟨hfirst, by omega, hdiffer, hbefore⟩
  · rintro ⟨hfirst, hlast, hdiffer, hbefore⟩
    exact ⟨hdiffer, ⟨hfirst, by omega⟩, hbefore⟩

theorem copyLayers_eq_error_iff {e : ParamsError} :
    source.copyLayers target first last = .error e ↔ source.Refuses first last target e := by
  unfold copyLayers
  simp only [Attempt.bind_eq_error, checkRange_eq_error, checkRange_eq_ok]
  constructor
  · rintro (⟨hrange, rfl⟩ | ⟨-, ⟨hordered, hsource⟩, ⟨hrange, rfl⟩ | ⟨-, ⟨-, htarget⟩, h⟩⟩)
    · exact .source hrange
    · exact .target hordered hsource (by omega)
    · cases hmismatch : firstMismatch? source target first last with
      | none =>
          rw [hmismatch] at h
          cases h
      | some i =>
          rw [hmismatch] at h
          obtain ⟨hfirst, hlast, hdiffer, hbefore⟩ := firstMismatch?_eq_some.1 hmismatch
          cases h
          exact .shapes i hordered hsource htarget hfirst hlast hbefore hdiffer
  · rintro (hrange | ⟨hordered, hsource, hrange⟩ |
      ⟨i, hordered, hsource, htarget, hfirst, hlast, hbefore, hdiffer⟩)
    · exact .inl ⟨hrange, rfl⟩
    · exact .inr ⟨(), ⟨hordered, hsource⟩, .inl ⟨by omega, rfl⟩⟩
    · refine .inr ⟨(), ⟨hordered, hsource⟩, .inr ⟨(), ⟨hordered, htarget⟩, ?_⟩⟩
      rw [firstMismatch?_eq_some.2 ⟨hfirst, hlast, hdiffer, hbefore⟩]
      rfl

/-- A copy that is made can be told by its layers alone. -/
theorem copyLayers_eq_ok_iff :
    source.copyLayers target first last = .ok r ↔
      source.Matches first last target ∧ source.SameWithin first last r ∧
        target.SameOutside first last r := by
  constructor
  · intro h
    exact ⟨exists_copyLayers_iff.1 ⟨r, h⟩, sameWithin_copyLayers h, sameOutside_copyLayers h⟩
  · rintro ⟨hmatches, hwithin, houtside⟩
    obtain ⟨copied, hcopied⟩ := exists_copyLayers_iff.2 hmatches
    have hsame : copied = r := by
      apply ext_layers ((layerCount_copyLayers hcopied).trans houtside.layerCount_eq)
      intro i _
      rw [layer_copyLayers hcopied]
      split
      · next hi => exact hwithin.layer_eq i hi.1 hi.2
      · next hi => exact houtside.layer_eq i (by omega)
    rw [hcopied, hsame]

theorem copyLayers_again (h : source.copyLayers target first last = .ok r) :
    source.copyLayers r first last = .ok r := by
  obtain ⟨hmatches, hwithin, houtside⟩ := copyLayers_eq_ok_iff.1 h
  refine copyLayers_eq_ok_iff.2 ⟨?_, hwithin, .refl first last r⟩
  refine ⟨hmatches.ordered, hmatches.last_le_source, hwithin.last_le_right, fun i hf hl => ?_⟩
  rw [shapes, shapes, hwithin.layer_eq i hf hl]

theorem SameOutside.symm (h : target.SameOutside first last r) : r.SameOutside first last target :=
  ⟨h.layerCount_eq.symm, fun i hi => (h.layer_eq i hi).symm⟩

theorem Matches.part {first' last' : Nat} (h : source.Matches first last target)
    (hfirst : first ≤ first') (hordered : first' ≤ last') (hlast : last' ≤ last) :
    source.Matches first' last' target where
  ordered := hordered
  last_le_source := Nat.le_trans hlast h.last_le_source
  last_le_target := Nat.le_trans hlast h.last_le_target
  shapes_eq i hf hl := h.shapes_eq i (Nat.le_trans hfirst hf) (Nat.lt_of_lt_of_le hl hlast)

/-- Only the layers of the range matter for whether it can be copied. -/
theorem Matches.of_sameOutside (h : source.Matches mid last target)
    (hsame : target.SameOutside first mid middle) : source.Matches mid last middle where
  ordered := h.ordered
  last_le_source := h.last_le_source
  last_le_target := hsame.layerCount_eq ▸ h.last_le_target
  shapes_eq i hf hl := by
    have hlayer := hsame.layer_eq i (.inr hf)
    rw [h.shapes_eq i hf hl, shapes, shapes, hlayer]

theorem Matches.join (hleft : source.Matches first mid target)
    (hright : source.Matches mid last target) : source.Matches first last target where
  ordered := Nat.le_trans hleft.ordered hright.ordered
  last_le_source := hright.last_le_source
  last_le_target := hright.last_le_target
  shapes_eq i hf hl := by
    by_cases hi : i < mid
    · exact hleft.shapes_eq i hf hi
    · exact hright.shapes_eq i (Nat.not_lt.1 hi) hl

/-- What two copies in a row leave, of ranges that lie next to each other. -/
theorem copyLayers_join (hleft : source.copyLayers target first mid = .ok middle)
    (hright : source.copyLayers middle mid last = .ok r) :
    source.copyLayers target first last = .ok r := by
  obtain ⟨hmatches, hwithin, houtside⟩ := copyLayers_eq_ok_iff.1 hleft
  obtain ⟨hmatches', hwithin', houtside'⟩ := copyLayers_eq_ok_iff.1 hright
  have hfirst : first ≤ mid := hmatches.ordered
  have hlast : mid ≤ last := hmatches'.ordered
  refine copyLayers_eq_ok_iff.2 ⟨hmatches.join (hmatches'.of_sameOutside houtside.symm), ?_, ?_⟩
  · refine ⟨hwithin'.last_le_left, hwithin'.last_le_right, fun i hf hl => ?_⟩
    by_cases hi : i < mid
    · exact (hwithin.layer_eq i hf hi).trans (houtside'.layer_eq i (.inl hi))
    · exact hwithin'.layer_eq i (Nat.not_lt.1 hi) hl
  · refine ⟨houtside.layerCount_eq.trans houtside'.layerCount_eq, fun i hi => ?_⟩
    exact (houtside.layer_eq i (by omega)).trans (houtside'.layer_eq i (by omega))

/-- A range is copied at once or in two parts, with the same outcome. -/
theorem copyLayers_split (hfirst : first ≤ mid) (hlast : mid ≤ last) :
    source.copyLayers target first last = .ok r ↔
      ∃ middle, source.copyLayers target first mid = .ok middle ∧
        source.copyLayers middle mid last = .ok r := by
  constructor
  · intro h
    have hmatches := exists_copyLayers_iff.1 ⟨r, h⟩
    obtain ⟨middle, hleft⟩ := exists_copyLayers_iff.2 (hmatches.part (Nat.le_refl _) hfirst hlast)
    have hrest : source.Matches mid last middle :=
      (hmatches.part hfirst hlast (Nat.le_refl _)).of_sameOutside (sameOutside_copyLayers hleft)
    obtain ⟨whole, hright⟩ := exists_copyLayers_iff.2 hrest
    have hsame : whole = r := Except.ok.inj ((copyLayers_join hleft hright).symm.trans h)
    exact ⟨middle, hleft, hsame ▸ hright⟩
  · rintro ⟨middle, hleft, hright⟩
    exact copyLayers_join hleft hright

/-- The layers of the range agree in their shapes and in the bits of all entries. -/
structure Agrees (bits : α → UInt32) (first last : Nat) (a b : Snapshot α) : Prop where
  ordered : first ≤ last
  last_le_left : last ≤ a.layerCount
  last_le_right : last ≤ b.layerCount
  shapes_eq : ∀ i, first ≤ i → i < last → a.shapes i = b.shapes i
  bits_eq : ∀ i, first ≤ i → i < last → a.layerBits bits i = b.layerBits bits i

theorem agrees_of_sameWithin {a b : Snapshot α} (bits : α → UInt32) (hordered : first ≤ last)
    (h : a.SameWithin first last b) : Agrees bits first last a b where
  ordered := hordered
  last_le_left := h.last_le_left
  last_le_right := h.last_le_right
  shapes_eq i hf hl := by rw [shapes, shapes, h.layer_eq i hf hl]
  bits_eq i hf hl := by rw [layerBits, layerBits, h.layer_eq i hf hl]

/-- A tensor is given by its shape and the bits of its entries. -/
theorem eq_of_bits {bits : α → UInt32} (hbits : Function.Injective bits) {xs ys : List (Tensor α)}
    (hshapes : xs.map Tensor.shape = ys.map Tensor.shape)
    (h : xs.map (fun t => t.entries.map bits) = ys.map fun t => t.entries.map bits) : xs = ys := by
  induction xs generalizing ys with
  | nil => exact (List.map_eq_nil_iff.1 hshapes.symm).symm
  | cons x xs ih =>
      cases ys with
      | nil => cases hshapes
      | cons y ys =>
          obtain ⟨hshape, hshapesRest⟩ := List.cons.inj hshapes
          obtain ⟨hentry, hrest⟩ := List.cons.inj h
          have hentries : x.entries = y.entries :=
            (List.map_inj_right fun _ _ hbit => hbits hbit).1 hentry
          have hsame : x = y := by
            cases x
            cases y
            cases hshape
            cases hentries
            rfl
          rw [hsame, ih hshapesRest hrest]

theorem agrees_iff {bits : α → UInt32} (hbits : Function.Injective bits) {a b : Snapshot α} :
    Agrees bits first last a b ↔ first ≤ last ∧ a.SameWithin first last b := by
  constructor
  · intro h
    refine ⟨h.ordered, h.last_le_left, h.last_le_right, fun i hf hl => ?_⟩
    exact eq_of_bits hbits (h.shapes_eq i hf hl) (h.bits_eq i hf hl)
  · rintro ⟨hordered, h⟩
    exact agrees_of_sameWithin bits hordered h

theorem layersEqual_eq_true_iff {bits : α → UInt32} {a b : Snapshot α} :
    a.layersEqual bits b first last = .ok true ↔ Agrees bits first last a b := by
  unfold layersEqual
  simp only [Attempt.bind_eq_ok, checkRange_eq_ok, Attempt.pure_eq_ok, List.all_eq_true, range,
    List.mem_range'_1, decide_eq_true_eq]
  constructor
  · rintro ⟨-, ⟨hordered, ha⟩, -, ⟨-, hb⟩, hsame⟩
    exact ⟨hordered, ha, hb, fun i hf hl => (hsame i ⟨hf, by omega⟩).1,
      fun i hf hl => (hsame i ⟨hf, by omega⟩).2⟩
  · rintro ⟨hordered, ha, hb, hshapes, hbits⟩
    exact ⟨(), ⟨hordered, ha⟩, (), ⟨hordered, hb⟩, fun i hi =>
      ⟨hshapes i hi.1 (by omega), hbits i hi.1 (by omega)⟩⟩

theorem takeLayers_eq_ok {u : Unit} :
    source.takeLayers first last target = (.ok u, r) ↔
      source.copyLayers target first last = .ok r := by
  refine Action.read_bind_eq.trans (Action.bind_eq_ok.trans ?_)
  constructor
  · rintro ⟨copied, held, hcopied, hheld⟩
    obtain ⟨hcopy, -⟩ := Prod.mk.inj hcopied
    obtain ⟨-, rfl⟩ := Action.update_eq_ok.1 hheld
    exact Attempt.mapError_eq_ok.1 hcopy
  · intro h
    exact ⟨r, target, Prod.ext (Attempt.mapError_eq_ok.2 h) rfl, rfl⟩

theorem takeLayers_eq_error {e : Failure (Error α)} :
    source.takeLayers first last target = (.error e, r) ↔
      target = r ∧ ∃ cause, source.copyLayers target first last = .error cause ∧
        .error (.params cause) = e := by
  refine Action.read_bind_eq.trans (Action.bind_eq_error.trans ?_)
  constructor
  · rintro (hrefused | ⟨copied, held, -, hheld⟩)
    · obtain ⟨hrefused, hheld⟩ := Prod.mk.inj hrefused
      exact ⟨hheld, Attempt.mapError_eq_error.1 hrefused⟩
    · cases hheld
  · rintro ⟨rfl, h⟩
    exact .inl (Prod.ext (Attempt.mapError_eq_error.2 h) rfl)

/-- A copy is made exactly where range and shapes fit; then the layers of the range are the
source's and all others as before, however the range is cut, and a second copy changes nothing.
Else the first reason against it is told and the held snapshot stays. Snapshots are equal on a
range exactly if shapes and the bits of the entries agree there, which is to say that the layers are
the same, where the bits tell the entries apart. -/
theorem layers_are_taken_or_kept (bits : α → UInt32) (source target : Snapshot α)
    (first last : Nat) :
    ((∃ r, source.takeLayers first last target = (.ok (), r)) ↔
      source.Matches first last target) ∧
    (∀ r, source.takeLayers first last target = (.ok (), r) →
      source.SameWithin first last r ∧ target.SameOutside first last r ∧
        r.layersEqual bits source first last = .ok true ∧
        source.takeLayers first last r = (.ok (), r)) ∧
    (∀ e r, source.takeLayers first last target = (.error e, r) ↔
      target = r ∧ ∃ cause, source.Refuses first last target cause ∧
        .error (.params cause) = e) ∧
    (∀ mid r, first ≤ mid → mid ≤ last →
      (source.takeLayers first last target = (.ok (), r) ↔
        (do source.takeLayers first mid; source.takeLayers mid last) target = (.ok (), r))) ∧
    (source.layersEqual bits target first last = .ok true ↔
      Agrees bits first last source target) ∧
    (Function.Injective bits → (source.layersEqual bits target first last = .ok true ↔
      first ≤ last ∧ source.SameWithin first last target)) := by
  refine ⟨?_, fun r h => ?_, fun e r => ?_, fun mid r hfirst hlast => ?_, layersEqual_eq_true_iff,
    fun hbits => layersEqual_eq_true_iff.trans (agrees_iff hbits)⟩
  · simp only [takeLayers_eq_ok]
    exact exists_copyLayers_iff
  · have hcopy := takeLayers_eq_ok.1 h
    obtain ⟨hmatches, hwithin, houtside⟩ := copyLayers_eq_ok_iff.1 hcopy
    have hagrees : Agrees bits first last r source :=
      agrees_of_sameWithin bits hmatches.ordered hwithin.symm
    exact ⟨hwithin, houtside, layersEqual_eq_true_iff.2 hagrees,
      takeLayers_eq_ok.2 (copyLayers_again hcopy)⟩
  · simp only [takeLayers_eq_error, copyLayers_eq_error_iff]
  · rw [Action.bind_eq_ok, takeLayers_eq_ok, copyLayers_split hfirst hlast]
    simp only [takeLayers_eq_ok, exists_const]

namespace Sample

/-- No number, which is not equal to itself as numbers go. -/
def notANumber : Float32 := 0 / 0

/-- Two layers fit each other, the last ones do not. -/
def taught : Snapshot Float32 := ⟨[[.fill [2] notANumber], [], [.fill [1] 1]]⟩

def untaught : Snapshot Float32 := ⟨[[.fill [2] 0], [], [.fill [2, 2] 2]]⟩

end Sample

theorem toBits_injective : Function.Injective Float32.toBits := by
  rintro ⟨⟨a, ha⟩⟩ ⟨⟨b, hb⟩⟩ h
  cases h
  rfl

/-- Entries that are no numbers are copied like others, and count as equal afterwards. -/
theorem layers_are_taken_or_kept_not_a_number :
    (Sample.notANumber == Sample.notANumber) = false ∧
    (∃ r, Sample.taught.takeLayers 0 2 Sample.untaught = (.ok (), r) ∧
      r.layersEqual Float32.toBits Sample.taught 0 2 = .ok true ∧
      (do Sample.taught.takeLayers 0 1; Sample.taught.takeLayers 1 2) Sample.untaught =
        (.ok (), r)) ∧
    Sample.taught.layersEqual Float32.toBits Sample.untaught 0 2 ≠ .ok true ∧
    Sample.taught.takeLayers 0 3 Sample.untaught =
      (.error (.error (.params (.layerMismatch 2 [[1]] [[2, 2]]))), Sample.untaught) := by
  have hmatches : Sample.taught.Matches 0 2 Sample.untaught :=
    ⟨by decide, by decide, by decide, by
      intro i _ hi
      match i, hi with
      | 0, _ => rfl
      | 1, _ => rfl⟩
  obtain ⟨hmade, htaken, -, hparts, -, hsame⟩ :=
    layers_are_taken_or_kept Float32.toBits Sample.taught Sample.untaught 0 2
  obtain ⟨r, hr⟩ := hmade.2 hmatches
  obtain ⟨-, -, hrefused, -⟩ :=
    layers_are_taken_or_kept Float32.toBits Sample.taught Sample.untaught 0 3
  refine ⟨by decide, ⟨r, hr, (htaken r hr).2.2.1, (hparts 1 r (by decide) (by decide)).1 hr⟩,
    fun hequal => ?_, ?_⟩
  · have hlayer := ((hsame toBits_injective).1 hequal).2.layer_eq 0 (by decide) (by decide)
    exact absurd hlayer (by decide)
  refine (hrefused _ _).2 ⟨rfl, _, ?_, rfl⟩
  refine .shapes 2 (by decide) (by decide) (by decide) (by decide) (by decide) ?_ (by decide)
  intro j _ hj
  match j, hj with
  | 0, _ => rfl
  | 1, _ => rfl

end Snapshot
end ActorCritic
