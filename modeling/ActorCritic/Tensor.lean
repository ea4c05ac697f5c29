import ActorCritic.Blocks
import ActorCritic.Scalar
import ActorCritic.Failure

/-!
Tensors of any rank in row-major order. Two tensors of one rank combine entry by entry when
every axis has the same extent in both or extent one in one of them; the axis of extent one is
repeated. The gradient of a repeated tensor is the sum over its repetitions.
-/

namespace ActorCritic

/-- The number of entries of a tensor with the given extents. -/
def entryCount : (shape : List Nat) → Nat
  | [] => 1
  | extent :: shape => extent * entryCount shape

@[simp] theorem entryCount_nil : entryCount [] = 1 := rfl

@[simp] theorem entryCount_cons (extent : Nat) (shape : List Nat) :
    entryCount (extent :: shape) = extent * entryCount shape := rfl

structure Tensor (α : Type) where
  shape : List Nat
  entries : List α
  size_eq : entries.length = entryCount shape
deriving DecidableEq

namespace Tensor

variable {α β γ : Type}

def ofEntries? (shape : List Nat) (entries : List α) : Option (Tensor α) :=
  if h : entries.length = entryCount shape then some ⟨shape, entries, h⟩ else none

def fill (shape : List Nat) (x : α) : Tensor α :=
  ⟨shape, List.replicate (entryCount shape) x, List.length_replicate⟩

def map (f : α → β) (t : Tensor α) : Tensor β :=
  ⟨t.shape, t.entries.map f, by simp [t.size_eq]⟩

def sum [Scalar α] (t : Tensor α) : α := Scalar.sum t.entries

/-- Whether a tensor of the first shape can be repeated to the second. -/
def Stretches : (source target : List Nat) → Prop
  | [], [] => True
  | s :: ss, t :: ts => (s = t ∨ s = 1) ∧ Stretches ss ts
  | _, _ => False

instance : DecidableRel Stretches := decideStretches
where
  decideStretches : (source target : List Nat) → Decidable (Stretches source target)
    | [], [] => .isTrue trivial
    | _ :: ss, _ :: ts =>
        have := decideStretches ss ts
        inferInstanceAs (Decidable ((_ ∨ _) ∧ _))
    | [], _ :: _ => .isFalse id
    | _ :: _, [] => .isFalse id

/-- Repeats the entries along the axes of extent one. -/
def stretch : (source target : List Nat) → List α → List α
  | s :: ss, t :: ts, xs =>
      let whole := ((blocks (entryCount ss) s xs).map (stretch ss ts)).flatten
      if s = t then whole else (List.replicate t whole).flatten
  | _, _, xs => xs

theorem length_stretch {source target : List Nat} (h : Stretches source target) {xs : List α}
    (hx : xs.length = entryCount source) :
    (stretch source target xs).length = entryCount target := by
  induction source generalizing target xs with
  | nil =>
      cases target with
      | nil => simpa [stretch] using hx
      | cons _ _ => exact h.elim
  | cons s ss ih =>
      cases target with
      | nil => exact h.elim
      | cons t ts =>
          obtain ⟨hs, hr⟩ := h
          have hx' : xs.length = s * entryCount ss := by simpa using hx
          have hw : ((blocks (entryCount ss) s xs).map (stretch ss ts)).flatten.length =
              s * entryCount ts := by
            rw [length_flatten_of_forall (entryCount ts)]
            · simp
            · intro b hb
              obtain ⟨c, hc, rfl⟩ := List.mem_map.1 hb
              exact ih hr (length_of_mem_blocks hx' hc)
          simp only [stretch]
          split
          · next e => simpa [e] using hw
          · next e =>
              have h1 : s = 1 := hs.resolve_left e
              rw [length_flatten_of_forall (entryCount ts)]
              · simp
              · intro b hb
                rw [List.eq_of_mem_replicate hb, hw, h1, Nat.one_mul]

/-- Sums the entries along the axes that `stretch` repeats. -/
def collapse [Zero α] [Add α] : (source target : List Nat) → List α → List α
  | s :: ss, t :: ts, xs =>
      let parts := (blocks (entryCount ts) t xs).map (collapse ss ts)
      if s = t then parts.flatten else addBlocks (entryCount ss) parts
  | _, _, xs => xs

theorem length_collapse [Zero α] [Add α] {source target : List Nat}
    (h : Stretches source target) {xs : List α} (hx : xs.length = entryCount target) :
    (collapse source target xs).length = entryCount source := by
  induction source generalizing target xs with
  | nil =>
      cases target with
      | nil => simpa [collapse] using hx
      | cons _ _ => exact h.elim
  | cons s ss ih =>
      cases target with
      | nil => exact h.elim
      | cons t ts =>
          obtain ⟨hs, hr⟩ := h
          have hx' : xs.length = t * entryCount ts := by simpa using hx
          have hp : ∀ b ∈ (blocks (entryCount ts) t xs).map (collapse ss ts),
              b.length = entryCount ss := by
            intro b hb
            obtain ⟨c, hc, rfl⟩ := List.mem_map.1 hb
            exact ih hr (length_of_mem_blocks hx' hc)
          simp only [collapse]
          split
          · next e => rw [length_flatten_of_forall _ hp]; simp [e]
          · next e => rw [length_addBlocks hp]; simp [hs.resolve_left e]

/-- The shape that two shapes are repeated to, if they fit. -/
def commonShape? : List Nat → List Nat → Option (List Nat)
  | [], [] => some []
  | a :: as, b :: bs => do
      let rest ← commonShape? as bs
      if a = b then some (a :: rest)
      else if a = 1 then some (b :: rest)
      else if b = 1 then some (a :: rest)
      else none
  | _, _ => none

theorem stretches_of_commonShape? {a b c : List Nat} (h : commonShape? a b = some c) :
    Stretches a c ∧ Stretches b c := by
  induction a generalizing b c with
  | nil =>
      cases b with
      | nil => cases h; exact ⟨trivial, trivial⟩
      | cons _ _ => simp [commonShape?] at h
  | cons a as ih =>
      cases b with
      | nil => simp [commonShape?] at h
      | cons b bs =>
          simp only [commonShape?, Option.bind_eq_bind, Option.bind_eq_some_iff] at h
          obtain ⟨rest, hr, h⟩ := h
          obtain ⟨ha, hb⟩ := ih hr
          split at h
          · next e => cases h; exact ⟨⟨.inl rfl, ha⟩, ⟨.inl e.symm, hb⟩⟩
          · split at h
            · next e => cases h; exact ⟨⟨.inr e, ha⟩, ⟨.inl rfl, hb⟩⟩
            · split at h
              · next e => cases h; exact ⟨⟨.inl rfl, ha⟩, ⟨.inr e, hb⟩⟩
              · cases h

def combine (f : α → β → γ) (a : Tensor α) (b : Tensor β) : Except Abort (Tensor γ) :=
  match h : commonShape? a.shape b.shape with
  | none => .error .refused
  | some shape =>
      have hs := stretches_of_commonShape? h
      .ok ⟨shape,
        List.zipWith f (stretch a.shape shape a.entries) (stretch b.shape shape b.entries), by
          simp [length_stretch hs.1 a.size_eq, length_stretch hs.2 b.size_eq]⟩

/-- Sums a tensor down to a shape that repeats to its own. -/
def sumTo [Zero α] [Add α] (shape : List Nat) (t : Tensor α) : Except Abort (Tensor α) :=
  if h : Stretches shape t.shape then
    .ok ⟨shape, collapse shape t.shape t.entries, length_collapse h t.size_eq⟩
  else .error .refused

end Tensor
end ActorCritic
