/-!
Paths as they are written. Where a path leads is for the tree to say in which it is followed.
-/

namespace ActorCritic

/-- The parts of a path between its slashes. An empty part and `.` stay where they are, and `..`
goes one directory up. -/
structure Path where
  parts : List String
deriving DecidableEq, Repr

namespace Path

def text (p : Path) : String := "/".intercalate p.parts

def ofText (s : String) : Path := ⟨s.splitOn "/"⟩

def isIdle (part : String) : Bool := part = "" || part = "."

/-- The path without the idle parts at its end. -/
def trimmed (p : Path) : Path := ⟨(p.parts.reverse.dropWhile isIdle).reverse⟩

/-- The path without its last part that is not idle. -/
def parent? (p : Path) : Option Path :=
  if p.trimmed.parts.isEmpty then none else some (trimmed ⟨p.trimmed.parts.dropLast⟩)

def isAbsolute (p : Path) : Bool := p.parts.head? = some "" && 1 < p.parts.length

/-- The path `q` seen from `p`. A slash at the end of `p` is not doubled. -/
def join (p q : Path) : Path :=
  if q.isAbsolute then q
  else if p.parts.getLast? = some "" then ⟨p.parts.dropLast ++ q.parts⟩
  else ⟨p.parts ++ q.parts⟩

def child (p : Path) (name : String) : Path := p.join ⟨[name]⟩

theorem length_trimmed_le (p : Path) : p.trimmed.parts.length ≤ p.parts.length := by
  have h := (List.dropWhile_sublist (l := p.parts.reverse) isIdle).length_le
  simpa [trimmed] using h

theorem length_parent_lt {p q : Path} (h : p.parent? = some q) :
    q.parts.length < p.parts.length := by
  unfold parent? at h
  split at h
  · cases h
  · next hne =>
      cases h
      have hpos : 0 < p.trimmed.parts.length :=
        List.length_pos_iff.2 fun he => hne (by simp [he])
      have h₁ := length_trimmed_le ⟨p.trimmed.parts.dropLast⟩
      have h₂ := length_trimmed_le p
      simp only [List.length_dropLast] at h₁
      omega

end Path
end ActorCritic
