import ActorCritic.Path

/-!
A tree of directories and files, seen as a finite table from locations to nodes. Whatever stands
in the tree stands in a directory that is in the tree as well.

Files have an identity, by which whoever has a file open reaches it as long as it is in the tree:
a file that is written over keeps its identity, and one that is made anew gets another.
-/

namespace ActorCritic

/-- Names from the root downwards. The empty location is the root, which is always there. -/
abbrev Location := List String

inductive FileNode (κ : Type) where
  | directory
  | file (id : Nat) (content : κ)
deriving DecidableEq, Repr

structure FileTree (κ : Type) where
  nodes : List (Location × FileNode κ)
  /-- The number of files made so far, and the identity of the next one. -/
  made : Nat

/-- Why a path leads nowhere, or no directory can be made there. -/
inductive Obstacle where
  /-- A directory on the way is not there. -/
  | missing
  /-- A file stands in the place of a directory. -/
  | blocked
  /-- A name is too long, or holds a character that no name may hold. -/
  | unnameable
  /-- Something stands there already. -/
  | occupied
deriving DecidableEq, Repr

namespace FileTree

variable {κ : Type}

def empty : FileTree κ := ⟨[], 0⟩

def find? (t : FileTree κ) (l : Location) : Option (FileNode κ) := t.nodes.lookup l

def isDirectory (t : FileTree κ) (l : Location) : Bool :=
  l.isEmpty || match t.find? l with
    | some .directory => true
    | _ => false

def isFile (t : FileTree κ) (l : Location) : Bool :=
  match t.find? l with
  | some (.file _ _) => true
  | _ => false

def erase (t : FileTree κ) (p : Location) : FileTree κ :=
  { t with nodes := t.nodes.filter fun n => n.1 ≠ p }

def insert (t : FileTree κ) (p : Location) (node : FileNode κ) : FileTree κ :=
  { t with nodes := (t.erase p).nodes ++ [(p, node)] }

@[simp] theorem find?_empty (p : Location) : (empty : FileTree κ).find? p = none := rfl

@[simp] theorem find?_erase_self (t : FileTree κ) (p : Location) : (t.erase p).find? p = none := by
  simp only [find?, erase, List.lookup_eq_none_iff]
  intro n hn
  have h : n.1 ≠ p := by simpa using (List.mem_filter.1 hn).2
  simpa using h.symm

theorem find?_erase_of_ne (t : FileTree κ) {p q : Location} (h : q ≠ p) :
    (t.erase p).find? q = t.find? q := by
  obtain ⟨nodes, created⟩ := t
  simp only [find?, erase]
  induction nodes with
  | nil => rfl
  | cons n ns ih =>
      obtain ⟨r, node⟩ := n
      by_cases hr : r = p
      · have hq : (q == r) = false := beq_eq_false_iff_ne.2 (hr ▸ h)
        simpa [hr, List.lookup_cons, hr ▸ hq] using ih
      · simp only [List.filter_cons, ne_eq, hr, not_false_eq_true, decide_true, if_true,
          List.lookup_cons]
        split
        · rfl
        · exact ih

@[simp] theorem find?_insert_self (t : FileTree κ) (p : Location) (node : FileNode κ) :
    (t.insert p node).find? p = some node := by
  have h := find?_erase_self t p
  simp only [find?] at h
  simp [find?, insert, List.lookup_append, h]

theorem find?_insert_of_ne (t : FileTree κ) {p q : Location} (h : q ≠ p) (node : FileNode κ) :
    (t.insert p node).find? q = t.find? q := by
  have hq := find?_erase_of_ne t h
  simp only [find?] at hq
  simp [find?, insert, List.lookup_append, hq, List.lookup_cons, beq_eq_false_iff_ne.2 h]

/-- The number of bytes that a name may have. -/
def nameLimit : Nat := 255

/-- Follows the parts of a path from a location. Every part but the last idle ones has to start in
a directory. -/
def followFrom (t : FileTree κ) : Location → (parts : List String) → Except Obstacle Location
  | l, [] => .ok l
  | l, part :: parts =>
      if t.isFile l then .error .blocked
      else if part = "" then t.followFrom l parts
      else if !t.isDirectory l then .error .missing
      else if part = "." then t.followFrom l parts
      else if part = ".." then t.followFrom l.dropLast parts
      else if nameLimit < part.utf8ByteSize then .error .unnameable
      else t.followFrom (l ++ [part]) parts

/-- Where a path leads from the root. There need not be anything. -/
def follow (t : FileTree κ) (p : Path) : Except Obstacle Location :=
  if p.parts.any fun part => part.toList.contains '\x00' then .error .unnameable
  else t.followFrom [] p.parts

def isDirectoryAt (t : FileTree κ) (p : Path) : Bool :=
  match t.follow p with
  | .ok l => t.isDirectory l
  | .error _ => false

def makeDir (t : FileTree κ) (p : Path) : Except Obstacle (FileTree κ) := do
  let l ← t.follow p
  if t.isDirectory l || t.isFile l then throw .occupied
  return t.insert l .directory

/-- Makes a directory and the missing ones on the way to it. Tells whether the directory is there
now; those made before an obstacle stay. -/
def makeDirs (t : FileTree κ) (p : Path) : Bool × FileTree κ :=
  match t.makeDir p with
  | .ok t => (true, t)
  | .error .missing =>
      match h : p.parent? with
      | none => (false, t)
      | some q =>
          have : q.parts.length < p.parts.length := Path.length_parent_lt h
          let (there, t) := t.makeDirs q
          if there then
            match t.makeDir p with
            | .ok t => (true, t)
            | .error _ => (t.isDirectoryAt p, t)
          else (false, t)
  | .error _ => (t.isDirectoryAt p, t)
termination_by p.parts.length

/-- Writes a file into a directory that is there, and returns its identity. A file may be written
over, a directory may not. -/
def write? (t : FileTree κ) (p : Path) (content : κ) : Option (Nat × FileTree κ) :=
  match t.follow p with
  | .error _ => none
  | .ok l =>
      if t.isDirectory l || p.parts.getLast? = some "" then none
      else
        match t.find? l with
        | some (.file id _) => some (id, t.insert l (.file id content))
        | _ => some (t.made, { t.insert l (.file t.made content) with made := t.made + 1 })

/-- Writes a file after making the directories on the way to it. Tells whether it was written. -/
def place (t : FileTree κ) (p : Path) (content : κ) : Bool × FileTree κ :=
  let t := p.parent?.elim t fun dir => (t.makeDirs dir).2
  match t.write? p content with
  | some (_, t) => (true, t)
  | none => (false, t)

/-- Changes what the file of an identity holds, wherever it is. -/
def revise (t : FileTree κ) (id : Nat) (f : κ → κ) : FileTree κ :=
  { t with
    nodes := t.nodes.map fun (l, node) =>
      match node with
      | .directory => (l, .directory)
      | .file i content => (l, .file i (if i = id then f content else content)) }

def content? (t : FileTree κ) (p : Path) : Option κ :=
  match t.follow p with
  | .error _ => none
  | .ok l =>
      match t.find? l with
      | some (.file _ content) => some content
      | _ => none

inductive Removal (κ : Type) where
  | removed (rest : FileTree κ)
  | missing
  | refused

/-- Removes one file. A path on which a file stands in the place of a directory is refused, and
so is a directory. -/
def removeFile (t : FileTree κ) (p : Path) : Removal κ :=
  match t.follow p with
  | .error .missing => .missing
  | .error _ => .refused
  | .ok l =>
      if t.isFile l then .removed (t.erase l)
      else if t.isDirectory l then .refused
      else .missing

/-- Removes a node with everything below it. A directory that the path calls `.` or `..` is
emptied and stays. -/
def remove (t : FileTree κ) (p : Path) : FileTree κ :=
  match t.follow p with
  | .error _ => t
  | .ok l =>
      let stays := p.parts.getLast? = some "." || p.parts.getLast? = some ".."
      { t with nodes := t.nodes.filter fun n => !l.isPrefixOf n.1 || stays && n.1 = l }

def names? (t : FileTree κ) (p : Path) : Option (List String) :=
  match t.follow p with
  | .error _ => none
  | .ok l =>
      if t.isDirectory l then
        some (t.nodes.filterMap fun n => if n.1.dropLast = l ∧ n.1 ≠ [] then n.1.getLast? else none)
      else none

/-- The locations below a directory relative to it, in the order of their text; directories end
in a slash. -/
def listing (t : FileTree κ) (p : Path) : List String :=
  match t.follow p with
  | .error _ => []
  | .ok l =>
      let below := t.nodes.filter fun n => l.isPrefixOf n.1 && l.length < n.1.length
      let names := below.map fun n =>
        "/".intercalate (n.1.drop l.length) ++ match n.2 with
          | .directory => "/"
          | .file _ _ => ""
      names.mergeSort fun a b => a ≤ b

end FileTree
end ActorCritic
