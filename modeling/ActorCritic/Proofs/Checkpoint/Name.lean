import ActorCritic.Checkpoint
import ActorCritic.Proofs.Decimal
import ActorCritic.Proofs.FileTree

/-!
The names of checkpoint files. A name that is written for a step is read as that step, however
many digits the step has, and it is an ordinary name of a file.
-/

namespace ActorCritic
namespace Checkpoint

theorem dropStart?_append (start cs : List Char) : dropStart? start (start ++ cs) = some cs := by
  induction start with
  | nil => rfl
  | cons c start ih => simp [dropStart?, ih]

theorem dropEnd?_append (cs ending : List Char) : dropEnd? ending (cs ++ ending) = some cs := by
  rw [dropEnd?, List.reverse_append, dropStart?_append]
  simp

theorem mem_digits {step : Nat} {c : Char} (h : c ∈ digits step) : c.isDigit = true := by
  obtain h | h := List.mem_append.1 h
  · rw [List.eq_of_mem_replicate h]
    rfl
  · exact Decimal.isDigit_toDigits h

theorem digits_ne_nil (step : Nat) : digits step ≠ [] := by
  simp [digits, Nat.toDigits_ne_nil]

theorem digitsToStep?_digits {step : Nat} (h : step < Count.limit) :
    digitsToStep? (digits step) = some step := by
  have hall : (digits step).all Char.isDigit = true := List.all_eq_true.2 fun _ => mem_digits
  have hvalue : (digits step).foldl (fun n c => n * 10 + (c.toNat - '0'.toNat)) 0 = step :=
    (Decimal.foldl_digits_eq _ 0).trans (Decimal.ofDigitChars_padded _ step)
  rw [digitsToStep?, if_neg (by simp [digits_ne_nil, hall])]
  dsimp only
  rw [hvalue]
  exact if_pos h

theorem readStep?_digits {step : Nat} (h : step < Count.limit) :
    readStep? (digits step) = some step := by
  have hread := digitsToStep?_digits h
  cases hdigits : digits step with
  | nil => exact absurd hdigits (digits_ne_nil step)
  | cons c cs =>
      rw [hdigits] at hread
      have hplus : c ≠ '+' := by
        rintro rfl
        have hdigit : Char.isDigit '+' = true := mem_digits (hdigits ▸ List.mem_cons_self)
        cases hdigit
      unfold readStep?
      split
      · next h => exact absurd (List.cons.inj h).1 hplus
      · exact hread

theorem toList_fileName (step : Nat) :
    (fileName step).toList = fileStart ++ (digits step ++ fileEnd) := by
  rw [fileName, String.toList_ofList, List.append_assoc]

theorem stepOfName?_fileName {step : Nat} (h : step < Count.limit) :
    stepOfName? (fileName step) = some step := by
  simp only [stepOfName?, toList_fileName, dropStart?_append, Option.bind_eq_bind, Option.bind_some,
    dropEnd?_append]
  exact readStep?_digits h

theorem lt_of_stepOfName? {name : String} {step : Nat} (h : stepOfName? name = some step) :
    step < Count.limit := by
  have hdigits {cs : List Char} (h : digitsToStep? cs = some step) : step < Count.limit := by
    simp only [digitsToStep?] at h
    split at h
    · cases h
    · split at h
      · next hlimit => exact Option.some.inj h ▸ hlimit
      · cases h
  obtain ⟨rest, -, h⟩ := Option.bind_eq_some_iff.1 h
  obtain ⟨cs, -, h⟩ := Option.bind_eq_some_iff.1 h
  unfold readStep? at h
  split at h
  · exact hdigits h
  · exact hdigits h

theorem fileName_injective {step other : Nat} (hstep : step < Count.limit)
    (hother : other < Count.limit) (h : fileName step = fileName other) : step = other := by
  have hread := stepOfName?_fileName hother
  rw [← h, stepOfName?_fileName hstep] at hread
  exact Option.some.inj hread

theorem utf8ByteSize_ofList_le (cs : List Char) :
    (String.ofList cs).utf8ByteSize ≤ 4 * cs.length := by
  induction cs with
  | nil => exact Nat.zero_le _
  | cons c cs ih =>
      rw [String.ofList_cons, String.utf8ByteSize_append, String.utf8ByteSize_singleton,
        List.length_cons]
      have hc := c.utf8Size_le_four
      omega

theorem length_digits_le {step : Nat} (h : step < Count.limit) : (digits step).length ≤ 20 := by
  have hcount : (Nat.toDigits 10 step).length ≤ 20 :=
    (Nat.length_toDigits_le_iff (by decide) (by decide)).2 (Nat.lt_of_lt_of_le h (by decide))
  simp only [digits, List.length_append, List.length_replicate]
  omega

theorem isName_fileName {step : Nat} (h : step < Count.limit) : Path.IsName (fileName step) := by
  have hne {name : String} (hname : name.toList.head? ≠ some 'm') : fileName step ≠ name := by
    rintro rfl
    exact hname (by rw [toList_fileName]; rfl)
  refine ⟨?_, hne (by decide), ?_, ?_⟩
  · simp [Path.isIdle, hne (show "".toList.head? ≠ some 'm' by decide),
      hne (show ".".toList.head? ≠ some 'm' by decide)]
  · have hlength := length_digits_le h
    have hstart : fileStart.length = 6 := rfl
    have hend : fileEnd.length = 4 := rfl
    refine Nat.le_trans (utf8ByteSize_ofList_le _) ?_
    simp only [List.length_append, hstart, hend, FileTree.nameLimit]
    omega
  · rw [← Bool.not_eq_true, List.contains_iff_mem, toList_fileName]
    intro hnul
    obtain hnul | hnul := List.mem_append.1 hnul
    · exact absurd hnul (by decide)
    obtain hnul | hnul := List.mem_append.1 hnul
    · exact absurd (mem_digits hnul) (by decide)
    · exact absurd hnul (by decide)

/-- The path of a checkpoint has the extension of checkpoint files already. -/
theorem withExtension_pathFor (dir : Path) {step : Nat} (h : step < Count.limit) :
    withExtension (Checkpointer.pathFor dir step) = Checkpointer.pathFor dir step := by
  have hname := isName_fileName h
  have hparts := dir.parts_child (fileName step)
  have hstem : ((fileName step).toList.reverse.dropWhile (· ≠ '.')).tail.reverse =
      fileStart ++ digits step := by
    rw [toList_fileName]
    simp [show fileEnd = ['.', 'b', 'i', 'n'] from rfl]
  simp only [withExtension, Checkpointer.pathFor, dir.trimmed_child hname.notIdle]
  rw [hparts]
  simp only [List.getLast?_concat, hname.notParent, if_false, hstem, List.dropLast_concat,
    List.isEmpty_iff, List.append_eq_nil_iff, digits_ne_nil, and_false]
  rw [← fileName]
  exact congrArg Path.mk hparts.symm

end Checkpoint
end ActorCritic
