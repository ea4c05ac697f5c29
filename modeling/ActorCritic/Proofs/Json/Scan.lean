import ActorCritic.Proofs.Decimal
import ActorCritic.Proofs.Json.Grammar

/-!
How JSON text is cut into tokens. Text is followed from left to right: what a piece of it gives
does not depend on what comes after, except that a number has to end before something that is no
part of a number.
-/

namespace ActorCritic
namespace Json

open Token

/-- In front of the rest, the text gives these tokens. -/
def Reads (cs : List Char) (ts : List Token) (rest : List Char) : Prop :=
  ∀ fuel, (cs ++ rest).length ≤ fuel →
    ∃ left, rest.length ≤ left ∧ scanAll fuel (cs ++ rest) = ts ++ scanAll left rest

theorem Reads.nil (rest : List Char) : Reads [] [] rest := fun fuel h => ⟨fuel, h, rfl⟩

theorem Reads.append {cs ds rest : List Char} {ts us : List Token} (h : Reads cs ts (ds ++ rest))
    (h' : Reads ds us rest) : Reads (cs ++ ds) (ts ++ us) rest := by
  intro fuel hfuel
  rw [List.append_assoc] at hfuel ⊢
  obtain ⟨left, hleft, hcs⟩ := h fuel hfuel
  obtain ⟨left', hleft', hds⟩ := h' left hleft
  exact ⟨left', hleft', by rw [hcs, hds, List.append_assoc]⟩

theorem Reads.blank {cs : List Char} (h : Blank cs) (rest : List Char) : Reads cs [] rest := by
  induction cs with
  | nil => exact .nil rest
  | cons c cs ih =>
      intro fuel hfuel
      obtain ⟨fuel, rfl⟩ := Nat.exists_eq_succ_of_ne_zero (n := fuel) (by rintro rfl; cases hfuel)
      have hblank : isBlank c = true := by
        have hc := h c List.mem_cons_self
        simp only [List.mem_cons, List.not_mem_nil, or_false] at hc
        obtain rfl | rfl | rfl | rfl := hc <;> rfl
      obtain ⟨left, hleft, hcs⟩ :=
        ih (fun d hd => h d (List.mem_cons_of_mem c hd)) fuel (Nat.le_of_succ_le_succ hfuel)
      refine ⟨left, hleft, ?_⟩
      rw [List.cons_append, scanAll, if_pos hblank]
      exact hcs

/-- One token, which takes at least one character. -/
theorem Reads.token {c : Char} {cs rest : List Char} {t : Token} (hc : isBlank c = false)
    (hscan : scan (c :: cs ++ rest) = some (t, rest)) : Reads (c :: cs) [t] rest := by
  intro fuel hfuel
  obtain ⟨fuel, rfl⟩ := Nat.exists_eq_succ_of_ne_zero (n := fuel) (by rintro rfl; cases hfuel)
  refine ⟨fuel, ?_, ?_⟩
  · simp only [List.cons_append, List.length_cons, List.length_append] at hfuel
    omega
  · rw [List.cons_append] at hscan ⊢
    rw [scanAll, if_neg (by simp [hc]), hscan]
    rfl

/-- A token of one character. -/
theorem Reads.mark {c : Char} {rest : List Char} {t : Token} (hc : isBlank c = false)
    (hscan : ∀ rest, scan (c :: rest) = some (t, rest)) : Reads [c] [t] rest :=
  .token hc (hscan rest)

theorem ofText_of_reads {text : String} {ts : List Token} (h : Reads text.toList ts []) :
    ofText text = ts := by
  obtain ⟨left, -, hscan⟩ := h text.length (by simp [String.length_toList])
  rw [List.append_nil] at hscan
  rw [ofText, hscan]
  cases left <;> simp [scanAll]

/-- No number goes on with the rest. -/
def Stops (rest : List Char) : Prop :=
  ∀ c, rest.head? = some c → c.isDigit = false ∧ c ≠ '.' ∧ c ≠ 'e' ∧ c ≠ 'E'

theorem Stops.nil : Stops [] := nofun

theorem Stops.cons {c : Char} (h : c ∈ [',', ':', ']', '}']) (rest : List Char) :
    Stops (c :: rest) := by
  rintro d ⟨⟩
  simp only [List.mem_cons, List.not_mem_nil, or_false] at h
  obtain rfl | rfl | rfl | rfl := h <;> decide

theorem Stops.blank_append {cs rest : List Char} (h : Blank cs) (hrest : Stops rest) :
    Stops (cs ++ rest) := by
  cases cs with
  | nil => exact hrest
  | cons c cs =>
      rintro d ⟨⟩
      have hc := h c List.mem_cons_self
      simp only [List.mem_cons, List.not_mem_nil, or_false] at hc
      obtain rfl | rfl | rfl | rfl := hc <;> decide

/-- The text gives these tokens in front of whatever no number goes on with. -/
def Lexes (cs : List Char) (ts : List Token) : Prop := ∀ rest, Stops rest → Reads cs ts rest

section Digits

theorem splitDigits_append {ds rest : List Char} (hds : ∀ c ∈ ds, c.isDigit = true)
    (hrest : ∀ c, rest.head? = some c → c.isDigit = false) :
    splitDigits (ds ++ rest) = (ds, rest) := by
  have hnone : rest.takeWhile Char.isDigit = [] ∧ rest.dropWhile Char.isDigit = rest := by
    cases rest with
    | nil => exact ⟨rfl, rfl⟩
    | cons c rest => simp [hrest c rfl]
  simp only [splitDigits, List.takeWhile_append_of_pos hds, List.dropWhile_append_of_pos hds,
    hnone.1, hnone.2, List.append_nil]

theorem scanFraction_none {rest : List Char} (h : ∀ c, rest.head? = some c → c ≠ '.') :
    scanFraction rest = some (none, rest) := by
  unfold scanFraction
  split
  · exact absurd rfl (h _ rfl)
  · rfl

theorem scanFraction_digits {ds rest : List Char} (h : Digits ds)
    (hrest : ∀ c, rest.head? = some c → c.isDigit = false) :
    scanFraction ('.' :: (ds ++ rest)) = some (some ds, rest) := by
  have hne : ds.isEmpty = false := by simpa using h.1
  simp only [scanFraction, splitDigits_append h.2 hrest, hne]
  rfl

theorem scanExponent_none {rest : List Char}
    (h : ∀ c, rest.head? = some c → c ≠ 'e' ∧ c ≠ 'E') :
    scanExponent rest = some (none, rest) := by
  unfold scanExponent
  split
  · next c rest =>
      obtain ⟨he, hE⟩ := h c rfl
      rw [if_neg (by simp [he, hE])]
  · rfl

theorem scanExponent_digits {mark : Char} {sign ds : List Char} (hmark : mark = 'e' ∨ mark = 'E')
    (hsign : sign = [] ∨ sign = ['-'] ∨ sign = ['+']) (h : Digits ds) :
    ∃ n, ∀ rest, (∀ c, rest.head? = some c → c.isDigit = false) →
      scanExponent (mark :: (sign ++ ds) ++ rest) = some (some n, rest) := by
  have hne : ds.isEmpty = false := by simpa using h.1
  obtain ⟨negative, hscan⟩ : ∃ negative, ∀ rest,
      scanSign (sign ++ ds ++ rest) = (negative, ds ++ rest) := by
    obtain rfl | rfl | rfl := hsign
    · refine ⟨false, fun rest => ?_⟩
      -- A digit is no sign.
      obtain ⟨d, ds, rfl⟩ := List.exists_cons_of_ne_nil h.1
      have hd : d.isDigit = true := h.2 d List.mem_cons_self
      simp only [List.nil_append, List.cons_append]
      unfold scanSign
      split <;> simp_all
    · exact ⟨true, fun _ => rfl⟩
    · exact ⟨false, fun _ => rfl⟩
  refine ⟨if negative then -digitsValue ds else digitsValue ds, fun rest hrest => ?_⟩
  simp only [List.cons_append, scanExponent, if_pos hmark, hscan, splitDigits_append h.2 hrest, hne]
  rfl

/-- A number is read in three parts. -/
theorem scanUnsigned_eq {whole after between rest : List Char} {fraction : Option (List Char)}
    {exponent : Option Int} (negative : Bool)
    (hwhole : Digits whole ∧ (whole.head? = some '0' → whole = ['0']))
    (hafter : ∀ c, after.head? = some c → c.isDigit = false)
    (hfraction : scanFraction after = some (fraction, between))
    (hexponent : scanExponent between = some (exponent, rest)) :
    scanUnsigned negative (whole ++ after) =
      some (⟨negative, digitsValue (whole ++ fraction.getD []), (fraction.getD []).length,
        exponent.getD 0, fraction.isNone && exponent.isNone⟩, rest) := by
  have hstart : (whole.isEmpty || (whole.head? == some '0' && whole.length != 1)) = false := by
    have hne : whole.isEmpty = false := by simpa using hwhole.1.1
    rw [hne, Bool.false_or]
    by_cases hzero : whole.head? = some '0'
    · rw [hwhole.2 hzero]
      rfl
    · simp [hzero]
  simp only [scanUnsigned, splitDigits_append hwhole.1.2 hafter, hstart, hfraction, hexponent,
    Bool.false_eq_true, if_false, Option.bind_eq_bind, Option.bind_some]
  rfl

/-- Digits alone are a whole number. -/
theorem scanUnsigned_whole {whole rest : List Char} (negative : Bool)
    (hwhole : Digits whole ∧ (whole.head? = some '0' → whole = ['0'])) (hrest : Stops rest) :
    scanUnsigned negative (whole ++ rest) =
      some (⟨negative, digitsValue whole, 0, 0, true⟩, rest) := by
  have hfraction := scanFraction_none fun c hc => (hrest c hc).2.1
  have hexponent := scanExponent_none fun c hc => (hrest c hc).2.2
  have h := scanUnsigned_eq negative hwhole (fun c hc => (hrest c hc).1) hfraction hexponent
  simpa using h

theorem exists_scanUnsigned {whole fraction exponent : List Char} (negative : Bool)
    (hwhole : Digits whole ∧ (whole.head? = some '0' → whole = ['0']))
    (hfraction : fraction = [] ∨ ∃ ds, fraction = '.' :: ds ∧ Digits ds)
    (hexponent : exponent = [] ∨ ∃ mark sign ds, exponent = mark :: (sign ++ ds) ∧
      (mark = 'e' ∨ mark = 'E') ∧ (sign = [] ∨ sign = ['-'] ∨ sign = ['+']) ∧ Digits ds) :
    ∃ n, ∀ rest, Stops rest →
      scanUnsigned negative (whole ++ (fraction ++ exponent) ++ rest) = some (n, rest) := by
  obtain ⟨tail, htail⟩ : ∃ tail, ∀ rest,
      (∀ c, rest.head? = some c → c.isDigit = false ∧ c ≠ '.') →
        scanFraction (fraction ++ rest) = some (tail, rest) := by
    obtain rfl | ⟨ds, rfl, hds⟩ := hfraction
    · exact ⟨none, fun rest hrest => scanFraction_none fun c hc => (hrest c hc).2⟩
    · exact ⟨some ds, fun rest hrest => scanFraction_digits hds fun c hc => (hrest c hc).1⟩
  obtain ⟨power, hpower⟩ : ∃ power, ∀ rest, Stops rest →
      scanExponent (exponent ++ rest) = some (power, rest) := by
    obtain rfl | ⟨mark, sign, ds, rfl, hmark, hsign, hds⟩ := hexponent
    · exact ⟨none, fun rest hrest => scanExponent_none fun c hc => (hrest c hc).2.2⟩
    · obtain ⟨n, hn⟩ := scanExponent_digits hmark hsign hds
      exact ⟨some n, fun rest hrest => hn rest fun c hc => (hrest c hc).1⟩
  refine ⟨⟨negative, digitsValue (whole ++ tail.getD []), (tail.getD []).length, power.getD 0,
    tail.isNone && power.isNone⟩, fun rest hrest => ?_⟩
  have hbetween : ∀ c, (exponent ++ rest).head? = some c → c.isDigit = false ∧ c ≠ '.' := by
    obtain rfl | ⟨mark, sign, ds, rfl, hmark, -⟩ := hexponent
    · exact fun c hc => ⟨(hrest c hc).1, (hrest c hc).2.1⟩
    · rintro c ⟨⟩
      obtain rfl | rfl := hmark <;> decide
  have hafter : ∀ c, (fraction ++ (exponent ++ rest)).head? = some c → c.isDigit = false := by
    obtain rfl | ⟨ds, rfl, -⟩ := hfraction
    · exact fun c hc => (hbetween c hc).1
    · rintro c ⟨⟩
      rfl
  rw [List.append_assoc, List.append_assoc]
  exact scanUnsigned_eq negative hwhole hafter (htail _ hbetween) (hpower rest hrest)

end Digits

theorem scan_digit {c : Char} (cs : List Char) (h : c.isDigit = true) :
    scan (c :: cs) = (scanUnsigned false (c :: cs)).map fun (n, rest) => (.number n, rest) := by
  unfold scan
  split <;> simp_all

theorem isBlank_digit {c : Char} (h : c.isDigit = true) : isBlank c = false := by
  have hne {d : Char} (hd : d.isDigit = false) : c ≠ d := by
    rintro rfl
    rw [h] at hd
    cases hd
  simp [isBlank, hne (show ' '.isDigit = false by rfl), hne (show '\t'.isDigit = false by rfl),
    hne (show '\n'.isDigit = false by rfl), hne (show '\r'.isDigit = false by rfl)]

/-- Text that starts with a digit and is read as an unsigned number. -/
theorem Lexes.unsigned {cs : List Char} {n : Numeral}
    (hne : ∃ c ds, cs = c :: ds ∧ c.isDigit = true)
    (h : ∀ rest, Stops rest → scanUnsigned false (cs ++ rest) = some (n, rest)) :
    Lexes cs [.number n] := by
  obtain ⟨c, ds, rfl, hc⟩ := hne
  intro rest hrest
  refine .token (isBlank_digit hc) ?_
  rw [List.cons_append, scan_digit _ hc, ← List.cons_append, h rest hrest]
  rfl

theorem Digits.exists_cons {ds : List Char} (h : Digits ds) (cs : List Char) :
    ∃ c cs', ds ++ cs = c :: cs' ∧ c.isDigit = true := by
  obtain ⟨c, ds, rfl⟩ := List.exists_cons_of_ne_nil h.1
  exact ⟨c, ds ++ cs, rfl, h.2 c List.mem_cons_self⟩

theorem exists_lexes_number {cs : List Char} (h : Number cs) : ∃ n, Lexes cs [.number n] := by
  obtain ⟨sign, whole, fraction, exponent, rfl, hsign, hwhole, hfraction, hexponent⟩ := h
  obtain rfl | rfl := hsign
  · obtain ⟨n, hn⟩ := exists_scanUnsigned false hwhole hfraction hexponent
    exact ⟨n, .unsigned (hwhole.1.exists_cons _) hn⟩
  · obtain ⟨n, hn⟩ := exists_scanUnsigned true hwhole hfraction hexponent
    refine ⟨n, fun rest hrest => .token rfl ?_⟩
    change (scanUnsigned true (whole ++ (fraction ++ exponent) ++ rest)).map _ = _
    rw [hn rest hrest]
    rfl

/-- Counts are written in decimal. -/
theorem lexes_count (n : Nat) : Lexes (Nat.toDigits 10 n) [.number (.ofInt n)] := by
  have hdigits : Digits (Nat.toDigits 10 n) :=
    ⟨Nat.toDigits_ne_nil, fun _ => Decimal.isDigit_toDigits⟩
  have hzero : (Nat.toDigits 10 n).head? = some '0' → Nat.toDigits 10 n = ['0'] := by
    intro h
    rw [Decimal.eq_zero_of_head?_toDigits h]
    rfl
  have hvalue : digitsValue (Nat.toDigits 10 n) = n := by
    rw [digitsValue, Decimal.foldl_digits_eq, Nat.ofDigitChars_ten_toDigits]
  have hnumeral : Numeral.ofInt n = ⟨false, digitsValue (Nat.toDigits 10 n), 0, 0, true⟩ := by
    simp [Numeral.ofInt, hvalue]
  refine .unsigned ?_ fun rest hrest => ?_
  · simpa using hdigits.exists_cons []
  · rw [hnumeral]
    exact scanUnsigned_whole false ⟨hdigits, hzero⟩ hrest

section Strings

theorem escaped?_of_mem {c d : Char} (h : (c, d) ∈ shortEscapes) :
    c ≠ 'u' ∧ escaped? c = some d := by
  simp only [shortEscapes, List.mem_cons, Prod.mk.injEq, List.not_mem_nil, or_false] at h
  obtain ⟨rfl, rfl⟩ | ⟨rfl, rfl⟩ | ⟨rfl, rfl⟩ | ⟨rfl, rfl⟩ | ⟨rfl, rfl⟩ | ⟨rfl, rfl⟩ | ⟨rfl, rfl⟩ |
    ⟨rfl, rfl⟩ := h <;> exact ⟨by decide, rfl⟩

variable {cs rest : List Char} {ps : List Piece}

theorem scanString_plain {c : Char} (hc : IsPlain c) (h : scanString cs = some (ps, rest)) :
    scanString (c :: cs) = some (.char c :: ps, rest) := by
  obtain ⟨hprinted, hquote, hbackslash⟩ := hc
  unfold scanString
  split
  · next heq => cases heq
  · next heq => exact absurd (List.cons.inj heq).1 hquote
  · next heq => exact absurd (List.cons.inj heq).1 hbackslash
  · next heq => exact absurd (List.cons.inj heq).1 hbackslash
  · next heq =>
      obtain ⟨rfl, rfl⟩ := List.cons.inj heq
      rw [if_neg (Nat.not_lt.2 hprinted), h]
      rfl

theorem scanString_short {c d : Char} (hc : (c, d) ∈ shortEscapes)
    (h : scanString cs = some (ps, rest)) :
    scanString ('\\' :: c :: cs) = some (.char d :: ps, rest) := by
  obtain ⟨hu, hd⟩ := escaped?_of_mem hc
  unfold scanString
  split
  · next heq => cases heq
  · next heq => cases heq
  · next heq => exact absurd (List.cons.inj (List.cons.inj heq).2).1 hu
  · next heq =>
      obtain ⟨rfl, rfl⟩ := List.cons.inj (List.cons.inj heq).2
      rw [hd, h]
      rfl
  · next hnone heq =>
      obtain ⟨rfl, rfl⟩ := List.cons.inj heq
      exact (hnone c cs rfl rfl).elim

theorem scanString_unit {a b c d : Char} {n : Nat} (hex : hexUnit? a b c d = some n)
    (h : scanString cs = some (ps, rest)) :
    scanString ('\\' :: 'u' :: a :: b :: c :: d :: cs) = some (.unit n :: ps, rest) := by
  rw [scanString, hex, h]
  rfl

theorem exists_scanString (h : Literal cs) :
    ∃ ps, ∀ rest, scanString (cs ++ '"' :: rest) = some (ps, rest) := by
  induction h with
  | nil => exact ⟨[], fun _ => rfl⟩
  | plain hplain rest ih =>
      obtain ⟨ps, hps⟩ := ih
      exact ⟨_, fun rest => scanString_plain hplain (hps rest)⟩
  | short hshort rest ih =>
      obtain ⟨ps, hps⟩ := ih
      exact ⟨_, fun rest => scanString_short hshort (hps rest)⟩
  | unit hex rest ih =>
      obtain ⟨ps, hps⟩ := ih
      exact ⟨_, fun rest => scanString_unit hex (hps rest)⟩

theorem exists_assemble {text : List Char} (h : Denotes cs text) :
    ∃ ps, (∀ rest, scanString (cs ++ '"' :: rest) = some (ps, rest)) ∧ assemble ps = some text := by
  induction h with
  | nil => exact ⟨[], fun _ => rfl, rfl⟩
  | plain hplain rest ih =>
      obtain ⟨ps, hps, htext⟩ := ih
      refine ⟨_, fun rest => scanString_plain hplain (hps rest), ?_⟩
      rw [assemble, htext, Option.map_some]
  | short hshort rest ih =>
      obtain ⟨ps, hps, htext⟩ := ih
      refine ⟨_, fun rest => scanString_short hshort (hps rest), ?_⟩
      rw [assemble, htext, Option.map_some]
  | @unit a b c d n cs text hex whole rest ih =>
      obtain ⟨ps, hps, htext⟩ := ih
      refine ⟨_, fun rest => scanString_unit hex (hps rest), ?_⟩
      have hlead : isLead n = false := by simp [isLead]; omega
      have htrail : isTrail n = false := by simp [isTrail]; omega
      unfold assemble
      simp only [htrail, hlead, htext, Bool.false_eq_true, if_false, Option.map_some]
  | @pair a b c d a' b' c' d' n m cs text hex hex' lead trail rest ih =>
      obtain ⟨ps, hps, htext⟩ := ih
      refine ⟨_, fun rest => scanString_unit hex (scanString_unit hex' (hps rest)), ?_⟩
      have hlead : isLead n = true := by simp [isLead]; omega
      have hnotTrail : isTrail n = false := by simp [isTrail]; omega
      have htrail : isTrail m = true := by simp [isTrail]; omega
      rw [assemble, hnotTrail, hlead]
      simp only [Bool.false_eq_true, if_false, if_true, htrail, htext, Option.map_some]

theorem Lexes.quoted {t : Token} (hscan : ∀ rest, scanString (cs ++ '"' :: rest) = some (ps, rest))
    (ht : ofPieces ps = t) : Lexes ('"' :: (cs ++ ['"'])) [t] := by
  intro rest _
  refine .token rfl ?_
  rw [List.cons_append, List.append_assoc, List.singleton_append]
  simp only [scan, hscan, Option.map_some, ht]

/-- The token of a string in general: the text that it denotes, if it denotes one. -/
theorem exists_lexes_string (h : Literal cs) :
    ∃ t, (t = unpaired ∨ ∃ s, t = .string s) ∧ Lexes ('"' :: (cs ++ ['"'])) [t] := by
  obtain ⟨ps, hps⟩ := exists_scanString h
  refine ⟨ofPieces ps, ?_, .quoted hps rfl⟩
  unfold ofPieces
  split
  · exact .inr ⟨_, rfl⟩
  · exact .inl rfl

theorem Denotes.lexes {s : String} (h : Denotes cs s.toList) :
    Lexes ('"' :: (cs ++ ['"'])) [.string s] := by
  obtain ⟨ps, hps, htext⟩ := exists_assemble h
  refine .quoted hps ?_
  rw [ofPieces, htext]
  exact congrArg Token.string String.ofList_toList

end Strings

section Layout

variable {cs ds : List Char} {ts us : List Token}

theorem Blank.lexes (h : Blank cs) : Lexes cs [] := fun rest _ => .blank h rest

theorem Lexes.blank_append (hcs : Blank cs) (h : Lexes ds ts) : Lexes (cs ++ ds) ts :=
  fun rest hrest => (Reads.blank hcs _).append (h rest hrest)

theorem Lexes.append_blank (h : Lexes cs ts) (hds : Blank ds) : Lexes (cs ++ ds) ts := by
  intro rest hrest
  have hblank := (h (ds ++ rest) (hrest.blank_append hds)).append (Reads.blank hds rest)
  rwa [List.append_nil] at hblank

/-- Text in front of a mark that is a token of its own. -/
theorem Lexes.append_mark {mark : Char} {t : Token} (h : Lexes cs ts)
    (hmark : mark ∈ [',', ':', ']', '}']) (hblank : isBlank mark = false)
    (hscan : ∀ rest, scan (mark :: rest) = some (t, rest)) (hds : Lexes ds us) :
    Lexes (cs ++ mark :: ds) (ts ++ t :: us) := by
  intro rest hrest
  have hmarked : Reads ([mark] ++ ds) ([t] ++ us) rest :=
    (Reads.mark hblank hscan).append (hds rest hrest)
  exact (h _ (.cons hmark _)).append hmarked

theorem Lexes.nil : Lexes [] [] := fun rest _ => .nil rest

theorem Lexes.append_comma (h : Lexes cs ts) (hds : Lexes ds us) :
    Lexes (cs ++ ',' :: ds) (ts ++ comma :: us) :=
  h.append_mark (by decide) rfl (fun _ => rfl) hds

theorem Lexes.append_colon (h : Lexes cs ts) (hds : Lexes ds us) :
    Lexes (cs ++ ':' :: ds) (ts ++ colon :: us) :=
  h.append_mark (by decide) rfl (fun _ => rfl) hds

theorem Lexes.brackets (h : Lexes cs ts) :
    Lexes ('[' :: (cs ++ [']'])) (openBracket :: (ts ++ [closeBracket])) := fun rest hrest =>
  (Reads.mark rfl fun _ => rfl).append
    (h.append_mark (by decide) rfl (fun _ => rfl) .nil rest hrest)

theorem Lexes.braces (h : Lexes cs ts) :
    Lexes ('{' :: (cs ++ ['}'])) (openBrace :: (ts ++ [closeBrace])) := fun rest hrest =>
  (Reads.mark rfl fun _ => rfl).append
    (h.append_mark (by decide) rfl (fun _ => rfl) .nil rest hrest)

/-- The tokens of items with commas between them. -/
def commas : List (List Token) → List Token
  | [] => []
  | [ts] => ts
  | ts :: tss => ts ++ comma :: commas tss

theorem Items.ne_nil {items : List (List Char)} (h : Items items cs) : items ≠ [] := by
  cases h <;> exact List.cons_ne_nil _ _

theorem Items.lexes {items : List (List Char)} (h : Items items cs) {tss : List (List Token)}
    (htokens : List.Forall₂ Lexes items tss) : Lexes cs (commas tss) := by
  induction h generalizing tss with
  | last blank blank' =>
      obtain _ | ⟨hitem, ⟨⟩⟩ := htokens
      exact (hitem.append_blank blank').blank_append blank
  | @next before item after cs items blank blank' rest ih =>
      obtain _ | ⟨hitem, hrest⟩ := htokens
      have hnext := ((hitem.append_blank blank').append_comma (ih hrest)).blank_append blank
      rw [List.append_assoc] at hnext
      cases hrest with
      | nil => cases rest
      | cons _ _ => exact hnext

theorem Member.lexes {m : Member} {t : Token} (hname : Lexes ('"' :: (m.literal ++ ['"'])) [t])
    (hbefore : Blank m.before) (hafter : Blank m.after) (hvalue : Lexes m.value ts) :
    Lexes m.text (t :: colon :: ts) := by
  have h := (hname.append_blank hbefore).append_colon (hvalue.blank_append hafter)
  simpa [Member.text] using h

/-- The tokens of a whole text do not depend on the blanks around it. -/
theorem ofText_of_lexes {before after : List Char} {text : String} (h : Lexes cs ts)
    (hbefore : Blank before) (hafter : Blank after) (htext : text.toList = before ++ cs ++ after) :
    ofText text = ts := by
  have hread := ((h.append_blank hafter).blank_append hbefore) [] .nil
  rw [← List.append_assoc, ← htext] at hread
  exact ofText_of_reads hread

/-- The tokens of an object, each member given by its name and the tokens of its value. -/
def memberTokens (m : String × List Token) : List Token := .string m.1 :: colon :: m.2

theorem ObjectText.ofText_eq {members : List (String × List Char)} {text : String}
    (h : ObjectText members text.toList) {read : List (String × List Token)}
    (hread : List.Forall₂ (fun m r => m.1 = r.1 ∧ Lexes m.2 r.2) members read) :
    ofText text = openBrace :: (commas (read.map memberTokens) ++ [closeBrace]) := by
  obtain ⟨before, layout, after, written, hbefore, hafter, hwritten, hlayout, htext⟩ := h
  refine ofText_of_lexes (hlayout.lexes ?_).braces hbefore hafter (by simpa using htext)
  clear hlayout htext
  induction hread generalizing written with
  | nil => cases hwritten; exact .nil
  | @cons m r members read hm hread ih =>
      obtain _ | ⟨⟨hliteral, hbefore, hafter, hvalue⟩, hwritten⟩ := hwritten
      refine .cons (Member.lexes ?_ hbefore hafter ?_) (ih _ hwritten)
      · rw [← hm.1]
        exact hliteral.lexes
      · rw [hvalue]
        exact hm.2

theorem ArrayText.ofText_eq {values : List (List Char)} {text : String}
    (h : ArrayText values text.toList) {tss : List (List Token)}
    (hread : List.Forall₂ Lexes values tss) :
    ofText text = openBracket :: (commas tss ++ [closeBracket]) := by
  obtain ⟨before, layout, after, hbefore, hafter, hlayout, htext⟩ := h
  exact ofText_of_lexes (hlayout.lexes hread).brackets hbefore hafter (by simpa using htext)

end Layout

end Json
end ActorCritic
