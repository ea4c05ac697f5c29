import ActorCritic.Config.Json
import ActorCritic.Proofs.Config.Field
import ActorCritic.Proofs.Json.Skip
import ActorCritic.Proofs.Json.Write

/-!
Configurations come back from their text, also from texts in which others have rearranged it.
-/

namespace ActorCritic
namespace Config

open Json (Blank Items Lexes ObjectText ArrayText Spans Value commas memberTokens)
open Json.Token

/-- Every count of the configuration is one. -/
def InRange (c : Config) : Prop := ∀ f : CountField, f.get c < Count.limit

/-- The text of a field's value. -/
def fieldText (c : Config) (f : Field) : List Char := (fieldJson c f).write.toList

/-- The members are those of the configuration's encoding in any order, perhaps with others among
them whose names are no fields. The output directory may be left out where there is none. -/
def Rearranges (c : Config) (members : List (String × List Char)) : Prop :=
  ∃ (fields : List Field) (foreign : List (String × List Char)),
    members.Perm (fields.map (fun f => (f.name, fieldText c f)) ++ foreign) ∧
    (fields = Field.all ∨ c.outputDir = none ∧ fields = Field.all.erase .outputDir) ∧
    (∀ m ∈ foreign, ∀ f : Field, f.name ≠ m.1) ∧ ∀ m ∈ foreign, Value m.2

/-- The token of a field's value. -/
def fieldToken (c : Config) : Field → Json.Token
  | .count f => number (.ofInt (f.get c))
  | .flag f => bool (f.get c)
  | .outputDir => c.outputDir.elim null string

theorem lexes_fieldText (c : Config) (f : Field) : Lexes (fieldText c f) [fieldToken c f] := by
  cases f with
  | count f => exact Json.lexes_write_count (f.get c)
  | flag f => exact Json.lexes_write_bool (f.get c)
  | outputDir =>
      unfold fieldText fieldJson fieldToken
      cases c.outputDir with
      | none => exact Json.lexes_write_null
      | some s => exact Json.lexes_quote s

theorem fieldToken_ne_closeBracket (c : Config) (f : Field) : fieldToken c f ≠ closeBracket := by
  cases f with
  | count f => exact nofun
  | flag f => exact nofun
  | outputDir =>
      unfold fieldToken
      cases c.outputDir <;> exact nofun

theorem takeNumber_ofInt {n : Nat} (h : n < Count.limit) :
    takeNumber (.ofInt n) = some (.count n) := by
  have hn : (Json.Numeral.ofInt n).toInt? = some (.ofNat n) := by
    simp [Json.Numeral.ofInt, Json.Numeral.toInt?]
  rw [takeNumber, hn]
  exact if_pos h

variable {c : Config}

theorem readField_fieldToken (hc : c.InRange) (d : Config) (f : Field) (rest : List Json.Token) :
    readField d (fieldToken c f :: rest) f = .ok (copy c d f, rest) := by
  cases f with
  | count f =>
      simp only [readField, fieldToken, readCount, takeNumber_ofInt (hc f)]
      rfl
  | flag f => rfl
  | outputDir =>
      unfold readField fieldToken copy
      cases c.outputDir <;> rfl

section Object

/-- The tokens of a member's value are those of the field that it names, or of any value. -/
def Fits (c : Config) (m : String × List Json.Token) : Prop :=
  match Field.ofName? m.1 with
  | some f => m.2 = [fieldToken c f]
  | none => Spans m.2

theorem readMember_fits (hc : c.InRange) {m : String × List Json.Token} (h : Fits c m)
    (d : Config) (rest : List Json.Token) :
    readMember d (Field.ofName? m.1) (colon :: (m.2 ++ rest)) =
      .ok (copyAll c d (Field.ofName? m.1).toList, rest) := by
  unfold Fits at h
  cases hname : Field.ofName? m.1 with
  | none =>
      rw [hname] at h
      simp only [readMember, Json.skip?_append h]
      rfl
  | some f =>
      rw [hname] at h
      rw [h]
      exact readField_fieldToken hc d f rest

/-- One member is read, and what follows it decides how to go on. -/
theorem readMembers_step (hc : c.InRange) {m : String × List Json.Token} (h : Fits c m)
    (fuel : Nat) (d : Config) {seen : List Field} (hnew : ∀ f ∈ Field.ofName? m.1, f ∉ seen)
    (tail : List Json.Token) :
    readMembers (fuel + 1) d seen (memberTokens m ++ tail) =
      match tail with
      | comma :: rest =>
          readMembers fuel (copyAll c d (Field.ofName? m.1).toList)
            ((Field.ofName? m.1).toList ++ seen) rest
      | closeBrace :: rest =>
          .ok (copyAll c d (Field.ofName? m.1).toList, (Field.ofName? m.1).toList ++ seen, rest)
      | _ => .error .malformed := by
  have hmember := readMember_fits hc h d tail
  rw [memberTokens, List.cons_append, List.cons_append, readMembers]
  cases hname : Field.ofName? m.1 with
  | none =>
      rw [hname] at hmember
      simp only [hmember]
      rfl
  | some f =>
      rw [hname] at hmember
      simp only [if_neg (hnew f hname), hmember]
      rfl

/-- Members none of which names a field again are read to their end. -/
theorem readMembers_commas (hc : c.InRange) {read : List (String × List Json.Token)}
    (hne : read ≠ []) (h : ∀ m ∈ read, Fits c m) {fuel : Nat} (hfuel : read.length ≤ fuel)
    (d : Config) {seen : List Field} (hnew : (known read ++ seen).Nodup)
    (rest : List Json.Token) :
    readMembers fuel d seen (commas (read.map memberTokens) ++ closeBrace :: rest) =
      .ok (copyAll c d (known read), (known read).reverse ++ seen, rest) := by
  induction read generalizing fuel d seen with
  | nil => exact absurd rfl hne
  | cons m read ih =>
      obtain ⟨fuel, rfl⟩ := Nat.exists_eq_succ_of_ne_zero (n := fuel) (by rintro rfl; cases hfuel)
      rw [known_cons] at hnew ⊢
      have hfirst : ∀ f ∈ Field.ofName? m.1, f ∉ seen := by
        intro f hf hseen
        rw [Option.mem_def] at hf
        rw [hf] at hnew
        exact (List.nodup_cons.1 hnew).1 (List.mem_append_right _ hseen)
      have hstep := readMembers_step hc (h m List.mem_cons_self) fuel d hfirst
      cases read with
      | nil =>
          rw [List.map_singleton, commas, hstep]
          cases Field.ofName? m.1 <;> rfl
      | cons m' read =>
          have hrest : (known (m' :: read) ++ ((Field.ofName? m.1).toList ++ seen)).Nodup := by
            refine (List.Perm.nodup_iff ?_).1 hnew
            rw [← List.append_assoc]
            exact List.perm_append_comm.append_right seen
          rw [List.map_cons, List.map_cons, commas, List.append_assoc, hstep]
          · refine (ih (List.cons_ne_nil _ _) (fun n hn => h n (List.mem_cons_of_mem m hn))
              (Nat.le_of_succ_le_succ hfuel) _ hrest).trans ?_
            cases Field.ofName? m.1 <;> simp [copyAll]
          · exact List.cons_ne_nil _ _

theorem firstMissing_eq_none {seen : List Field} (h : ∀ f : Field, f ≠ .outputDir → f ∈ seen) :
    firstMissing seen = none := by
  rw [firstMissing, List.find?_eq_none]
  intro f _
  simpa using h f

/-- The tokens of members are none that ends an object. -/
theorem commas_ne_closeBrace {read : List (String × List Json.Token)} (hne : read ≠ [])
    (tail rest : List Json.Token) :
    commas (read.map memberTokens) ++ tail ≠ closeBrace :: rest := by
  obtain ⟨m, read, rfl⟩ := List.exists_cons_of_ne_nil hne
  obtain ⟨us, hus⟩ := Json.exists_commas_cons (memberTokens m) (read.map memberTokens)
  rw [List.map_cons, hus]
  exact nofun

theorem readTokens_object (hc : c.InRange) {read : List (String × List Json.Token)}
    (hne : read ≠ []) (h : ∀ m ∈ read, Fits c m) (hnodup : (known read).Nodup)
    (hall : ∀ f : Field, f ≠ .outputDir → f ∈ known read) :
    readTokens (openBrace :: (commas (read.map memberTokens) ++ [closeBrace])) =
      .ok (copyAll c {} (known read), []) := by
  have hfuel : read.length ≤ (commas (read.map memberTokens) ++ [closeBrace]).length := by
    have hlength : (read.map memberTokens).length ≤ (commas (read.map memberTokens)).length := by
      refine Json.length_le_length_commas fun ts hts => ?_
      obtain ⟨m, -, rfl⟩ := List.mem_map.1 hts
      exact List.cons_ne_nil _ _
    rw [List.length_map] at hlength
    rw [List.length_append]
    omega
  have hnew : (known read ++ []).Nodup := by simpa using hnodup
  have hmembers := readMembers_commas hc hne h hfuel {} hnew []
  have hfound : firstMissing ((known read).reverse ++ []) = none :=
    firstMissing_eq_none fun f hf => by simpa using hall f hf
  rw [readTokens]
  · simp only [hmembers, bind, Except.bind, hfound]
    rfl
  · exact fun rest => commas_ne_closeBrace hne _ rest

end Object

section Array

theorem commas_singletons (token : Field → Json.Token) (f : Field) (fields : List Field) :
    commas ((f :: fields).map fun f => [token f]) =
      token f :: fields.flatMap fun f => [comma, token f] := by
  induction fields generalizing f with
  | nil => rfl
  | cons g fields ih =>
      rw [List.map_cons, List.map_cons, commas]
      · exact congrArg (token f :: comma :: ·) (ih g)
      · exact List.cons_ne_nil _ _

theorem readItems_rest (hc : c.InRange) (fields : List Field) (read : Nat) (d : Config)
    (rest : List Json.Token) :
    readItems fields (read + 1) d
      (fields.flatMap (fun f => [comma, fieldToken c f]) ++ closeBracket :: rest) =
        .ok (copyAll c d fields, rest) := by
  induction fields generalizing read d with
  | nil => rfl
  | cons f fields ih =>
      rw [List.flatMap_cons, List.append_assoc, List.cons_append, List.cons_append,
        List.nil_append, readItems]
      · simp only [pure_bind, readField_fieldToken hc]
        exact ih (read + 1) (copy c d f)
      · exact fun rest heq => fieldToken_ne_closeBracket c f (List.cons.inj heq).1

/-- All values in the order of the fields are read to their end. -/
theorem readItems_commas (hc : c.InRange) (f : Field) (fields : List Field) (d : Config)
    (rest : List Json.Token) :
    readItems (f :: fields) 0 d
      (commas ((f :: fields).map fun f => [fieldToken c f]) ++ closeBracket :: rest) =
        .ok (copyAll c d (f :: fields), rest) := by
  rw [commas_singletons, List.cons_append, readItems]
  · simp only [pure_bind, readField_fieldToken hc]
    exact readItems_rest hc fields 0 (copy c d f) rest
  · exact fun rest heq => fieldToken_ne_closeBracket c f (List.cons.inj heq).1

end Array

theorem exists_fits {members : List (String × List Char)} (h : c.Rearranges members) :
    ∃ read, List.Forall₂ (fun m r => m.1 = r.1 ∧ Lexes m.2 r.2) members read ∧
      ∀ r ∈ read, Fits c r := by
  obtain ⟨fields, foreign, hperm, -, hforeign, hvalues⟩ := h
  refine Json.exists_forall₂ fun m hm => ?_
  obtain hown | hother := List.mem_append.1 (hperm.mem_iff.1 hm)
  · obtain ⟨f, -, rfl⟩ := List.mem_map.1 hown
    refine ⟨(f.name, [fieldToken c f]), ⟨rfl, lexes_fieldText c f⟩, ?_⟩
    simp [Fits, Field.ofName?_name]
  · obtain ⟨ts, hlexes, hspans⟩ := (hvalues m hother).exists_lexes
    refine ⟨(m.1, ts), ⟨rfl, hlexes⟩, ?_⟩
    simpa [Fits, Field.ofName?_eq_none (hforeign m hother)] using hspans

/-- No field is named twice, and the only one that may be missing is the output directory. -/
theorem known_rearranged {members : List (String × List Char)} (h : c.Rearranges members) :
    (known members).Nodup ∧ ∀ f, f ∉ known members → f = .outputDir ∧ c.outputDir = none := by
  obtain ⟨fields, foreign, hperm, hfields, hforeign, -⟩ := h
  have hknown : (known members).Perm fields := by
    refine (hperm.filterMap _).trans ?_
    rw [List.filterMap_append]
    change (known _ ++ known _).Perm fields
    rw [known_fields, known_foreign hforeign, List.append_nil]
  rw [hknown.nodup_iff]
  simp only [hknown.mem_iff]
  obtain rfl | ⟨hnone, rfl⟩ := hfields
  · exact ⟨Field.nodup_all, fun f hf => absurd f.mem_all hf⟩
  · refine ⟨Field.nodup_all.erase _, fun f hf => ⟨?_, hnone⟩⟩
    by_contra hne
    exact hf ((List.mem_erase_of_ne hne).2 f.mem_all)

theorem copyAll_known {members : List (String × List Char)} (h : c.Rearranges members) :
    copyAll c {} (known members) = c := by
  refine eq_of_sameAt fun f => (sameAt_copyAll (known members) f).2 ?_
  by_cases hf : f ∈ known members
  · exact .inl hf
  · obtain ⟨rfl, hnone⟩ := (known_rearranged h).2 f hf
    exact .inr hnone.symm

theorem ofJson_objectText (hc : c.InRange) {members : List (String × List Char)} {text : String}
    (h : c.Rearranges members) (htext : ObjectText members text.toList) : ofJson text = .ok c := by
  obtain ⟨read, hread, hfits⟩ := exists_fits h
  obtain ⟨hnodup, hmissing⟩ := known_rearranged h
  have hknown : known read = known members := known_eq_of_forall₂ hread
  rw [← hknown] at hnodup hmissing
  have hall : ∀ f : Field, f ≠ .outputDir → f ∈ known read := by
    intro f hf
    by_contra hnot
    exact hf (hmissing f hnot).1
  have hne : read ≠ [] := by
    rintro rfl
    cases hall (.flag .scaleValueTargets) nofun
  rw [ofJson, htext.ofText_eq hread, readTokens_object hc hne hfits hnodup hall, hknown,
    copyAll_known h]
  rfl

theorem ofJson_arrayText (hc : c.InRange) {text : String}
    (htext : ArrayText (Field.all.map c.fieldText) text.toList) : ofJson text = .ok c := by
  have hread : List.Forall₂ Lexes (Field.all.map c.fieldText)
      (Field.all.map fun f => [fieldToken c f]) := by
    rw [List.forall₂_map_left_iff, List.forall₂_map_right_iff]
    exact List.forall₂_same.2 fun f _ => lexes_fieldText c f
  have hitems : readItems Field.all 0 {} (commas (Field.all.map fun f => [fieldToken c f]) ++
      [closeBracket]) = .ok (copyAll c {} Field.all, []) := readItems_commas hc _ _ {} []
  have hcopy : copyAll c {} Field.all = c :=
    eq_of_sameAt fun f => (sameAt_copyAll Field.all f).2 (.inl f.mem_all)
  rw [ofJson, htext.ofText_eq hread, readTokens, hitems, hcopy]
  rfl

theorem objectText_toJson (c : Config) :
    ObjectText (Field.all.map fun f => (f.name, c.fieldText f)) (toJson c).toList := by
  have hne : Field.all.map (fun f => (f.name, fieldJson c f)) ≠ [] := List.cons_ne_nil _ _
  have h := Json.objectText_write hne
  rwa [List.map_map] at h

theorem rearranges_fields (c : Config) :
    c.Rearranges (Field.all.map fun f => (f.name, c.fieldText f)) :=
  ⟨Field.all, [], by rw [List.append_nil], .inl rfl, nofun, nofun⟩

/-- A configuration comes back from its own text, from every object that rearranges it, however
it is laid out, and from every array of its values in the order of the fields. -/
theorem reads_every_rearrangement (hc : c.InRange) :
    ofJson (toJson c) = .ok c ∧
      (∀ members (text : String), c.Rearranges members → ObjectText members text.toList →
        ofJson text = .ok c) ∧
      ∀ text : String, ArrayText (Field.all.map c.fieldText) text.toList → ofJson text = .ok c :=
  ⟨ofJson_objectText hc c.rearranges_fields c.objectText_toJson,
    fun _ _ => ofJson_objectText hc, fun _ => ofJson_arrayText hc⟩

namespace Sample

/-- The largest count there is, and a directory of characters that are escaped. -/
def config : Config :=
  { valueBatchSize := 18446744073709551615, outputDir := some "a \"b\\\n\x01" }

theorem inRange_config : config.InRange := by
  intro f
  cases f <;> decide

/-- An object whose string is half of a surrogate pair, and a number beside it. -/
def nested : List Char :=
  ['[', '{', '"', 'k', '"', ':', ' ', '"', '\\', 'u', 'd', '8', '0', '0', '"', '}', ' ', ',',
    '-', '1', '.', '5', 'e', '3', ']']

theorem value_nested : Value nested := by
  have hstring : Value ('"' :: (['\\', 'u', 'd', '8', '0', '0'] ++ ['"'])) :=
    .string (.unit rfl .nil)
  let deep : Json.Member := ⟨['k'], [], [' '], ['"', '\\', 'u', 'd', '8', '0', '0', '"']⟩
  have hobject : Value ('{' :: (deep.text ++ ['}'])) := by
    have hlayout : Items ([deep].map Json.Member.text) deep.text := .single _
    refine .object (List.forall_mem_singleton.2 ?_) (List.forall_mem_singleton.2 ?_)
      (List.forall_mem_singleton.2 ?_) (List.forall_mem_singleton.2 hstring) hlayout
    · exact .plain ⟨by decide, by decide, by decide⟩ .nil
    · change Blank []
      decide
    · change Blank [' ']
      decide
  have hdigit {c : Char} (hc : c.isDigit = true) : Json.Digits [c] :=
    ⟨List.cons_ne_nil _ _, List.forall_mem_singleton.2 hc⟩
  have hnumber : Value ['-', '1', '.', '5', 'e', '3'] :=
    .number ⟨['-'], ['1'], ['.', '5'], ['e', '3'], rfl, .inr rfl, ⟨hdigit rfl, nofun⟩,
      .inr ⟨['5'], rfl, hdigit rfl⟩, .inr ⟨'e', [], ['3'], rfl, .inl rfl, .inl rfl, hdigit rfl⟩⟩
  have hlayout : Items ['{' :: (deep.text ++ ['}']), ['-', '1', '.', '5', 'e', '3']]
      ([] ++ ('{' :: (deep.text ++ ['}']) ++ ([' '] ++ ',' :: ['-', '1', '.', '5', 'e', '3']))) :=
    .next (by decide) (by decide) (.single _)
  exact .array (List.forall_mem_cons.2 ⟨hobject, List.forall_mem_singleton.2 hnumber⟩) hlayout

/-- The members in reverse, another one before them. -/
def members : List (String × List Char) :=
  ("notes", nested) :: (Field.all.map fun f => (f.name, config.fieldText f)).reverse

theorem rearranges_members : config.Rearranges members := by
  refine ⟨Field.all, [("notes", nested)], ?_, .inl rfl, ?_, ?_⟩
  · exact ((List.reverse_perm _).cons _).trans (List.perm_append_singleton _ _).symm
  · refine List.forall_mem_singleton.2 fun f => ?_
    cases f with
    | count f => cases f <;> decide
    | flag f => cases f <;> decide
    | outputDir => decide
  · exact List.forall_mem_singleton.2 value_nested

/-- Items on lines of their own, with a blank before each comma. -/
def lines : List (List Char) → List Char
  | [] => []
  | [item] => '\n' :: item
  | item :: items => '\n' :: (item ++ ' ' :: ',' :: lines items)

theorem items_lines {items : List (List Char)} (hne : items ≠ []) :
    Items items (lines items) := by
  have hline : Blank ['\n'] := by decide
  have hblank : Blank [' '] := by decide
  induction items with
  | nil => exact absurd rfl hne
  | cons item items ih =>
      cases items with
      | nil =>
          have hlast : Items [item] (['\n'] ++ (item ++ [])) := .last hline (by decide)
          rwa [List.append_nil] at hlast
      | cons item' items => exact .next hline hblank (ih (List.cons_ne_nil _ _))

def written : List Json.Member :=
  members.map fun m => ⟨m.1.toList.flatMap Json.escape, [' '], ['\t'], m.2⟩

def objectText : String :=
  String.ofList ('{' :: (lines (written.map Json.Member.text) ++ ['}']) ++ ['\n'])

theorem objectText_objectText : ObjectText members objectText.toList := by
  have hblank : Blank [' '] := by decide
  have htab : Blank ['\t'] := by decide
  have hline : Blank ['\n'] := by decide
  refine ⟨[], _, ['\n'], written, by decide, hline, ?_, items_lines ?_, String.toList_ofList⟩
  · rw [written, List.forall₂_map_right_iff]
    exact List.forall₂_same.2 fun m _ => ⟨Json.denotes_flatMap_escape _, hblank, htab, rfl⟩
  · exact List.cons_ne_nil _ _

def arrayText : String :=
  String.ofList ('[' :: (lines (Field.all.map config.fieldText) ++ [']']) ++ [])

theorem arrayText_arrayText : ArrayText (Field.all.map config.fieldText) arrayText.toList :=
  ⟨[], _, [], by decide, by decide, items_lines (List.cons_ne_nil _ _), String.toList_ofList⟩

end Sample

/-- A configuration with the largest count and escaped characters, read from its own text, from its
fields in reverse after a nested member that is not its own, and from an array. -/
theorem reads_every_rearrangement_reversed :
    Sample.config.InRange ∧ Sample.config.Rearranges Sample.members ∧
    ObjectText Sample.members Sample.objectText.toList ∧
    ArrayText (Field.all.map Sample.config.fieldText) Sample.arrayText.toList ∧
    ofJson (toJson Sample.config) = .ok Sample.config ∧
    ofJson Sample.objectText = .ok Sample.config ∧ ofJson Sample.arrayText = .ok Sample.config := by
  obtain ⟨hown, hobject, harray⟩ := reads_every_rearrangement Sample.inRange_config
  exact ⟨Sample.inRange_config, Sample.rearranges_members, Sample.objectText_objectText,
    Sample.arrayText_arrayText, hown,
    hobject _ _ Sample.rearranges_members Sample.objectText_objectText,
    harray _ Sample.arrayText_arrayText⟩

end Config
end ActorCritic
