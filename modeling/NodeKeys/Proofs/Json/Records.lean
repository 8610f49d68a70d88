import Mathlib.Data.List.TakeWhile
import NodeKeys.Json.KeyRecord
import NodeKeys.Proofs.Fallible
import NodeKeys.Proofs.Json.Values

/-!
# Which texts are key records

A key record is an object that holds both fields once, in any order and next to any other fields, or an array of the
two texts.  Reading from left to right keeps this: what was read and what is left hold each field once together.
-/

namespace NodeKeys
namespace Json

/-! ## Strings as values -/

theorem Spells.isBody {body text : List Char} (spelled : Spells body text) : IsBody body := by
  induction spelled with
  | nil => exact .nil
  | plain noQuote noBackslash high _ inductionHypothesis => exact .plain noQuote noBackslash high inductionHypothesis
  | escape escaped _ inductionHypothesis =>
    cases escaped with
    | letter known => exact .escape (.letter known) inductionHypothesis
    | code digits => exact .escape (.code digits) inductionHypothesis
    | pair first second =>
      have both := IsBody.escape (.code first) (.escape (.code second) inductionHypothesis)
      exact both

theorem IsText.isValue {value : List Char} {text : String} (isText : IsText value text) : IsValue value := by
  rcases isText with ⟨body, spelled, rfl⟩
  exact .string spelled.isBody

theorem isText_quoted (text : String) : IsText (quoted text.toList) text :=
  ⟨text.toList.flatMap escaped, spells_flatMap_escaped text.toList, rfl⟩

theorem wellFormed_eq_ok {α : Type} {result : Option α} {value : α} :
    wellFormed result = .ok value ↔ result = some value := by
  cases result <;> simp [wellFormed]

theorem readString_element {element : Element} {text : String} (isText : IsText element.value text)
    (tail : List Char) : readString (element.text ++ tail) = .ok (text, element.after ++ tail) := by
  rcases isText with ⟨body, spelled, same⟩
  rw [readString, Element.text, List.append_assoc, List.append_assoc, same, List.cons_append, List.append_assoc,
    skipBlank_append element.blankBefore rfl]
  change (wellFormed (readText (body ++ '"' :: (element.after ++ tail))) >>= _) = _
  rw [readText_spelled spelled]
  change Except.ok (String.ofList text.toList, element.after ++ tail) = _
  rw [String.ofList_toList]

theorem element_of_readString {input rest : List Char} {text : String} (read : readString input = .ok (text, rest)) :
    ∃ element : Element, IsText element.value text ∧ input = element.text ++ skipBlank rest := by
  rcases skipBlank_split input with ⟨before, blankBefore, split⟩
  unfold readString at read
  split at read
  · next inside opens =>
    rcases bind_eq_ok read with ⟨⟨found, tail⟩, readFound, same⟩
    cases same
    rcases spelled_of_readText (wellFormed_eq_ok.mp readFound) with ⟨body, spelled, rfl⟩
    rcases skipBlank_split rest with ⟨after, blankAfter, splitRest⟩
    refine ⟨⟨before, '"' :: (body ++ ['"']), after, blankBefore, blankAfter⟩, ⟨body, ?_, rfl⟩, ?_⟩
    · rwa [String.toList_ofList]
    · rw [split, opens, Element.text, List.append_assoc, List.append_assoc, ← splitRest, List.cons_append,
        List.append_assoc, List.singleton_append]
  · cases read

/-! ## What is left to be found -/

section Pending

variable {name text : String} {value : List Char} {fields : List (String × List Char)}

theorem holdsOnce_cons_self :
    HoldsOnce name text ((name, value) :: fields) ↔ IsText value text ∧ name ∉ fields.map Prod.fst := by
  constructor
  · rintro ⟨before, found, after, split, isText, fresh, absent⟩
    cases before with
    | nil =>
      cases split
      exact ⟨isText, absent⟩
    | cons field more =>
      cases split
      exact absurd List.mem_cons_self fresh
  · rintro ⟨isText, absent⟩
    exact ⟨[], value, fields, rfl, isText, List.not_mem_nil, absent⟩

theorem holdsOnce_cons_of_ne {other : String} (differs : name ≠ other) :
    HoldsOnce name text ((other, value) :: fields) ↔ HoldsOnce name text fields := by
  constructor
  · rintro ⟨before, found, after, split, isText, fresh, absent⟩
    cases before with
    | nil =>
      cases split
      exact absurd rfl differs
    | cons field more =>
      cases split
      exact ⟨more, found, after, rfl, isText, fun member => fresh (List.mem_cons_of_mem _ member), absent⟩
  · rintro ⟨before, found, after, rfl, isText, fresh, absent⟩
    refine ⟨(other, value) :: before, found, after, rfl, isText, ?_, absent⟩
    simpa [differs] using fresh

/-- What was found under a name, and the fields that are left, hold the name once together. -/
def Pending (name text : String) (fields : List (String × List Char)) : (found : Option String) → Prop
  | none => HoldsOnce name text fields
  | some found => found = text ∧ name ∉ fields.map Prod.fst

theorem pending_nil {found : Option String} : Pending name text [] found ↔ found = some text := by
  cases found with
  | none =>
    refine iff_of_false ?_ nofun
    rintro ⟨before, value, after, split, _⟩
    exact List.append_ne_nil_of_right_ne_nil before (List.cons_ne_nil _ after) split.symm
  | some found => simp [Pending]

theorem pending_cons_self {found : Option String} :
    Pending name text ((name, value) :: fields) found ↔
      found = none ∧ IsText value text ∧ Pending name text fields (some text) := by
  cases found with
  | none => simp [Pending, holdsOnce_cons_self]
  | some found => simp [Pending]

theorem pending_cons_of_ne {other : String} (differs : name ≠ other) {found : Option String} :
    Pending name text ((other, value) :: fields) found ↔ Pending name text fields found := by
  cases found with
  | none => exact holdsOnce_cons_of_ne differs
  | some found => simp [Pending, differs]

end Pending

/-- What was found so far, and the fields that are left, hold the two texts of a record once together. -/
def Fields.Awaits (shape : RecordShape) (known : Fields) (first second : String)
    (fields : List (String × List Char)) : Prop :=
  Pending shape.first first fields known.first ∧ Pending shape.second second fields known.second

theorem complete_eq_ok {shape : RecordShape} {known : Fields} {first second : String} :
    known.complete shape = .ok (first, second) ↔ known.Awaits shape first second [] := by
  rw [Fields.Awaits, pending_nil, pending_nil]
  unfold Fields.complete
  split <;> simp_all

/-! ## One member -/

theorem readColon_gap {gap : List Char} (blank : gap.all isBlank = true) (rest : List Char) :
    readColon (gap ++ ':' :: rest) = .ok rest := by
  rw [readColon, skipBlank_append blank rfl]
  rfl

theorem gap_of_readColon {input rest : List Char} (read : readColon input = .ok rest) :
    ∃ gap, gap.all isBlank = true ∧ input = gap ++ ':' :: rest := by
  rcases skipBlank_split input with ⟨gap, blank, split⟩
  unfold readColon at read
  split at read
  · next colon =>
    cases read
    exact ⟨gap, blank, by rw [← colon]; exact split⟩
  · cases read

/-- A string behind a colon is read, and what is made of it is kept. -/
theorem text_of_readColon {α : Type} (keep : String → α) {kept : α} {input rest : List Char}
    (read : (do
      let (text, after) ← readString (← readColon input)
      return (keep text, after)) = Except.ok (kept, rest)) :
    ∃ gap, ∃ element : Element, ∃ text, kept = keep text ∧ gap.all isBlank = true ∧
      IsText element.value text ∧ input = gap ++ ':' :: (element.text ++ skipBlank rest) := by
  rcases bind_eq_ok read with ⟨afterColon, colon, read⟩
  rcases bind_eq_ok read with ⟨⟨text, after⟩, readText, same⟩
  cases same
  rcases gap_of_readColon colon with ⟨gap, blank, rfl⟩
  rcases element_of_readString readText with ⟨element, isText, rfl⟩
  exact ⟨gap, element, text, rfl, blank, isText, rfl⟩

section Members

variable {shape : RecordShape} {known next : Fields} {name first second : String}

/-- A member that belongs to a record is read, and the fields behind it are left. -/
theorem readMember_element (differ : shape.first ≠ shape.second) {gap : List Char}
    (blank : gap.all isBlank = true) {element : Element} (written : IsValue element.value)
    {fields : List (String × List Char)}
    (awaits : known.Awaits shape first second ((name, element.value) :: fields)) {tail : List Char}
    (ends : Ends tail) :
    ∃ next, readMember shape known name (gap ++ ':' :: (element.text ++ tail)) = .ok (next, element.after ++ tail) ∧
      next.Awaits shape first second fields := by
  rcases awaits with ⟨awaitsFirst, awaitsSecond⟩
  have colon := readColon_gap blank (element.text ++ tail)
  unfold readMember
  by_cases isFirst : name = shape.first
  · rw [isFirst] at awaitsFirst awaitsSecond
    rcases pending_cons_self.mp awaitsFirst with ⟨new, isText, settled⟩
    refine ⟨{ known with first := some first }, ?_, settled, (pending_cons_of_ne differ.symm).mp awaitsSecond⟩
    rw [if_pos isFirst, new, colon]
    change (readString (element.text ++ tail) >>= _) = _
    rw [readString_element isText]
    rfl
  · by_cases isSecond : name = shape.second
    · rw [isSecond] at awaitsFirst awaitsSecond
      rcases pending_cons_self.mp awaitsSecond with ⟨new, isText, settled⟩
      refine ⟨{ known with second := some second }, ?_, (pending_cons_of_ne differ).mp awaitsFirst, settled⟩
      rw [if_neg isFirst, if_pos isSecond, new, colon]
      change (readString (element.text ++ tail) >>= _) = _
      rw [readString_element isText]
      rfl
    · refine ⟨known, ?_, (pending_cons_of_ne (Ne.symm isFirst)).mp awaitsFirst,
        (pending_cons_of_ne (Ne.symm isSecond)).mp awaitsSecond⟩
      rw [if_neg isFirst, if_neg isSecond, colon]
      change (wellFormed (skip (element.text ++ tail)) >>= _) = _
      rw [skip_element written ends]
      rfl

/-- Only a member that belongs to a record is read. -/
theorem element_of_readMember (differ : shape.first ≠ shape.second) {input rest : List Char}
    (read : readMember shape known name input = .ok (next, rest)) :
    ∃ gap, ∃ element : Element, gap.all isBlank = true ∧ IsValue element.value ∧
      input = gap ++ ':' :: (element.text ++ skipBlank rest) ∧
      ∀ {first second fields}, next.Awaits shape first second fields →
        known.Awaits shape first second ((name, element.value) :: fields) := by
  unfold readMember at read
  split at read
  · next isFirst =>
    split at read
    · cases read
    · next new =>
      rcases text_of_readColon (fun text => { known with first := some text }) read with
        ⟨gap, element, text, rfl, blank, isText, rfl⟩
      refine ⟨gap, element, blank, isText.isValue, rfl, ?_⟩
      rintro first second fields ⟨⟨rfl, absent⟩, awaitsSecond⟩
      rw [isFirst]
      refine ⟨pending_cons_self.mpr ⟨?_, isText, rfl, absent⟩, (pending_cons_of_ne differ.symm).mpr awaitsSecond⟩
      simpa using new
  · next isNotFirst =>
    split at read
    · next isSecond =>
      split at read
      · cases read
      · next new =>
        rcases text_of_readColon (fun text => { known with second := some text }) read with
          ⟨gap, element, text, rfl, blank, isText, rfl⟩
        refine ⟨gap, element, blank, isText.isValue, rfl, ?_⟩
        rintro first second fields ⟨awaitsFirst, ⟨rfl, absent⟩⟩
        rw [isSecond]
        refine ⟨(pending_cons_of_ne differ).mpr awaitsFirst, pending_cons_self.mpr ⟨?_, isText, rfl, absent⟩⟩
        simpa using new
    · next isNotSecond =>
      rcases bind_eq_ok read with ⟨afterColon, colon, read⟩
      rcases bind_eq_ok read with ⟨after, passed, same⟩
      cases same
      rcases gap_of_readColon colon with ⟨gap, blank, rfl⟩
      rcases element_of_skip (wellFormed_eq_ok.mp passed) with ⟨element, written, rfl⟩
      refine ⟨gap, element, blank, written, rfl, ?_⟩
      rintro first second fields ⟨awaitsFirst, awaitsSecond⟩
      exact ⟨(pending_cons_of_ne (Ne.symm isNotFirst)).mpr awaitsFirst,
        (pending_cons_of_ne (Ne.symm isNotSecond)).mpr awaitsSecond⟩

/-! ## All members -/

/-- What follows a member decides how the object goes on. -/
theorem readMembers_member {member : Member} (spelled : Spells member.name name.toList) (bound : Nat)
    {tail afterMember : List Char}
    (read : readMember shape known name (member.gap ++ ':' :: (member.element.text ++ tail)) =
      .ok (next, afterMember)) :
    readMembers shape (bound + 1) known (member.text ++ tail) =
      match skipBlank afterMember with
      | '\x7d' :: after => do
        let record ← next.complete shape
        return (record, after)
      | ',' :: more => readMembers shape bound next more
      | _ => .error .malformed := by
  rw [Member.text_append, readMembers, skipBlank_append member.blankIndent rfl]
  change (wellFormed (readText (member.name ++ '"' :: _)) >>= _) = _
  rw [readText_spelled spelled]
  change (readMember shape known (String.ofList name.toList) _ >>= _) = _
  rw [String.ofList_toList, read]
  rfl

theorem readMembers_listed (differ : shape.first ≠ shape.second) {one : Member} {others : List Member}
    {fields : List (String × List Char)} (hold : List.Forall₂ Member.Holds (one :: others) fields)
    (awaits : known.Awaits shape first second fields) {bound : Nat} (large : others.length < bound)
    (rest : List Char) :
    readMembers shape bound known (listed Member.text one others ++ '\x7d' :: rest) = .ok ((first, second), rest) := by
  obtain ⟨bound, rfl⟩ : ∃ inner, bound = inner + 1 := Nat.exists_eq_add_of_le' (by omega)
  induction others generalizing one fields known bound with
  | nil =>
    rcases hold with _ | @⟨_, ⟨name, value⟩, _, _, ⟨spelled, written, same⟩, ⟨⟩⟩
    obtain rfl : one.element.value = value := same
    have ends : Ends ('\x7d' :: rest) := ends_cons (by decide) rest
    rcases readMember_element differ one.blankGap written awaits ends with ⟨next, read, settled⟩
    rw [listed_nil, readMembers_member spelled bound read, skipBlank_append one.element.blankAfter rfl]
    change (next.complete shape >>= _) = _
    rw [complete_eq_ok.mpr settled]
    rfl
  | cons two others inductionHypothesis =>
    rcases hold with _ | @⟨_, ⟨name, value⟩, _, _, ⟨spelled, written, same⟩, later⟩
    obtain rfl : one.element.value = value := same
    have ends : Ends (',' :: (listed Member.text two others ++ '\x7d' :: rest)) := ends_cons (by decide) _
    rcases readMember_element differ one.blankGap written awaits ends with ⟨next, read, settled⟩
    rw [listed_cons, List.append_assoc, List.cons_append, readMembers_member spelled bound read,
      skipBlank_append one.element.blankAfter rfl]
    rw [List.length_cons] at large
    obtain ⟨bound, rfl⟩ : ∃ inner, bound = inner + 1 := Nat.exists_eq_add_of_le' (by omega)
    exact inductionHypothesis later settled bound (by omega)

theorem members_of_readMembers (differ : shape.first ≠ shape.second) {bound : Nat} {input rest : List Char}
    (read : readMembers shape bound known input = .ok ((first, second), rest)) :
    ∃ one others fields, List.Forall₂ Member.Holds (one :: others) fields ∧
      input = listed Member.text one others ++ '\x7d' :: rest ∧ known.Awaits shape first second fields := by
  induction bound generalizing known input with
  | zero => cases read
  | succ bound inductionHypothesis =>
    rcases skipBlank_split input with ⟨indent, blankIndent, split⟩
    rw [readMembers] at read
    split at read
    · next named opens =>
      rcases bind_eq_ok read with ⟨⟨name, afterName⟩, readName, onward⟩
      rcases bind_eq_ok onward with ⟨⟨next, afterMember⟩, member, ends⟩
      rcases spelled_of_readText (wellFormed_eq_ok.mp readName) with ⟨body, spelled, rfl⟩
      rcases element_of_readMember differ member with ⟨gap, element, blankGap, written, rfl, before⟩
      let one : Member := ⟨indent, body, gap, element, blankIndent, blankGap⟩
      have holds : one.Holds (String.ofList name, element.value) := ⟨by rwa [String.toList_ofList], written, rfl⟩
      have begins : input = one.text ++ skipBlank afterMember := by
        rw [Member.text_append, ← opens]
        exact split
      rw [begins]
      dsimp only at ends
      split at ends
      · next after closes =>
        rcases bind_eq_ok ends with ⟨record, complete, same⟩
        cases same
        refine ⟨one, [], [_], .cons holds .nil, ?_, before (complete_eq_ok.mp complete)⟩
        rw [closes, listed_nil]
      · next more continues =>
        rcases inductionHypothesis ends with ⟨two, others, fields, hold, rfl, awaits⟩
        refine ⟨one, two :: others, _, .cons holds hold, ?_, before awaits⟩
        rw [continues, listed_cons, List.append_assoc, List.cons_append]
      · cases ends
    · cases read

end Members

/-! ## Objects and arrays -/

/-- The object holds each of the two texts once. -/
def HoldsRecord (shape : RecordShape) (first second : String) (fields : List (String × List Char)) : Prop :=
  HoldsOnce shape.first first fields ∧ HoldsOnce shape.second second fields

theorem length_le_length_listed {α : Type} (text : α → List Char) (first : α) (others : List α) :
    others.length ≤ (listed text first others).length := by
  induction others generalizing first with
  | nil => exact Nat.zero_le _
  | cons second others inductionHypothesis =>
    have later := inductionHypothesis second
    rw [listed_cons, List.length_append, List.length_cons, List.length_cons]
    omega

section Forms

variable {shape : RecordShape} {first second : String}

theorem readObject_listed (differ : shape.first ≠ shape.second) {one : Member} {others : List Member}
    {fields : List (String × List Char)} (hold : List.Forall₂ Member.Holds (one :: others) fields)
    (record : HoldsRecord shape first second fields) (rest : List Char) :
    readObject shape (listed Member.text one others ++ '\x7d' :: rest) = .ok ((first, second), rest) := by
  -- The members are read from the first quotation mark on.
  let opening : Member := { one with indent := [], blankIndent := rfl }
  have unindented : skipBlank (listed Member.text one others ++ '\x7d' :: rest) =
      listed Member.text opening others ++ '\x7d' :: rest := by
    rw [listed_append, listed_append, Member.text_append, Member.text_append]
    exact skipBlank_append one.blankIndent rfl _
  have holdOpening : List.Forall₂ Member.Holds (opening :: others) fields := by
    rcases hold with _ | ⟨holds, later⟩
    exact .cons holds later
  have large := length_le_length_listed Member.text opening others
  have awaits : ({} : Fields).Awaits shape first second fields := record
  have quote : ∃ more, listed Member.text opening others ++ '\x7d' :: rest = '"' :: more := by
    rw [listed_append, Member.text_append]
    exact ⟨_, rfl⟩
  unfold readObject
  rw [unindented]
  split
  · next after closes =>
    rcases quote with ⟨more, begins⟩
    cases begins.symm.trans closes
  · refine readMembers_listed differ holdOpening awaits ?_ rest
    rw [List.length_append]
    omega

theorem listed_of_readObject (differ : shape.first ≠ shape.second) {input rest : List Char}
    (read : readObject shape input = .ok ((first, second), rest)) :
    ∃ one others fields, List.Forall₂ Member.Holds (one :: others) fields ∧
      input = listed Member.text one others ++ '\x7d' :: rest ∧ HoldsRecord shape first second fields := by
  rcases skipBlank_split input with ⟨blanks, blank, split⟩
  unfold readObject at read
  split at read
  · rcases bind_eq_ok read with ⟨⟨one, two⟩, complete, _⟩
    cases pending_nil.mp (complete_eq_ok.mp complete).1
  · rcases members_of_readMembers differ read with ⟨one, others, fields, hold, begins, awaits⟩
    have blankIndent : (blanks ++ one.indent).all isBlank = true := by
      rw [List.all_append, blank, one.blankIndent, Bool.and_self]
    let indented : Member := { one with indent := blanks ++ one.indent, blankIndent := blankIndent }
    have holdIndented : List.Forall₂ Member.Holds (indented :: others) fields := by
      rcases hold with _ | ⟨holds, later⟩
      exact .cons holds later
    refine ⟨indented, others, fields, holdIndented, ?_, awaits⟩
    rw [split, begins, listed_append, listed_append, Member.text_append, Member.text_append, ← List.append_assoc]

/-- The string without the white space in front of it. -/
def Element.flush (element : Element) : Element := { element with before := [], blankBefore := rfl }

theorem skipBlank_text {element : Element} {text : String} (isText : IsText element.value text) (tail : List Char) :
    skipBlank (element.text ++ tail) = element.flush.text ++ tail := by
  rw [Element.text, List.append_assoc, List.append_assoc, skipBlank_value element.blankBefore isText.isValue,
    ← List.append_assoc]
  rfl

theorem flush_begins {element : Element} {text : String} (isText : IsText element.value text) (tail : List Char) :
    ∃ more, element.flush.text ++ tail = '"' :: more := by
  rcases isText with ⟨body, _, same⟩
  rw [Element.text, Element.flush, same]
  exact ⟨_, rfl⟩

/-- The string with more white space in front of it. -/
def Element.behind (element : Element) {blanks : List Char} (blank : blanks.all isBlank = true) : Element :=
  { element with
    before := blanks ++ element.before
    blankBefore := by rw [List.all_append, blank, element.blankBefore, Bool.and_self] }

theorem Element.text_behind (element : Element) {blanks : List Char} (blank : blanks.all isBlank = true) :
    (element.behind blank).text = blanks ++ element.text :=
  List.append_assoc _ _ _

theorem readArray_pair {one two : Element} (isFirst : IsText one.value first) (isSecond : IsText two.value second)
    (rest : List Char) :
    readArray shape (listed Element.text one [two] ++ ']' :: rest) = .ok ((first, second), rest) := by
  have flushFirst : IsText one.flush.value first := isFirst
  have flushSecond : IsText two.flush.value second := isSecond
  have readFirst := readString_element flushFirst (',' :: (two.text ++ ']' :: rest))
  have readSecond := readString_element flushSecond (']' :: rest)
  rcases flush_begins isFirst (',' :: (two.text ++ ']' :: rest)) with ⟨afterQuote, opens⟩
  rcases flush_begins isSecond (']' :: rest) with ⟨afterSecond, opensSecond⟩
  have comma (more : List Char) : skipBlank (one.flush.after ++ ',' :: more) = ',' :: more :=
    skipBlank_append one.blankAfter rfl more
  have bracket : skipBlank (two.flush.after ++ ']' :: rest) = ']' :: rest := skipBlank_append two.blankAfter rfl rest
  rw [opens] at readFirst
  rw [opensSecond] at readSecond
  rw [listed_cons, listed_nil, List.append_assoc, List.cons_append, readArray, skipBlank_text isFirst, opens]
  change (readString ('"' :: afterQuote) >>= _) = _
  simp only [readFirst, bind, Except.bind, comma, skipBlank_text isSecond, opensSecond]
  change (readString ('"' :: afterSecond) >>= _) = _
  simp only [readSecond, bind, Except.bind, bracket]
  rfl

theorem pair_of_readArray {input rest : List Char}
    (read : readArray shape input = .ok ((first, second), rest)) :
    ∃ one two : Element, IsText one.value first ∧ IsText two.value second ∧
      input = listed Element.text one [two] ++ ']' :: rest := by
  rcases skipBlank_split input with ⟨blanks, blank, split⟩
  unfold readArray at read
  split at read
  · cases read
  · cases read
  · rcases bind_eq_ok read with ⟨⟨text, afterFirst⟩, readFirst, onward⟩
    rcases element_of_readString readFirst with ⟨one, isFirst, begins⟩
    dsimp only at onward
    split at onward
    · cases onward
    · next more comma =>
      rcases skipBlank_split more with ⟨gap, blankGap, splitMore⟩
      split at onward
      · cases onward
      · cases onward
      · rcases bind_eq_ok onward with ⟨⟨other, afterSecond⟩, readSecond, closes⟩
        rcases element_of_readString readSecond with ⟨two, isSecond, beginsSecond⟩
        dsimp only at closes
        split at closes
        · next after bracket =>
          cases closes
          refine ⟨one.behind blank, two.behind blankGap, isFirst, isSecond, ?_⟩
          rw [listed_cons, listed_nil, Element.text_behind, Element.text_behind, split, begins, comma, splitMore,
            beginsSecond, bracket]
          simp only [List.append_assoc, List.cons_append]
        · cases closes
    · cases onward

end Forms

/-! ## Whole texts -/

/-- A text that holds a record, as an object or as an array, with white space around it. -/
def IsRecord (shape : RecordShape) (first second : String) (text : List Char) : Prop :=
  ∃ document : Element, text = document.text ∧
    ((∃ fields, IsObject fields document.value ∧ HoldsRecord shape first second fields) ∨
      IsPair first second document.value)

theorem isEmpty_skipBlank {rest : List Char} : (skipBlank rest).isEmpty = true ↔ rest.all isBlank = true := by
  rw [List.isEmpty_iff, skipBlank, List.dropWhile_eq_nil_iff, List.all_eq_true]

theorem isRecord_of_readRecord {shape : RecordShape} (differ : shape.first ≠ shape.second)
    {text first second : String} (read : readRecord shape text = .ok (first, second)) :
    IsRecord shape first second text.toList := by
  rcases skipBlank_split text.toList with ⟨before, blankBefore, split⟩
  unfold readRecord at read
  dsimp only at read
  split at read
  · cases read
  · next input opens =>
    rcases bind_eq_ok read with ⟨⟨record, after⟩, readForm, ends⟩
    split at ends
    · next blank =>
      cases ends
      rcases listed_of_readObject differ readForm with ⟨one, others, fields, hold, rfl, holds⟩
      refine ⟨⟨before, _, after, blankBefore, isEmpty_skipBlank.mp blank⟩, ?_, Or.inl ⟨fields, .members hold, holds⟩⟩
      rw [split, opens, Element.text, List.cons_append, List.append_assoc, List.singleton_append]
    · cases ends
  · next input opens =>
    rcases bind_eq_ok read with ⟨⟨record, after⟩, readForm, ends⟩
    split at ends
    · next blank =>
      cases ends
      rcases pair_of_readArray readForm with ⟨one, two, isFirst, isSecond, rfl⟩
      refine ⟨⟨before, _, after, blankBefore, isEmpty_skipBlank.mp blank⟩, ?_, Or.inr (.mk isFirst isSecond)⟩
      rw [split, opens, Element.text, List.cons_append, List.append_assoc, List.singleton_append]
    · cases ends
  · cases read

theorem readRecord_of_isRecord {shape : RecordShape} (differ : shape.first ≠ shape.second)
    {text first second : String} (record : IsRecord shape first second text.toList) :
    readRecord shape text = .ok (first, second) := by
  rcases record with ⟨⟨before, form, after, blankBefore, blankAfter⟩, same, ⟨fields, object, holds⟩ | pair⟩
  · cases object with
    | empty =>
      rcases holds.1 with ⟨front, value, back, split, _⟩
      exact absurd split.symm (List.append_ne_nil_of_right_ne_nil front (List.cons_ne_nil _ back))
    | members hold =>
      rw [Element.text, List.cons_append, List.append_assoc, List.singleton_append] at same
      rw [readRecord, same, skipBlank_append blankBefore rfl]
      change (readObject shape _ >>= _) = _
      rw [readObject_listed differ hold holds]
      exact if_pos (isEmpty_skipBlank.mpr blankAfter)
  · cases pair with
    | mk isFirst isSecond =>
      rw [Element.text, List.cons_append, List.append_assoc, List.singleton_append] at same
      rw [readRecord, same, skipBlank_append blankBefore rfl]
      change (readArray shape _ >>= _) = _
      rw [readArray_pair isFirst isSecond]
      exact if_pos (isEmpty_skipBlank.mpr blankAfter)

/-- A text is read as a record exactly if it holds one. -/
theorem readRecord_eq_ok {shape : RecordShape} (differ : shape.first ≠ shape.second) {text first second : String} :
    readRecord shape text = .ok (first, second) ↔ IsRecord shape first second text.toList :=
  ⟨isRecord_of_readRecord differ, readRecord_of_isRecord differ⟩

end Json
end NodeKeys
