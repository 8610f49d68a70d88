import NodeKeys.Proofs.Json.Numbers
import NodeKeys.Proofs.Json.Strings

/-!
# Values are passed over as the grammar says

A value that nobody asked for is passed over as a whole, however deep it is nested, and only a value is.  Nested calls
are bounded by twice the length of the text, since every call for an item or a member takes at least one character.
-/

namespace NodeKeys
namespace Json

/-! ## White space -/

theorem skipBlank_cons {first : Char} (visible : isBlank first = false) (rest : List Char) :
    skipBlank (first :: rest) = first :: rest := by
  apply List.dropWhile_cons_of_neg
  rw [visible]
  exact Bool.false_ne_true

theorem skipBlank_append {blanks : List Char} (blank : blanks.all isBlank = true)
    {first : Char} (visible : isBlank first = false) (rest : List Char) :
    skipBlank (blanks ++ first :: rest) = first :: rest := by
  rw [skipBlank, List.dropWhile_append_of_pos (List.all_eq_true.mp blank)]
  exact skipBlank_cons visible rest

theorem skipBlank_split (input : List Char) :
    ∃ blanks, blanks.all isBlank = true ∧ input = blanks ++ skipBlank input :=
  ⟨input.takeWhile isBlank, List.all_takeWhile, List.takeWhile_append_dropWhile.symm⟩

theorem isBlank_cases {symbol : Char} (blank : isBlank symbol = true) :
    symbol = ' ' ∨ symbol = '\n' ∨ symbol = '\t' ∨ symbol = '\r' := by
  simpa [isBlank, or_assoc] using blank

theorem ends_cons {symbol : Char}
    (stops : symbol.isDigit = false ∧ symbol ≠ '.' ∧ symbol ≠ 'e' ∧ symbol ≠ 'E') (rest : List Char) :
    Ends (symbol :: rest) := by
  rintro _ ⟨⟩
  exact stops

theorem Ends.behind_blanks {blanks rest : List Char} (blank : blanks.all isBlank = true) (ends : Ends rest) :
    Ends (blanks ++ rest) := by
  cases blanks with
  | nil => exact ends
  | cons symbol more =>
    refine ends_cons ?_ _
    rcases isBlank_cases (List.all_eq_true.mp blank symbol List.mem_cons_self) with rfl | rfl | rfl | rfl <;> decide

/-! ## How values begin -/

/-- What begins a value other than a number, and the bracket that ends an array. -/
def reserved : List Char := ['n', 't', 'f', '"', '[', ']', '\x7b']

/-- What can begin a number. -/
def BeginsNumber (symbol : Char) : Prop := isBlank symbol = false ∧ symbol ∉ reserved

theorem beginsNumber_of_isDigit {symbol : Char} (digit : symbol.isDigit = true) : BeginsNumber symbol := by
  constructor
  · rw [← Bool.not_eq_true]
    intro blank
    rcases isBlank_cases blank with rfl | rfl | rfl | rfl <;> exact absurd digit (by decide)
  · intro member
    simp only [reserved, List.mem_cons, List.not_mem_nil, or_false] at member
    rcases member with rfl | rfl | rfl | rfl | rfl | rfl | rfl <;> exact absurd digit (by decide)

theorem IsNumber.begins {number : List Char} (written : IsNumber number) :
    ∃ first more, number = first :: more ∧ BeginsNumber first := by
  cases written with
  | @mk sign whole fraction exponent signed nonempty =>
    rcases signed with rfl | rfl
    · cases whole with
      | nil => exact absurd rfl nonempty.1
      | cons first more =>
        have digit := List.all_eq_true.mp nonempty.2 first List.mem_cons_self
        exact ⟨first, _, rfl, beginsNumber_of_isDigit digit⟩
    · exact ⟨'-', _, rfl, by decide, by decide⟩

/-- A value begins with a character that is not blank and closes nothing. -/
theorem IsValue.begins {value : List Char} (written : IsValue value) :
    ∃ first more, value = first :: more ∧ isBlank first = false ∧ first ≠ ']' := by
  cases written
  case number written =>
    rcases written.begins with ⟨first, more, rfl, visible, free⟩
    exact ⟨first, more, rfl, visible, fun closes => free (closes ▸ by decide)⟩
  all_goals exact ⟨_, _, rfl, by decide⟩

theorem skipBlank_value {blanks value : List Char} (blank : blanks.all isBlank = true) (written : IsValue value)
    (rest : List Char) : skipBlank (blanks ++ (value ++ rest)) = value ++ rest := by
  rcases written.begins with ⟨first, more, rfl, visible, _⟩
  exact skipBlank_append blank visible _

/-! ## Passing over well-formed values -/

/-- The value is passed over, with nested calls up to twice its length. -/
def Passes (value : List Char) : Prop :=
  ∀ (bound : Nat) (blanks rest : List Char), 2 * value.length ≤ bound → blanks.all isBlank = true → Ends rest →
    skipValue bound (blanks ++ (value ++ rest)) = some rest

theorem IsValue.passes_of_succ {value : List Char} (written : IsValue value)
    (passed : ∀ (bound : Nat) (rest : List Char), 2 * value.length ≤ bound + 1 → Ends rest →
      skipValue (bound + 1) (value ++ rest) = some rest) : Passes value := by
  intro bound blanks rest large blank ends
  rcases written.begins with ⟨first, more, same, _⟩
  rw [same, List.length_cons] at large
  obtain ⟨bound, rfl⟩ : ∃ inner, bound = inner + 1 := Nat.exists_eq_add_of_le' (by omega)
  have stays : skipBlank ([] ++ (value ++ rest)) = value ++ rest := skipBlank_value rfl written rest
  have passedHere := passed bound rest (by rw [same, List.length_cons]; exact large) ends
  rw [List.nil_append] at stays
  rw [skipValue, stays] at passedHere
  rw [skipValue, skipBlank_value blank written]
  exact passedHere

/-- Whatever begins like a number is passed over as one. -/
theorem skipValue_other {input : List Char} (plain : ∀ first ∈ input.head?, BeginsNumber first) (bound : Nat) :
    skipValue (bound + 1) input = (Number.span? input).map Prod.snd := by
  have stays : skipBlank input = input := by
    cases input with
    | nil => rfl
    | cons first more => exact skipBlank_cons (plain first rfl).1 more
  rw [skipValue, stays]
  split
  case h_7 => rfl
  all_goals exact absurd (plain _ rfl).2 (by decide)

theorem passes_number {number : List Char} (written : IsNumber number) : Passes number := by
  refine (IsValue.number written).passes_of_succ fun bound rest _ ends => ?_
  rcases Number.span?_append written ends with ⟨parts, spans⟩
  rcases written.begins with ⟨first, more, rfl, plain⟩
  rw [skipValue_other (by rintro _ ⟨⟩; exact plain), spans]
  rfl

theorem skipWord_eq_some {word : String} {input rest : List Char} :
    skipWord word input = some rest ↔ input = word.toList ++ rest := by
  unfold skipWord
  split
  · next begins =>
    rcases List.isPrefixOf_iff_prefix.mp begins with ⟨after, rfl⟩
    rw [← String.length_toList, List.drop_left, Option.some.injEq]
    exact (List.append_right_inj _).symm
  · next other =>
    refine iff_of_false nofun ?_
    rintro rfl
    exact other (List.isPrefixOf_iff_prefix.mpr (List.prefix_append _ _))

/-! ### Arrays and objects -/

theorem listed_nil {α : Type} (text : α → List Char) (first : α) : listed text first [] = text first :=
  List.append_nil _

theorem listed_cons {α : Type} (text : α → List Char) (first second : α) (others : List α) :
    listed text first (second :: others) = text first ++ ',' :: listed text second others := rfl

section Elements

variable {element : Element} {bound : Nat} {tail : List Char}

theorem skipValue_element (passes : Passes element.value) (large : 2 * element.text.length ≤ bound)
    (ends : Ends tail) : skipValue bound (element.text ++ tail) = some (element.after ++ tail) := by
  rw [Element.text, List.length_append, List.length_append] at large
  rw [Element.text, List.append_assoc, List.append_assoc]
  exact passes bound _ _ (by omega) element.blankBefore (ends.behind_blanks element.blankAfter)

theorem skipItems_element (passes : Passes element.value) (large : 2 * element.text.length ≤ bound)
    (ends : Ends tail) :
    skipItems (bound + 1) (element.text ++ tail) =
      match skipBlank (element.after ++ tail) with
      | ',' :: rest => skipItems bound rest
      | ']' :: rest => some rest
      | _ => none := by
  rw [skipItems, skipValue_element passes large ends]
  rfl

/-- After its bracket, an array is passed over item by item. -/
theorem skipItems_listed {first : Element} {others : List Element}
    (passes : ∀ element ∈ first :: others, Passes element.value)
    (large : 2 * (listed Element.text first others).length ≤ bound) (rest : List Char) :
    skipItems (bound + 1) (listed Element.text first others ++ ']' :: rest) = some rest := by
  induction others generalizing first bound with
  | nil =>
    rw [listed_nil] at large ⊢
    rw [skipItems_element (passes first List.mem_cons_self) large (ends_cons (by decide) rest),
      skipBlank_append first.blankAfter rfl]
    rfl
  | cons second others inductionHypothesis =>
    rw [listed_cons, List.length_append, List.length_cons] at large
    rw [listed_cons, List.append_assoc, List.cons_append,
      skipItems_element (passes first List.mem_cons_self) (by omega) (ends_cons (by decide) _),
      skipBlank_append first.blankAfter rfl]
    obtain ⟨bound, rfl⟩ : ∃ inner, bound = inner + 1 := Nat.exists_eq_add_of_le' (by omega)
    exact inductionHypothesis (fun element member => passes element (List.mem_cons_of_mem first member)) (by omega)

end Elements

section Members

variable {member : Member} {bound : Nat} {tail : List Char}

theorem Member.text_append (member : Member) (tail : List Char) :
    member.text ++ tail =
      member.indent ++ '"' :: (member.name ++ '"' :: (member.gap ++ ':' :: (member.element.text ++ tail))) := by
  simp only [Member.text, List.append_assoc, List.cons_append]

theorem Member.length_element_lt (member : Member) : member.element.text.length < member.text.length := by
  simp only [Member.text, List.length_append, List.length_cons]
  omega

theorem skipMembers_member (named : IsBody member.name) (passes : Passes member.element.value)
    (large : 2 * member.text.length ≤ bound) (ends : Ends tail) :
    skipMembers (bound + 1) (member.text ++ tail) =
      match skipBlank (member.element.after ++ tail) with
      | ',' :: rest => skipMembers bound rest
      | '\x7d' :: rest => some rest
      | _ => none := by
  have inside := member.length_element_lt
  rw [Member.text_append, skipMembers, skipBlank_append member.blankIndent rfl]
  change (skipText (member.name ++ '"' :: _) >>= _) = _
  have colon := skipBlank_append member.blankGap (rfl : isBlank ':' = false) (member.element.text ++ tail)
  simp only [skipText_body named, Option.bind_eq_bind, Option.bind_some, colon]
  rw [skipValue_element passes (by omega) ends]
  rfl

/-- After its brace, an object is passed over member by member. -/
theorem skipMembers_listed {first : Member} {others : List Member}
    (names : ∀ member ∈ first :: others, IsBody member.name)
    (passes : ∀ member ∈ first :: others, Passes member.element.value)
    (large : 2 * (listed Member.text first others).length ≤ bound) (rest : List Char) :
    skipMembers (bound + 1) (listed Member.text first others ++ '\x7d' :: rest) = some rest := by
  induction others generalizing first bound with
  | nil =>
    rw [listed_nil] at large ⊢
    rw [skipMembers_member (names first List.mem_cons_self) (passes first List.mem_cons_self) large
      (ends_cons (by decide) rest), skipBlank_append first.element.blankAfter rfl]
    rfl
  | cons second others inductionHypothesis =>
    rw [listed_cons, List.length_append, List.length_cons] at large
    rw [listed_cons, List.append_assoc, List.cons_append,
      skipMembers_member (names first List.mem_cons_self) (passes first List.mem_cons_self) (by omega)
        (ends_cons (by decide) _), skipBlank_append first.element.blankAfter rfl]
    obtain ⟨bound, rfl⟩ : ∃ inner, bound = inner + 1 := Nat.exists_eq_add_of_le' (by omega)
    exact inductionHypothesis (fun member among => names member (List.mem_cons_of_mem first among))
      (fun member among => passes member (List.mem_cons_of_mem first among)) (by omega)

end Members

theorem skipValue_array (bound : Nat) (inside : List Char) :
    skipValue (bound + 1) ('[' :: inside) =
      match skipBlank inside with
      | ']' :: after => some after
      | _ => skipItems bound inside := by
  rw [skipValue, skipBlank_cons rfl]
  rfl

theorem skipValue_object (bound : Nat) (inside : List Char) :
    skipValue (bound + 1) ('\x7b' :: inside) =
      match skipBlank inside with
      | '\x7d' :: after => some after
      | _ => skipMembers bound inside := by
  rw [skipValue, skipBlank_cons rfl]
  rfl

theorem listed_append {α : Type} (text : α → List Char) (first : α) (others : List α) (tail : List Char) :
    listed text first others ++ tail = text first ++ (behindCommas (others.map text) ++ tail) :=
  List.append_assoc _ _ _

theorem passes_array {first : Element} {others : List Element}
    (values : ∀ element ∈ first :: others, IsValue element.value)
    (passes : ∀ element ∈ first :: others, Passes element.value) :
    Passes ('[' :: (listed Element.text first others ++ [']'])) := by
  refine (IsValue.array values).passes_of_succ fun bound rest large _ => ?_
  have written := values first List.mem_cons_self
  have items : skipBlank (listed Element.text first others ++ ']' :: rest) =
      first.value ++ (first.after ++ (behindCommas (others.map Element.text) ++ ']' :: rest)) := by
    rw [listed_append, Element.text, List.append_assoc, List.append_assoc]
    exact skipBlank_value first.blankBefore written _
  rcases written.begins with ⟨symbol, more, begins, _, closesNot⟩
  simp only [List.length_cons, List.length_append] at large
  rw [List.cons_append, List.append_assoc, List.singleton_append, skipValue_array, items, begins]
  split
  · next same => exact absurd (List.cons.inj same).1 closesNot
  · obtain ⟨bound, rfl⟩ : ∃ inner, bound = inner + 1 := Nat.exists_eq_add_of_le' (by omega)
    exact skipItems_listed passes (by omega) rest

theorem passes_object {first : Member} {others : List Member}
    (names : ∀ member ∈ first :: others, IsBody member.name)
    (values : ∀ member ∈ first :: others, IsValue member.element.value)
    (passes : ∀ member ∈ first :: others, Passes member.element.value) :
    Passes ('\x7b' :: (listed Member.text first others ++ ['\x7d'])) := by
  refine (IsValue.object names values).passes_of_succ fun bound rest large _ => ?_
  have members : ∃ more, skipBlank (listed Member.text first others ++ '\x7d' :: rest) = '"' :: more := by
    rw [listed_append, Member.text_append]
    exact ⟨_, skipBlank_append first.blankIndent rfl _⟩
  rcases members with ⟨more, begins⟩
  simp only [List.length_cons, List.length_append] at large
  rw [List.cons_append, List.append_assoc, List.singleton_append, skipValue_object, begins]
  obtain ⟨bound, rfl⟩ : ∃ inner, bound = inner + 1 := Nat.exists_eq_add_of_le' (by omega)
  exact skipMembers_listed names passes (by omega) rest

/-- Every value is passed over. -/
theorem IsValue.passes {value : List Char} (written : IsValue value) : Passes value := by
  induction written with
  | nullWord => exact IsValue.nullWord.passes_of_succ fun _ _ _ _ => rfl
  | trueWord => exact IsValue.trueWord.passes_of_succ fun _ _ _ _ => rfl
  | falseWord => exact IsValue.falseWord.passes_of_succ fun _ _ _ _ => rfl
  | number written => exact passes_number written
  | string written =>
    refine (IsValue.string written).passes_of_succ fun bound rest _ _ => ?_
    rw [List.cons_append, List.append_assoc, skipValue, skipBlank_cons rfl]
    exact skipText_body written rest
  | emptyArray blank =>
    refine (IsValue.emptyArray blank).passes_of_succ fun bound rest _ _ => ?_
    rw [List.cons_append, List.append_assoc, List.singleton_append, skipValue_array, skipBlank_append blank rfl]
    rfl
  | array values passes => exact passes_array values passes
  | emptyObject blank =>
    refine (IsValue.emptyObject blank).passes_of_succ fun bound rest _ _ => ?_
    rw [List.cons_append, List.append_assoc, List.singleton_append, skipValue_object, skipBlank_append blank rfl]
    rfl
  | object names values passes => exact passes_object names values passes

/-! ## Only values are passed over -/

/-- The input begins with a value, behind white space, and this follows it. -/
def BeginsValue (input rest : List Char) : Prop :=
  ∃ blanks value, blanks.all isBlank = true ∧ IsValue value ∧ input = blanks ++ (value ++ rest)

/-- The input begins with the items of an array and its closing bracket, and this follows them. -/
def BeginsItems (input rest : List Char) : Prop :=
  ∃ first others, (∀ element ∈ first :: others, IsValue element.value) ∧
    input = listed Element.text first others ++ ']' :: rest

/-- The input begins with the members of an object and its closing brace, and this follows them. -/
def BeginsMembers (input rest : List Char) : Prop :=
  ∃ first others, (∀ member ∈ first :: others, IsBody member.name ∧ IsValue member.element.value) ∧
    input = listed Member.text first others ++ '\x7d' :: rest

theorem beginsValue_of_skipValue {bound : Nat} {input rest : List Char}
    (items : ∀ {input rest}, skipItems bound input = some rest → BeginsItems input rest)
    (members : ∀ {input rest}, skipMembers bound input = some rest → BeginsMembers input rest)
    (passed : skipValue (bound + 1) input = some rest) : BeginsValue input rest := by
  rcases skipBlank_split input with ⟨blanks, blank, split⟩
  suffices value : ∃ value, IsValue value ∧ skipBlank input = value ++ rest by
    rcases value with ⟨value, written, same⟩
    exact ⟨blanks, value, blank, written, by rw [← same]; exact split⟩
  rw [skipValue] at passed
  split at passed
  · next same => exact ⟨_, .nullWord, same.trans (congrArg ('n' :: ·) (skipWord_eq_some.mp passed))⟩
  · next same => exact ⟨_, .trueWord, same.trans (congrArg ('t' :: ·) (skipWord_eq_some.mp passed))⟩
  · next same => exact ⟨_, .falseWord, same.trans (congrArg ('f' :: ·) (skipWord_eq_some.mp passed))⟩
  · next inside same =>
    rcases body_of_skipText passed with ⟨body, written, rfl⟩
    exact ⟨_, .string written, by rw [same, List.cons_append, List.append_assoc, List.singleton_append]⟩
  · next inside same =>
    rcases skipBlank_split inside with ⟨gap, blankGap, splitInside⟩
    split at passed
    · next after closes =>
      cases passed
      rw [closes] at splitInside
      refine ⟨_, .emptyArray blankGap, ?_⟩
      rw [same, splitInside, List.cons_append, List.append_assoc, List.singleton_append]
    · rcases items passed with ⟨first, others, values, rfl⟩
      exact ⟨_, .array values, by rw [same, List.cons_append, List.append_assoc, List.singleton_append]⟩
  · next inside same =>
    rcases skipBlank_split inside with ⟨gap, blankGap, splitInside⟩
    split at passed
    · next after closes =>
      cases passed
      rw [closes] at splitInside
      refine ⟨_, .emptyObject blankGap, ?_⟩
      rw [same, splitInside, List.cons_append, List.append_assoc, List.singleton_append]
    · rcases members passed with ⟨first, others, written, rfl⟩
      have names (member : Member) (among : member ∈ first :: others) := (written member among).1
      have values (member : Member) (among : member ∈ first :: others) := (written member among).2
      refine ⟨_, .object names values, ?_⟩
      rw [same, List.cons_append, List.append_assoc, List.singleton_append]
  · rcases Option.map_eq_some_iff.mp passed with ⟨⟨parts, after⟩, spans, rfl⟩
    rcases Number.number_of_span? spans with ⟨number, written, same⟩
    exact ⟨number, .number written, same⟩

/-- A value that was passed over, with the white space in front of what follows. -/
theorem BeginsValue.element {input rest : List Char} (value : BeginsValue input rest) :
    ∃ element : Element, IsValue element.value ∧ input = element.text ++ skipBlank rest := by
  rcases value with ⟨before, value, blankBefore, written, same⟩
  rcases skipBlank_split rest with ⟨after, blankAfter, split⟩
  refine ⟨⟨before, value, after, blankBefore, blankAfter⟩, written, ?_⟩
  rw [Element.text, List.append_assoc, List.append_assoc, ← split]
  exact same

theorem beginsItems_of_skipItems {bound : Nat} {input rest : List Char}
    (values : ∀ {input rest}, skipValue bound input = some rest → BeginsValue input rest)
    (items : ∀ {input rest}, skipItems bound input = some rest → BeginsItems input rest)
    (passed : skipItems (bound + 1) input = some rest) : BeginsItems input rest := by
  rw [skipItems] at passed
  rcases Option.bind_eq_some_iff.mp passed with ⟨after, passedValue, onward⟩
  rcases (values passedValue).element with ⟨element, written, rfl⟩
  split at onward
  · next tail same =>
    rcases items onward with ⟨second, others, later, rfl⟩
    refine ⟨element, second :: others, List.forall_mem_cons.mpr ⟨written, later⟩, ?_⟩
    rw [same, listed_cons, List.append_assoc, List.cons_append]
  · next tail same =>
    cases onward
    refine ⟨element, [], List.forall_mem_singleton.mpr written, ?_⟩
    rw [same, listed_nil]
  · cases onward

theorem beginsMembers_of_skipMembers {bound : Nat} {input rest : List Char}
    (values : ∀ {input rest}, skipValue bound input = some rest → BeginsValue input rest)
    (members : ∀ {input rest}, skipMembers bound input = some rest → BeginsMembers input rest)
    (passed : skipMembers (bound + 1) input = some rest) : BeginsMembers input rest := by
  rcases skipBlank_split input with ⟨indent, blankIndent, split⟩
  rw [skipMembers] at passed
  split at passed
  · next named opens =>
    rcases Option.bind_eq_some_iff.mp passed with ⟨afterName, passedName, onward⟩
    rcases body_of_skipText passedName with ⟨name, written, rfl⟩
    rcases skipBlank_split afterName with ⟨gap, blankGap, splitName⟩
    split at onward
    · next value colon =>
      rcases Option.bind_eq_some_iff.mp onward with ⟨after, passedValue, ends⟩
      rcases (values passedValue).element with ⟨element, writtenValue, rfl⟩
      let member : Member := ⟨indent, name, gap, element, blankIndent, blankGap⟩
      have begins : input = member.text ++ skipBlank after := by
        rw [Member.text_append, ← colon, ← splitName, ← opens]
        exact split
      rw [begins]
      split at ends
      · next tail same =>
        rcases members ends with ⟨second, others, later, rfl⟩
        refine ⟨member, second :: others, List.forall_mem_cons.mpr ⟨⟨written, writtenValue⟩, later⟩, ?_⟩
        rw [same, listed_cons, List.append_assoc, List.cons_append]
      · next tail same =>
        cases ends
        refine ⟨member, [], List.forall_mem_singleton.mpr ⟨written, writtenValue⟩, ?_⟩
        rw [same, listed_nil]
      · cases ends
    · cases onward
  · cases passed

/-- Whatever is passed over is a value, the items of an array or the members of an object. -/
theorem begins_of_skip (bound : Nat) :
    (∀ {input rest}, skipValue bound input = some rest → BeginsValue input rest) ∧
      (∀ {input rest}, skipItems bound input = some rest → BeginsItems input rest) ∧
      ∀ {input rest}, skipMembers bound input = some rest → BeginsMembers input rest := by
  induction bound with
  | zero =>
    refine ⟨fun passed => ?_, fun passed => ?_, fun passed => ?_⟩
    · rw [skipValue] at passed
      cases passed
    · rw [skipItems] at passed
      cases passed
    · rw [skipMembers] at passed
      cases passed
  | succ bound inductionHypothesis =>
    rcases inductionHypothesis with ⟨values, items, members⟩
    exact ⟨beginsValue_of_skipValue items members, beginsItems_of_skipItems values items,
      beginsMembers_of_skipMembers values members⟩

/-- A value is passed over up to the white space that follows it. -/
theorem skip_element {element : Element} (written : IsValue element.value) {tail : List Char} (ends : Ends tail) :
    skip (element.text ++ tail) = some (element.after ++ tail) := by
  refine skipValue_element written.passes ?_ ends
  rw [List.length_append]
  omega

/-- Only a value is passed over. -/
theorem element_of_skip {input rest : List Char} (passed : skip input = some rest) :
    ∃ element : Element, IsValue element.value ∧ input = element.text ++ skipBlank rest :=
  ((begins_of_skip _).1 passed).element

end Json
end NodeKeys
