import Mathlib.Data.List.TakeWhile
import Profiling.Proofs.Text.Capitals
import Profiling.Table.ColumnType

/-!
# Array types by name

A type name that ends in brackets is that of an array. It is taken for one if its elements have no
parameters. Where they have, names are looked up without them and without the brackets behind them, so an
array of a known type with parameters is taken for its element.
-/

namespace Profiling

theorem Text.mem_of_mem_trim {s : List Char} {c : Char} (member : c ∈ trim s) : c ∈ s := by
  have kept : c ∈ dropTailWhile isBlank (s.dropWhile isBlank) := member
  have inside : c ∈ s.dropWhile isBlank := by
    rw [← dropTailWhile_append_takeTail isBlank (s.dropWhile isBlank)]
    exact List.mem_append_left _ kept
  exact (List.dropWhile_sublist isBlank).mem inside

namespace ColumnType

def EndsInBrackets (name : String) : Prop := ['[', ']'] <:+ Text.trim name.toList

instance (name : String) : Decidable (EndsInBrackets name) := inferInstanceAs (Decidable (_ <:+ _))

/-- Whether no parameters start at a character. -/
def isPlain (c : Char) : Bool := c != '(' && c != '<'

/-- A type name up to its parameters, or all of it if it has none. -/
def elementName (name : String) : String := String.ofList ((Text.trim name.toList).takeWhile isPlain)

def key (name : String) : String := String.ofList (baseName (Text.asciiUpper (Text.trim name.toList)))

variable {name : String}

/-! ### What names are looked up by -/

theorem lettersAlike_isPlain : Text.LettersAlike isPlain where
  ascii c low _ := by
    have plain : isPlain 'A' = true := by decide
    rw [plain, isPlain, Bool.and_eq_true, bne_iff_ne, bne_iff_ne]
    constructor
    · rintro rfl
      exact absurd low (by decide)
    · rintro rfl
      exact absurd low (by decide)
  widened := by decide

theorem key_eq (name : String) :
    key name = String.ofList (Text.asciiUpper (Text.trim ((Text.trim name.toList).takeWhile isPlain))) := by
  have cut : baseName (Text.asciiUpper (Text.trim name.toList)) =
      Text.trim ((Text.asciiUpper (Text.trim name.toList)).takeWhile isPlain) := rfl
  rw [key, cut, Text.asciiUpper, Text.takeWhile_flatMap lettersAlike_isPlain.capitals]
  exact congrArg String.ofList (Text.trim_asciiUpper _)

theorem key_elementName (name : String) : key (elementName name) = key name := by
  have plain : ∀ c ∈ Text.trim ((Text.trim name.toList).takeWhile isPlain), isPlain c = true := by
    intro c member
    exact List.all_eq_true.mp List.all_takeWhile c (Text.mem_of_mem_trim member)
  rw [key_eq, key_eq, elementName, String.toList_ofList, List.takeWhile_eq_self_iff.mpr plain, Text.trim_trim]

theorem mem_key_of_plain (brackets : EndsInBrackets name) (plain : ∀ c ∈ name.toList, isPlain c = true) :
    ']' ∈ (key name).toList := by
  have whole : (Text.trim name.toList).takeWhile isPlain = Text.trim name.toList :=
    List.takeWhile_eq_self_iff.mpr fun c member => plain c (Text.mem_of_mem_trim member)
  obtain ⟨front, shape⟩ := brackets
  rw [key_eq, whole, Text.trim_trim, String.toList_ofList, ← shape, Text.asciiUpper_append]
  exact List.mem_append_right _ (by decide)

/-! ### Looking names up -/

theorem lookup_of_bracket {k : String} (bracket : ']' ∈ k.toList) : sqlNames.lookup k = none := by
  have bare : ∀ e ∈ sqlNames, ']' ∉ e.1.toList := by decide +kernel
  rw [List.lookup_eq_none_iff]
  intro e member
  rw [bne_iff_ne]
  rintro rfl
  exact bare e member bracket

/-- Known names have a kind without a name of its own. -/
theorem ne_other_of_lookup {k : String} {t : ColumnType} (known : sqlNames.lookup k = some t) (n : String) :
    t ≠ other n := by
  have kinds : ∀ e ∈ sqlNames, e.2 ∈ labels.map Prod.snd := by decide +kernel
  obtain ⟨l₁, l₂, shape, -⟩ := List.lookup_eq_some_iff.mp known
  have listed : t ∈ labels.map Prod.snd := kinds (k, t) (by rw [shape]; simp)
  rintro rfl
  simp [labels] at listed

theorem ofSqlName_eq (name : String) :
    ofSqlName name = (sqlNames.lookup (key name)).getD
      (if ['[', ']'].isSuffixOf (Text.asciiUpper (Text.trim name.toList)) then array else other name) := by
  unfold ofSqlName key
  dsimp only
  generalize sqlNames.lookup _ = found
  cases found <;> rfl

theorem ofSqlName_of_brackets (brackets : EndsInBrackets name) :
    ofSqlName name = (sqlNames.lookup (key name)).getD array := by
  have ends : ['[', ']'].isSuffixOf (Text.asciiUpper (Text.trim name.toList)) = true := by
    obtain ⟨front, shape⟩ := brackets
    rw [List.isSuffixOf_iff_suffix, ← shape, Text.asciiUpper_append]
    exact ⟨_, rfl⟩
  rw [ofSqlName_eq, if_pos ends]

/-- An array without parameters in its name is taken for one, whatever its elements are. One with
parameters is taken for one exactly if its elements are arrays or of no known type by their own name, and
for its element otherwise. -/
theorem array_of_brackets_iff (brackets : EndsInBrackets name) :
    ((∀ c ∈ name.toList, isPlain c = true) → ofSqlName name = array) ∧
      (ofSqlName name = array ↔
        ofSqlName (elementName name) = array ∨ ∃ n, ofSqlName (elementName name) = other n) ∧
      (ofSqlName name ≠ array → ofSqlName name = ofSqlName (elementName name)) := by
  have bracketed := ofSqlName_of_brackets brackets
  cases found : sqlNames.lookup (key name) with
  | none =>
    have taken : ofSqlName name = array := by rw [bracketed, found, Option.getD_none]
    have element : ofSqlName (elementName name) = array ∨ ∃ n, ofSqlName (elementName name) = other n := by
      rw [ofSqlName_eq, key_elementName, found, Option.getD_none]
      split
      · exact .inl rfl
      · exact .inr ⟨_, rfl⟩
    exact ⟨fun _ => taken, iff_of_true taken element, fun apart => absurd taken apart⟩
  | some t =>
    have element : ofSqlName (elementName name) = t := by
      rw [ofSqlName_eq, key_elementName, found, Option.getD_some]
    have taken : ofSqlName name = t := by rw [bracketed, found, Option.getD_some]
    refine ⟨fun plain => ?_, ?_, fun _ => taken.trans element.symm⟩
    · have none := lookup_of_bracket (mem_key_of_plain brackets plain)
      exact absurd (found.symm.trans none) (Option.some_ne_none t)
    · rw [taken, element]
      refine ⟨.inl, ?_⟩
      rintro (array | ⟨n, named⟩)
      · exact array
      · exact absurd named (ne_other_of_lookup found n)

theorem points_in_brackets :
    EndsInBrackets " geometry(Point,4326)[] " ∧ ofSqlName " geometry(Point,4326)[] " = array := by
  have brackets : EndsInBrackets " geometry(Point,4326)[] " := by decide +kernel
  exact ⟨brackets, (array_of_brackets_iff brackets).2.1.mpr (.inr ⟨"geometry", by decide +kernel⟩)⟩

theorem numerics_in_brackets :
    EndsInBrackets "numeric(10,2)[]" ∧ ofSqlName "numeric(10,2)[]" = decimal ∧
      ofSqlName "numeric(10,2)[]" ≠ array := by
  decide +kernel

end ColumnType

end Profiling
