import TableFeed.Proofs.ValueType.Builtin

/-!
# Names of column types

The column type of a built-in type is one of a few fixed names, or it carries numbers that come
from the parameters of a schema.  Whatever these parameters are, the name is a word of capital
letters, digits, brackets and commas (`isTypeWord_columnType`): no parameter gets a blank or a
quote into it.
-/

namespace TableFeed

/-! ## Words -/

/-- The characters of column types. -/
def isTypeChar (c : Char) : Bool :=
  c.isUpper || c.isDigit || c = '(' || c = ')' || c = ','

/-- A text is a word that can name a column type. -/
def IsTypeWord (text : String) : Prop :=
  text ≠ "" ∧ text.toList.all isTypeChar = true

instance (text : String) : Decidable (IsTypeWord text) :=
  inferInstanceAs (Decidable (_ ∧ _))

theorem IsTypeWord.append {left right : String} (hleft : IsTypeWord left)
    (hright : right.toList.all isTypeChar = true) : IsTypeWord (left ++ right) := by
  refine ⟨?_, ?_⟩
  · intro hempty
    have hlist := congrArg String.toList hempty
    rw [String.toList_append] at hlist
    exact hleft.1 (String.toList_eq_nil_iff.1 (List.append_eq_nil_iff.1 hlist).1)
  · rw [String.toList_append, List.all_append, hleft.2, hright]
    rfl

theorem all_isTypeChar_natText (n : Nat) : (Text.natText n).toList.all isTypeChar = true := by
  rw [Text.natText, String.toList_ofList, List.all_eq_true]
  intro c hc
  have hdigit := List.all_eq_true.1 (Text.all_isDigit_natChars n) c hc
  simp [isTypeChar, hdigit]

/-! ## Column types -/

namespace ValueType

theorem isTypeWord_stringColumn (s : Schema) : IsTypeWord (stringColumn s) := by
  have hunbounded : IsTypeWord "STRING" := by decide
  unfold stringColumn
  split
  · next length _ =>
    split
    · have hopen : IsTypeWord "VARCHAR(" := by decide
      exact (hopen.append (all_isTypeChar_natText _)).append (by decide)
    · exact hunbounded
  · exact hunbounded

theorem isTypeWord_decimalColumn (s : Schema) : IsTypeWord (decimalColumn s) := by
  have htext : IsTypeWord "STRING" := by decide
  unfold decimalColumn
  split
  · split
    · next precision scale _ _ _ =>
      have hopen : IsTypeWord "DECIMAL(" := by decide
      have hprecision : IsTypeWord ("DECIMAL(" ++ Text.natText precision ++ ",") :=
        (hopen.append (all_isTypeChar_natText precision)).append (by decide)
      exact (hprecision.append (all_isTypeChar_natText _)).append (by decide)
    · exact htext
  · exact htext

/-- The names of the column types that do not depend on a schema. -/
def fixedColumns : List String :=
  ["TINYINT", "SMALLINT", "INT", "BIGINT", "FLOAT", "DOUBLE", "BOOLEAN", "STRING", "DATE",
    "DATETIME(3)", "DATETIME(6)", "JSON"]

theorem columnType_builtin (s : Schema) : ∀ type ∈ Registry.builtinTypes,
    type.columnType s ∈ fixedColumns ∨ type.columnType s = stringColumn s ∨
      type.columnType s = decimalColumn s := by
  simp [Registry.builtinTypes, fixedColumns, int8, int16, int32, int64, integer, float32, float64,
    floating, boolean, string, bytes, container, decimal, variableScaleDecimal, date, time,
    microTime, nanoTime, timeOf, timestamp, microTimestamp, nanoTimestamp, timestampOf,
    zonedTimestamp, json, text]

theorem isTypeWord_columnType {type : ValueType} (h : type ∈ Registry.builtinTypes) (s : Schema) :
    IsTypeWord (type.columnType s) := by
  have hfixed : ∀ name ∈ fixedColumns, IsTypeWord name := by decide
  rcases columnType_builtin s type h with hname | hname | hname
  · exact hfixed _ hname
  · rw [hname]
    exact isTypeWord_stringColumn s
  · rw [hname]
    exact isTypeWord_decimalColumn s

end ValueType

end TableFeed
