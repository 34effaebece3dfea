/-!
# Shapes of values

Some texts do not say what their values are: a word may be a name, a number or a
text.  What such a value is then depends on the place where it stands.  A `Shape`
says what is wanted there.
-/

namespace TableFeed

/-- What is wanted at a place. -/
inductive Shape where
  /-- A text. -/
  | text
  /-- A text or nothing. -/
  | optionalText
  /-- A name among fixed ones. -/
  | choice
  /-- Texts by name, written as a map or as one compact text, or nothing. -/
  | compact
  /-- Values of one shape in order. -/
  | list (item : Shape)
  /-- Values of one shape by name. -/
  | map (value : Shape)
  /-- Members with names and shapes of their own. -/
  | record (members : List (String × Shape))

end TableFeed
