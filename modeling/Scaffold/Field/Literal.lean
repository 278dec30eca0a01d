import Scaffold.Field.Basic
import Scaffold.Text.Blank
import Scaffold.Yaml.Block

/-!
# Literal field values

A YAML value stands for a field value: booleans are flags, sequences are lists of texts, mappings
are nested fields, and all else is a text. Tags do not count. Where a text is needed and a
collection is given, it is the collection in block style.
-/

namespace Scaffold.Field

/-- The text that a value stands for where a text is needed. -/
def scalarText : Yaml.Value → String
  | .null => ""
  | .bool b => if b then "true" else "false"
  | .number (.int n) => Decimal.integerText n
  | .number (.float x) => Decimal.floatText .yaml x
  | .text s => s
  | .tagged _ content => scalarText content
  | .sequence items => String.ofList (Text.trimEnd (Yaml.Value.sequence items).blockText.toList)
  | .mapping entries => String.ofList (Text.trimEnd (Yaml.Value.mapping entries).blockText.toList)

mutual

/-- The field value that a value stands for. -/
def ofYaml : Yaml.Value → Field
  | .bool b => .flag b
  | .sequence items => .list (items.map scalarText)
  | .mapping entries => .nested (ofEntries [] entries)
  | .tagged _ content => ofYaml content
  | .null => .text ""
  | .number n => .text (scalarText (.number n))
  | .text s => .text s

/-- The fields that entries stand for, written after those read before. -/
def ofEntries (before : List (String × Field)) :
    List (Yaml.Value × Yaml.Value) → List (String × Field)
  | [] => before
  | (k, v) :: rest => ofEntries (put (scalarText k) (ofYaml v) before) rest

end

end Scaffold.Field
